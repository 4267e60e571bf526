import Mathlib.Data.List.Basic

/-!
# Splitting like a shell

`shlex.split(text)`: tokens between white space, with quotes and backslashes as in a POSIX
shell, read character by character.

## Main results

* `reads_inQuotes` — a field in double quotes comes out as it is
* `split_words` — words that stand between blanks come out one by one
* `split_ne_self` — a word with quotes or backslashes in it does not
-/

namespace Text

namespace Shlex

/-- Where the reader stands: between tokens, in one, inside quotes, or after a backslash
that stands outside quotes or inside double ones. -/
inductive State
  | blank
  | word
  | quote (mark : Char)
  | escape (quoted : Bool)

def isBlank (c : Char) : Bool :=
  c == ' ' || c == '\t' || c == '\r' || c == '\n'

def isQuote (c : Char) : Bool :=
  c == '\'' || c == '"'

def isEscape (c : Char) : Bool :=
  c == '\\'

/-- A token ends. An empty one counts if it had quotes. -/
def emit (token : List Char) (quoted : Bool) (rest : List (List Char)) : List (List Char) :=
  if token = [] ∧ quoted = false then rest else token :: rest

/-- `quoted` says whether the token has had quotes. -/
def splitFrom : State → List Char → Bool → List Char → Except String (List (List Char))
  | .blank, _, _, [] => .ok []
  | .word, token, quoted, [] => .ok (emit token quoted [])
  | .quote _, _, _, [] => .error "No closing quotation"
  | .escape _, _, _, [] => .error "No escaped character"
  | .blank, _, _, c :: rest =>
      if isBlank c then splitFrom .blank [] false rest
      else if isEscape c then splitFrom (.escape false) [] false rest
      else if isQuote c then splitFrom (.quote c) [] false rest
      else splitFrom .word [c] false rest
  | .word, token, quoted, c :: rest =>
      if isBlank c then emit token quoted <$> splitFrom .blank [] false rest
      else if isQuote c then splitFrom (.quote c) token quoted rest
      else if isEscape c then splitFrom (.escape false) token quoted rest
      else splitFrom .word (token ++ [c]) quoted rest
  | .quote mark, token, _, c :: rest =>
      if c = mark then splitFrom .word token true rest
      else if isEscape c ∧ mark = '"' then splitFrom (.escape true) token true rest
      -- single quotes keep a backslash like any other character
      else splitFrom (.quote mark) (token ++ [c]) true rest
  | .escape true, token, quoted, c :: rest =>
      -- inside quotes only the quote and the backslash can be escaped
      let kept := if isEscape c ∨ c = '"' then token ++ [c] else token ++ ['\\', c]
      splitFrom (.quote '"') kept quoted rest
  | .escape false, token, quoted, c :: rest => splitFrom .word (token ++ [c]) quoted rest

def split (text : List Char) : Except String (List (List Char)) :=
  splitFrom .blank [] false text

example : split "00:1f.6 \"Ethernet controller\" -r20 \"\"".toList =
    .ok ["00:1f.6".toList, "Ethernet controller".toList, "-r20".toList, []] := rfl

/-! ### Words that come back -/

/-- A word that is read as one token, whether another word follows or not. -/
structure Reads (written token : List Char) : Prop where
  between : ∀ rest, split (written ++ ' ' :: rest) = (token :: ·) <$> split rest
  last : split written = .ok [token]

/-- A word is read as its token if the reader has that token behind it, and the token counts. -/
theorem reads_of_word {written token : List Char} (quoted : Bool)
    (opened : ∀ rest, split (written ++ rest) = splitFrom .word token quoted rest)
    (counts : token ≠ [] ∨ quoted = true) : Reads written token := by
  have emitted (rest : List (List Char)) : emit token quoted rest = token :: rest :=
    if_neg fun empty => counts.elim (fun some_ => some_ empty.1) (by simp [empty.2])
  refine ⟨fun rest => ?_, ?_⟩
  -- the blank ends the word, and the reader starts anew behind it
  · rw [opened]
    change emit token quoted <$> split rest = _
    congr 1
    exact funext emitted
  · have whole := opened []
    rw [List.append_nil] at whole
    rw [whole, splitFrom, emitted]

/-- A character, as it is written inside double quotes. -/
def escapeChar (c : Char) : List Char :=
  if c = '"' ∨ c = '\\' then ['\\', c] else [c]

/-- A field in double quotes, with a backslash before each double quote and backslash. -/
def inQuotes (field : List Char) : List Char :=
  '"' :: (field.flatMap escapeChar ++ ['"'])

/-- Nothing is written but the field, quotes and backslashes. -/
theorem mem_inQuotes {field : List Char} {c : Char} (member : c ∈ inQuotes field) :
    c ∈ field ∨ c = '"' ∨ c = '\\' := by
  rw [inQuotes, List.mem_cons, List.mem_append, List.mem_flatMap, List.mem_singleton] at member
  rcases member with mark | ⟨d, inside, escaped⟩ | mark
  · exact .inr (.inl mark)
  · rw [escapeChar] at escaped
    split_ifs at escaped with special
    · rcases List.mem_cons.mp escaped with backslash | itself
      · exact .inr (.inr backslash)
      · exact .inl (List.mem_singleton.mp itself ▸ inside)
    · exact .inl (List.mem_singleton.mp escaped ▸ inside)
  · exact .inr (.inl mark)

theorem splitFrom_escaped (field token rest : List Char) :
    splitFrom (.quote '"') token true (field.flatMap escapeChar ++ '"' :: rest) =
      splitFrom .word (token ++ field) true rest := by
  induction field generalizing token with
  | nil => simp [splitFrom]
  | cons c field ih =>
    rw [List.flatMap_cons, List.append_assoc, escapeChar]
    split_ifs with special
    · -- the backslash goes, and the character after it stays
      have kept : isEscape c = true ∨ c = '"' := by
        rcases special with rfl | rfl
        · exact .inr rfl
        · exact .inl rfl
      rw [List.cons_append, List.singleton_append, splitFrom, if_neg (by decide),
        if_pos ⟨rfl, rfl⟩, splitFrom]
      simp only [if_pos kept]
      rw [ih, List.append_assoc, List.singleton_append]
    · obtain ⟨unquoted, unescaped⟩ := not_or.mp special
      have ordinary : ¬ (isEscape c = true ∧ '"' = '"') := by simp [isEscape, unescaped]
      rw [List.singleton_append, splitFrom, if_neg unquoted, if_neg ordinary, ih,
        List.append_assoc, List.singleton_append]

theorem reads_inQuotes (field : List Char) : Reads (inQuotes field) field := by
  refine reads_of_word true (fun rest => ?_) (.inr rfl)
  have opens : split (inQuotes field ++ rest) =
      splitFrom (.quote '"') [] false (field.flatMap escapeChar ++ '"' :: rest) := by
    rw [inQuotes, List.cons_append, List.append_assoc]
    rfl
  -- the mark that opens makes a token even of an empty field
  have inside : splitFrom (.quote '"') [] false (field.flatMap escapeChar ++ '"' :: rest) =
      splitFrom (.quote '"') [] true (field.flatMap escapeChar ++ '"' :: rest) := by
    cases field.flatMap escapeChar <;> rfl
  rw [opens, inside, splitFrom_escaped, List.nil_append]

/-- A character that ends no token and starts no quotes. -/
def isBare (c : Char) : Bool :=
  !isBlank c && !isQuote c && !isEscape c

theorem splitFrom_bare {field : List Char} (bare : ∀ c ∈ field, isBare c = true)
    (token : List Char) (quoted : Bool) (rest : List Char) :
    splitFrom .word token quoted (field ++ rest) =
      splitFrom .word (token ++ field) quoted rest := by
  induction field generalizing token with
  | nil => rw [List.nil_append, List.append_nil]
  | cons c field ih =>
    -- a bare character is neither a quote, a backslash nor a blank
    obtain ⟨here, bare⟩ := List.forall_mem_cons.mp bare
    simp only [isBare, Bool.and_eq_true, Bool.not_eq_true'] at here
    rw [List.cons_append, splitFrom, if_neg (by simp [here.1.1]), if_neg (by simp [here.1.2]),
      if_neg (by simp [here.2]), ih bare, List.append_assoc, List.singleton_append]

/-- A field without white space, quotes or backslashes. -/
theorem reads_bare {field : List Char} (filled : field ≠ [])
    (bare : ∀ c ∈ field, isBare c = true) : Reads field field := by
  refine reads_of_word false (fun rest => ?_) (.inl filled)
  obtain ⟨c, field, rfl⟩ := List.exists_cons_of_ne_nil filled
  obtain ⟨here, bare⟩ := List.forall_mem_cons.mp bare
  simp only [isBare, Bool.and_eq_true, Bool.not_eq_true'] at here
  rw [split, List.cons_append, splitFrom, if_neg (by simp [here.1.1]),
    if_neg (by simp [here.2]), if_neg (by simp [here.1.2]), splitFrom_bare bare]
  rfl

/-- Words between blanks come out one by one. -/
theorem split_words {words : List (List Char × List Char)}
    (reads : ∀ word ∈ words, Reads word.1 word.2) :
    split ([' '].intercalate (words.map (·.1))) = .ok (words.map (·.2)) := by
  induction words with
  | nil => rfl
  | cons word words ih =>
    obtain ⟨first, rest⟩ := List.forall_mem_cons.mp reads
    cases words with
    | nil => simpa using first.last
    | cons next words =>
      rw [List.map_cons, List.map_cons, List.intercalate_cons_cons, List.append_assoc,
        List.singleton_append, first.between]
      exact congrArg _ (ih rest)

/-! ### Words that do not come back -/

/-- The token that is being read, and its beginning. -/
theorem prefix_of_splitFrom {state : State} {token : List Char} {quoted : Bool}
    {text first : List Char} {more : List (List Char)}
    (ends : splitFrom state token quoted text = .ok (first :: more))
    (begun : state ≠ .blank ∨ token = []) : token <+: first := by
  -- along the text, as characters are only ever added at the end of the token
  induction text generalizing state token quoted with
  | nil =>
    cases state with
    | blank => exact nomatch ends
    | word =>
      rw [splitFrom, emit] at ends
      split_ifs at ends with empty
      · exact nomatch ends
      · cases ends
        exact List.prefix_rfl
    | quote mark => exact nomatch ends
    | escape quoted => cases quoted <;> exact nomatch ends
  | cons c text ih =>
    cases state with
    -- between tokens nothing has been read of the next one
    | blank =>
      rw [begun.resolve_left fun other => other rfl]
      exact List.nil_prefix
    | word =>
      rw [splitFrom] at ends
      -- a blank ends the token here, and any other character stays in it
      split_ifs at ends with blank quote escape
      · cases later : splitFrom .blank [] false text with
        | error message =>
          rw [later] at ends
          exact nomatch ends
        | ok tokens =>
          rw [later] at ends
          have emitted : emit token quoted tokens = first :: more := Except.ok.inj ends
          rw [emit] at emitted
          split_ifs at emitted with empty
          · rw [empty.1]
            exact List.nil_prefix
          · cases emitted
            exact List.prefix_rfl
      · exact ih ends (.inl nofun)
      · exact ih ends (.inl nofun)
      · exact (List.prefix_append token [c]).trans (ih ends (.inl nofun))
    | quote mark =>
      rw [splitFrom] at ends
      split_ifs at ends with closes escape
      · exact ih ends (.inl nofun)
      · exact ih ends (.inl nofun)
      · exact (List.prefix_append token [c]).trans (ih ends (.inl nofun))
    | escape inside =>
      cases inside with
      | true =>
        rw [splitFrom] at ends
        have grown := ih ends (.inl nofun)
        refine List.IsPrefix.trans ?_ grown
        split_ifs
        · exact List.prefix_append token [c]
        · exact List.prefix_append token ['\\', c]
      | false =>
        rw [splitFrom] at ends
        exact (List.prefix_append token [c]).trans (ih ends (.inl nofun))

/-- What a word without blanks costs at least, besides the characters that are kept. -/
def cost (word : List Char) : State → ℕ
  | .blank => 0
  | .word => if word.all isBare then 0 else 1
  | .quote _ => 1
  | .escape _ => 0

/-- Inside a token, with a mark that is one. -/
def State.Inside (token : List Char) (quoted : Bool) : State → Prop
  | .blank => False
  | .word => token ≠ [] ∨ quoted = true
  | .quote mark => isQuote mark = true
  | .escape _ => True

/-- A token that keeps no blank is shorter than the word by what the word costs. -/
theorem length_add_cost_le {word : List Char} (solid : ∀ c ∈ word, isBlank c = false)
    {state : State} {token : List Char} {quoted : Bool} {rest first : List Char}
    {more : List (List Char)}
    (ends : splitFrom state token quoted (word ++ ' ' :: rest) = .ok (first :: more))
    (inside : state.Inside token quoted) (unblank : ' ' ∉ first) :
    first.length + cost word state ≤ token.length + word.length := by
  induction word generalizing state token quoted with
  | nil =>
    -- a blank ends the token, or it is kept in it
    rw [List.nil_append] at ends
    have kept {longer : List Char} (grown : longer <+: first) (member : ' ' ∈ longer) : False :=
      unblank (grown.subset member)
    cases state with
    | blank => exact inside.elim
    | word =>
      rw [splitFrom, if_pos (by decide)] at ends
      cases later : splitFrom .blank [] false rest with
      | error message =>
        rw [later] at ends
        exact nomatch ends
      | ok tokens =>
        rw [later] at ends
        have emitted : emit token quoted tokens = first :: more := Except.ok.inj ends
        rw [emit, if_neg fun empty => inside.elim (fun some_ => some_ empty.1) (by simp [empty.2])]
          at emitted
        cases emitted
        exact Nat.le_refl _
    | quote mark =>
      have other : ' ' ≠ mark := by
        rintro rfl
        exact absurd (show isQuote ' ' = true from inside) (by decide)
      rw [splitFrom, if_neg other, if_neg (by simp [isEscape])] at ends
      exact (kept (prefix_of_splitFrom ends (.inl nofun)) (by simp)).elim
    | escape within =>
      cases within with
      | true =>
        rw [splitFrom] at ends
        have grown := prefix_of_splitFrom ends (.inl nofun)
        rw [if_neg (by decide)] at grown
        exact (kept grown (by simp)).elim
      | false =>
        rw [splitFrom] at ends
        exact (kept (prefix_of_splitFrom ends (.inl nofun)) (by simp)).elim
  -- a quote or a backslash is paid for when it is read, and kept characters are free
  | cons c word ih =>
    obtain ⟨solidFirst, solidRest⟩ := List.forall_mem_cons.mp solid
    rw [List.cons_append] at ends
    rw [List.length_cons]
    cases state with
    | blank => exact inside.elim
    | word =>
      rw [splitFrom, if_neg (by simp [solidFirst])] at ends
      have most : cost (c :: word) .word ≤ 1 := by
        rw [cost]
        split_ifs <;> decide
      split_ifs at ends with quote escape
      · have bound := ih solidRest ends quote
        rw [cost] at bound
        omega
      · have bound := ih solidRest ends trivial
        rw [cost] at bound
        omega
      · have bound := ih solidRest ends (.inl (by simp))
        have bare : isBare c = true := by simp [isBare, solidFirst, quote, escape]
        have same : cost (c :: word) .word = cost word .word := by
          rw [cost, cost, List.all_cons, bare, Bool.true_and]
        rw [List.length_append, List.length_singleton] at bound
        omega
    | quote mark =>
      rw [splitFrom] at ends
      rw [cost]
      split_ifs at ends with closes escape
      · have bound := ih solidRest ends (.inr rfl)
        omega
      · have bound := ih solidRest ends trivial
        omega
      · have bound := ih solidRest ends inside
        rw [cost, List.length_append, List.length_singleton] at bound
        omega
    | escape within =>
      rw [cost]
      cases within with
      | true =>
        rw [splitFrom] at ends
        have bound := ih solidRest ends rfl
        rw [cost] at bound
        split_ifs at bound with plain
        · rw [List.length_append, List.length_singleton] at bound
          omega
        · rw [List.length_append, List.length_cons, List.length_singleton] at bound
          omega
      | false =>
        rw [splitFrom] at ends
        have bound := ih solidRest ends (.inl (by simp))
        rw [List.length_append, List.length_singleton] at bound
        omega

/-- A word with quotes or backslashes is never read as itself. -/
theorem split_ne_self {word rest first : List Char} {more : List (List Char)}
    (solid : ∀ c ∈ word, isBlank c = false) (special : ∃ c ∈ word, isBare c = false)
    (ends : split (word ++ ' ' :: rest) = .ok (first :: more)) : first ≠ word := by
  rintro rfl
  have unblank : ' ' ∉ first := fun member => absurd (solid ' ' member) (by decide)
  cases first with
  | nil => exact nomatch special
  | cons c word =>
    obtain ⟨solidFirst, solidRest⟩ := List.forall_mem_cons.mp solid
    rw [split, List.cons_append, splitFrom, if_neg (by simp [solidFirst])] at ends
    split_ifs at ends with escape quote
    · have bound := length_add_cost_le solidRest ends trivial unblank
      rw [List.length_cons, List.length_nil] at bound
      omega
    · have bound := length_add_cost_le solidRest ends quote unblank
      rw [List.length_cons, List.length_nil] at bound
      omega
    · have bound := length_add_cost_le solidRest ends (.inl (List.cons_ne_nil c [])) unblank
      have bare : isBare c = true := by simp [isBare, solidFirst, quote, escape]
      have charged : word.all isBare = false := by
        obtain ⟨d, member, odd⟩ := special
        rw [List.all_eq_false]
        rcases List.mem_cons.mp member with rfl | later
        · rw [bare] at odd
          exact Bool.noConfusion odd
        · exact ⟨d, later, by simp [odd]⟩
      rw [cost, charged, List.length_cons, List.length_singleton] at bound
      simp at bound
      omega

end Shlex

end Text
