import Mathlib.Data.List.Basic

/-!
# Documents of tags and texts

A document with markup, as a reader of tags sees it: a tag goes from `<` to the next `>` that
stands in no quotes, and what follows it up to the next tag is text.

## Main results

* `lex_write` — tags and texts without angle brackets come back one by one
* `map_lex_write` — the same for texts that are escaped, and unescaped again
-/

namespace Text

namespace Markup

/-- A tag, and the text that follows it. -/
structure Node where
  tag : List Char
  text : List Char
  deriving DecidableEq

/-- Where the reader stands: in text, or in a tag, where a quotation mark may be open. -/
inductive Mode
  | text
  | tag (quote : Option Char)

def isQuote (c : Char) : Bool :=
  c == '"' || c == '\''

/-- The open quotation mark after a character of a tag. -/
def quoteAfter (quote : Option Char) (c : Char) : Option Char :=
  match quote with
  | none => if isQuote c then some c else none
  | some mark => if c = mark then none else some mark

/-- What is left of the present node, and the nodes after it. -/
def lex : Mode → List Char → Node × List Node
  | _, [] => (⟨[], []⟩, [])
  | .text, c :: rest =>
      if c = '<' then
        let (node, nodes) := lex (.tag none) rest
        (⟨[], []⟩, node :: nodes)
      else
        let (node, nodes) := lex .text rest
        ({ node with text := c :: node.text }, nodes)
  | .tag quote, c :: rest =>
      -- a `>` inside quotes belongs to the value of an attribute
      if c = '>' ∧ quote = none then lex .text rest
      else
        let (node, nodes) := lex (.tag (quoteAfter quote c)) rest
        ({ node with tag := c :: node.tag }, nodes)

example : lex .text "a<p class=\"x>y\">b<br>".toList =
    (⟨[], "a".toList⟩, [⟨"p class=\"x>y\"".toList, "b".toList⟩, ⟨"br".toList, []⟩]) := by
  decide

/-- The nodes, written one after the other. -/
def write (nodes : List Node) : List Char :=
  nodes.flatMap fun node => '<' :: (node.tag ++ '>' :: node.text)

/-- The quotation mark that is open at the end of a tag, if no `>` ends it before. -/
def closing : Option Char → List Char → Option (Option Char)
  | quote, [] => some quote
  | quote, c :: rest =>
      if c = '>' ∧ quote = none then none else closing (quoteAfter quote c) rest

/-- A tag that ends where it is meant to. -/
def IsTag (tag : List Char) : Prop :=
  closing none tag = some none

instance (tag : List Char) : Decidable (IsTag tag) :=
  inferInstanceAs (Decidable (closing none tag = some none))

/-! ### Reading what was written -/

/-- A text without `<` is read as it is. -/
theorem lex_text {text : List Char} (plain : '<' ∉ text) (rest : List Char) :
    lex .text (text ++ rest) =
      ({ (lex .text rest).1 with text := text ++ (lex .text rest).1.text },
        (lex .text rest).2) := by
  induction text with
  | nil => rfl
  | cons c text ih =>
    obtain ⟨other, plain⟩ := not_or.mp (List.mem_cons.not.mp plain)
    rw [List.cons_append, lex, if_neg (Ne.symm other), ih plain]
    rfl

theorem lex_tag {quote : Option Char} {tag : List Char} (ends : closing quote tag = some none)
    (rest : List Char) :
    lex (.tag quote) (tag ++ '>' :: rest) =
      ({ (lex .text rest).1 with tag := tag ++ (lex .text rest).1.tag },
        (lex .text rest).2) := by
  induction tag generalizing quote with
  | nil =>
    obtain rfl : quote = none := Option.some.inj ends
    rw [List.nil_append, lex, if_pos ⟨rfl, rfl⟩]
    rfl
  | cons c tag ih =>
    -- the tag does not end early, so this character is part of it
    rw [closing] at ends
    split_ifs at ends with early
    rw [List.cons_append, lex, if_neg early, ih ends]
    rfl

/-- Nodes come back as they are written. -/
theorem lex_write {nodes : List Node} (sound : ∀ node ∈ nodes, IsTag node.tag ∧ '<' ∉ node.text) :
    lex .text (write nodes) = (⟨[], []⟩, nodes) := by
  induction nodes with
  | nil => rfl
  | cons node nodes ih =>
    obtain ⟨⟨tag, text⟩, rest⟩ := List.forall_mem_cons.mp sound
    have split : write (node :: nodes) =
        '<' :: (node.tag ++ '>' :: (node.text ++ write nodes)) := by
      simp [write]
    rw [split, lex, if_pos rfl, lex_tag tag, lex_text text, ih rest]
    simp

/-- No text stands before the first tag. -/
theorem fst_lex_write (nodes : List Node) : (lex .text (write nodes)).1 = ⟨[], []⟩ := by
  cases nodes with
  | nil => rfl
  | cons node nodes => rfl

section Escape

variable {escape : Char → List Char}

/-- A node with its text escaped. -/
def Node.escaped (escape : Char → List Char) (node : Node) : Node where
  tag := node.tag
  text := node.text.flatMap escape

def Node.unescaped (unescape : List Char → List Char) (node : Node) : Node where
  tag := node.tag
  text := unescape node.text

/-- Escaped texts come back by unescaping, whatever they hold. -/
theorem map_lex_write {unescape : List Char → List Char}
    (undone : ∀ text : List Char, unescape (text.flatMap escape) = text)
    (plain : ∀ c, '<' ∉ escape c) {nodes : List Node} (tags : ∀ node ∈ nodes, IsTag node.tag) :
    ((lex .text (write (nodes.map (Node.escaped escape)))).2.map (Node.unescaped unescape)) =
      nodes := by
  have sound : ∀ node ∈ nodes.map (Node.escaped escape),
      IsTag node.tag ∧ '<' ∉ node.text := by
    intro node listed
    obtain ⟨raw, member, rfl⟩ := List.mem_map.mp listed
    refine ⟨tags raw member, fun bracket => ?_⟩
    obtain ⟨c, -, within⟩ := List.mem_flatMap.mp bracket
    exact plain c within
  have same (node : Node) : (node.escaped escape).unescaped unescape = node := by
    rw [Node.escaped, Node.unescaped, undone]
  rw [lex_write sound, List.map_map]
  exact (List.map_congr_left fun node _ => same node).trans (List.map_id nodes)

end Escape

end Markup

end Text
