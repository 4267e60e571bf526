import Lapcare.Core.Models
import Lapcare.Core.Errors
import Lapcare.Core.Ports
import Lapcare.Core.BatteryAnalysis
import Lapcare.Text.Decimal
import Lapcare.Core.Checks
import Lapcare.Core.Diagnostics
import Lapcare.Core.Degradation
import Lapcare.Pages.PageViewModel
import Lapcare.Pages.Storage
import Lapcare.Text.Lines
import Lapcare.Core.FirmwarePolicy
import Lapcare.Pages.Firmware
import Lapcare.Pages.Diagnostics
import Lapcare.Pages.Dashboard
import Lapcare.Pages.PromptDiscipline
import Lapcare.Core.Verdicts
import Lapcare.Pages.Agreement
import Lapcare.Semantics.FailFast
import Lapcare.Semantics.Transition
import Lapcare.Pages.FirmwareSystem
import Lapcare.Pages.FirmwareReload
import Lapcare.Helper.Program
import Lapcare.Helper.Runs
import Lapcare.Helper.Spawn
import Lapcare.Helper.Protocol
import Lapcare.Semantics.FirstOccurrence
import Lapcare.Text.Utf8
import Lapcare.Text.UnicodeEscape
import Lapcare.Providers.DiskUsage
import Lapcare.Providers.MountEncoding
import Lapcare.Providers.MountTable
import Lapcare.Core.DiskSpace
import Lapcare.Providers.ImageMounts
import Lapcare.Json.Parser
import Lapcare.Json.Printer
import Lapcare.Json.RoundTrip
import Lapcare.Core.Evidence
import Lapcare.Core.Report
import Lapcare.Pages.ReportRender
import Lapcare.Pages.ExportEvidence
import Lapcare.Providers.Fwupd
import Lapcare.Pages.FirmwareInstall
import Lapcare.Pages.StorageRows
import Lapcare.Semantics.Worst
import Lapcare.Core.WorstVerdict
import Lapcare.Text.Split
import Lapcare.Platform.Subprocess
import Lapcare.Json.Path
import Lapcare.Providers.SmartParse
import Lapcare.Providers.SmartDocument
import Lapcare.Providers.StorageSmart
import Lapcare.Providers.SmartErrors
import Lapcare.Pages.Export
import Lapcare.Semantics.TwoRuns
import Lapcare.Pages.ExportRedaction
import Lapcare.Platform.Files
import Lapcare.Providers.SystemFiles
import Lapcare.Capture.Written
import Lapcare.Capture.Replay
import Lapcare.Json.Printed
import Lapcare.Core.NamedMounts
import Lapcare.Core.ComputedShares
import Lapcare.Core.Score
import Lapcare.Pages.ExportTexts
import Lapcare.Pages.MountPrivacy
import Lapcare.Core.EvidenceOrder
import Lapcare.Core.Overflow
import Lapcare.Providers.MountFailures
import Lapcare.Capture.Independence
import Lapcare.Platform.ReportWriter
import Lapcare.Providers.PciUsb
import Lapcare.Providers.ToolFailures
import Lapcare.Semantics.KeyedTable
import Lapcare.Platform.CodePoints
import Lapcare.Platform.History
import Lapcare.Pages.DiagnosticsSystem
import Lapcare.Platform.Scheduler
import Lapcare.Platform.NativeCallbacks
import Lapcare.Platform.ThreadCallbacks
import Lapcare.Helper.Reflection
import Lapcare.Pages.FirmwareSnapshots
import Lapcare.Providers.BatteryFamilies
import Lapcare.Providers.Upower
import Lapcare.Providers.OsRelease
import Lapcare.Providers.LspciLines
import Lapcare.Capture.Addresses
import Lapcare.Pages.HtmlStructure
import Lapcare.Pages.MarkdownStructure
import Lapcare.Pages.DashboardIdentity
import Lapcare.Pages.Battery
import Lapcare.Pages.BatterySystem
import Lapcare.Pages.BatteryHistory
import Lapcare.Pages.WearChart
import Lapcare.Providers.Hwmon
import Lapcare.Providers.SmartRead
import Lapcare.Providers.FwupdLibrary
import Lapcare.Pages.InstallSession
import Lapcare.Pages.InstallProgress
import Lapcare.Pages.FirmwareListing
import Lapcare.Providers.LsusbLines
import Lapcare.Pages.Hardware
import Lapcare.Providers.BlockDevices
import Lapcare.Pages.StorageSystem
import Lapcare.Pages.StorageAttribution
import Lapcare.Providers.ThinkpadAcpi
import Lapcare.Pages.DashboardSystem
import Lapcare.Pages.MachineVerdicts
import Lapcare.Pages.FirmwareRows
