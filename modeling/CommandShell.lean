import CommandShell.Main
import CommandShell.Proofs.Binding.Scan
import CommandShell.Proofs.Binding.Reading
import CommandShell.Proofs.Binding.NamedForm
import CommandShell.Proofs.Binding.ScanErrors
import CommandShell.Proofs.Binding.FlagsBehind
import CommandShell.Proofs.Binding.MissingParameters
import CommandShell.Proofs.Completion.Walk
import CommandShell.Proofs.Completion.NotedTokens
import CommandShell.Proofs.Completion.Offers
import CommandShell.Proofs.Completion.OfferedFlags
import CommandShell.Proofs.Completion.OfferedValues
import CommandShell.Proofs.Completion.PastValues
import CommandShell.Proofs.Token.Fields
import CommandShell.Proofs.Token.Partial
import CommandShell.Proofs.Token.Layout
import CommandShell.Proofs.Token.QuotedLine
import CommandShell.Proofs.Token.Awaits
import CommandShell.Proofs.Token.Continued
import CommandShell.Proofs.Editor.TokenPlace
import CommandShell.Proofs.Editor.FieldPlaces
import CommandShell.Proofs.Editor.TokenStart
import CommandShell.Proofs.Text.Bytes
import CommandShell.Proofs.Text.Lowercase
import CommandShell.Proofs.Text.Width
import CommandShell.Proofs.Editor.GapBuffer
import CommandShell.Proofs.Editor.Browsing
import CommandShell.Proofs.Editor.CutTexts
import CommandShell.Proofs.Editor.ClosedWords
import CommandShell.Proofs.Dispatch.Lines
import CommandShell.Proofs.Dispatch.SavedPrefix
import CommandShell.Proofs.Dispatch.Effects
import CommandShell.Proofs.Dispatch.HandlerArguments
import CommandShell.Proofs.Dispatch.BatchRuns
import CommandShell.Proofs.Number.Nearest
import CommandShell.Proofs.Number.Rounding
import CommandShell.Proofs.Duration.Reading
import CommandShell.Proofs.Duration.SleepLines
import CommandShell.Proofs.History.Entries
import CommandShell.Proofs.History.LateLoad
import CommandShell.Proofs.Files.Folders
import CommandShell.Proofs.History.Stored
import CommandShell.Proofs.History.RoundTrip
import CommandShell.Proofs.Settings.Precedence
import CommandShell.Proofs.Settings.Merging
import CommandShell.Proofs.BuiltTable.FirstOffence
import CommandShell.Proofs.Rank.EditDistance
import CommandShell.Proofs.Rank.Selection
import CommandShell.Proofs.Rank.TypedNames
import CommandShell.Proofs.Output.Columns
