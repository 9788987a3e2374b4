import CommandShell.Builtin.Basic
import CommandShell.Builtin.Control
import CommandShell.Builtin.Folders
import CommandShell.Builtin.Printing
import CommandShell.Builtin.Search
import CommandShell.Builtin.Standard
import CommandShell.Dictionary
import CommandShell.External
import CommandShell.Files.Cause
import CommandShell.Files.Path
import CommandShell.Files.Tree
import CommandShell.Invocation.Arguments
import CommandShell.Invocation.Help
import CommandShell.Invocation.Session
import CommandShell.Line.Command
import CommandShell.Line.Expansion
import CommandShell.Line.Options
import CommandShell.Line.Tokens
import CommandShell.Line.Word
import CommandShell.Main
import CommandShell.Pipeline
import CommandShell.Proofs.Answers
import CommandShell.Proofs.AssignedValues
import CommandShell.Proofs.Assignments
import CommandShell.Proofs.BuiltinFrames
import CommandShell.Proofs.CharSets
import CommandShell.Proofs.Composition
import CommandShell.Proofs.Consumption
import CommandShell.Proofs.ContextWindows
import CommandShell.Proofs.CountTotals
import CommandShell.Proofs.Decoding
import CommandShell.Proofs.Divisions
import CommandShell.Proofs.Executions
import CommandShell.Proofs.ExitStatuses
import CommandShell.Proofs.ExpansionLaws
import CommandShell.Proofs.Highlights
import CommandShell.Proofs.IllFormed
import CommandShell.Proofs.JoinedLines
import CommandShell.Proofs.LaunchFailures
import CommandShell.Proofs.Layouts
import CommandShell.Proofs.Lexemes
import CommandShell.Proofs.LineFrames
import CommandShell.Proofs.LineReaders
import CommandShell.Proofs.LineResults
import CommandShell.Proofs.Listings
import CommandShell.Proofs.Marks
import CommandShell.Proofs.MatchSpans
import CommandShell.Proofs.NameGrammars
import CommandShell.Proofs.NeutralStages
import CommandShell.Proofs.Numerals
import CommandShell.Proofs.OptionWords
import CommandShell.Proofs.PathJoins
import CommandShell.Proofs.Paths
import CommandShell.Proofs.PatternMatches
import CommandShell.Proofs.Pieces
import CommandShell.Proofs.Plans
import CommandShell.Proofs.QuoteBoundaries
import CommandShell.Proofs.QuotedLines
import CommandShell.Proofs.References
import CommandShell.Proofs.Renderings
import CommandShell.Proofs.ScriptRuns
import CommandShell.Proofs.SettingsLayers
import CommandShell.Proofs.SingleLines
import CommandShell.Proofs.SpelledAssignments
import CommandShell.Proofs.Spellings
import CommandShell.Proofs.StatusVariable
import CommandShell.Proofs.StreamFailures
import CommandShell.Proofs.Templates
import CommandShell.Proofs.Tokenizing
import CommandShell.Proofs.WellFormed
import CommandShell.Proofs.WholeWords
import CommandShell.Proofs.WordCharacters
import CommandShell.Proofs.WrittenOptions
import CommandShell.Regex
import CommandShell.Regex.Brackets
import CommandShell.Regex.ByteRows
import CommandShell.Regex.Cursor
import CommandShell.Regex.Escape
import CommandShell.Regex.Fault
import CommandShell.Regex.Form
import CommandShell.Regex.Meaning
import CommandShell.Regex.Pattern
import CommandShell.Regex.Positions
import CommandShell.Regex.Program
import CommandShell.Regex.Reading
import CommandShell.Regex.Size
import CommandShell.Regex.Tree
import CommandShell.Release
import CommandShell.Release.Stamp
import CommandShell.Script
import CommandShell.Settings.Layer
import CommandShell.Settings.Loading
import CommandShell.Shell
import CommandShell.Status
import CommandShell.Streams
import CommandShell.Text.Basic
import CommandShell.Text.Blank
import CommandShell.Text.Decimal
import CommandShell.Text.Likeness
import CommandShell.Text.Lines
import CommandShell.Text.Utf8
import CommandShell.Toml.Reader
import CommandShell.Toml.Scalar
import CommandShell.Toml.Table
import CommandShell.Unicode.Age
import CommandShell.Unicode.AgeTable
import CommandShell.Unicode.Binary
import CommandShell.Unicode.CaseFold
import CommandShell.Unicode.CaseTable
import CommandShell.Unicode.Category
import CommandShell.Unicode.CategoryTable
import CommandShell.Unicode.CharSet
import CommandShell.Unicode.Name
import CommandShell.Unicode.Property
import CommandShell.Unicode.PropertyTable
import CommandShell.Unicode.ScriptTable
import CommandShell.Unicode.Segment
import CommandShell.Unicode.SegmentTable
import CommandShell.Unix.Interpreter
import CommandShell.Unix.Launching
import CommandShell.Unix.Process
import CommandShell.Unix.Programs
import CommandShell.Unix.Statement
import CommandShell.Unix.Tokens
import CommandShell.Variables
