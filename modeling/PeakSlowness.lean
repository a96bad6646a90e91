import PeakSlowness.Application
import PeakSlowness.CommandLine.Arguments
import PeakSlowness.CommandLine.Flag
import PeakSlowness.CommandLine.Usage
import PeakSlowness.CommandLine.Word
import PeakSlowness.Config
import PeakSlowness.Config.Calendar
import PeakSlowness.Config.Lookup
import PeakSlowness.Config.Override
import PeakSlowness.Config.SetOrder
import PeakSlowness.Config.Setting
import PeakSlowness.Disk.Canonical
import PeakSlowness.Disk.FileName
import PeakSlowness.Disk.FilePath
import PeakSlowness.Disk.Tree
import PeakSlowness.Failure
import PeakSlowness.Field
import PeakSlowness.Host
import PeakSlowness.Input
import PeakSlowness.Main
import PeakSlowness.Number.Binary64
import PeakSlowness.Number.DecimalText
import PeakSlowness.Number.Numeral
import PeakSlowness.Number.Shortest
import PeakSlowness.Output
import PeakSlowness.Program
import PeakSlowness.Proofs.Blind
import PeakSlowness.Proofs.CheckpointSection
import PeakSlowness.Proofs.Checkpoints
import PeakSlowness.Proofs.Config
import PeakSlowness.Proofs.Copies
import PeakSlowness.Proofs.Course
import PeakSlowness.Proofs.DecimalField
import PeakSlowness.Proofs.Disk.Canonical
import PeakSlowness.Proofs.Disk.Directory
import PeakSlowness.Proofs.Disk.FileName
import PeakSlowness.Proofs.Disk.Hollow
import PeakSlowness.Proofs.Disk.Resolution
import PeakSlowness.Proofs.Disk.Touched
import PeakSlowness.Proofs.Disk.Tree
import PeakSlowness.Proofs.Effects
import PeakSlowness.Proofs.Endings
import PeakSlowness.Proofs.Field
import PeakSlowness.Proofs.Filed
import PeakSlowness.Proofs.Idle
import PeakSlowness.Proofs.Input
import PeakSlowness.Proofs.Late
import PeakSlowness.Proofs.Latest
import PeakSlowness.Proofs.LenientLine
import PeakSlowness.Proofs.LineEnd
import PeakSlowness.Proofs.LoggingSection
import PeakSlowness.Proofs.MatReport
import PeakSlowness.Proofs.Maximum
import PeakSlowness.Proofs.Merged
import PeakSlowness.Proofs.Modes
import PeakSlowness.Proofs.Nested
import PeakSlowness.Proofs.Number.Binary64
import PeakSlowness.Proofs.Number.Grammar
import PeakSlowness.Proofs.Number.Nearest
import PeakSlowness.Proofs.Number.Rounding
import PeakSlowness.Proofs.Number.Spelling
import PeakSlowness.Proofs.Opening
import PeakSlowness.Proofs.Order
import PeakSlowness.Proofs.Output
import PeakSlowness.Proofs.Override
import PeakSlowness.Proofs.Prepared
import PeakSlowness.Proofs.Printed
import PeakSlowness.Proofs.Program
import PeakSlowness.Proofs.Reading
import PeakSlowness.Proofs.Rejection
import PeakSlowness.Proofs.Report.Elements
import PeakSlowness.Proofs.Report.Variable
import PeakSlowness.Proofs.ReportRoot
import PeakSlowness.Proofs.Reports
import PeakSlowness.Proofs.RowText
import PeakSlowness.Proofs.Series
import PeakSlowness.Proofs.Settling
import PeakSlowness.Proofs.Shape
import PeakSlowness.Proofs.StatFile
import PeakSlowness.Proofs.StatLine
import PeakSlowness.Proofs.Status
import PeakSlowness.Proofs.Summary
import PeakSlowness.Proofs.Sweep
import PeakSlowness.Proofs.Table
import PeakSlowness.Proofs.Text.Blank
import PeakSlowness.Proofs.Text.DecimalDigit
import PeakSlowness.Proofs.Text.Line
import PeakSlowness.Proofs.Text.Utf8
import PeakSlowness.Proofs.Touched
import PeakSlowness.Proofs.Trace
import PeakSlowness.Proofs.Turn
import PeakSlowness.Proofs.Unsigned
import PeakSlowness.Proofs.Verbosity
import PeakSlowness.Proofs.Words
import PeakSlowness.Proofs.Written
import PeakSlowness.Proofs.WrittenFile
import PeakSlowness.Report.Csv
import PeakSlowness.Report.Format
import PeakSlowness.Report.Matlab
import PeakSlowness.Report.Plot
import PeakSlowness.Series
import PeakSlowness.Session
import PeakSlowness.StatFile
import PeakSlowness.StatLine
import PeakSlowness.Summary
import PeakSlowness.Sweep
import PeakSlowness.Table
import PeakSlowness.Text.Blank
import PeakSlowness.Text.Block
import PeakSlowness.Text.DecimalDigit
import PeakSlowness.Text.Letter
import PeakSlowness.Text.Line
import PeakSlowness.Text.Lowercase
import PeakSlowness.Text.Piece
import PeakSlowness.Text.Printable
import PeakSlowness.Text.Quoted
import PeakSlowness.Text.Unencodable
import PeakSlowness.Text.Utf8
import PeakSlowness.Yaml
import PeakSlowness.Yaml.Base64
import PeakSlowness.Yaml.BlockText
import PeakSlowness.Yaml.Cursor
import PeakSlowness.Yaml.Document
import PeakSlowness.Yaml.Fault
import PeakSlowness.Yaml.Lexer
import PeakSlowness.Yaml.Merge
import PeakSlowness.Yaml.Node
import PeakSlowness.Yaml.Number
import PeakSlowness.Yaml.PlainText
import PeakSlowness.Yaml.QuotedText
import PeakSlowness.Yaml.ScalarValue
import PeakSlowness.Yaml.Source
import PeakSlowness.Yaml.Tag
import PeakSlowness.Yaml.TagText
import PeakSlowness.Yaml.Timestamp
import PeakSlowness.Yaml.Token
import PeakSlowness.Yaml.Unfold
import PeakSlowness.Yaml.Value
