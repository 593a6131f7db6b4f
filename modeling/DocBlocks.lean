import DocBlocks.Binary64.Basic
import DocBlocks.Binary64.Arith
import DocBlocks.Binary64.Read
import DocBlocks.Binary64.Shortest
import DocBlocks.Check
import DocBlocks.Choice.Directive
import DocBlocks.Choice.Range
import DocBlocks.Choice.Section
import DocBlocks.Document
import DocBlocks.Entry
import DocBlocks.Failure
import DocBlocks.Failure.Report
import DocBlocks.Files.FileSystem
import DocBlocks.Files.Name
import DocBlocks.Files.Path
import DocBlocks.Files.Tree
import DocBlocks.Numeral
import DocBlocks.Parse
import DocBlocks.Source.Documents
import DocBlocks.Source.KeyLine
import DocBlocks.Text.Blank
import DocBlocks.Text.Comment
import DocBlocks.Text.Escaped
import DocBlocks.Text.Lines
import DocBlocks.Text.Ranges
import DocBlocks.Text.Word
import DocBlocks.Yaml.Error
import DocBlocks.Yaml.Event
import DocBlocks.Yaml.Event.Parse
import DocBlocks.Yaml.Event.Write
import DocBlocks.Yaml.Resolve
import DocBlocks.Yaml.Token
import DocBlocks.Yaml.Token.Scan
import DocBlocks.Yaml.Value
import DocBlocks.Yaml.Value.Decode
import DocBlocks.Yaml.Value.Encode
import DocBlocks.Files.Install
import DocBlocks.Files.Fixture
import DocBlocks.Text.Json
import DocBlocks.Command.Similar
import DocBlocks.Command.Spec
import DocBlocks.Command.Line
import DocBlocks.Command.Parse
import DocBlocks.Command.Validate
import DocBlocks.Command.Install
import DocBlocks.Command.List
import DocBlocks.Command.Run
import DocBlocks.Main
import DocBlocks.Proofs.Validation
import DocBlocks.Proofs.EntryChoices
import DocBlocks.Proofs.Layout
import DocBlocks.Proofs.RoundTrip
import DocBlocks.Proofs.Splitting
import DocBlocks.Proofs.Pairing
import DocBlocks.Proofs.FileCheck
import DocBlocks.Proofs.InstallFrame
import DocBlocks.Proofs.Cardinality
import DocBlocks.Proofs.ChoiceSection
import DocBlocks.Proofs.EntryFindings
import DocBlocks.Proofs.KeyText
import DocBlocks.Proofs.DirectiveLine
import DocBlocks.Proofs.ErrorReport
