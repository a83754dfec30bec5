import Listing.Command.Arguments
import Listing.Command.Log
import Listing.Command.Run
import Listing.Decimal.Shortest
import Listing.Document.Json
import Listing.Document.Scalar
import Listing.Event
import Listing.Files.Folder
import Listing.Files.Workspace
import Listing.Format.Registry
import Listing.Keyed
import Listing.Main
import Listing.Program.Basic
import Listing.Program.Document
import Listing.Program.Explain
import Listing.Program.Reading
import Listing.Program.Render
import Listing.Program.Split
import Listing.Proofs.Command.Effects
import Listing.Proofs.Command.Placement
import Listing.Proofs.Command.Streams
import Listing.Proofs.Document.Delimited
import Listing.Proofs.Files.Writing
import Listing.Proofs.Program.Conditions
import Listing.Proofs.Program.Conservation
import Listing.Proofs.Program.Explanation
import Listing.Proofs.Program.Form
import Listing.Proofs.Program.Grouping
import Listing.Proofs.Program.Numbering
import Listing.Proofs.Program.OpenEnd
import Listing.Proofs.Program.RoundTrip
import Listing.Proofs.Program.Splitting
import Listing.Proofs.Program.Spread
import Listing.Proofs.Program.Sweep
import Listing.Proofs.Program.Trimmed
import Listing.Proofs.Reformat.Accounting
import Listing.Proofs.Reformat.Explanations
import Listing.Proofs.Reformat.Idempotence
import Listing.Proofs.Reformat.LineByLine
import Listing.Proofs.Settings.Fields
import Listing.Proofs.Settings.Layers
import Listing.Proofs.Text.LineEnding
import Listing.Proofs.Text.Trimming
import Listing.Proofs.Text.Utf8
import Listing.Proofs.Token.Calls
import Listing.Proofs.Token.LetterCase
import Listing.Proofs.Token.Lexical
import Listing.Proofs.Token.Names
import Listing.Proofs.Token.Recognition
import Listing.Proofs.Token.Scan
import Listing.Proofs.Token.Spans
import Listing.Proofs.Token.Spelling
import Listing.Proofs.Token.Tagged
import Listing.Proofs.Vocabulary.LongestMatch
import Listing.Proofs.Vocabulary.Matching
import Listing.Reformat
import Listing.Settings.Basic
import Listing.Settings.Error
import Listing.Settings.KeyPath
import Listing.Settings.Node
import Listing.Text.Basic
import Listing.Text.Blank
import Listing.Text.Cased
import Listing.Text.Digits
import Listing.Text.Hidden
import Listing.Text.Letter
import Listing.Text.LineEnding
import Listing.Text.Lowercase
import Listing.Text.Number
import Listing.Text.Quoted
import Listing.Text.Ranges
import Listing.Text.Utf8
import Listing.Token.Basic
import Listing.Token.Cursor
import Listing.Token.Dump
import Listing.Token.Lexeme
import Listing.Toml.Marked
import Listing.Toml.Moment
import Listing.Toml.Reader
import Listing.Toml.Scalar
import Listing.Toml.Value
import Listing.Vocabulary.Keyword
import Listing.Vocabulary.Lookup
import Listing.Vocabulary.Operator
