import Lexis.Bisect
import Lexis.Cli
import Lexis.Cli.FileTree
import Lexis.Cli.Options
import Lexis.Cli.ReadError
import Lexis.ColorMode
import Lexis.Cursor
import Lexis.Cursor.Move
import Lexis.Diagnostic
import Lexis.Diagnostic.Code
import Lexis.Fault
import Lexis.Lexer
import Lexis.Lexer.Error
import Lexis.Lexer.Scan
import Lexis.LineTable
import Lexis.Listing
import Lexis.Main
import Lexis.Report
import Lexis.Session
import Lexis.Span
import Lexis.Text.Alphabetic
import Lexis.Text.Alphanumeric
import Lexis.Text.Bytes
import Lexis.Text.CodeRange
import Lexis.Text.Decimal
import Lexis.Text.Numeric
import Lexis.Text.Quoted
import Lexis.Text.Slice
import Lexis.Text.Unprintable
import Lexis.Text.Whitespace
import Lexis.Token
import Lexis.Token.Kind
import Lexis.Token.Value
import Lexis.TokenStream
import Lexis.Proofs.Text.ByteSearch
import Lexis.Proofs.Text.Classes
import Lexis.Proofs.Text.Encoding
import Lexis.Proofs.Text.Numeral
import Lexis.Proofs.Cursor.Placed
import Lexis.Proofs.Cursor.Standing
import Lexis.Proofs.Cursor.History
import Lexis.Proofs.Lexer.Lexeme
import Lexis.Proofs.Lexer.Step
import Lexis.Proofs.Lexer.Segmentation
import Lexis.Proofs.Lexer.MaximalMunch
import Lexis.Proofs.Lexer.Calls
import Lexis.Proofs.Lexer.Operations
import Lexis.Proofs.Lexer.LineBreaks
import Lexis.Proofs.LineTable.Lookup
import Lexis.Proofs.LineTable.Counting
import Lexis.Proofs.LineTable.Limits
import Lexis.Proofs.LineTable.Partition
import Lexis.Proofs.Report.Emission
import Lexis.Proofs.Report.Rows
import Lexis.Proofs.Report.Pointing
import Lexis.Proofs.Session.Reachable
import Lexis.Proofs.Session.HandOver
import Lexis.Proofs.Session.Faults
import Lexis.Proofs.TokenStream.Elements
import Lexis.Proofs.TokenStream.Agreement
import Lexis.Proofs.TokenStream.Lookahead
import Lexis.Proofs.Lexer.Progress
import Lexis.Proofs.Lexer.Layout
import Lexis.Proofs.Lexer.Written
import Lexis.Proofs.Cursor.Search
import Lexis.Proofs.Cursor.Scanning
import Lexis.Proofs.Lexer.Literal
import Lexis.Proofs.Text.Quoted
import Lexis.Proofs.Text.ControlSequences
import Lexis.Proofs.Listing.Rows
import Lexis.Proofs.Listing.Unambiguous
import Lexis.Proofs.Listing.Locations
import Lexis.Proofs.Report.Faultless
import Lexis.Proofs.Report.Snippet
import Lexis.Proofs.Report.Transcript
import Lexis.Proofs.Report.Memoryless
import Lexis.Proofs.Report.Colors
import Lexis.Proofs.Cli.Outcome
import Lexis.Proofs.Cli.Grammar
