import ViewLang.CommandLine
import ViewLang.Diagnostic
import ViewLang.Diagnostic.Drawing
import ViewLang.Diagnostic.Layout
import ViewLang.Environment
import ViewLang.Event
import ViewLang.Event.Encoding
import ViewLang.Event.Log
import ViewLang.Event.Sink
import ViewLang.Execution
import ViewLang.Interpreter
import ViewLang.Json
import ViewLang.Lookahead
import ViewLang.Main
import ViewLang.Node
import ViewLang.Node.Display
import ViewLang.Node.Parser
import ViewLang.Node.Printer
import ViewLang.Program
import ViewLang.Proofs.Blame
import ViewLang.Proofs.CallBodies
import ViewLang.Proofs.Commands
import ViewLang.Proofs.Concatenation
import ViewLang.Proofs.DefinitionOrder
import ViewLang.Proofs.DepthLimit
import ViewLang.Proofs.DisplayWidth
import ViewLang.Proofs.DrawnLines
import ViewLang.Proofs.Grammar
import ViewLang.Proofs.History
import ViewLang.Proofs.JsonText
import ViewLang.Proofs.LexFailure
import ViewLang.Proofs.Lexing
import ViewLang.Proofs.LineIndex
import ViewLang.Proofs.LinePieces
import ViewLang.Proofs.Locations
import ViewLang.Proofs.LogLines
import ViewLang.Proofs.LogText
import ViewLang.Proofs.Machine
import ViewLang.Proofs.ModeAgreement
import ViewLang.Proofs.OneLine
import ViewLang.Proofs.OpenBlocks
import ViewLang.Proofs.ParseFailure
import ViewLang.Proofs.Parsing
import ViewLang.Proofs.Printing
import ViewLang.Proofs.Ranks
import ViewLang.Proofs.Readers
import ViewLang.Proofs.Renewal
import ViewLang.Proofs.Segmentation
import ViewLang.Proofs.SourceLines
import ViewLang.Proofs.Streaming
import ViewLang.Proofs.TextLines
import ViewLang.Proofs.Translation
import ViewLang.Proofs.Trees
import ViewLang.Proofs.Underlines
import ViewLang.Proofs.Window
import ViewLang.Proofs.Wording
import ViewLang.Proofs.WriterRoom
import ViewLang.Search
import ViewLang.Session
import ViewLang.Source
import ViewLang.Span
import ViewLang.Text.Blank
import ViewLang.Text.CharSet
import ViewLang.Text.Decimal
import ViewLang.Text.Extending
import ViewLang.Text.Quoted
import ViewLang.Text.Unprintable
import ViewLang.Text.Utf8
import ViewLang.Text.Width
import ViewLang.Text.Width.Classes
import ViewLang.Text.Width.Emoji
import ViewLang.Token
import ViewLang.Token.Lexer
import ViewLang.Token.Listing
import ViewLang.Proofs.Equality
import ViewLang.Proofs.ProgramLines
import ViewLang.Proofs.Respacing
import ViewLang.Proofs.TokenLines
