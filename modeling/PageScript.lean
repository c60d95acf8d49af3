import PageScript.Main
import PageScript.Page.Basic
import PageScript.Value.Described
import PageScript.Proofs.Literal.Lexeme
import PageScript.Proofs.Literal.Grammar
import PageScript.Proofs.Literal.Parsing
import PageScript.Proofs.Literal.Whole
import PageScript.Proofs.Literal.Nesting
import PageScript.Proofs.Token.Scanning
import PageScript.Proofs.Token.Bytes
import PageScript.Proofs.Token.Finding
import PageScript.Proofs.Expression.EvalToken
import PageScript.Proofs.Literal.RoundTrip
import PageScript.Proofs.Run.Coupling
import PageScript.Proofs.Run.Single
import PageScript.Proofs.Run.Policy
import PageScript.Proofs.Run.Spliced
import PageScript.Proofs.Run.Quiet
import PageScript.Proofs.Run.Untouched
import PageScript.Proofs.Browser.Windows
import PageScript.Proofs.Browser.Ended
import PageScript.Proofs.Run.Nested
import PageScript.Proofs.Run.Accounting
import PageScript.Proofs.Run.Bounds
import PageScript.Proofs.Expression.Growth
import PageScript.Proofs.Expression.Recording
import PageScript.Proofs.Run.History
import PageScript.Proofs.Operation.Errors
import PageScript.Proofs.Run.Known
import PageScript.Proofs.CommandLine.Walk
import PageScript.Proofs.CommandLine.Telling
import PageScript.Proofs.Browser.Errors
import PageScript.Proofs.CommandLine.Agreement
import PageScript.Proofs.Operation.Parameters
import PageScript.Proofs.Text.Quoted
import PageScript.Proofs.Snippet.Control
import PageScript.Proofs.Operation.Validation
import PageScript.Proofs.Snippet.Routing
import PageScript.Proofs.Browser.Asking
import PageScript.Proofs.Operation.Selectors
import PageScript.Proofs.Run.Strictness
import PageScript.Proofs.Run.Skipping
import PageScript.Proofs.Run.Inert
import PageScript.Proofs.Run.Written
import PageScript.Proofs.CommandLine.Steps
import PageScript.Proofs.CommandLine.Workers
import PageScript.Proofs.Expression.Trace
import PageScript.Proofs.Document.Content
import PageScript.Proofs.Script.Accepting
import PageScript.Proofs.Number.Digits
import PageScript.Proofs.Browser.Forms
import PageScript.Proofs.Operation.Asserting
import PageScript.Proofs.Run.Passing
import PageScript.Proofs.Literal.Integer
import PageScript.Proofs.Expression.Invoking
import PageScript.Proofs.Operation.Integers
import PageScript.Proofs.Expression.Tokens
import PageScript.Proofs.Expression.Bracketed
import PageScript.Proofs.Operation.Absent
import PageScript.Proofs.Script.Naming
import PageScript.Proofs.CommandLine.Inclusions
import PageScript.Proofs.Session.Polling
import PageScript.Proofs.Operation.Filling
import PageScript.Proofs.Operation.Opposites
import PageScript.Proofs.Operation.Spreading
import PageScript.Proofs.Browser.Listing
import PageScript.Proofs.Literal.Sequences
import PageScript.Proofs.Literal.Vocabulary
import PageScript.Proofs.Library.Integers
import PageScript.Proofs.Library.Ranges
import PageScript.Proofs.Fake.Cards
import PageScript.Proofs.Literal.Offsets
