import ResourceFilter.Main
import ResourceFilter.Proofs.Clause.Offence
import ResourceFilter.Proofs.Dialect.Literal
import ResourceFilter.Proofs.Fragment.Inline
import ResourceFilter.Proofs.Fragment.Precedence
import ResourceFilter.Proofs.Token.Scan
import ResourceFilter.Proofs.Clause.Text
import ResourceFilter.Proofs.Fragment.Frame
import ResourceFilter.Proofs.Fragment.Refusal
import ResourceFilter.Proofs.Fragment.Building
import ResourceFilter.Proofs.Fragment.Comment
import ResourceFilter.Proofs.Dialect.Matching
import ResourceFilter.Proofs.Fragment.Pattern
import ResourceFilter.Proofs.Clause.Joining
import ResourceFilter.Proofs.Dialect.Derivation
import ResourceFilter.Proofs.Clause.Denial
import ResourceFilter.Proofs.Fragment.Denial
import ResourceFilter.Proofs.AllowList.Nearest
import ResourceFilter.Proofs.Fragment.Surface
import ResourceFilter.Proofs.Text.Edits
import ResourceFilter.Proofs.AllowList.Suggestion
import ResourceFilter.Proofs.Run.Answer
import ResourceFilter.Proofs.Run.Agreement
import ResourceFilter.Proofs.Run.Creation
import ResourceFilter.Proofs.Run.History
import ResourceFilter.Proofs.Run.Influence
import ResourceFilter.Proofs.DateLiteral.Calendar
import ResourceFilter.Proofs.DateLiteral.Recognition
import ResourceFilter.Proofs.DateLiteral.Normal
import ResourceFilter.Proofs.Fragment.Acceptance
import ResourceFilter.Proofs.Fragment.Concatenation
import ResourceFilter.Proofs.Text.Numeral
import ResourceFilter.Proofs.Text.Decimal
import ResourceFilter.Proofs.Fragment.Numbering
import ResourceFilter.Proofs.Schema.Extension
import ResourceFilter.Proofs.Report.Table
import ResourceFilter.Proofs.Json.Reader
import ResourceFilter.Proofs.Json.RoundTrip
import ResourceFilter.Proofs.Report.Decoding
import ResourceFilter.Proofs.Token.Partition
import ResourceFilter.Proofs.CommandLine.Step
import ResourceFilter.Proofs.CommandLine.Switch
import ResourceFilter.Proofs.CommandLine.Texts
import ResourceFilter.Proofs.Report.Color
import ResourceFilter.Proofs.Report.Colorless
import ResourceFilter.Proofs.Fragment.Colorless
import ResourceFilter.Proofs.Run.Page
import ResourceFilter.Proofs.Run.Presentation
