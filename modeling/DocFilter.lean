import DocFilter.Text.Ranges
import DocFilter.Text.NameStart
import DocFilter.Text.NamePart
import DocFilter.Text.Alphanumeric
import DocFilter.Text.Combining
import DocFilter.Text.Unprintable
import DocFilter.Text.Cursor
import DocFilter.Text.Quoted
import DocFilter.Decimal.Layout
import DocFilter.Literal
import DocFilter.Token.Scan
import DocFilter.Expr.Normal
import DocFilter.Expr.Reading
import DocFilter.Sql.Json
import DocFilter.Sql.Emit
import DocFilter.Listing
import DocFilter.Main
import DocFilter.Proofs.Literals.Independence
import DocFilter.Proofs.Literals.Source
import DocFilter.Proofs.Grammar.Sources
import DocFilter.Proofs.Grammar.Completeness
import DocFilter.Proofs.Grammar.WrongToken
import DocFilter.Proofs.Emission.Complete
import DocFilter.Proofs.Syntax.Precedence
import DocFilter.Proofs.Emission.Comparison
import DocFilter.Proofs.Meaning.Normal
import DocFilter.Proofs.Scoping.Capture
import DocFilter.Proofs.Scoping.Aliases
import DocFilter.Proofs.Scoping.Places
import DocFilter.Proofs.Lexemes.Splitting
import DocFilter.Proofs.Lexemes.TextItems
import DocFilter.Proofs.Lexemes.Gaps
import DocFilter.Proofs.Guarded.Compiling
import DocFilter.Proofs.Guarded.Session
import DocFilter.Proofs.Guarded.Resuming
import DocFilter.Proofs.Height.Bound
import DocFilter.Proofs.Scoping.Renaming
import DocFilter.Proofs.Normal.Redexes
import DocFilter.Proofs.Normal.Spelling
import DocFilter.Proofs.Height.Threshold
import DocFilter.Proofs.Syntax.Terms
import DocFilter.Proofs.Syntax.Labels
import DocFilter.Proofs.Syntax.Paths
import DocFilter.Proofs.Normal.Tidy
import DocFilter.Proofs.Normal.Canonical
import DocFilter.Proofs.Emission.Rows
import DocFilter.Proofs.Emission.Shown
import DocFilter.Proofs.Emission.Kinds
import DocFilter.Proofs.Emission.Readback
import DocFilter.Proofs.Literals.Equality
import DocFilter.Proofs.Emission.Distinct
import DocFilter.Proofs.Emission.Length
import DocFilter.Proofs.Listing.History
import DocFilter.Proofs.Lexemes.Numbers
import DocFilter.Proofs.Json.Readback
import DocFilter.Proofs.Lines.Fields
