import Umbra.Main
import Umbra.Proofs.Chain.RoundTrip
import Umbra.Proofs.Chain.TextPart
import Umbra.Proofs.Dom.Restored
import Umbra.Proofs.Dom.Stack
import Umbra.Proofs.Query.Alternatives
import Umbra.Proofs.Query.Combinators
import Umbra.Proofs.Query.DescendantChain
import Umbra.Proofs.Query.Increasing
import Umbra.Proofs.Query.Light
import Umbra.Proofs.Query.Ordering
import Umbra.Proofs.Query.Renaming
import Umbra.Proofs.Query.Visibility
import Umbra.Proofs.Chain.Joined
import Umbra.Proofs.Selector.Places
import Umbra.Proofs.Chain.Places
import Umbra.Proofs.Selector.Spelled
import Umbra.Proofs.Chain.Kept
import Umbra.Proofs.Chain.Undivided
import Umbra.Proofs.Selector.Unpadding
import Umbra.Proofs.Chain.Clause
import Umbra.Proofs.Chain.Slices
import Umbra.Proofs.Dom.Flat
import Umbra.Proofs.Selector.Allowed
import Umbra.Proofs.Query.Flat
import Umbra.Proofs.Selector.Progression
import Umbra.Proofs.Dom.LetterCase
import Umbra.Proofs.Query.LetterCase
import Umbra.Proofs.Query.Positions
import Umbra.Proofs.Dom.Recut
import Umbra.Proofs.Query.Recut
import Umbra.Proofs.Selector.Cursor
import Umbra.Proofs.Selector.Indices
import Umbra.Proofs.Selector.Sweep
import Umbra.Proofs.Selector.Scanner
import Umbra.Proofs.Selector.Boundaries
import Umbra.Proofs.Chain.Indices
import Umbra.Proofs.Chain.Boundaries
import Umbra.Proofs.Text.Pattern
import Umbra.Proofs.Selector.CaseModes
import Umbra.Proofs.Selector.BareValue
import Umbra.Proofs.Query.TextClauses
import Umbra.Proofs.Selector.Microsyntax
import Umbra.Proofs.Dom.Paths
import Umbra.Proofs.Dom.TextContent
import Umbra.Proofs.Query.Inverse
import Umbra.Proofs.Selector.Verbatim
import Umbra.Proofs.Chain.Reread
