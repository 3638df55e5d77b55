import Corkboard.Command.Launch
import Corkboard.Command.Workspace
import Corkboard.Main
import Corkboard.Proofs.Editor.Session
import Corkboard.Proofs.Grouping.Columns
import Corkboard.Proofs.Patch.Placement
import Corkboard.Proofs.Patch.Convergence
import Corkboard.Proofs.Patch.Effect
import Corkboard.Proofs.Patch.Independence
import Corkboard.Proofs.Filter.Suggestion
import Corkboard.Proofs.LinkedCards.RoundTrip
import Corkboard.Proofs.Filter.Duality
import Corkboard.Proofs.Filter.Overruling
import Corkboard.Proofs.Filter.Nesting
import Corkboard.Proofs.Command.Hiding
import Corkboard.Proofs.DateSpan.RoundTrip
import Corkboard.Proofs.Editor.Positions
import Corkboard.Proofs.Filter.Locality
import Corkboard.Proofs.Json.Indented
import Corkboard.Proofs.Json.Size
import Corkboard.Proofs.Command.Output
import Corkboard.Proofs.Command.Failing
import Corkboard.Proofs.Filter.SuggestedValue
import Corkboard.Proofs.Filter.Timestamps
import Corkboard.Proofs.Filter.Moments
import Corkboard.Proofs.Filter.TextSearch
import Corkboard.Proofs.Patch.Replaying
import Corkboard.Proofs.Patch.Mirroring
import Corkboard.Proofs.Patch.Emptiness
import Corkboard.Proofs.Grouping.FirstSeen
import Corkboard.Proofs.Grouping.Listed
import Corkboard.Proofs.Grouping.SameEntries
import Corkboard.Proofs.Grouping.SameLinks
import Corkboard.Proofs.Decimal.LeadingInteger
import Corkboard.Proofs.Property.Sameness
