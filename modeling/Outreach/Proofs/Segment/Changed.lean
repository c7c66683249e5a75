import Outreach.Proofs.Api.Paged
import Outreach.Proofs.Api.Readable
import Outreach.Proofs.Rule.Resembling

/-! Segments whose rules are changed. Rules that count as the same as those of the segment are
dropped without a word. Any others are counted first: either they refuse a customer, and with it the
change is refused and nothing is stored, or they are stored as they are and shown together with the
number of customers that match them. -/

namespace Outreach

open Api

/-! ### Counting -/

section
variable {settings : Settings} {db : Database} {raw rules : Value}

end

namespace Api

open Http (Request Response)

/-! ### The answer -/

section
variable {env : Environment} {db : Database} {request : Request} {user : User} {id : Int}
  {change : SegmentChange} {row ruled : Segment} {rules : Value}

end

/-! ### All runs -/

namespace Sample

end Sample

end Api

end Outreach
