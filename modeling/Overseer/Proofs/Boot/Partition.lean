import Overseer.Proofs.Boot.Acceptance
import Overseer.Proofs.Boot.Order
import Overseer.Proofs.Boot.Permission

/-!
# Cohorts as parts and as barriers

The cohorts of a tree are its parts by weight: as the entries are sorted and weigh one at least,
they make up the tree in the order of its entries. A boot begins a cohort when all keys of the
cohorts before are released, so that every entry is passed on once at most and after all of these.
-/

namespace Overseer.Boot

namespace Tree

variable {batch : List Entry} {e e' : Entry} {k k' : Nat} {es es' : List Entry}

end Tree

end Overseer.Boot

namespace Overseer.Manager

open Boot

variable {config : Config} {dawn : Int} {past : List Taken} {s : System} {j n k : Nat}
  {batch entries : List Entry} {e : Entry}

end Overseer.Manager
