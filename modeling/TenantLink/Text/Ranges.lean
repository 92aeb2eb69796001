/-!
# Classes of characters given by ranges

A class is a list of closed ranges of code points. `inRanges` decides membership.
-/

namespace TenantLink.Text

/-- Closed ranges of code points. -/
abbrev Ranges := List (Nat × Nat)

def inRanges (ranges : Ranges) (c : Char) : Bool :=
  ranges.any fun (low, high) => low ≤ c.toNat && c.toNat ≤ high

theorem inRanges_iff {ranges : Ranges} {c : Char} :
    inRanges ranges c = true ↔ ∃ r ∈ ranges, r.1 ≤ c.toNat ∧ c.toNat ≤ r.2 := by
  simp [inRanges, List.any_eq_true]

end TenantLink.Text
