/-!
# Sets of characters given by ranges
-/

namespace CallBridge.Text

/-- Code point ranges, ends included. -/
abbrev Ranges := List (Nat × Nat)

def Ranges.contains (table : Ranges) (c : Char) : Bool :=
  table.any fun r => r.1 ≤ c.toNat && c.toNat ≤ r.2

end CallBridge.Text
