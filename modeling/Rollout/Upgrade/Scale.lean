/-!
# Rollout.Upgrade.Scale — how many units an upgrade needs

An upgrade takes one unit out of service at a time, so the application first grows to an odd number of units, of which
a majority is left at any moment.
-/

namespace Rollout.Upgrade

/-- The greatest number of units. -/
def maxScale : Nat := UInt32.size - 1

/-- The least odd number of units above the given one, as far as numbers of units go. -/
def targetScale (scale : Nat) : Nat :=
  let target := min (scale + 1) maxScale
  if target % 2 = 0 then min (target + 1) maxScale else target

end Rollout.Upgrade
