import Rollout.Text.Search

/-!
# Rollout.Provisioner.Signature — telling a held lock from other failures

The provisioner says on its error output that another holder has the lock.  What it says depends on its version.
-/

namespace Rollout

/-- The texts by which a held lock is told. -/
structure LockSignature where
  version : String
  markers : List String
deriving DecidableEq, Repr, Inhabited

namespace LockSignature

def default : LockSignature := ⟨"v1", ["remote state already locked"]⟩

/-- Whether an error output tells of a held lock. -/
def tells (s : LockSignature) (stderr : String) : Bool :=
  s.markers.any fun marker => Text.holds marker.toList stderr.toList

end LockSignature

end Rollout
