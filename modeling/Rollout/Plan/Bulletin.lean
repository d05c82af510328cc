/-!
# Rollout.Plan.Bulletin — lines of progress for those who follow a run

Lines of progress are held for everyone who follows a run, but only the latest ones: who reads too late loses the
oldest and is told how many.

* `Bulletin.unread`: what a reader finds who has seen the first lines.
-/

namespace Rollout

/-- All lines that were published, the oldest first. -/
structure Bulletin where
  lines : List String
deriving DecidableEq, Repr, Inhabited

namespace Bulletin

/-- The number of lines that are held. -/
def capacity : Nat := 64

def empty : Bulletin := ⟨[]⟩

/-- Publishes a line. -/
def post (b : Bulletin) (line : String) : Bulletin := ⟨b.lines ++ [line]⟩

/-- How many lines there are. -/
def length (b : Bulletin) : Nat := b.lines.length

/-- For a reader who has seen the first `seen` lines: how many are lost, and those that are left. -/
def unread (b : Bulletin) (seen : Nat) : Nat × List String :=
  let fresh := b.lines.drop seen
  let lost := fresh.length - capacity
  (lost, fresh.drop lost)

end Bulletin

end Rollout
