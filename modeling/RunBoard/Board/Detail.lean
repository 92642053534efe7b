import RunBoard.Run.Basic

/-!
# The detail of one run

A board can show one run in full.  The run shown follows the records that the board takes in, by the
same rule as the rows, but it holds no subscription of its own.
-/

namespace RunBoard

/-- The run that is shown in full, if any. -/
abbrev Detail := Option Run

namespace Detail

/-- Whether the run with this identifier is shown. -/
def isShowing (d : Detail) (id : RunId) : Bool :=
  d.any (·.id == id)

/-- Whether a record replaces the run that is shown. -/
def takes (d : Detail) (r : Run) : Bool :=
  d.any fun shown => shown.id == r.id && shown.accepts r

/-- Replaces the run that is shown by another record of it, if that may be. -/
def merge (d : Detail) (r : Run) : Detail :=
  if d.takes r then some r else d

end Detail

end RunBoard
