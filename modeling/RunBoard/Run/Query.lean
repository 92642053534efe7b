import RunBoard.Run.Basic

/-!
# Pages of runs

A query names one page of the runs of one workflow, or of all workflows.  Pages are counted from one
and hold at least one run, which is part of the type.
-/

namespace RunBoard

/-- Which page of which runs is asked for. -/
structure Query where
  /-- The workflow whose runs are listed; all runs when there is none. -/
  workflow : Option String
  page : Nat
  perPage : Nat
  /-- Whether the workflow of each run is asked for too. -/
  expand : Bool
  page_pos : 1 ≤ page := by decide
  perPage_pos : 1 ≤ perPage := by decide
  deriving DecidableEq, Repr

namespace Query

/-- The query for a page; a page or a size of zero counts as one. -/
def of (workflow : Option String) (page perPage : Nat) (expand : Bool) : Query where
  workflow
  page := max page 1
  perPage := max perPage 1
  expand
  page_pos := Nat.le_max_right ..
  perPage_pos := Nat.le_max_right ..

/-- The query for another page of the same runs. -/
def withPage (q : Query) (page perPage : Nat) : Query :=
  of q.workflow page perPage q.expand

/-- The query for the first page of the runs of another workflow. -/
def withWorkflow (q : Query) (workflow : Option String) : Query :=
  of workflow 1 q.perPage q.expand

/-- The number of the row at an index of the page, counted from one over all pages. -/
def rowNumber (q : Query) (index : Nat) : Nat :=
  (q.page - 1) * q.perPage + index + 1

end Query

/-- One page of runs, and how many runs there are on all pages. -/
structure Page where
  items : List Run
  total : Nat
  deriving Repr

end RunBoard
