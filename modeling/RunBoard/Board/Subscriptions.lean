import RunBoard.Board.Call
import RunBoard.Board.Detail

/-!
# Subscriptions

The runs whose patches a board receives, and the patches that wait to be taken in.  Every run that
enters the set leaves it through `release` or `releaseAll`, and each time the backend is told once.

`sync` brings the set in line with the rows of a page, of which exactly those in flight are
subscribed.  `merge` takes one patch into the rows and the detail; a run that has ended, is deleted
or is no longer on the page is released on the spot.
-/

namespace RunBoard

/-- The runs that are subscribed, in the order in which they were, and the patches that wait. -/
structure Subscriptions where
  ids : List RunId
  inbox : List Patch
  nodup : ids.Nodup
  deriving Repr

namespace Subscriptions

/-- No subscriptions. -/
def empty : Subscriptions := ⟨[], [], List.nodup_nil⟩

instance : Membership RunId Subscriptions := ⟨fun s id => id ∈ s.ids⟩

instance (id : RunId) (s : Subscriptions) : Decidable (id ∈ s) :=
  inferInstanceAs (Decidable (id ∈ s.ids))

/-- The number of subscriptions. -/
def size (s : Subscriptions) : Nat :=
  s.ids.length

/-- Adds a run. -/
def insert (s : Subscriptions) (id : RunId) : Subscriptions :=
  if h : id ∈ s.ids then s
  else ⟨s.ids ++ [id], s.inbox, by
    rw [List.nodup_append]
    exact ⟨s.nodup, by simp, by simp only [List.mem_singleton]; rintro a ha _ rfl rfl; exact h ha⟩⟩

/-- Takes a run out. -/
def erase (s : Subscriptions) (id : RunId) : Subscriptions :=
  ⟨s.ids.filter (· ≠ id), s.inbox, s.nodup.filter _⟩

/-- Puts patches behind those that wait. -/
def receive (s : Subscriptions) (patches : List Patch) : Subscriptions :=
  { s with inbox := s.inbox ++ patches }

/-- The first patch that waits, and the subscriptions without it. -/
def next? (s : Subscriptions) : Option (Patch × Subscriptions) :=
  match s.inbox with
  | [] => none
  | p :: ps => some (p, { s with inbox := ps })

theorem mem_def {s : Subscriptions} {id : RunId} : id ∈ s ↔ id ∈ s.ids := Iff.rfl

@[simp] theorem not_mem_empty (id : RunId) : id ∉ empty := List.not_mem_nil

@[simp] theorem mem_insert {s : Subscriptions} {id j : RunId} :
    j ∈ s.insert id ↔ j ∈ s ∨ j = id := by
  unfold insert
  split
  · rename_i h
    exact ⟨Or.inl, fun hj => hj.elim (fun x => x) fun e => e ▸ h⟩
  · simp [mem_def]

@[simp] theorem mem_erase {s : Subscriptions} {id j : RunId} : j ∈ s.erase id ↔ j ∈ s ∧ j ≠ id := by
  simp [mem_def, erase]

@[simp] theorem mem_receive {s : Subscriptions} {ps : List Patch} {j : RunId} :
    j ∈ s.receive ps ↔ j ∈ s := Iff.rfl

/-! ### Subscribing -/

/-- Subscribes one run, if it is not subscribed yet. -/
def subscribe (s : Subscriptions) (id : RunId) :
    BoardTask (Subscriptions × Except RequestError Bool) :=
  if id ∈ s then pure (s, .ok false)
  else do
    let answer ← call (.subscribe id)
    let s := s.receive answer.arrived
    match (answer.result : Except RequestError Bool) with
    | .ok _ => return (s.insert id, .ok true)
    | .error e => return (s, .error e)

/-- The runs among `ids` that are not subscribed yet, each once. -/
def missing (s : Subscriptions) (ids : List RunId) : List RunId :=
  (ids.filter (· ∉ s)).eraseDups

/-- What came of subscribing each run of a batch. -/
abbrev Outcomes := List (RunId × Except RequestError Unit)

/-- Takes in the outcomes of a batch: the runs whose outcome is good are subscribed now. -/
def settle (s : Subscriptions) (outcomes : Outcomes) : Subscriptions :=
  outcomes.foldl (fun s (id, outcome) => if outcome.isOk then s.insert id else s) s

/-- Subscribes all runs among `ids` that are not subscribed yet, in one batch.  If the batch is
given up, none of them is subscribed, and the backend is told so for each of them, since it may have
come to know of some. -/
def subscribeAll (s : Subscriptions) (ids : List RunId) :
    BoardTask (Subscriptions × Except RequestError Outcomes) :=
  let pending := s.missing ids
  if pending.isEmpty then pure (s, .ok [])
  else do
    let answer ← call (.subscribeAll pending)
    let s := s.receive answer.arrived
    match (answer.result : Option (RunId → Except RequestError Bool)) with
    | none =>
      Task.emitAll (pending.map .unsubscribe)
      return (s, .error .aborted)
    | some result =>
      let outcomes := pending.map fun id => (id, (result id).map fun _ => ())
      return (s.settle outcomes, .ok outcomes)

/-! ### Releasing -/

/-- Releases a run.  Gives whether it was subscribed. -/
def release (s : Subscriptions) (id : RunId) : BoardTask (Subscriptions × Bool) :=
  if id ∈ s then do
    Task.emit (.unsubscribe id)
    return (s.erase id, true)
  else return (s, false)

/-- Releases all runs.  Gives how many there were. -/
def releaseAll (s : Subscriptions) : BoardTask (Subscriptions × Nat) := do
  Task.emitAll (s.ids.map .unsubscribe)
  return ({ empty with inbox := s.inbox }, s.size)

/-- Releases all runs and discards the patches that wait.  Gives how many runs there were. -/
def teardown (s : Subscriptions) : BoardTask (Subscriptions × Nat) := do
  Task.emitAll (s.ids.map .unsubscribe)
  return (empty, s.size)

/-! ### Keeping in line with a page -/

/-- What bringing the subscriptions in line with a page did. -/
structure SyncReport where
  subscribed : Nat
  released : Nat
  failed : Nat
  deriving DecidableEq, Repr

/-- Whether a page shows a run as in flight. -/
def wants (rows : List Run) (id : RunId) : Bool :=
  rows.any fun r => r.id == id && r.isInFlight

/-- Subscribes the rows in flight and releases everything else. -/
def sync (s : Subscriptions) (rows : List Run) :
    BoardTask (Subscriptions × Except RequestError SyncReport) := do
  let stale := s.ids.filter fun id => !wants rows id
  Task.emitAll (stale.map .unsubscribe)
  let kept : Subscriptions := ⟨s.ids.filter (wants rows), s.inbox, s.nodup.filter _⟩
  let (s, outcome) ← kept.subscribeAll ((rows.filter Run.isInFlight).map Run.id)
  return (s, outcome.map fun outcomes =>
    ⟨outcomes.countP (·.2.isOk), stale.length, outcomes.countP (!·.2.isOk)⟩)

/-! ### Taking in patches -/

/-- Why a patch was dropped. -/
inductive IgnoreReason where
  | notSubscribed
  | notOnPage
  | stale
  deriving DecidableEq, Repr

/-- What became of a patch. -/
inductive Outcome where
  /-- The row was replaced; the run was released if it has ended. -/
  | applied (released : Bool)
  /-- The row was removed and the run released. -/
  | removed
  | ignored (reason : IgnoreReason)
  deriving DecidableEq, Repr

namespace Outcome

/-- Whether the page has changed. -/
def changed : Outcome → Bool
  | applied _ | removed => true
  | ignored _ => false

/-- Whether the run was released. -/
def releases : Outcome → Bool
  | applied released => released
  | removed | ignored .notOnPage => true
  | ignored _ => false

end Outcome

/-- Replaces the first row of a run. -/
def replaceRow (rows : List Run) (record : Run) : List Run :=
  match rows with
  | [] => []
  | r :: rs => if r.id = record.id then record :: rs else r :: replaceRow rs record

/-- Removes the first row of a run. -/
def removeRow (rows : List Run) (id : RunId) : List Run :=
  rows.eraseP (·.id == id)

/-- The first row of a run. -/
def rowOf? (rows : List Run) (id : RunId) : Option Run :=
  rows.find? (·.id == id)

/-- The rows and the detail after a patch, and what became of it. -/
structure Merged where
  rows : List Run
  detail : Detail
  outcome : Outcome
  deriving Repr

/-- Takes one patch into the rows and the detail. -/
def merge (s : Subscriptions) (patch : Patch) (rows : List Run) (detail : Detail) : Merged :=
  let id := patch.record.id
  if id ∉ s then ⟨rows, detail, .ignored .notSubscribed⟩
  else match rowOf? rows id with
    | none => ⟨rows, detail, .ignored .notOnPage⟩
    | some row =>
      if patch.action = .delete then ⟨removeRow rows id, detail, .removed⟩
      else if row.accepts patch.record then
        let record := patch.record.keepExpansion row
        ⟨replaceRow rows record, detail.merge record, .applied record.isTerminal⟩
      else ⟨rows, detail, .ignored .stale⟩

/-- Takes one patch into the rows and the detail, and releases its run where that is due. -/
def apply (s : Subscriptions) (patch : Patch) (rows : List Run) (detail : Detail) :
    BoardTask (Subscriptions × Merged) := do
  let merged := s.merge patch rows detail
  if merged.outcome.releases then
    Task.emit (.unsubscribe patch.record.id)
    return (s.erase patch.record.id, merged)
  else return (s, merged)

end Subscriptions

end RunBoard
