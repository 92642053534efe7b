import Mathlib.Logic.Function.Basic
import RunBoard.Proofs.Run.Succession
import RunBoard.Proofs.Board.Releasing

/-!
# A backend that stores runs

The backend of one board: it has the current record of each run, lists pages from these records, and
sends a patch whenever a run changes that the board has subscribed.  Runs change at any time, also
while a call waits for its answer; `Store.Answering` relates the course of a task to all that the
store can go through in the meantime.

The store also keeps book of what the board cannot come to know.  A change of a run that is not
subscribed is not sent, and a change against the order of statuses is not accepted by the row.
-/

namespace RunBoard

/-- What a backend stores, and what it has sent. -/
structure Store where
  /-- The current record of each run. -/
  record? : RunId → Option Run
  /-- The runs that are subscribed. -/
  watched : List RunId
  /-- The patches that have been sent and have not arrived yet. -/
  sent : List Patch
  /-- The runs whose last change was not sent, among the changes since a page was listed. -/
  unsent : List RunId
  /-- The runs that have changed against the order of statuses. -/
  strayed : List RunId

namespace Store

variable {s s' t u : Store} {r r' old : Run} {id : RunId} {ids opened : List RunId}
  {log rest : BoardLog} {m : Task.Moment Call Call.Answer Event}

/-- A backend that knows of one run. -/
def of (r : Run) : Store :=
  ⟨fun id => if id = r.id then some r else none, [], [], [], []⟩

/-! ### Changes -/

/-- A run may get a record that is newer than the one it has. -/
def MayChange (s : Store) (r : Run) : Prop :=
  ∀ old, s.record? r.id = some old → r.newerThan old = true

/-- Whether the status of a record can be reached from the current one. -/
def reaches (s : Store) (r : Run) : Bool :=
  (s.record? r.id).all fun old => old.status.canBecome r.status

/-- A run gets another record.  A patch is sent if the run is subscribed. -/
def change (s : Store) (r : Run) : Store :=
  { s with
    record? := Function.update s.record? r.id (some r)
    sent := if r.id ∈ s.watched then s.sent ++ [⟨.update, r⟩] else s.sent
    unsent := if r.id ∈ s.watched then s.unsent.filter (· ≠ r.id) else r.id :: s.unsent
    strayed := if s.reaches r then s.strayed else r.id :: s.strayed }

lemma record?_change (s : Store) (r : Run) (id : RunId) :
    (s.change r).record? id = if id = r.id then some r else s.record? id :=
  Function.update_apply _ _ _ _

lemma mem_sent_change {p : Patch} :
    p ∈ (s.change r).sent ↔ p ∈ s.sent ∨ r.id ∈ s.watched ∧ p = ⟨.update, r⟩ := by
  by_cases hwatched : r.id ∈ s.watched <;> simp [change, hwatched]

lemma mem_unsent_change :
    id ∈ (s.change r).unsent ↔ if id = r.id then r.id ∉ s.watched else id ∈ s.unsent := by
  by_cases hwatched : r.id ∈ s.watched <;> by_cases hid : id = r.id <;>
    simp [change, hwatched, hid]

lemma mem_strayed_change :
    id ∈ (s.change r).strayed ↔ id ∈ s.strayed ∨ id = r.id ∧ s.reaches r = false := by
  cases hreaches : s.reaches r <;> simp [change, hreaches, or_comm]

/-- A subscription takes effect. -/
def watch (s : Store) (id : RunId) : Store :=
  { s with watched := id :: s.watched }

/-- A subscription ends. -/
def unwatch (s : Store) (id : RunId) : Store :=
  { s with watched := s.watched.filter (· ≠ id) }

/-! ### What the store knows of a record -/

/-- A record that tells the same as the current one. -/
def Current (s : Store) (r : Run) : Prop :=
  ∃ current, s.record? r.id = some current ∧ r.Agrees current

/-- A record that is current, or was so once.  Unless the run has strayed, it precedes the current
record in the latter case, and also if the last change of the run was not sent. -/
def Knows (s : Store) (r : Run) : Prop :=
  ∃ current, s.record? r.id = some current ∧
    (r.id ∉ s.strayed → r.Precedes current ∨ r.Agrees current ∧ r.id ∉ s.unsent)

lemma Current.congr (h : s.Current r) (hagrees : r.Agrees r') : s.Current r' := by
  obtain ⟨current, hrecord, hcurrent⟩ := h
  exact ⟨current, hagrees.id_eq ▸ hrecord, hagrees.symm.trans hcurrent⟩

lemma current_change (s : Store) (r : Run) : (s.change r).Current r :=
  ⟨r, by rw [record?_change, if_pos rfl], .refl r⟩

lemma Current.change_of_ne (h : s.Current r) (hne : r.id ≠ r'.id) : (s.change r').Current r := by
  obtain ⟨current, hrecord, hcurrent⟩ := h
  exact ⟨current, by rw [record?_change, if_neg hne, hrecord], hcurrent⟩

lemma Current.knows (h : s.Current r) (hunsent : r.id ∉ s.unsent) : s.Knows r := by
  obtain ⟨current, hrecord, hcurrent⟩ := h
  exact ⟨current, hrecord, fun _ => Or.inr ⟨hcurrent, hunsent⟩⟩

namespace Knows

lemma congr (h : s.Knows r) (hagrees : r.Agrees r') : s.Knows r' := by
  obtain ⟨current, hrecord, hcurrent⟩ := h
  rw [hagrees.id_eq] at hrecord hcurrent
  refine ⟨current, hrecord, fun hstrayed => ?_⟩
  rcases hcurrent hstrayed with hbehind | ⟨hsame, hunsent⟩
  · exact Or.inl (hbehind.congr hagrees (.refl current))
  · exact Or.inr ⟨hagrees.symm.trans hsame, hunsent⟩

/-- A record that was current before a change is preceded by none of the changed run. -/
lemma change (h : s.Knows r) (may : s.MayChange r') : (s.change r').Knows r := by
  obtain ⟨current, hrecord, hcurrent⟩ := h
  unfold Knows
  rw [record?_change]
  by_cases hid : r.id = r'.id
  · -- all that was known of the run is behind its new record
    rw [if_pos hid]
    refine ⟨r', rfl, fun hstrayed => Or.inl ?_⟩
    rw [mem_strayed_change, not_or, not_and, Bool.not_eq_false] at hstrayed
    have hreaches : current.status.canBecome r'.status = true := by
      simpa [reaches, ← hid, hrecord] using hstrayed.2 hid
    have hnext : current.Precedes r' := ⟨may current (hid ▸ hrecord), hreaches⟩
    rcases hcurrent hstrayed.1 with hbehind | ⟨hsame, -⟩
    · exact hbehind.trans hnext
    · exact hnext.congr hsame.symm (.refl r')
  · rw [if_neg hid]
    refine ⟨current, hrecord, fun hstrayed => ?_⟩
    rw [mem_unsent_change, if_neg hid]
    exact hcurrent fun hmem => hstrayed (mem_strayed_change.mpr (Or.inl hmem))

/-- A record accepts the current one. -/
lemma accepts (h : s.Knows r) (hstrayed : r.id ∉ s.strayed) (hcurrent : s.Current r')
    (hid : r'.id = r.id) : r.accepts r' = true := by
  obtain ⟨current, hrecord, hknown⟩ := h
  obtain ⟨current', hrecord', hagrees⟩ := hcurrent
  rw [hid] at hrecord'
  obtain rfl : current = current' := Option.some.inj (hrecord.symm.trans hrecord')
  rw [Run.accepts_congr (.refl r) hagrees]
  rcases hknown hstrayed with hbehind | ⟨hsame, -⟩
  · exact hbehind.accepts
  · exact hsame.accepts

/-- The current record accepts no other one that the store has had. -/
lemma current_of_accepts (h : s.Knows r') (hstrayed : r.id ∉ s.strayed) (hcurrent : s.Current r)
    (hid : r'.id = r.id) (haccepts : r.accepts r' = true) : s.Current r' := by
  obtain ⟨current, hrecord, hknown⟩ := h
  obtain ⟨current', hrecord', hagrees⟩ := hcurrent
  rw [← hid] at hrecord' hstrayed
  obtain rfl : current = current' := Option.some.inj (hrecord.symm.trans hrecord')
  rcases hknown hstrayed with hbehind | ⟨hsame, -⟩
  · -- an earlier record would have been refused
    rw [Run.accepts_congr hagrees (.refl r'), hbehind.rejects] at haccepts
    exact absurd haccepts Bool.false_ne_true
  · exact ⟨current, hrecord, hsame⟩

/-- Unless the run has strayed, a current record is one whose last change was sent. -/
lemma notMem_unsent (h : s.Knows r) (hstrayed : r.id ∉ s.strayed) (hcurrent : s.Current r) :
    r.id ∉ s.unsent := by
  obtain ⟨current, hrecord, hknown⟩ := h
  obtain ⟨current', hrecord', hagrees⟩ := hcurrent
  obtain rfl : current = current' := Option.some.inj (hrecord.symm.trans hrecord')
  rcases hknown hstrayed with hbehind | ⟨-, hunsent⟩
  · exact absurd hagrees hbehind.not_agrees
  · exact hunsent

end Knows

/-! ### Answers -/

/-- A page that is listed from the store. -/
structure Lists (s : Store) (page : Page) : Prop where
  distinct : Distinct page.items
  current : ∀ r ∈ page.items, s.Current r

/-- Subscriptions take effect one after the other, and runs change in between. -/
inductive Opens (s : Store) : List RunId → Store → Prop
  | start : Opens s [] s
  | change {opened : List RunId} {t : Store} {r : Run} (before : Opens s opened t)
      (may : t.MayChange r) : Opens s opened (t.change r)
  | watch {opened : List RunId} {t : Store} (before : Opens s opened t) (id : RunId) :
      Opens s (opened ++ [id]) (t.watch id)

/-- What the store does at a moment of a course.  Some of the patches that were sent have arrived
when a call is answered.  Runs are not deleted, and whether a run is canceled shows in its
changes. -/
inductive Meets (s : Store) : Task.Moment Call Call.Answer Event → Store → Prop
  | unsubscribe (id : RunId) : Meets s (.told (.unsubscribe id)) (s.unwatch id)
  | notify (text : String) : Meets s (.told (.notify text)) s
  | list {query : Query} {page : Page} {arrived late : List Patch} (lists : s.Lists page)
      (queue : s.sent = arrived ++ late) :
      Meets s (.asked (.list query) ⟨.ok page, arrived⟩) { s with sent := late, unsent := [] }
  | notListed {query : Query} {e : RequestError} {arrived late : List Patch}
      (queue : s.sent = arrived ++ late) :
      Meets s (.asked (.list query) ⟨.error e, arrived⟩) { s with sent := late }
  | cancel {workflow : String} {id : RunId} {result : Except RequestError Bool}
      {arrived late : List Patch} (queue : s.sent = arrived ++ late) :
      Meets s (.asked (.cancel workflow id) ⟨result, arrived⟩) { s with sent := late }
  | notRemoved {ids : List RunId} {result : Except RequestError Bool} {arrived late : List Patch}
      (refused : result ≠ .ok true) (queue : s.sent = arrived ++ late) :
      Meets s (.asked (.remove ids) ⟨result, arrived⟩) { s with sent := late }
  | subscribeAll {ids opened : List RunId} {t : Store}
      {result : RunId → Except RequestError Bool} {arrived late : List Patch}
      (opens : s.Opens opened t)
      (succeed : ∀ id, id ∈ opened ↔ id ∈ ids ∧ (result id).isOk = true)
      (queue : t.sent = arrived ++ late) :
      Meets s (.asked (.subscribeAll ids) ⟨some result, arrived⟩) { t with sent := late }
  | givenUp {ids opened : List RunId} {t : Store} {arrived late : List Patch}
      (opens : s.Opens opened t) (among : ∀ id ∈ opened, id ∈ ids)
      (queue : t.sent = arrived ++ late) :
      Meets s (.asked (.subscribeAll ids) ⟨none, arrived⟩) { t with sent := late }

/-- What the store goes through in a course: it meets each moment, and runs change at any time. -/
inductive Answering : Store → BoardLog → Store → Prop
  | done (s : Store) : Answering s [] s
  | change {s t : Store} {log : BoardLog} {r : Run} (may : s.MayChange r)
      (others : Answering (s.change r) log t) : Answering s log t
  | moment {s t u : Store} {m : Task.Moment Call Call.Answer Event} {log : BoardLog}
      (meets : s.Meets m t) (others : Answering t log u) : Answering s (m :: log) u

namespace Answering

lemma append_iff : s.Answering (log ++ rest) u ↔ ∃ t, s.Answering log t ∧ t.Answering rest u := by
  constructor
  · intro h
    generalize hall : log ++ rest = all at h
    induction h generalizing log with
    | done s =>
      obtain ⟨rfl, rfl⟩ := List.append_eq_nil_iff.mp hall
      exact ⟨s, .done s, .done s⟩
    | change may others ih =>
      obtain ⟨t, hlog, hrest⟩ := ih hall
      exact ⟨t, .change may hlog, hrest⟩
    | @moment s v u m _ meets others ih =>
      cases log with
      | nil =>
        obtain rfl : rest = _ := hall
        exact ⟨s, .done s, .moment meets others⟩
      | cons m' log =>
        obtain ⟨rfl, htail⟩ := List.cons.inj hall
        obtain ⟨t, hlog, hrest⟩ := ih htail
        exact ⟨t, .moment meets hlog, hrest⟩
  · rintro ⟨t, hlog, hrest⟩
    induction hlog with
    | done => exact hrest
    | change may _ ih => exact .change may (ih hrest)
    | moment meets _ ih => exact .moment meets (ih hrest)

/-- Runs may change before the first moment. -/
lemma cons_iff :
    s.Answering (m :: log) u ↔ ∃ t v, s.Answering [] t ∧ t.Meets m v ∧ v.Answering log u := by
  constructor
  · intro h
    generalize hall : m :: log = all at h
    induction h with
    | done => cases hall
    | change may _ ih =>
      obtain ⟨t, v, hchanges, hmeets, hothers⟩ := ih hall
      exact ⟨t, v, .change may hchanges, hmeets, hothers⟩
    | @moment s v _ _ _ meets others _ =>
      obtain ⟨rfl, rfl⟩ := List.cons.inj hall
      exact ⟨s, v, .done s, meets, others⟩
  · rintro ⟨t, v, hchanges, hmeets, hothers⟩
    exact append_iff.mpr ⟨t, hchanges, .moment hmeets hothers⟩

end Answering

/-! ### The runs that are subscribed -/

lemma Opens.mem_watched (h : s.Opens opened t) : id ∈ t.watched ↔ id ∈ s.watched ∨ id ∈ opened := by
  induction h with
  | start => simp
  | change _ _ ih => exact ih
  | watch _ j ih =>
    simp only [Store.watch, List.mem_cons, ih, List.mem_append, List.not_mem_nil, or_false]
    exact or_comm.trans or_assoc

/-- The store keeps the promises of a backend. -/
lemma Meets.honours (h : s.Meets m t) :
    Board.Honours {id | id ∈ s.watched} m {id | id ∈ t.watched} := by
  cases h with
  | unsubscribe id =>
    ext j
    simp [unwatch]
  | notify | list | notListed | cancel | notRemoved => rfl
  | subscribeAll opens succeed queue =>
    ext j
    simp [opens.mem_watched, succeed]
  | givenUp opens among queue =>
    constructor
    · exact fun j hj => opens.mem_watched.mpr (Or.inl hj)
    · intro j hj
      exact (opens.mem_watched.mp hj).imp_right (among j)

lemma Answering.delivers (h : s.Answering log t) :
    Board.Delivers {id | id ∈ s.watched} log {id | id ∈ t.watched} := by
  induction h with
  | done => rfl
  | change _ _ ih => exact ih
  | moment meets _ ih => exact ⟨_, meets.honours, ih⟩

/-- While runs are only released, no change of a run that stays subscribed is left unsent. -/
lemma Answering.unsent_of_watched (h : s.Answering (releasing ids) t) (hwatched : id ∈ t.watched)
    (hunsent : id ∈ t.unsent) : id ∈ s.watched ∧ id ∈ s.unsent := by
  generalize hlog : releasing ids = log at h
  induction h generalizing ids with
  | done => exact ⟨hwatched, hunsent⟩
  | @change s t log r may _ ih =>
    obtain ⟨hbefore, hmissed⟩ := ih hwatched hunsent hlog
    rw [mem_unsent_change] at hmissed
    split at hmissed
    · rename_i hid
      exact absurd (hid ▸ hbefore) hmissed
    · exact ⟨hbefore, hmissed⟩
  | moment meets _ ih =>
    cases ids with
    | nil => cases hlog
    | cons j ids =>
      obtain ⟨rfl, htail⟩ := List.cons.inj hlog
      obtain ⟨hbefore, hmissed⟩ := ih hwatched hunsent htail
      cases meets with
      | unsubscribe => exact ⟨List.mem_of_mem_filter hbefore, hmissed⟩

end Store

end RunBoard
