import RunBoard.Proofs.Json.Records
import RunBoard.Proofs.Time.Layouts
import RunBoard.Run.Wire

/-!
# Reading runs back

A run that is written and read again is the same run, with its times as clocks show them and cut to
whole milliseconds, and writing it once more gives the same value.  For each field it is said first
which member it is written to and what is read from it; what is left out when it is written is what
the field is when it is left out.  Since the fields are read by their names, no more is needed for
the whole record.

Times are where something is lost.  A text has three places behind the second, and it does not tell
a leap second from the second that follows unless it ends a minute.  But this is all that is ever
written, so that nothing more is lost the second time.
-/

namespace RunBoard

open RunBoard.Json RunBoard.Text RunBoard.Time

/-! ### Single values -/

lemma decode_string (s : String) : decodeValue Decoder.string (.string s) = .ok s := rfl

lemma decode_status (s : Status) :
    decodeValue (Decoder.name Status.names) (.string s.name) = .ok s := by
  simp [decodeValue, Outline.ofValue, Decoder.name, Decoder.Names.find, Status.names]

lemma read_name (t : Trigger) : Trigger.read t.name = .ok t := by
  cases t <;> rfl

lemma decode_trigger (t : Option Trigger) :
    decodeValue decodeTrigger (.text? (t.map Trigger.name)) = .ok t := by
  cases t with
  | none => rfl
  | some t =>
    have hname : t.name ≠ "" := by cases t <;> decide
    simp [decodeValue, text?, Outline.ofValue, decodeTrigger, Decoder.option, Decoder.string,
      Except.map, bind, Except.bind, pure, Except.pure, read_name]

/-- A time is read back as clocks show it, cut to whole milliseconds; no time is read as none. -/
lemma decode_time {t : Option Instant} (h : ∀ u ∈ t, u.Representable) :
    decodeValue decodeTime (encodeTime t) = .ok ((t.map Instant.shown).map Instant.toMillis) := by
  cases t with
  | none => rfl
  | some u =>
    have hne : u.stored ≠ "" := u.stored_ne_empty
    simp [decodeValue, encodeTime, Outline.ofValue, decodeTime, Decoder.option, Decoder.string,
      Except.map, bind, Except.bind, pure, Except.pure, u.trim_stored,
      Instant.read_stored (h u rfl)]

lemma decode_json {v : Json} (h : v.Ordered) : decodeValue Decoder.json v = .ok v := by
  simp [decodeValue, Decoder.json, Origin.room?, value?_ofValue h]

/-- A time is written the same as one with the same text. -/
lemma encodeTime_map {f : Instant → Instant} (h : ∀ t, (f t).stored = t.stored)
    (t : Option Instant) : encodeTime (t.map f) = encodeTime t := by
  cases t with
  | none => rfl
  | some u => exact congrArg Json.string (h u)

/-! ### Related records -/

lemma decode_workflow (w : WorkflowSummary) :
    decodeValue WorkflowSummary.decode w.encode = .ok w := by
  let members : List (String × Json) := [("id", .string w.id), ("name", .string w.name)]
  have hid : WorkflowSummary.idField.Reads members w.id := .given rfl (decode_string w.id)
  have hname : WorkflowSummary.nameField.Reads members w.name :=
    .given rfl (decode_string w.name)
  have hnodup : (members.map Prod.fst).Nodup := by simp [members]
  refine decode_record hnodup
    (by simpa [WorkflowSummary.layout] using ⟨hid.passes, hname.passes⟩) fun fields hold => ?_
  rw [hold.take (by simp [WorkflowSummary.layout]) hid,
    hold.take (by simp [WorkflowSummary.layout]) hname]
  rfl

/-- What may be missing is read if it is there, unless it is written as null. -/
lemma decode_some {α : Type} {d : Decoder α} {a : α} {members : List (String × Json)}
    (h : decodeValue d (.ofMembers members) = .ok a) :
    decodeValue (.option d) (.ofMembers members) = .ok (some a) :=
  congrArg (Except.map some) h

lemma decode_expansion (e : Expansion) : decodeValue Expansion.decode e.encode = .ok e := by
  have hworkflow : Expansion.workflowField.Reads
      (e.workflow.map fun w => ("workflowRef", w.encode)).toList e.workflow := by
    cases hw : e.workflow with
    | none => exact .inr ⟨rfl, rfl⟩
    | some w => exact .given rfl (decode_some (decode_workflow w))
  refine decode_record (by cases e.workflow <;> simp)
    (by simpa [Expansion.layout] using hworkflow.passes) fun fields hold => ?_
  rw [hold.take (by simp [Expansion.layout]) hworkflow]
  rfl

/-! ### Runs -/

namespace Run

/-- A run with each of its times changed. -/
def mapTimes (f : Instant → Instant) (r : Run) : Run :=
  { r with
    startedAt := r.startedAt.map f
    endedAt := r.endedAt.map f
    created := r.created.map f
    updated := r.updated.map f }

/-- A run with its times cut to whole milliseconds. -/
def toMillis (r : Run) : Run :=
  r.mapTimes Instant.toMillis

/-- A run with its times as clocks show them. -/
def shown (r : Run) : Run :=
  r.mapTimes Instant.shown

/-- The members that a run is written with. -/
def members (r : Run) : List (String × Json) :=
  [("id", .string r.id.text),
    ("workflowRef", .string r.workflow),
    ("status", .string r.status.name),
    ("trigger", .text? (r.trigger.map Trigger.name)),
    ("startedAt", encodeTime r.startedAt),
    ("endedAt", encodeTime r.endedAt),
    ("graph", r.graph),
    ("error", .string r.error),
    ("created", encodeTime r.created),
    ("updated", encodeTime r.updated)] ++
    (r.expansion.map fun e => ("expand", e.encode)).toList

lemma nodup_members (r : Run) : (r.members.map Prod.fst).Nodup := by
  cases hexpansion : r.expansion <;> simp [members, hexpansion]

/-- A run whose times can be stored, and whose graph has the members of its objects in order. -/
structure Representable (r : Run) : Prop where
  startedAt : ∀ t ∈ r.startedAt, t.Representable
  endedAt : ∀ t ∈ r.endedAt, t.Representable
  graph : r.graph.Ordered
  created : ∀ t ∈ r.created, t.Representable
  updated : ∀ t ∈ r.updated, t.Representable

lemma decode_run {r : Run} (h : r.Representable) :
    decodeValue Run.decode r.encode = .ok r.shown.toMillis := by
  have hid : idField.Reads r.members r.id.text := .given rfl (decode_string _)
  have hworkflow : workflowField.Reads r.members r.workflow := .given rfl (decode_string _)
  have hstatus : statusField.Reads r.members r.status := .given rfl (decode_status _)
  have htrigger : triggerField.Reads r.members r.trigger := .given rfl (decode_trigger _)
  have hstarted : startedField.Reads r.members r.shown.toMillis.startedAt :=
    .given rfl (decode_time h.startedAt)
  have hended : endedField.Reads r.members r.shown.toMillis.endedAt :=
    .given rfl (decode_time h.endedAt)
  have hgraph : graphField.Reads r.members r.graph := .given rfl (decode_json h.graph)
  have herror : errorField.Reads r.members r.error := .given rfl (decode_string _)
  have hcreated : createdField.Reads r.members r.shown.toMillis.created :=
    .given rfl (decode_time h.created)
  have hupdated : updatedField.Reads r.members r.shown.toMillis.updated :=
    .given rfl (decode_time h.updated)
  have hexpand : expandField.Reads r.members r.expansion := by
    -- the one member that is left out when there is nothing to write
    cases hexpansion : r.expansion with
    | none => exact .inr ⟨by rw [members, hexpansion]; rfl, rfl⟩
    | some e =>
      exact .given (v := e.encode) (by rw [members, hexpansion]; rfl)
        (decode_some (decode_expansion e))
  refine decode_record r.nodup_members
    (by simpa [layout] using ⟨hid.passes, hworkflow.passes, hstatus.passes, htrigger.passes,
      hstarted.passes, hended.passes, hgraph.passes, herror.passes, hcreated.passes,
      hupdated.passes, hexpand.passes⟩) fun fields hold => ?_
  rw [hold.take (by simp [layout]) hid, hold.take (by simp [layout]) hworkflow,
    hold.take (by simp [layout]) hstatus, hold.take (by simp [layout]) htrigger,
    hold.take (by simp [layout]) hstarted, hold.take (by simp [layout]) hended,
    hold.take (by simp [layout]) hgraph, hold.take (by simp [layout]) herror,
    hold.take (by simp [layout]) hcreated, hold.take (by simp [layout]) hupdated,
    hold.take (by simp [layout]) hexpand]
  rfl

/-- A run is written the same as one whose times have the same texts. -/
lemma encode_mapTimes {f : Instant → Instant} (h : ∀ t, (f t).stored = t.stored) (r : Run) :
    (r.mapTimes f).encode = r.encode := by
  have hmembers : (r.mapTimes f).members = r.members := by
    simp only [members, mapTimes, encodeTime_map h]
  exact congrArg Json.ofMembers hmembers

/-- **A run that is written is read back, cut to whole milliseconds.**  Whatever the run holds, the
value that it is written to is decoded, and what is decoded is this run with each of its times cut
to whole milliseconds.  Only a leap second that does not come behind the last second of a minute is
read as the second that follows, which is how clocks show it.  Written once more it gives the same
value. -/
theorem reads_back_as_shown (r : Run) (h : r.Representable) :
    decodeValue Run.decode r.encode = .ok r.shown.toMillis ∧
      r.shown.toMillis.encode = r.encode := by
  refine ⟨decode_run h, ?_⟩
  rw [toMillis, encode_mapTimes Instant.stored_toMillis, shown,
    encode_mapTimes Instant.stored_shown]

/-- A run from the first moment of the calendar to its last, recorded within a leap second and
changed within another one that does not end a minute. -/
def longest : Run where
  id := "a"
  workflow := "w"
  status := .succeeded
  trigger := some .scheduled
  startedAt := some ⟨-8334601228800, 0⟩
  endedAt := some ⟨8210266876799, 999999999⟩
  graph := .object [
    ("edges", .array []),
    ("nodes", .array [.object [("id", .number (.int 1)), ("next", .null)]])]
  error := "none"
  created := some ⟨1483228799, 1500000001⟩
  updated := some ⟨1483228805, 1500000001⟩
  expansion := some ⟨some ⟨"w", "nightly"⟩⟩

lemma representable_longest : longest.Representable where
  startedAt := by
    rintro t ⟨⟩
    exact ⟨by decide, by decide, by decide⟩
  endedAt := by
    rintro t ⟨⟩
    exact ⟨by decide, by decide, by decide⟩
  graph := by
    have hnode : Ascending [("id", Json.number (.int 1)), ("next", .null)] :=
      List.pairwise_pair.mpr (by decide)
    have hgraph : Ascending [("edges", Json.array []),
        ("nodes", .array [.object [("id", .number (.int 1)), ("next", .null)]])] :=
      List.pairwise_pair.mpr (by decide)
    simp only [longest, Json.Ordered, OrderedItems, OrderedMembers, and_true]
    exact ⟨hgraph, trivial, hnode⟩
  created := by
    rintro t ⟨⟩
    exact ⟨by decide, by decide, by decide⟩
  updated := by
    rintro t ⟨⟩
    exact ⟨by decide, by decide, by decide⟩

theorem reads_back_as_shown_of_longest :
    longest.Representable ∧
      decodeValue Run.decode longest.encode = .ok longest.shown.toMillis ∧
        longest.shown.toMillis.encode = longest.encode :=
  ⟨representable_longest, reads_back_as_shown longest representable_longest⟩

/-- The leap second that does not end a minute is read as the second that follows. -/
theorem updated_of_longest_read_as_next_second :
    longest.toMillis.updated = some ⟨1483228805, 1500000000⟩ ∧
      (decodeValue Run.decode longest.encode).map Run.updated =
        .ok (some ⟨1483228806, 500000000⟩) ∧
        decodeValue Run.decode longest.encode ≠ .ok longest.toMillis := by
  have hread : (decodeValue Run.decode longest.encode).map Run.updated =
      .ok (some ⟨1483228806, 500000000⟩) := by
    rw [decode_run representable_longest]
    rfl
  refine ⟨rfl, hread, fun hsame => ?_⟩
  rw [hsame] at hread
  exact absurd hread (by decide)

end Run

end RunBoard
