import Mathlib.Data.List.Permutation
import RunBoard.Proofs.Json.Rearranging
import RunBoard.Run.Wire

/-!
# Runs whose members are rearranged

A run is decoded to the same whatever the order of its members and whatever members stand between
them that it has no field for, and a patch likewise.  This goes for the run in a patch, for the
related records of a run and for the workflow among them, and it does not matter either whether a
text is decoded or the value that it stands for.

Each of the four records is steady since its fields are; the one field of each that holds a record
in turn has been dealt with before.
-/

namespace RunBoard

open RunBoard.Json

variable {α : Type} {R : Outline → Outline → Prop} {d : Decoder α} {field name : String}

/-! ### Single values -/

lemma steady_text : Steady (.option Decoder.string) Eq :=
  steady_string.option fun _ _ h => by rw [h]

lemma steady_time : Steady decodeTime Eq := by
  refine ⟨fun alike => ?_⟩
  simp only [decodeTime, toOption_bind, steady_text.eq alike]

lemma steady_trigger : Steady decodeTrigger Eq := by
  refine ⟨fun alike => ?_⟩
  simp only [decodeTrigger, toOption_bind, steady_text.eq alike]

/-! ### Records within records -/

/-- The value of one field may be rearranged, and those of all others stay as they are. -/
def onlyIn (field : String) (R : Outline → Outline → Prop) (name : String) :
    Outline → Outline → Prop :=
  if name = field then R else Eq

lemma onlyIn_refl (h : ∀ o, R o o) (name : String) (o : Outline) : onlyIn field R name o o := by
  unfold onlyIn
  split
  · exact h o
  · rfl

lemma Json.Steady.inside (h : Steady d R) : Steady d (onlyIn field R field) := by
  rwa [onlyIn, if_pos rfl]

lemma Json.Steady.beside (h : Steady d Eq) (hne : name ≠ field) :
    Steady d (onlyIn field R name) := by
  rwa [onlyIn, if_neg hne]

namespace WorkflowSummary

/-- Two outlines of one workflow. -/
def Rearranged : Outline → Outline → Prop :=
  layout.Rearranged fun _ => Eq

lemma steady : Steady decode Rearranged := by
  have hid : Steady idField.decode Eq := steady_string
  have hname : Steady nameField.decode Eq := steady_string
  refine steady_record (by simpa [layout] using ⟨hid.check, hname.check⟩) (fun _ _ => rfl)
    fun alike => ?_
  simp only [toOption_bind, alike.take (by simp [layout]) hid, alike.take (by simp [layout]) hname]

end WorkflowSummary

namespace Expansion

/-- Two outlines of the same related records. -/
def Rearranged : Outline → Outline → Prop :=
  layout.Rearranged (onlyIn workflowField.name WorkflowSummary.Rearranged)

lemma steady : Steady decode Rearranged := by
  have hworkflow : Steady workflowField.decode
      (onlyIn workflowField.name WorkflowSummary.Rearranged workflowField.name) :=
    (WorkflowSummary.steady.option fun _ _ => Layout.Rearranged.null_iff).inside
  refine steady_record (by simpa [layout] using hworkflow.check) (onlyIn_refl .same)
    fun alike => ?_
  simp only [toOption_bind, alike.take (by simp [layout]) hworkflow]

end Expansion

namespace Run

/-- Two outlines of one run. -/
def Rearranged : Outline → Outline → Prop :=
  layout.Rearranged (onlyIn expandField.name Expansion.Rearranged)

lemma steady : Steady decode Rearranged := by
  have beside : ∀ {β : Type} {f : RecordField β}, Steady f.decode Eq → f.name ≠ expandField.name →
      Steady f.decode (onlyIn expandField.name Expansion.Rearranged f.name) := Steady.beside
  have hid := beside (f := idField) steady_string (by decide)
  have hworkflow := beside (f := workflowField) steady_string (by decide)
  have hstatus := beside (f := statusField) (steady_name _) (by decide)
  have htrigger := beside (f := triggerField) steady_trigger (by decide)
  have hstarted := beside (f := startedField) steady_time (by decide)
  have hended := beside (f := endedField) steady_time (by decide)
  have hgraph := beside (f := graphField) steady_json (by decide)
  have herror := beside (f := errorField) steady_string (by decide)
  have hcreated := beside (f := createdField) steady_time (by decide)
  have hupdated := beside (f := updatedField) steady_time (by decide)
  have hexpand : Steady expandField.decode
      (onlyIn expandField.name Expansion.Rearranged expandField.name) :=
    (Expansion.steady.option fun _ _ => Layout.Rearranged.null_iff).inside
  refine steady_record (by simpa [layout] using ⟨hid.check, hworkflow.check, hstatus.check,
    htrigger.check, hstarted.check, hended.check, hgraph.check, herror.check, hcreated.check,
    hupdated.check, hexpand.check⟩) (onlyIn_refl .same) fun alike => ?_
  simp only [toOption_bind, alike.take (by simp [layout]) hid,
    alike.take (by simp [layout]) hworkflow, alike.take (by simp [layout]) hstatus,
    alike.take (by simp [layout]) htrigger, alike.take (by simp [layout]) hstarted,
    alike.take (by simp [layout]) hended, alike.take (by simp [layout]) hgraph,
    alike.take (by simp [layout]) herror, alike.take (by simp [layout]) hcreated,
    alike.take (by simp [layout]) hupdated, alike.take (by simp [layout]) hexpand]

end Run

namespace Patch

/-- Two outlines of one patch. -/
def Rearranged : Outline → Outline → Prop :=
  layout.Rearranged (onlyIn recordField.name Run.Rearranged)

lemma steady : Steady decode Rearranged := by
  have haction : Steady actionField.decode
      (onlyIn recordField.name Run.Rearranged actionField.name) :=
    (steady_name _).beside (by decide)
  have hrecord : Steady recordField.decode
      (onlyIn recordField.name Run.Rearranged recordField.name) := Run.steady.inside
  refine steady_record (by simpa [layout] using ⟨haction.check, hrecord.check⟩)
    (onlyIn_refl .same) fun alike => ?_
  simp only [toOption_bind, alike.take (by simp [layout]) haction,
    alike.take (by simp [layout]) hrecord]

end Patch

/-! ### The theorem -/

/-- Texts that are steadily decoded to the same, and their values, are decoded to one result. -/
lemma Json.Steady.decodes_iff (steady : Steady d R) (refl : ∀ o, R o o) {s t : String} {v w : Json}
    (hs : parse s = some v) (ht : parse t = some w)
    (distinct : (Outline.read s).1.distinct = true)
    (related : R (Outline.read s).1 (Outline.read t).1) (a : α) :
    (decodeText d s = .ok a ↔ decodeText d t = .ok a) ∧
      (decodeText d s = .ok a ↔ decodeValue d v = .ok a) ∧
      (decodeText d t = .ok a ↔ decodeValue d w = .ok a) := by
  obtain ⟨htext, hvalue⟩ := steady.decodes hs ht distinct related
  obtain ⟨-, hself⟩ := steady.decodes hs hs distinct (refl _)
  simp only [← toOption_eq_some_iff]
  exact ⟨by rw [htext], by rw [hself], by rw [← htext, hvalue]⟩

/-- **A run is decoded to the same in any order, and whatever else its text holds.**  Take a text
that stands for a value and repeats no names, and a second one that differs in the order of the
members of the run, of its related records and of the workflow among them, and in members that these
have no fields for.  Either both texts are decoded to a run, and to the same one, or neither is; and
each of them is decoded to what its value is decoded to.  The same is true of patches, in which the
members of the patch may be rearranged too. -/
theorem decodes_in_any_order {s t : String} {v w : Json} (hs : parse s = some v)
    (ht : parse t = some w) (distinct : (Outline.read s).1.distinct = true) :
    (Run.Rearranged (Outline.read s).1 (Outline.read t).1 → ∀ r : Run,
      (decodeText Run.decode s = .ok r ↔ decodeText Run.decode t = .ok r) ∧
      (decodeText Run.decode s = .ok r ↔ decodeValue Run.decode v = .ok r) ∧
      (decodeText Run.decode t = .ok r ↔ decodeValue Run.decode w = .ok r)) ∧
    (Patch.Rearranged (Outline.read s).1 (Outline.read t).1 → ∀ p : Patch,
      (decodeText Patch.decode s = .ok p ↔ decodeText Patch.decode t = .ok p) ∧
      (decodeText Patch.decode s = .ok p ↔ decodeValue Patch.decode v = .ok p) ∧
      (decodeText Patch.decode t = .ok p ↔ decodeValue Patch.decode w = .ok p)) :=
  ⟨Run.steady.decodes_iff .same hs ht distinct, Patch.steady.decodes_iff .same hs ht distinct⟩

/-- A patch as its fields are declared. -/
def patchText : String :=
  "\x7b\"action\":\"update\",\"record\":\x7b\"id\":\"a\",\"status\":\"running\"\x7d\x7d"

/-- The same patch the other way round, with a member that is not known. -/
def reversedText : String :=
  "\x7b\"record\":\x7b\"status\":\"running\",\"tags\":[],\"id\":\"a\"\x7d," ++
    "\"action\":\"update\"\x7d"

lemma rearranged_reversedText :
    Patch.Rearranged (Outline.read patchText).1 (Outline.read reversedText).1 := by
  let id : String × Outline := ("id", .string (some "a"))
  let status : String × Outline := ("status", .string (some "running"))
  let tags : String × Outline := ("tags", .array [] true)
  let action : String × Outline := ("action", .string (some "update"))
  let record (members : List (String × Outline)) : String × Outline :=
    ("record", .object (members.map named) none)
  have hread : (Outline.read patchText).1 =
      .object ([action, record [id, status]].map named) none := by cbv
  have hread' : (Outline.read reversedText).1 =
      .object ([record [status, tags, id], action].map named) none := by cbv
  have hrun : Run.Rearranged (record [id, status]).2 (record [status, tags, id]).2 :=
    .object (List.forall₂_same.mpr fun _ _ => ⟨rfl, onlyIn_refl .same _ _⟩) (.swap status id [])
  have hvalues : List.Forall₂ (Memberwise (onlyIn Patch.recordField.name Run.Rearranged))
      [action, record [id, status]] [action, record [status, tags, id]] :=
    .cons ⟨rfl, rfl⟩ (.cons ⟨rfl, hrun⟩ .nil)
  rw [hread, hread']
  exact .object hvalues (.swap _ action [])

/-- The two texts are decoded to the same patch, and so are their values. -/
theorem decodes_in_any_order_of_reversed :
    ∃ (v w : Json) (p : Patch), parse patchText = some v ∧ parse reversedText = some w ∧
      (Outline.read patchText).1.distinct = true ∧
      Patch.Rearranged (Outline.read patchText).1 (Outline.read reversedText).1 ∧
      p.action = .update ∧ p.record.id = ⟨"a"⟩ ∧ p.record.status = .processing ∧
      decodeText Patch.decode patchText = .ok p ∧ decodeText Patch.decode reversedText = .ok p ∧
      decodeValue Patch.decode v = .ok p ∧ decodeValue Patch.decode w = .ok p := by
  have hparse : (parse patchText).isSome = true := by decide +kernel
  have hparse' : (parse reversedText).isSome = true := by decide +kernel
  have hdistinct : (Outline.read patchText).1.distinct = true := by decide +kernel
  have hdecode : (decodeText Patch.decode patchText).toOption.map
      (fun p => (p.action, p.record.id, p.record.status)) =
        some (Action.update, RunId.mk "a", Status.processing) := by decide +kernel
  obtain ⟨v, hv⟩ := Option.isSome_iff_exists.mp hparse
  obtain ⟨w, hw⟩ := Option.isSome_iff_exists.mp hparse'
  obtain ⟨p, hp, hparts⟩ := Option.map_eq_some_iff.mp hdecode
  obtain ⟨haction, hrecord⟩ := Prod.mk.inj hparts
  obtain ⟨hid, hstatus⟩ := Prod.mk.inj hrecord
  have htext := toOption_eq_some_iff.mp hp
  obtain ⟨htexts, hvalue, hvalue'⟩ :=
    (decodes_in_any_order hv hw hdistinct).2 rearranged_reversedText p
  exact ⟨v, w, p, hv, hw, hdistinct, rearranged_reversedText, haction, hid, hstatus, htext,
    htexts.mp htext, hvalue.mp htext, hvalue'.mp (htexts.mp htext)⟩

end RunBoard
