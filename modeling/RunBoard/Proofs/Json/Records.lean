import RunBoard.Proofs.Json.Scanning

/-!
# Decoding records from values

A record is decoded from an object in two rounds, but what comes of it can be said field by field:
`RecordField.Reads` is the value that the members give to one field, either by a member of that name
or because the field may be left out.  If they give a value to each field, the first round finds no
fault, and the second takes these values.  The order of the members, and members of other names,
play no part in this.
-/

namespace RunBoard.Json

variable {α : Type} {layout : Layout} {name k : String} {v : Json} {members : List (String × Json)}
  {f : RecordField α} {a : α}

/-! ### The value of one field -/

/-- The members give a field a value: a member of its name is decoded to it, or there is none and
the field has this value when it is left out. -/
def RecordField.Reads (f : RecordField α) (members : List (String × Json)) (a : α) : Prop :=
  (∃ v, members.lookup f.name = some v ∧ f.decode .value (.ofValue v) = .ok a) ∨
    members.lookup f.name = none ∧ f.absent = some a

/-- A slot refuses no member of its name. -/
def Slot.Passes (slot : Slot) (members : List (String × Json)) : Prop :=
  ∀ v, members.lookup slot.name = some v → slot.check .value (.ofValue v) = .ok ()

namespace RecordField.Reads

lemma given (hmember : members.lookup f.name = some v)
    (hdecode : f.decode .value (.ofValue v) = .ok a) : f.Reads members a :=
  Or.inl ⟨v, hmember, hdecode⟩

lemma passes (h : f.Reads members a) : f.slot.Passes members := by
  intro v hmember
  rcases h with ⟨v', hmember', hdecode⟩ | ⟨hnone, -⟩
  · obtain rfl := Option.some.inj (hmember.symm.trans hmember')
    simp [RecordField.slot, hdecode, Except.map]
  · exact absurd (hmember.symm.trans hnone) (by simp)

end RecordField.Reads

/-! ### The first round -/

/-- The fields hold what the members of a value say. -/
structure Fields.Hold (fields : Fields) (layout : Layout) (members : List (String × Json)) :
    Prop where
  origin : fields.origin = .value
  positional : fields.positional = false
  find : ∀ slot ∈ layout.slots,
    fields.find? slot.name = (members.lookup slot.name).map Outline.ofValue

lemma scan_ofValue (nodup : (members.map Prod.fst).Nodup)
    (passes : ∀ slot ∈ layout.slots, slot.Passes members) :
    ∃ fields, layout.scan .value (.ofValue (.object members)) = .ok fields ∧
      fields.Hold layout members := by
  let given : List (String × Outline) := members.map fun m => (m.1, Outline.ofValue m.2)
  have honce : ∀ name, Once name given := by
    intro name
    refine .of_nodup ?_ name
    simpa [given, Function.comp_def] using nodup
  have hpasses : ∀ m ∈ given, layout.Passes .value m := by
    rw [layout.forall_passes_iff fun slot _ => honce slot.name]
    intro name slot hfind o ho
    obtain rfl : slot.name = name := by simpa using List.find?_some hfind
    rw [lookup_map, Option.map_eq_some_iff] at ho
    obtain ⟨v, hv, rfl⟩ := ho
    exact passes slot (List.mem_of_find?_eq_some hfind) v hv
  refine ⟨⟨.value, layout.kept given, false⟩, ?_, rfl, rfl, fun slot hslot => ?_⟩
  · rw [Outline.ofValue, outlineMembers_eq, layout.scan_object_eq_ok_iff rfl (fun _ _ => rfl)
      fun slot _ => honce slot.name]
    exact ⟨hpasses, rfl⟩
  · exact (layout.lookup_kept hslot (honce slot.name)).trans (lookup_map _)

/-! ### The second round -/

/-- The value of a field is taken. -/
lemma Fields.Hold.take {fields : Fields} (hold : fields.Hold layout members)
    (hslot : f.slot ∈ layout.slots) (h : f.Reads members a) : fields.take f = .ok a := by
  have hfind : fields.find? f.name = (members.lookup f.name).map Outline.ofValue :=
    hold.find f.slot hslot
  rcases h with ⟨v, hmember, hdecode⟩ | ⟨hnone, habsent⟩
  · rw [hmember] at hfind
    simp [Fields.take, hfind, hold.origin, hdecode]
  · rw [hnone] at hfind
    simp [Fields.take, hfind, hold.positional, habsent]

/-- A record is decoded from an object whose members pass: it is what is built from fields that
hold what these members say. -/
lemma decode_record {build : Fields → Except Fault α} (nodup : (members.map Prod.fst).Nodup)
    (passes : ∀ slot ∈ layout.slots, slot.Passes members)
    (built : ∀ fields : Fields, fields.Hold layout members → build fields = .ok a) :
    decodeValue (.record layout build) (.ofMembers members) = .ok a := by
  have hsame : ∀ k, (ascending members).lookup k = members.lookup k := fun k =>
    lookup_ascending (.of_nodup nodup k)
  have hpasses : ∀ slot ∈ layout.slots, slot.Passes (ascending members) :=
    fun slot hslot v hmember => passes slot hslot v (hsame slot.name ▸ hmember)
  obtain ⟨fields, hscan, hold⟩ := scan_ofValue (ascending_ascending members).nodup hpasses
  have hbuilt : build fields = .ok a := by
    refine built fields ⟨hold.origin, hold.positional, fun slot hslot => ?_⟩
    rw [hold.find slot hslot, hsame]
  rw [decodeValue, Decoder.record, ofMembers, hscan, Except.bind, hbuilt]

end RunBoard.Json
