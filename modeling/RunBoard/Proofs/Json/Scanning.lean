import RunBoard.Json.Decoder
import RunBoard.Proofs.Outcome
import RunBoard.Proofs.Json.Members

/-!
# The first round through a record

The first round through the members of an object finds no fault exactly if no slot refuses the
member of its name, and what it keeps are the members that have a slot.  This is so whatever the
order of the members is, as long as no slot is given twice; members without a slot are passed over.
-/

namespace RunBoard.Json

variable {layout : Layout} {origin inner : Origin} {slot : Slot} {name : String}
  {members seen given : List (String × Outline)} {fields : Fields}

/-- A member of an object whose name is a string. -/
def named (m : String × Outline) : Option String × Outline :=
  (some m.1, m.2)

lemma outlineMembers_eq (us : List (String × Json)) :
    outlineMembers us = (us.map fun u => (u.1, Outline.ofValue u.2)).map named := by
  induction us with
  | nil => rfl
  | cons u us ih => rw [outlineMembers, ih, List.map_cons, List.map_cons, named]

lemma outlineItems_eq (vs : List Json) : outlineItems vs = vs.map Outline.ofValue := by
  induction vs with
  | nil => rfl
  | cons v vs ih => rw [outlineItems, ih, List.map_cons]

namespace Layout

/-- Whether a record has a field for a member. -/
def declares (layout : Layout) (m : String × Outline) : Bool :=
  layout.slots.any fun slot => slot.name == m.1

/-- The slot of its name, if there is one, does not refuse a member. -/
def Passes (layout : Layout) (origin : Origin) (m : String × Outline) : Prop :=
  ∀ slot, layout.slots.find? (·.name == m.1) = some slot → slot.check origin m.2 = .ok ()

/-- The members that the first round keeps, the last one in front. -/
def kept (layout : Layout) (members : List (String × Outline)) : List (String × Outline) :=
  (members.filter layout.declares).reverse

lemma declares_of_mem (h : slot ∈ layout.slots) (o : Outline) :
    layout.declares (slot.name, o) = true :=
  List.any_eq_true.mpr ⟨slot, h, by simp⟩

/-- Of a slot that is given once, the first round keeps what is given. -/
lemma lookup_kept (hslot : slot ∈ layout.slots) (once : Once slot.name members) :
    (layout.kept members).lookup slot.name = members.lookup slot.name := by
  have hdeclares := declares_of_mem hslot
  have hpart : Once slot.name (members.filter layout.declares) :=
    once.sublist List.filter_sublist
  rw [kept, ← lookup_perm hpart (List.reverse_perm _).symm, lookup_filter hdeclares]

/-- When the first round through the members finds no fault, and what it keeps. -/
lemma scanMembers_eq_ok_iff (skipped : ∀ m ∈ members, checkSkipped origin m.2 = .ok ())
    (once : ∀ slot ∈ layout.slots, Once slot.name (members ++ seen)) :
    layout.scanMembers origin seen (members.map named) = .ok given ↔
      (∀ m ∈ members, layout.Passes origin m) ∧ layout.kept members ++ seen = given := by
  induction members generalizing seen with
  | nil => simp [scanMembers, kept]
  | cons m members ih =>
    obtain ⟨k, o⟩ := m
    obtain ⟨hskip, hskipped⟩ := List.forall_mem_cons.mp skipped
    simp only [List.map_cons, named, scanMembers, List.forall_mem_cons]
    cases hfind : layout.slots.find? (·.name == k) with
    | none =>
      -- no slot has this name, so the member is passed over
      have hpasses : layout.Passes origin (k, o) := fun slot hslot => by
        rw [hfind] at hslot
        cases hslot
      have hdeclares : layout.declares (k, o) = false := by
        simpa [declares] using hfind
      have hkept : layout.kept ((k, o) :: members) = layout.kept members := by
        rw [kept, List.filter_cons_of_neg (by simp [hdeclares]), kept]
      have honce : ∀ slot ∈ layout.slots, Once slot.name (members ++ seen) :=
        fun slot hslot => (once slot hslot).of_cons
      simp only [hskip, hkept, hpasses, true_and]
      exact ih hskipped honce
    | some slot =>
      have hslot := List.mem_of_find?_eq_some hfind
      obtain rfl : slot.name = k := by simpa using List.find?_some hfind
      have hpasses : layout.Passes origin (slot.name, o) ↔ slot.check origin o = .ok () :=
        ⟨fun h => h slot hfind, fun h other hother => by
          obtain rfl := Option.some.inj (hfind.symm.trans hother)
          exact h⟩
      have hkept : layout.kept ((slot.name, o) :: members) =
          layout.kept members ++ [(slot.name, o)] := by
        rw [kept, List.filter_cons_of_pos (declares_of_mem hslot o), List.reverse_cons, kept]
      have hunseen : seen.any (·.1 == slot.name) = false := by
        have hnew : slot.name ∉ (members ++ seen).map Prod.fst := (once slot hslot).notMem
        rw [List.map_append, List.mem_append, not_or] at hnew
        simp only [List.any_eq_false, beq_iff_eq]
        rintro ⟨_, p⟩ hmem rfl
        exact hnew.2 (List.mem_map_of_mem hmem)
      have honce : ∀ other ∈ layout.slots, Once other.name (members ++ (slot.name, o) :: seen) :=
        fun other hother => (once other hother).perm List.perm_middle.symm
      simp only [hunseen, hkept, hpasses, Bool.false_eq_true, if_false, bind_eq_ok_iff,
        ih hskipped honce, Unique.exists_iff, PUnit.default_eq_unit, List.append_assoc,
        List.singleton_append, and_assoc]

/-- No member is refused if what is found by the names of the slots is not. -/
lemma forall_passes_iff (once : ∀ slot ∈ layout.slots, Once slot.name members) :
    (∀ m ∈ members, layout.Passes origin m) ↔
      ∀ name slot, layout.slots.find? (·.name == name) = some slot →
        ∀ o, members.lookup name = some o → slot.check origin o = .ok () := by
  refine ⟨fun h name slot hfind o ho => h (name, o) (mem_of_lookup_eq_some ho) slot hfind,
    fun h m hm slot hfind => h m.1 slot hfind m.2 ?_⟩
  have hname : slot.name = m.1 := by simpa using List.find?_some hfind
  have honce : Once m.1 members := hname ▸ once slot (List.mem_of_find?_eq_some hfind)
  exact (lookup_eq_some_iff honce).mpr hm

/-- When the first round through an object finds no fault, and what it gives. -/
lemma scan_object_eq_ok_iff (inside : origin.inside = .ok inner)
    (skipped : ∀ m ∈ members, checkSkipped inner m.2 = .ok ())
    (once : ∀ slot ∈ layout.slots, Once slot.name members) :
    layout.scan origin (.object (members.map named) none) = .ok fields ↔
      (∀ m ∈ members, layout.Passes inner m) ∧ ⟨inner, layout.kept members, false⟩ = fields := by
  have hscan : ∀ given, layout.scanMembers inner [] (members.map named) = .ok given ↔
      (∀ m ∈ members, layout.Passes inner m) ∧ layout.kept members = given := by
    intro given
    rw [scanMembers_eq_ok_iff skipped (by simpa using once), List.append_nil]
  have hclosed : ((none : Option Outline).isSome = true) = False := by simp
  simp only [scan, bind_eq_ok_iff, inside, hscan, hclosed, if_false, pure, Except.pure,
    Except.ok.injEq, exists_eq_left', and_assoc, exists_and_left]

end Layout

end RunBoard.Json
