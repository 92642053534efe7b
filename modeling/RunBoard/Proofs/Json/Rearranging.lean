import RunBoard.Proofs.Json.Standing

/-!
# Records whose members are rearranged

Two objects are the same record if the members that the record has fields for are the same but for
their order, whatever other members there are (`Layout.Rearranged`); the values of these members may
be rearranged in turn.  A decoder that gives the same for all of them, and also for the value that
such an outline stands for in place of the outline, is called `Steady`.  Which fault is told is left
open, since it depends on where the first one is met.

A record is steady if its fields are.  The first round finds the same members by their names, and so
it refuses both objects or neither; the second round only takes what the first one has found.
-/

namespace RunBoard.Json

variable {α : Type} {layout : Layout} {inside : String → Outline → Outline → Prop} {room : Nat}
  {origin : Origin} {R : Outline → Outline → Prop} {a b o : Outline} {d : Decoder α}

/-! ### Rearranged records -/

/-- Items that are taken for fields are rearranged as the values of these fields are; further items
are left as they are. -/
inductive RearrangedItems (inside : String → Outline → Outline → Prop) :
    List Slot → List Outline → List Outline → Prop
  | nil {slots : List Slot} : RearrangedItems inside slots [] []
  | cons {slot : Slot} {slots : List Slot} {o p : Outline} {os ps : List Outline}
      (head : inside slot.name o p) (tail : RearrangedItems inside slots os ps) :
      RearrangedItems inside (slot :: slots) (o :: os) (p :: ps)
  | beyond {os : List Outline} : RearrangedItems inside [] os os

lemma RearrangedItems.refl (h : ∀ name o, inside name o o) :
    ∀ slots os, RearrangedItems inside slots os os
  | _, [] => .nil
  | [], _ :: _ => .beyond
  | slot :: slots, o :: os => .cons (h slot.name o) (refl h slots os)

/-- One outline of a record is another one but for the order of its members and for members that the
record has no field for.  How the value of a field may differ is said by `inside`. -/
inductive Layout.Rearranged (layout : Layout) (inside : String → Outline → Outline → Prop) :
    Outline → Outline → Prop
  | same (o : Outline) : layout.Rearranged inside o o
  | object {ms ns between : List (String × Outline)}
      (values : List.Forall₂ (Memberwise inside) (ms.filter layout.declares) between)
      (order : between.Perm (ns.filter layout.declares)) :
      layout.Rearranged inside (.object (ms.map named) none) (.object (ns.map named) none)
  | array {os ps : List Outline} {closed : Bool}
      (values : RearrangedItems inside layout.slots os ps) :
      layout.Rearranged inside (.array os closed) (.array ps closed)

lemma Layout.Rearranged.null_iff (h : layout.Rearranged inside a b) : a = .null ↔ b = .null := by
  cases h with
  | same => rfl
  | object => simp
  | array => simp

/-! ### Steady decoders -/

/-- `b` is one of the forms of a rearranged outline of `a`, which stands for a value and in which no
names are repeated. -/
inductive Alike (R : Outline → Outline → Prop) (room : Nat) (origin : Origin) (a b : Outline) : Prop
  | intro {p : Outline} {v : Json} (related : R a p) (distinct : a.distinct = true)
      (stands : a.value? (some room) = some v) (form : p.Form room origin b)

/-- A decoder gives the same for a text and for a rearranged text or its value, or refuses both. -/
structure Steady (d : Decoder α) (R : Outline → Outline → Prop) : Prop where
  eq : ∀ {room origin a b}, Alike R room origin a b →
    (d (.text room) a).toOption = (d origin b).toOption

/-- What is not rearranged has to be decoded alike from a text and from its value. -/
lemma steady_eq (h : ∀ {room o v}, o.distinct = true → o.value? (some room) = some v →
      (d (.text room) o).toOption = (d .value (.ofValue v)).toOption) : Steady d Eq := by
  refine ⟨fun {room origin a b} alike => ?_⟩
  obtain ⟨rfl, distinct, stands, form⟩ := alike
  cases form with
  | text => rfl
  | value stands => exact h distinct stands

@[simp] lemma slot_name (f : RecordField α) : f.slot.name = f.name := rfl

lemma Steady.check {f : RecordField α} (h : Steady f.decode R) : Steady f.slot.check R := by
  refine ⟨fun alike => ?_⟩
  simp only [RecordField.slot, toOption_map, h.eq alike]

/-! ### The first round -/

/-- Members that are found by the names of slots stay alike when they are rearranged. -/
lemma lookup_rearranged {ms ns between : List (String × Outline)}
    (values : List.Forall₂ (Memberwise inside) (ms.filter layout.declares) between)
    (order : between.Perm (ns.filter layout.declares)) {slot : Slot} (hslot : slot ∈ layout.slots)
    (once : Once slot.name ms) :
    Once slot.name ns ∧
      Option.Rel (inside slot.name) (ms.lookup slot.name) (ns.lookup slot.name) := by
  have hdeclares := Layout.declares_of_mem hslot
  have hpart : Once slot.name (ms.filter layout.declares) := once.sublist List.filter_sublist
  have hbetween : Once slot.name between := hpart.forall₂ values
  have hns : between.lookup slot.name = ns.lookup slot.name := by
    rw [lookup_perm hbetween order, lookup_filter hdeclares]
  refine ⟨(hbetween.perm order).of_filter hdeclares, ?_⟩
  rw [← lookup_filter hdeclares, ← hns]
  exact lookup_forall₂ values slot.name

/-- Of two rearranged objects neither has a member that is malformed, and what is found by the names
of slots is alike, none of them being given twice. -/
lemma exists_members_alike {ms ns between : List (String × Outline)} {v : Json}
    (values : List.Forall₂ (Memberwise inside) (ms.filter layout.declares) between)
    (order : between.Perm (ns.filter layout.declares))
    (distinct : (Outline.object (ms.map named) none).distinct = true)
    (stands : (Outline.object (ms.map named) none).value? (some room) = some v)
    (form : (Outline.object (ns.map named) none).Form room origin b) :
    ∃ r inner others, room = r + 1 ∧ origin.inside = .ok inner ∧
      b = .object (others.map named) none ∧
      (∀ m ∈ ms, checkSkipped (.text r) m.2 = .ok ()) ∧
      (∀ m ∈ others, checkSkipped inner m.2 = .ok ()) ∧
      ∀ slot ∈ layout.slots, Once slot.name ms ∧ Once slot.name others ∧
        Option.Rel (Alike (inside slot.name) r inner) (ms.lookup slot.name)
          (others.lookup slot.name) := by
  obtain ⟨r, inner, others, rfl, hinside, hb, hskipped, hforms⟩ := form.object
  obtain ⟨_, ⟨⟩, hstands⟩ := members_stand stands
  obtain ⟨hnodup, hdistinct⟩ := distinct_object distinct
  have hwhole : ∀ m ∈ ms, checkSkipped (.text r) m.2 = .ok () := by
    intro m hm
    obtain ⟨_, hu⟩ := hstands m hm
    exact if_pos (whole_of_value? hu)
  refine ⟨r, inner, others, rfl, hinside, hb, hwhole, hskipped, fun slot hslot => ?_⟩
  have honce : Once slot.name ms := .of_nodup hnodup slot.name
  obtain ⟨hns, hrel⟩ := lookup_rearranged values order hslot honce
  obtain ⟨hothers, hforms⟩ := hforms slot.name hns
  refine ⟨honce, hothers, rel_comp hrel hforms fun o p q ho related form => ?_⟩
  have hmem := mem_of_lookup_eq_some ho
  obtain ⟨u, hu⟩ := hstands _ hmem
  exact ⟨related, hdistinct _ hmem, hu, form⟩

/-- What is found by the name of a slot is refused in both outlines, or in neither. -/
lemma forall_check_iff {slot : Slot} {r : Nat} {inner : Origin} {x y : Option Outline}
    (steady : Steady slot.check R) (h : Option.Rel (Alike R r inner) x y) :
    (∀ o, x = some o → slot.check (.text r) o = .ok ()) ↔
      ∀ o, y = some o → slot.check inner o = .ok () := by
  cases h with
  | none => simp
  | some alike =>
    simp only [Option.some.injEq, forall_eq', ← toOption_eq_some_iff, steady.eq alike]

/-- Both outlines of a record have been gone through, and what was found for a field in one of them
is like what was found in the other. -/
structure Fields.Alike (layout : Layout) (inside : String → Outline → Outline → Prop) (room : Nat)
    (origin : Origin) (fields others : Fields) : Prop where
  text : fields.origin = .text room
  other : others.origin = origin
  positional : fields.positional = others.positional
  found : ∀ slot ∈ layout.slots, Option.Rel (Json.Alike (inside slot.name) room origin)
    (fields.find? slot.name) (others.find? slot.name)

/-- The first round gives alike fields for two outlines, or finds a fault in both. -/
def ScanAlike (layout : Layout) (inside : String → Outline → Outline → Prop) (room : Nat)
    (origin : Origin) (a b : Outline) : Prop :=
  ∃ r inner, Option.Rel (Fields.Alike layout inside r inner)
    (layout.scan (.text room) a).toOption (layout.scan origin b).toOption

/-- The items that are taken for fields, one by one. -/
lemma scanItems_rearranged (layout : Layout) {slots : List Slot} {os ps qs : List Outline}
    {vs : List Json} {r : Nat} {inner : Origin}
    (steady : ∀ slot ∈ slots, Steady slot.check (inside slot.name))
    (values : RearrangedItems inside slots os ps) (distinct : distinctItems os = true)
    (stand : valueItems? (some r) os = some vs)
    (forms : List.Forall₂ (fun p q => p.Form r inner q) ps qs) (index total count : Nat) :
    Option.Rel (List.Forall₂ (Memberwise fun name => Alike (inside name) r inner))
      (layout.scanItems (.text r) true total index slots os).toOption
      (layout.scanItems inner true count index slots qs).toOption := by
  induction values generalizing qs vs index with
  | @nil slots =>
    cases forms
    induction slots generalizing index with
    | nil => exact .some .nil
    | cons slot slots ih =>
      simp only [Layout.scanItems, Bool.not_true, Bool.false_eq_true, if_false]
      split
      · exact ih (fun s hs => steady s (List.mem_cons_of_mem _ hs)) _
      · exact .none
  | @cons slot slots o p os ps head tail ih =>
    cases forms with
    | @cons _ q _ qs form forms =>
      obtain ⟨hdistinct, hdistincts⟩ := Bool.and_eq_true_iff.mp distinct
      obtain ⟨u, us, hu, hus, -⟩ := valueItems?_cons_eq_some_iff.mp stand
      have hitem : Alike (inside slot.name) r inner o q := ⟨head, hdistinct, hu, form⟩
      have hrest := ih (fun s hs => steady s (List.mem_cons_of_mem _ hs)) hdistincts hus forms
        (index + 1)
      simp only [Layout.scanItems, toOption_bind, (steady slot List.mem_cons_self).eq hitem]
      cases (slot.check inner q).toOption with
      | none => exact .none
      | some _ =>
        simp only [Option.bind_some]
        refine rel_bind hrest fun _ _ hgiven => ?_
        exact .some (.cons ⟨rfl, hitem⟩ hgiven)
  | @beyond os =>
    cases forms with
    | nil => exact .some .nil
    | cons form forms => cases inner <;> exact .none

section Scanning

variable (steady : ∀ slot ∈ layout.slots, Steady slot.check (inside slot.name))

include steady

lemma scan_object {ms ns between : List (String × Outline)} {v : Json}
    (values : List.Forall₂ (Memberwise inside) (ms.filter layout.declares) between)
    (order : between.Perm (ns.filter layout.declares))
    (distinct : (Outline.object (ms.map named) none).distinct = true)
    (stands : (Outline.object (ms.map named) none).value? (some room) = some v)
    (form : (Outline.object (ns.map named) none).Form room origin b) :
    ScanAlike layout inside room origin (.object (ms.map named) none) b := by
  obtain ⟨r, inner, others, rfl, hinside, rfl, hwhole, hskipped, hfound⟩ :=
    exists_members_alike values order distinct stands form
  have honce : ∀ slot ∈ layout.slots, Once slot.name ms := fun slot hslot => (hfound slot hslot).1
  have honce' : ∀ slot ∈ layout.slots, Once slot.name others :=
    fun slot hslot => (hfound slot hslot).2.1
  have hpasses : (∀ m ∈ ms, layout.Passes (.text r) m) ↔ ∀ m ∈ others, layout.Passes inner m := by
    rw [layout.forall_passes_iff honce, layout.forall_passes_iff honce']
    refine forall_congr' fun name => forall_congr' fun slot => forall_congr' fun hfind => ?_
    obtain rfl : slot.name = name := by simpa using List.find?_some hfind
    have hslot := List.mem_of_find?_eq_some hfind
    exact forall_check_iff (steady slot hslot) (hfound slot hslot).2.2
  refine ⟨r, inner, ?_⟩
  by_cases hpass : ∀ m ∈ ms, layout.Passes (.text r) m
  · have hscan : layout.scan (.text (r + 1)) (.object (ms.map named) none) =
        .ok ⟨.text r, layout.kept ms, false⟩ :=
      (layout.scan_object_eq_ok_iff rfl hwhole honce).mpr ⟨hpass, rfl⟩
    have hscan' : layout.scan origin (.object (others.map named) none) =
        .ok ⟨inner, layout.kept others, false⟩ :=
      (layout.scan_object_eq_ok_iff hinside hskipped honce').mpr ⟨hpasses.mp hpass, rfl⟩
    rw [hscan, hscan']
    refine .some ⟨rfl, rfl, rfl, fun slot hslot => ?_⟩
    have hkept : Option.Rel (Alike (inside slot.name) r inner) ((layout.kept ms).lookup slot.name)
        ((layout.kept others).lookup slot.name) := by
      rw [layout.lookup_kept hslot (honce slot hslot),
        layout.lookup_kept hslot (honce' slot hslot)]
      exact (hfound slot hslot).2.2
    exact hkept
  · have hscan : (layout.scan (.text (r + 1)) (.object (ms.map named) none)).toOption = none :=
      toOption_eq_none_iff.mpr fun _ h =>
        hpass ((layout.scan_object_eq_ok_iff rfl hwhole honce).mp h).1
    have hscan' : (layout.scan origin (.object (others.map named) none)).toOption = none :=
      toOption_eq_none_iff.mpr fun _ h =>
        hpass (hpasses.mpr ((layout.scan_object_eq_ok_iff hinside hskipped honce').mp h).1)
    rw [hscan, hscan']
    exact .none

lemma scan_array {os ps : List Outline} {closed : Bool} {v : Json}
    (values : RearrangedItems inside layout.slots os ps)
    (distinct : (Outline.array os closed).distinct = true)
    (stands : (Outline.array os closed).value? (some room) = some v)
    (form : (Outline.array ps closed).Form room origin b) :
    ScanAlike layout inside room origin (.array os closed) b := by
  obtain ⟨r, inner, qs, rfl, rfl, hinside, rfl, hforms⟩ := form.array
  obtain ⟨-, -, vs, hvs, -⟩ := value?_array_eq_some_iff.mp stands
  have hgiven := scanItems_rearranged layout steady values distinct hvs hforms 0 os.length
    qs.length
  refine ⟨r, inner, ?_⟩
  have hinside' : (Origin.text (r + 1)).inside = .ok (.text r) := rfl
  simp only [Layout.scan, toOption_bind, hinside, hinside', toOption_ok, Option.bind_some]
  refine rel_bind hgiven fun given others hrel => ?_
  exact .some ⟨rfl, rfl, rfl, fun slot _ => lookup_forall₂ hrel slot.name⟩

/-- The first round gives alike fields for two outlines of a record, or finds a fault in both. -/
lemma scan_alike (refl : ∀ name o, inside name o o)
    (alike : Alike (layout.Rearranged inside) room origin a b) :
    ScanAlike layout inside room origin a b := by
  obtain ⟨related, distinct, stands, form⟩ := alike
  cases related with
  | object values order => exact scan_object steady values order distinct stands form
  | array values => exact scan_array steady values distinct stands form
  | same =>
    cases a with
    | object ms rest =>
      obtain ⟨-, rfl, us, hus, -⟩ := value?_object_eq_some_iff.mp stands
      obtain ⟨members, rfl⟩ := exists_named_of_valueMembers? hus
      have hsame : List.Forall₂ (Memberwise inside) (members.filter layout.declares)
          (members.filter layout.declares) :=
        List.forall₂_same.mpr fun m _ => ⟨rfl, refl m.1 m.2⟩
      exact scan_object steady hsame (.refl _) distinct stands form
    | array os closed => exact scan_array steady (.refl refl _ os) distinct stands form
    | broken => cases stands
    | null | bool =>
      -- what is neither an object nor an array is refused in either form
      cases form with
      | text => exact ⟨0, .value, .none⟩
      | value h =>
        cases h
        exact ⟨0, .value, .none⟩
    | number | string =>
      cases form with
      | text => exact ⟨0, .value, .none⟩
      | value h =>
        obtain ⟨_, -, rfl⟩ := Option.map_eq_some_iff.mp h
        exact ⟨0, .value, .none⟩

/-- **A record is steady if its fields are**, and if what is built from alike fields is the same. -/
lemma steady_record (refl : ∀ name o, inside name o o) {build : Fields → Except Fault α}
    (built : ∀ {r inner fields others}, Fields.Alike layout inside r inner fields others →
      (build fields).toOption = (build others).toOption) :
    Steady (.record layout build) (layout.Rearranged inside) := by
  refine ⟨fun {room origin a b} alike => ?_⟩
  obtain ⟨r, inner, hscan⟩ := scan_alike steady refl alike
  have hrecord : ∀ origin o, (Decoder.record layout build origin o).toOption =
      (layout.scan origin o).toOption.bind fun fields => (build fields).toOption :=
    fun _ _ => toOption_bind
  rw [hrecord, hrecord]
  generalize (layout.scan (.text room) a).toOption = x at hscan ⊢
  generalize (layout.scan origin b).toOption = y at hscan ⊢
  cases hscan with
  | none => rfl
  | some hfields => exact built hfields

end Scanning

/-! ### The second round -/

/-- What a field takes is the same. -/
lemma Fields.Alike.take {fields others : Fields} {f : RecordField α}
    (alike : fields.Alike layout inside room origin others) (hslot : f.slot ∈ layout.slots)
    (steady : Steady f.decode (inside f.name)) :
    (fields.take f).toOption = (others.take f).toOption := by
  have hfound : Option.Rel (Json.Alike (inside f.name) room origin) (fields.find? f.name)
      (others.find? f.name) := alike.found f.slot hslot
  simp only [Fields.take, alike.text, alike.other, alike.positional]
  generalize fields.find? f.name = x at hfound ⊢
  generalize others.find? f.name = y at hfound ⊢
  cases hfound with
  | none => rfl
  | some hvalue => exact steady.eq hvalue

/-! ### Single values -/

/-- Only null is null in the other form. -/
lemma form_null_iff (form : o.Form room origin b) : b = .null ↔ o = .null := by
  cases form with
  | text => rfl
  | value h =>
    rcases ofValue_cases h with hsame | ⟨os, vs, rfl, rfl⟩ | ⟨ms, us, rfl, rfl⟩
    · rw [hsame]
    · simp [Outline.ofValue]
    · simp [Outline.ofValue, ofMembers]

lemma option_of_ne_null (d : Decoder α) (h : o ≠ .null) :
    Decoder.option d origin o = (d origin o).map some := by
  cases o <;> first | rfl | exact absurd rfl h

/-- What may be null is steady if it is so otherwise, and if null is rearranged to nothing else. -/
lemma Steady.option (steady : Steady d R) (null : ∀ o p, R o p → (o = .null ↔ p = .null)) :
    Steady (.option d) R := by
  refine ⟨fun {room origin a b} alike => ?_⟩
  obtain @⟨p, v, related, distinct, stands, form⟩ := alike
  have hnull : b = .null ↔ a = .null := (form_null_iff form).trans (null a p related).symm
  by_cases ha : a = .null
  · rw [ha, hnull.mpr ha]
    rfl
  · rw [option_of_ne_null d ha, option_of_ne_null d (mt hnull.mp ha), toOption_map, toOption_map,
      steady.eq ⟨related, distinct, stands, form⟩]

lemma steady_string : Steady Decoder.string Eq := by
  refine steady_eq fun {room o v} _ stands => ?_
  rcases ofValue_cases stands with hsame | ⟨os, vs, rfl, rfl⟩ | ⟨ms, us, rfl, rfl⟩
  · rw [hsame]
    cases o with
    | string s => cases s <;> rfl
    | _ => rfl
  · rfl
  · rfl

lemma steady_nothing : Steady Decoder.nothing Eq := by
  refine steady_eq fun {room o v} _ stands => ?_
  rcases ofValue_cases stands with hsame | ⟨os, vs, rfl, rfl⟩ | ⟨ms, us, rfl, rfl⟩
  · rw [hsame]
    cases o <;> rfl
  · rfl
  · rfl

lemma steady_json : Steady Decoder.json Eq := by
  refine steady_eq fun {room o v} distinct stands => ?_
  have hback : (Outline.ofValue v).value? none = some v := value?_ofValue (ordered_of_value? stands)
  simp only [Decoder.json, Origin.room?, stands, hback]

/-- Two members of different names do not become a single one. -/
lemma ascending_ne_singleton {us : List (String × Json)} {u w m : String × Json}
    (nodup : ((u :: w :: us).map Prod.fst).Nodup) : ascending (u :: w :: us) ≠ [m] := by
  intro hsingle
  have hname : ∀ n ∈ u :: w :: us, n.1 = m.1 := by
    intro n hn
    have hfound : [m].lookup n.1 = some n.2 := by
      have honce : Once n.1 (u :: w :: us) := .of_nodup nodup n.1
      rw [← hsingle, lookup_ascending honce, lookup_eq_some_iff honce]
      exact hn
    exact congrArg Prod.fst (List.mem_singleton.mp (mem_of_lookup_eq_some hfound))
  have hsame : u.1 = w.1 := by
    rw [hname u List.mem_cons_self, hname w (List.mem_cons_of_mem _ List.mem_cons_self)]
  refine (List.nodup_cons.mp nodup).1 ?_
  rw [hsame]
  exact List.mem_cons_self

/-- The value of an object with several members does not stand for a name. -/
lemma name_of_many (names : Decoder.Names α) {us : List (String × Json)} {u w : String × Json}
    (nodup : ((u :: w :: us).map Prod.fst).Nodup) :
    Decoder.name names .value (.ofValue (ofMembers (u :: w :: us))) =
      .error (.wrongValue "map" "map with a single key") := by
  have hmany : ∀ m, ascending (u :: w :: us) ≠ [m] := fun _ => ascending_ne_singleton nodup
  rw [ofMembers, Outline.ofValue]
  generalize ascending (u :: w :: us) = ws at hmany
  match ws with
  | [] | _ :: _ :: _ => rfl
  | [m] => exact absurd rfl (hmany m)

/-- A name may be given as the only member of an object.  An object of more members is refused in
both forms, though for different reasons. -/
lemma steady_name (names : Decoder.Names α) : Steady (Decoder.name names) Eq := by
  refine steady_eq fun {room o v} distinct stands => ?_
  cases o with
  | null | bool =>
    cases stands
    rfl
  | number | string =>
    obtain ⟨_, rfl, rfl⟩ := Option.map_eq_some_iff.mp stands
    rfl
  | array =>
    obtain ⟨-, -, _, -, rfl⟩ := value?_array_eq_some_iff.mp stands
    rfl
  | broken => cases stands
  | object ms rest =>
    obtain ⟨hroom, rfl, us, hus, rfl⟩ := value?_object_eq_some_iff.mp stands
    obtain ⟨r, rfl⟩ := Nat.exists_eq_succ_of_ne_zero fun h => hroom (congrArg some h)
    obtain ⟨members, rfl⟩ := exists_named_of_valueMembers? hus
    have hvalues := forall₂_of_valueMembers? hus
    have hnodup : (us.map Prod.fst).Nodup := by
      refine List.nodup_iff_count_le_one.mpr fun name => ?_
      exact (Once.of_nodup (distinct_object distinct).1 name).forall₂ hvalues
    cases hvalues with
    | nil => rfl
    | @cons m u members us head tail =>
      obtain ⟨k, x⟩ := m
      obtain ⟨_, w⟩ := u
      obtain ⟨rfl, hw⟩ := head
      cases tail with
      | nil =>
        have hnull : (Decoder.nothing (.text r) x).toOption =
            (Decoder.nothing .value (.ofValue w)).toOption :=
          steady_nothing.eq ⟨rfl, (distinct_object distinct).2 _ List.mem_cons_self, hw, .value hw⟩
        have htext : Decoder.name names (.text (r + 1)) (.object ([(k, x)].map named) none) = do
            let a ← names.find k
            Decoder.nothing (.text r) x
            return a := rfl
        have hvalue : Decoder.name names .value (.ofValue (ofMembers [(k, w)])) = do
            let a ← names.find k
            Decoder.nothing .value (.ofValue w)
            return a := rfl
        simp only [htext, hvalue, toOption_bind, hnull]
      | @cons n u members us _ _ =>
        have htext : Decoder.name names (.text (r + 1))
            (.object (((k, x) :: n :: members).map named) none) =
              (names.find k >>= fun _ => Decoder.nothing (.text r) x >>= fun _ =>
                .error .malformed) := rfl
        rw [name_of_many names hnodup, htext]
        cases names.find k with
        | error => rfl
        | ok => cases Decoder.nothing (.text r) x <;> rfl

/-! ### Texts and their values -/

lemma parse_eq_some_iff {text : String} {v : Json} :
    parse text = some v ↔
      (Outline.read text).2 = true ∧ (Outline.read text).1.value? (some nestingLimit) = some v := by
  unfold parse
  obtain ⟨o, ended⟩ := Outline.read text
  cases ended <;> simp

/-- A text that has come to its end is decoded to what its outline is decoded to. -/
lemma toOption_decodeText {text : String} (h : (Outline.read text).2 = true) :
    (decodeText d text).toOption = (d (.text nestingLimit) (Outline.read text).1).toOption := by
  unfold decodeText
  generalize Outline.read text = found at h ⊢
  obtain ⟨o, ended⟩ := found
  obtain rfl : ended = true := h
  dsimp only
  cases d (.text nestingLimit) o <;> rfl

/-- A steady decoder gives the same for a text, a rearranged text, and the value of the latter. -/
lemma Steady.decodes (steady : Steady d R) {s t : String} {v w : Json} (hs : parse s = some v)
    (ht : parse t = some w) (distinct : (Outline.read s).1.distinct = true)
    (related : R (Outline.read s).1 (Outline.read t).1) :
    (decodeText d s).toOption = (decodeText d t).toOption ∧
      (decodeText d s).toOption = (decodeValue d w).toOption := by
  obtain ⟨hsEnd, hsValue⟩ := parse_eq_some_iff.mp hs
  obtain ⟨htEnd, htValue⟩ := parse_eq_some_iff.mp ht
  rw [toOption_decodeText hsEnd, toOption_decodeText htEnd]
  exact ⟨steady.eq ⟨related, distinct, hsValue, .text htValue⟩,
    steady.eq ⟨related, distinct, hsValue, .value htValue⟩⟩

end RunBoard.Json
