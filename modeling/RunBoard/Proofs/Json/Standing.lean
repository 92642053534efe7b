import RunBoard.Proofs.Json.Scanning

/-!
# What an outline stands for

An outline stands for a value if it is well formed, nests no deeper than it may, and all its numbers
and strings have values.  Then so do its items and members, one by one, and the names of the members
are strings.  The value has the members of its objects in ascending order, as `Json` is meant to.

A decoder may be given the outline of a text or the outline of the value that this one stands for
(`Outline.Form`).  As far as names are concerned that are given once, both have the same members but
for their order.
-/

namespace RunBoard.Json

variable {room : Option Nat} {o : Outline} {os : List Outline} {v : Json} {vs : List Json}
  {ms : List (Option String × Outline)} {us : List (String × Json)}
  {members : List (String × Outline)}

/-! ### Values of compound outlines -/

lemma value?_array_eq_some_iff {closed : Bool} :
    (Outline.array os closed).value? room = some v ↔
      room ≠ some 0 ∧ closed = true ∧
        ∃ vs, valueItems? (room.map (· - 1)) os = some vs ∧ .array vs = v := by
  simp [Outline.value?, and_assoc]

lemma value?_object_eq_some_iff {rest : Option Outline} :
    (Outline.object ms rest).value? room = some v ↔
      room ≠ some 0 ∧ rest = none ∧
        ∃ us, valueMembers? (room.map (· - 1)) ms = some us ∧ ofMembers us = v := by
  simp [Outline.value?, and_assoc]

lemma valueItems?_cons_eq_some_iff :
    valueItems? room (o :: os) = some vs ↔
      ∃ u us, o.value? room = some u ∧ valueItems? room os = some us ∧ u :: us = vs := by
  simp [valueItems?, Option.bind_eq_some_iff]

lemma valueMembers?_cons_eq_some_iff {k : Option String} :
    valueMembers? room ((k, o) :: ms) = some us ↔
      ∃ name v ws, k = some name ∧ o.value? room = some v ∧ valueMembers? room ms = some ws ∧
        (name, v) :: ws = us := by
  simp [valueMembers?, Option.bind_eq_some_iff]

mutual

/-- Only what is well formed throughout stands for a value. -/
lemma whole_of_value? {room : Option Nat} {o : Outline} {v : Json} (h : o.value? room = some v) :
    o.whole = true := by
  cases o with
  | null | bool | number | string => rfl
  | broken => cases h
  | array items closed =>
    obtain ⟨-, hclosed, vs, hvs, -⟩ := value?_array_eq_some_iff.mp h
    simp [Outline.whole, hclosed, wholeItems_of_valueItems? hvs]
  | object members rest =>
    obtain ⟨-, hrest, us, hus, -⟩ := value?_object_eq_some_iff.mp h
    simp [Outline.whole, hrest, wholeMembers_of_valueMembers? hus]

lemma wholeItems_of_valueItems? {room : Option Nat} {os : List Outline} {vs : List Json}
    (h : valueItems? room os = some vs) : wholeItems os = true := by
  cases os with
  | nil => rfl
  | cons o os =>
    obtain ⟨u, us, hu, hus, -⟩ := valueItems?_cons_eq_some_iff.mp h
    simp [wholeItems, whole_of_value? hu, wholeItems_of_valueItems? hus]

lemma wholeMembers_of_valueMembers? {room : Option Nat} {ms : List (Option String × Outline)}
    {us : List (String × Json)} (h : valueMembers? room ms = some us) : wholeMembers ms = true := by
  cases ms with
  | nil => rfl
  | cons m ms =>
    obtain ⟨name, v, ws, -, hv, hws, -⟩ := valueMembers?_cons_eq_some_iff.mp h
    simp [wholeMembers, whole_of_value? hv, wholeMembers_of_valueMembers? hws]

end

lemma orderedMembers_iff : OrderedMembers us ↔ ∀ m ∈ us, m.2.Ordered := by
  induction us with
  | nil => simp [OrderedMembers]
  | cons m us ih => simp [OrderedMembers, ih]

mutual

/-- The value that an outline stands for has the members of its objects in order. -/
lemma ordered_of_value? {room : Option Nat} {o : Outline} {v : Json} (h : o.value? room = some v) :
    v.Ordered := by
  cases o with
  | null | bool =>
    cases h
    simp [Ordered]
  | number | string =>
    obtain ⟨_, -, rfl⟩ := Option.map_eq_some_iff.mp h
    simp [Ordered]
  | broken => cases h
  | array items closed =>
    obtain ⟨-, -, vs, hvs, rfl⟩ := value?_array_eq_some_iff.mp h
    rw [Ordered]
    exact orderedItems_of_valueItems? hvs
  | object members rest =>
    obtain ⟨-, -, us, hus, rfl⟩ := value?_object_eq_some_iff.mp h
    rw [ofMembers, Ordered]
    have hordered := orderedMembers_iff.mp (orderedMembers_of_valueMembers? hus)
    exact ⟨ascending_ascending us, orderedMembers_iff.mpr fun m hm =>
      hordered m (mem_of_mem_ascending hm)⟩

lemma orderedItems_of_valueItems? {room : Option Nat} {os : List Outline} {vs : List Json}
    (h : valueItems? room os = some vs) : OrderedItems vs := by
  cases os with
  | nil =>
    cases h
    simp [OrderedItems]
  | cons o os =>
    obtain ⟨u, us, hu, hus, rfl⟩ := valueItems?_cons_eq_some_iff.mp h
    rw [OrderedItems]
    exact ⟨ordered_of_value? hu, orderedItems_of_valueItems? hus⟩

lemma orderedMembers_of_valueMembers? {room : Option Nat} {ms : List (Option String × Outline)}
    {us : List (String × Json)} (h : valueMembers? room ms = some us) : OrderedMembers us := by
  cases ms with
  | nil =>
    cases h
    simp [OrderedMembers]
  | cons m ms =>
    obtain ⟨name, v, ws, -, hv, hws, rfl⟩ := valueMembers?_cons_eq_some_iff.mp h
    rw [OrderedMembers]
    exact ⟨ordered_of_value? hv, orderedMembers_of_valueMembers? hws⟩

end

/-- What is neither an array nor an object is the outline of its value. -/
lemma ofValue_cases (h : o.value? room = some v) :
    Outline.ofValue v = o ∨ (∃ os vs, o = .array os true ∧ v = .array vs) ∨
      ∃ ms us, o = .object ms none ∧ v = ofMembers us := by
  cases o with
  | null | bool =>
    cases h
    exact Or.inl rfl
  | number | string =>
    obtain ⟨_, rfl, rfl⟩ := Option.map_eq_some_iff.mp h
    exact Or.inl rfl
  | array =>
    obtain ⟨-, rfl, vs, -, rfl⟩ := value?_array_eq_some_iff.mp h
    exact Or.inr (Or.inl ⟨_, vs, rfl, rfl⟩)
  | object =>
    obtain ⟨-, rfl, us, -, rfl⟩ := value?_object_eq_some_iff.mp h
    exact Or.inr (Or.inr ⟨_, us, rfl, rfl⟩)
  | broken => cases h

/-! ### Items and members one by one -/

lemma forall₂_of_valueItems? (h : valueItems? room os = some vs) :
    List.Forall₂ (fun o v => o.value? room = some v) os vs := by
  induction os generalizing vs with
  | nil =>
    cases h
    exact .nil
  | cons o os ih =>
    obtain ⟨u, us, hu, hus, rfl⟩ := valueItems?_cons_eq_some_iff.mp h
    exact .cons hu (ih hus)

lemma forall₂_of_valueMembers? (h : valueMembers? room (members.map named) = some us) :
    List.Forall₂ (Memberwise fun _ o v => o.value? room = some v) members us := by
  induction members generalizing us with
  | nil =>
    cases h
    exact .nil
  | cons m members ih =>
    obtain ⟨name, v, ws, hname, hv, hws, rfl⟩ := valueMembers?_cons_eq_some_iff.mp h
    exact .cons ⟨Option.some.inj hname, hv⟩ (ih hws)

/-- The members of an object that stands for a value have strings for names. -/
lemma exists_named_of_valueMembers? (h : valueMembers? room ms = some us) :
    ∃ members : List (String × Outline), ms = members.map named := by
  induction ms generalizing us with
  | nil => exact ⟨[], rfl⟩
  | cons m ms ih =>
    obtain ⟨k, o⟩ := m
    obtain ⟨name, v, ws, rfl, -, hws, -⟩ := valueMembers?_cons_eq_some_iff.mp h
    obtain ⟨members, rfl⟩ := ih hws
    exact ⟨(name, o) :: members, rfl⟩

lemma exists_of_forall₂ {α β : Type} {R : α → β → Prop} {as : List α} {bs : List β}
    (h : List.Forall₂ R as bs) : ∀ a ∈ as, ∃ b, R a b := by
  induction h with
  | nil => simp
  | cons head _ ih => exact List.forall_mem_cons.mpr ⟨⟨_, head⟩, ih⟩

/-- The members of an object that stands for a value do so, one level deeper. -/
lemma members_stand {room : Nat}
    (h : (Outline.object (members.map named) none).value? (some room) = some v) :
    ∃ r, room = r + 1 ∧ ∀ m ∈ members, ∃ u, m.2.value? (some r) = some u := by
  obtain ⟨hroom, -, us, hus, -⟩ := value?_object_eq_some_iff.mp h
  obtain ⟨r, rfl⟩ := Nat.exists_eq_succ_of_ne_zero fun h => hroom (congrArg some h)
  refine ⟨r, rfl, fun m hm => ?_⟩
  obtain ⟨u, -, hu⟩ := exists_of_forall₂ (forall₂_of_valueMembers? hus) m hm
  exact ⟨u.2, hu⟩

/-! ### Names that are not repeated -/

mutual

/-- Whether no object within an outline has two members of one name. -/
def Outline.distinct : Outline → Bool
  | .array items _ => distinctItems items
  | .object members _ => (members.map Prod.fst).Nodup && distinctMembers members
  | _ => true

/-- Whether all items are such outlines. -/
def distinctItems : List Outline → Bool
  | [] => true
  | o :: os => o.distinct && distinctItems os

/-- Whether the values of all members are such outlines. -/
def distinctMembers : List (Option String × Outline) → Bool
  | [] => true
  | (_, o) :: ms => o.distinct && distinctMembers ms

end

/-- In an object whose names are not repeated each name is given once, and the values of its members
are such outlines. -/
lemma distinct_object {rest : Option Outline}
    (h : (Outline.object (members.map named) rest).distinct = true) :
    (members.map Prod.fst).Nodup ∧ ∀ m ∈ members, m.2.distinct = true := by
  simp only [Outline.distinct, Bool.and_eq_true, decide_eq_true_eq, List.map_map] at h
  obtain ⟨hnodup, hvalues⟩ := h
  constructor
  · refine List.Nodup.of_map some ?_
    simpa [named, Function.comp_def] using hnodup
  · clear hnodup
    induction members with
    | nil => simp
    | cons m members ih =>
      rw [List.map_cons, named, distinctMembers, Bool.and_eq_true] at hvalues
      exact List.forall_mem_cons.mpr ⟨hvalues.1, ih hvalues.2⟩

/-! ### Two forms of one content -/

/-- What a decoder may be given for an outline that stands for a value: the outline as it was
spelled out by a text, or that of its value. -/
inductive Outline.Form (room : Nat) (o : Outline) : Origin → Outline → Prop
  | text {v : Json} (stands : o.value? (some room) = some v) : Form room o (.text room) o
  | value {v : Json} (stands : o.value? (some room) = some v) : Form room o .value (.ofValue v)

namespace Outline.Form

variable {room : Nat} {origin : Origin} {q : Outline}

/-- The items of a list are in the same form as the list. -/
lemma array {closed : Bool} (form : Form room (.array os closed) origin q) :
    ∃ r inner qs, room = r + 1 ∧ closed = true ∧ origin.inside = .ok inner ∧ q = .array qs true ∧
      List.Forall₂ (fun o q => Form r o inner q) os qs := by
  cases form with
  | text stands =>
    obtain ⟨hroom, rfl, vs, hvs, -⟩ := value?_array_eq_some_iff.mp stands
    obtain ⟨r, rfl⟩ := Nat.exists_eq_succ_of_ne_zero fun h => hroom (congrArg some h)
    refine ⟨r, .text r, os, rfl, rfl, rfl, rfl, List.forall₂_same.mpr fun o ho => ?_⟩
    obtain ⟨_, hv⟩ := exists_of_forall₂ (forall₂_of_valueItems? hvs) o ho
    exact .text hv
  | value stands =>
    obtain ⟨hroom, rfl, vs, hvs, rfl⟩ := value?_array_eq_some_iff.mp stands
    obtain ⟨r, rfl⟩ := Nat.exists_eq_succ_of_ne_zero fun h => hroom (congrArg some h)
    refine ⟨r, .value, vs.map ofValue, rfl, rfl, rfl, ?_, ?_⟩
    · rw [ofValue, outlineItems_eq]
    · rw [List.forall₂_map_right_iff]
      exact (forall₂_of_valueItems? hvs).imp fun _ _ => .value

/-- The members of an object are in the same form as the object, and those whose names are given
once are found in both. -/
lemma object (form : Form room (.object (members.map named) none) origin q) :
    ∃ r inner others, room = r + 1 ∧ origin.inside = .ok inner ∧
      q = .object (others.map named) none ∧ (∀ m ∈ others, checkSkipped inner m.2 = .ok ()) ∧
      ∀ name, Once name members → Once name others ∧
        Option.Rel (fun o q => Form r o inner q) (members.lookup name) (others.lookup name) := by
  cases form with
  | text stands =>
    obtain ⟨r, rfl, hstands⟩ := members_stand stands
    refine ⟨r, .text r, members, rfl, rfl, rfl, fun m hm => ?_, fun name once => ⟨once, ?_⟩⟩
    · obtain ⟨_, hv⟩ := hstands m hm
      exact if_pos (whole_of_value? hv)
    · cases hfound : members.lookup name with
      | none => exact .none
      | some o =>
        obtain ⟨_, hv⟩ := hstands _ (mem_of_lookup_eq_some hfound)
        exact .some (.text hv)
  | value stands =>
    obtain ⟨hroom, -, us, hus, rfl⟩ := value?_object_eq_some_iff.mp stands
    obtain ⟨r, rfl⟩ := Nat.exists_eq_succ_of_ne_zero fun h => hroom (congrArg some h)
    refine ⟨r, .value, (ascending us).map fun u => (u.1, ofValue u.2), rfl, rfl, ?_,
      fun _ _ => rfl, fun name once => ⟨?_, ?_⟩⟩
    · rw [ofMembers, ofValue, outlineMembers_eq]
    · refine .of_nodup ?_ name
      simpa [Function.comp_def] using (ascending_ascending us).nodup
    · -- what the members stand for is found in order as it is found among them
      have hvalues := forall₂_of_valueMembers? hus
      rw [lookup_map, lookup_ascending (once.forall₂ hvalues)]
      exact rel_map_right (lookup_forall₂ hvalues name) fun _ _ => .value

end Outline.Form

end RunBoard.Json
