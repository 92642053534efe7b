import Mathlib.Data.List.Nodup
import RunBoard.Json.Outline
import RunBoard.Proofs.Lookup

/-!
# Members in ascending order

What is found among the members of an object that has been brought into ascending order, and that
members which are in this order already stay as they are.  Values whose objects all have their
members in this order are the values that `Json` is meant for; the outline of such a value stands
for it.
-/

namespace RunBoard.Json

variable {α β : Type} {name k : String} {value v : α} {members acc : List (String × α)}

/-- Two members of one name whose values are related; how they are may depend on the name. -/
def Memberwise (R : String → α → β → Prop) (m : String × α) (n : String × β) : Prop :=
  m.1 = n.1 ∧ R m.1 m.2 n.2

/-- The names are in ascending order, each of them once. -/
def Ascending (members : List (String × α)) : Prop :=
  members.Pairwise fun a b => a.1 < b.1

/-- What was found in a first place is related to what was found in a third one, if both are related
to what was found in between. -/
lemma rel_comp {γ : Type} {R : α → β → Prop} {S : β → γ → Prop} {T : α → γ → Prop} {x : Option α}
    {y : Option β} {z : Option γ} (hR : Option.Rel R x y) (hS : Option.Rel S y z)
    (h : ∀ a b c, x = some a → R a b → S b c → T a c) : Option.Rel T x z := by
  cases hR with
  | none =>
    cases hS
    exact .none
  | some hab =>
    cases hS with
    | some hbc => exact .some (h _ _ _ rfl hab hbc)

lemma rel_bind {γ δ : Type} {R : α → β → Prop} {S : γ → δ → Prop} {f : α → Option γ}
    {g : β → Option δ} {x : Option α} {y : Option β} (hR : Option.Rel R x y)
    (h : ∀ a b, R a b → Option.Rel S (f a) (g b)) : Option.Rel S (x.bind f) (y.bind g) := by
  cases hR with
  | none => exact .none
  | some hab => exact h _ _ hab

lemma rel_map_right {γ : Type} {R : α → β → Prop} {S : α → γ → Prop} {g : β → γ} {x : Option α}
    {y : Option β} (hR : Option.Rel R x y) (h : ∀ a b, R a b → S a (g b)) :
    Option.Rel S x (y.map g) := by
  cases hR with
  | none => exact .none
  | some hab => exact .some (h _ _ hab)

/-- Where two lists give related values to the same names, so does what is found in them. -/
lemma lookup_forall₂ {R : String → α → β → Prop} {others : List (String × β)}
    (h : List.Forall₂ (Memberwise R) members others) (name : String) :
    Option.Rel (R name) (members.lookup name) (others.lookup name) := by
  induction h with
  | nil => exact .none
  | @cons m n _ _ hhead _ ih =>
    obtain ⟨k, v⟩ := m
    obtain ⟨j, w⟩ := n
    obtain ⟨rfl, hvalue⟩ := hhead
    by_cases hname : name = k
    · subst hname
      rw [List.lookup_cons_self, List.lookup_cons_self]
      exact .some hvalue
    · rw [lookup_cons_of_ne hname, lookup_cons_of_ne hname]
      exact ih

lemma Ascending.nodup (h : Ascending members) : (members.map Prod.fst).Nodup := by
  rw [List.Nodup, List.pairwise_map]
  refine List.Pairwise.imp ?_ h
  intro a b hlt heq
  rw [heq] at hlt
  exact String.lt_irrefl _ hlt

/-! ### Names that are given once -/

/-- At most one member goes by a name. -/
def Once (name : String) (members : List (String × α)) : Prop :=
  (members.map Prod.fst).count name ≤ 1

namespace Once

variable {others : List (String × α)}

lemma of_nodup (h : (members.map Prod.fst).Nodup) (name : String) : Once name members :=
  List.nodup_iff_count_le_one.mp h name

lemma of_cons {m : String × α} (h : Once name (m :: members)) : Once name members := by
  rw [Once, List.map_cons] at h
  exact Nat.le_trans List.count_le_count_cons h

lemma perm (h : Once name members) (order : members.Perm others) : Once name others := by
  rwa [Once, ← (order.map Prod.fst).count_eq]

lemma sublist (h : Once name members) (part : others.Sublist members) : Once name others :=
  Nat.le_trans ((part.map Prod.fst).count_le name) h

/-- Members that are dropped are not those of a name that is kept. -/
lemma of_filter {kept : String × α → Bool} (h : Once name (members.filter kept))
    (hkept : ∀ v, kept (name, v) = true) : Once name members := by
  have hsame : (members.map Prod.fst).count name =
      ((members.filter kept).map Prod.fst).count name := by
    rw [List.count_eq_length_filter, List.count_eq_length_filter, List.filter_map, List.filter_map,
      List.length_map, List.length_map, List.filter_filter]
    congr 1
    refine List.filter_congr ?_
    rintro ⟨k, v⟩ -
    by_cases hk : k = name
    · subst hk
      simp [hkept v]
    · simp [hk]
  rwa [Once, hsame]

lemma forall₂ {R : String → α → β → Prop} {others : List (String × β)} (h : Once name members)
    (related : List.Forall₂ (Memberwise R) members others) : Once name others := by
  have hnames : members.map Prod.fst = others.map Prod.fst := by
    induction related with
    | nil => rfl
    | cons head _ ih => rw [List.map_cons, List.map_cons, head.1, ih h.of_cons]
  rwa [Once, ← hnames]

/-- What goes by the name of the first member is that member alone. -/
lemma notMem (h : Once name ((name, value) :: members)) : name ∉ members.map Prod.fst := by
  rw [Once, List.map_cons, List.count_cons_self] at h
  exact List.count_eq_zero.mp (by omega)

end Once

lemma lookup_eq_some_iff (once : Once name members) :
    members.lookup name = some value ↔ (name, value) ∈ members :=
  ⟨mem_of_lookup_eq_some, lookup_of_mem once⟩

lemma lookup_perm {others : List (String × α)} (once : Once name members)
    (order : members.Perm others) : members.lookup name = others.lookup name := by
  refine Option.ext fun v => ?_
  rw [lookup_eq_some_iff once, lookup_eq_some_iff (once.perm order), order.mem_iff]

/-! ### Putting members in order -/

lemma mem_insertMember {m : String × α} (h : m ∈ insertMember name value members) :
    m = (name, value) ∨ m ∈ members := by
  induction members with
  | nil => exact Or.inl (List.mem_singleton.mp h)
  | cons head members ih =>
    obtain ⟨k, v⟩ := head
    rw [insertMember] at h
    split at h
    · rcases List.mem_cons.mp h with h | h
      · exact Or.inl h
      · exact Or.inr (List.mem_cons_of_mem _ h)
    · split at h
      · rcases List.mem_cons.mp h with h | h
        · exact Or.inl h
        · exact Or.inr h
      · rcases List.mem_cons.mp h with rfl | h
        · exact Or.inr List.mem_cons_self
        · exact (ih h).imp_right (List.mem_cons_of_mem _)

lemma lookup_insertMember_self : (insertMember name value members).lookup name = some value := by
  induction members with
  | nil => exact List.lookup_cons_self
  | cons head members ih =>
    obtain ⟨j, v⟩ := head
    rw [insertMember]
    split
    · exact List.lookup_cons_self
    · rename_i hne
      split
      · exact List.lookup_cons_self
      · rw [lookup_cons_of_ne hne, ih]

lemma lookup_insertMember_of_ne (h : k ≠ name) :
    (insertMember name value members).lookup k = members.lookup k := by
  induction members with
  | nil => exact lookup_cons_of_ne h
  | cons head members ih =>
    obtain ⟨j, v⟩ := head
    rw [insertMember]
    split
    · rename_i hname
      subst hname
      rw [lookup_cons_of_ne h, lookup_cons_of_ne h]
    · split
      · exact lookup_cons_of_ne h
      · rw [List.lookup_cons, List.lookup_cons, ih]

lemma Ascending.insertMember (h : Ascending members) (name : String) (value : α) :
    Ascending (insertMember name value members) := by
  induction members with
  | nil => exact List.pairwise_singleton _ _
  | cons head members ih =>
    obtain ⟨k, v⟩ := head
    obtain ⟨hhead, hrest⟩ := List.pairwise_cons.mp h
    rw [Json.insertMember]
    split
    · rename_i hname
      exact List.pairwise_cons.mpr ⟨fun m hm => hname ▸ hhead m hm, hrest⟩
    · rename_i hne
      split
      · rename_i hlt
        refine List.pairwise_cons.mpr ⟨fun m hm => ?_, h⟩
        rcases List.mem_cons.mp hm with rfl | hm
        · exact hlt
        · exact String.lt_trans hlt (hhead m hm)
      · rename_i hge
        refine List.pairwise_cons.mpr ⟨fun m hm => ?_, ih hrest⟩
        rcases mem_insertMember hm with rfl | hm
        · -- the names differ, and the new one is not below
          have hle : k ≤ name := String.not_lt.mp hge
          rcases Decidable.em (k < name) with hlt | hnot
          · exact hlt
          · exact absurd (String.le_antisymm (String.not_lt.mp hnot) hle) hne
        · exact hhead m hm

lemma ascending_foldl (h : Ascending acc) :
    Ascending (members.foldl (fun acc (name, value) => insertMember name value acc) acc) := by
  induction members generalizing acc with
  | nil => exact h
  | cons head members ih => exact ih (h.insertMember head.1 head.2)

lemma ascending_ascending (members : List (String × α)) : Ascending (ascending members) :=
  ascending_foldl List.Pairwise.nil

lemma mem_of_mem_ascending {m : String × α} (h : m ∈ ascending members) : m ∈ members := by
  have hfold : ∀ ms acc : List (String × α),
      m ∈ ms.foldl (fun acc (name, value) => insertMember name value acc) acc →
        m ∈ ms ∨ m ∈ acc := by
    intro ms
    induction ms with
    | nil => exact fun _ => Or.inr
    | cons head ms ih =>
      intro acc hm
      rcases ih _ hm with hm | hm
      · exact Or.inl (List.mem_cons_of_mem _ hm)
      · rcases mem_insertMember hm with rfl | hm
        · exact Or.inl List.mem_cons_self
        · exact Or.inr hm
  exact (hfold members [] h).resolve_right List.not_mem_nil

/-- What goes by a name that is given once is found after the members have been put in order. -/
lemma lookup_ascending (h : Once k members) :
    (ascending members).lookup k = members.lookup k := by
  have hfold : ∀ acc : List (String × α),
      (members.foldl (fun acc (name, value) => insertMember name value acc) acc).lookup k =
        (members.lookup k).or (acc.lookup k) := by
    induction members with
    | nil => exact fun _ => rfl
    | cons head members ih =>
      obtain ⟨name, value⟩ := head
      intro acc
      rw [List.foldl_cons, ih h.of_cons]
      by_cases hname : k = name
      · subst hname
        have hlater : members.lookup k = none := by
          rw [List.lookup_eq_none_iff]
          rintro ⟨name, v⟩ hmem
          refine bne_iff_ne.mpr ?_
          rintro rfl
          exact h.notMem (List.mem_map_of_mem hmem)
        rw [lookup_insertMember_self, List.lookup_cons_self, hlater, Option.none_or,
          Option.some_or]
      · rw [lookup_insertMember_of_ne hname, lookup_cons_of_ne hname]
  rw [ascending, hfold [], List.lookup_nil, Option.or_none]

lemma insertMember_of_forall_lt (h : ∀ m ∈ members, m.1 < name) :
    insertMember name value members = members ++ [(name, value)] := by
  induction members with
  | nil => rfl
  | cons head members ih =>
    obtain ⟨k, v⟩ := head
    have hlt : k < name := h _ List.mem_cons_self
    have hne : name ≠ k := fun heq => String.lt_irrefl _ (heq ▸ hlt)
    rw [insertMember, if_neg hne, if_neg (String.lt_asymm hlt),
      ih fun m hm => h m (List.mem_cons_of_mem _ hm), List.cons_append]

/-- Members that are in order stay as they are. -/
lemma ascending_eq_self (h : Ascending members) : ascending members = members := by
  have hfold : ∀ acc : List (String × α), Ascending (acc ++ members) →
      members.foldl (fun acc (name, value) => insertMember name value acc) acc =
        acc ++ members := by
    induction members with
    | nil => exact fun _ _ => (List.append_nil _).symm
    | cons head members ih =>
      obtain ⟨name, value⟩ := head
      intro acc hacc
      have hbelow : ∀ m ∈ acc, m.1 < name := fun m hm =>
        (List.pairwise_append.mp hacc).2.2 m hm (name, value) List.mem_cons_self
      rw [List.foldl_cons]
      dsimp only
      rw [insertMember_of_forall_lt hbelow, ih (List.pairwise_cons.mp h).2 _ (by simpa using hacc),
        List.append_assoc, List.singleton_append]
  rw [ascending, hfold [] h, List.nil_append]

/-! ### Values -/

mutual

/-- All objects within a value have their members in ascending order. -/
def Ordered : Json → Prop
  | .array items => OrderedItems items
  | .object members => Ascending members ∧ OrderedMembers members
  | .null | .bool _ | .number _ | .string _ => True

/-- The items of a list are such values. -/
def OrderedItems : List Json → Prop
  | [] => True
  | v :: vs => Ordered v ∧ OrderedItems vs

/-- The values of members are such values. -/
def OrderedMembers : List (String × Json) → Prop
  | [] => True
  | (_, v) :: ms => Ordered v ∧ OrderedMembers ms

end

mutual

/-- The outline of a value stands for the value. -/
lemma value?_ofValue {v : Json} (h : v.Ordered) : (Outline.ofValue v).value? none = some v := by
  cases v with
  | null | bool | number | string => rfl
  | array items =>
    rw [Ordered] at h
    simp [Outline.ofValue, Outline.value?, valueItems?_outlineItems h]
  | object members =>
    rw [Ordered] at h
    simp [Outline.ofValue, Outline.value?, valueMembers?_outlineMembers h.2, ofMembers,
      ascending_eq_self h.1]

lemma valueItems?_outlineItems {items : List Json} (h : OrderedItems items) :
    valueItems? none (outlineItems items) = some items := by
  cases items with
  | nil => rfl
  | cons v vs =>
    rw [OrderedItems] at h
    simp [outlineItems, valueItems?, value?_ofValue h.1, valueItems?_outlineItems h.2]

lemma valueMembers?_outlineMembers {members : List (String × Json)} (h : OrderedMembers members) :
    valueMembers? none (outlineMembers members) = some members := by
  cases members with
  | nil => rfl
  | cons head members =>
    obtain ⟨k, v⟩ := head
    rw [OrderedMembers] at h
    simp [outlineMembers, valueMembers?, value?_ofValue h.1, valueMembers?_outlineMembers h.2]

end

end RunBoard.Json
