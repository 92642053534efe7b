import Mathlib.Data.List.Find
import RunBoard.Realtime.Topics

/-!
# The table of topics as a map

The table is a list of entries, but what is proved of it speaks of `find?` only: each operation
changes the entry of one topic and leaves all others as they are.  This module says so once for each
of them, and that the names of the table are the topics with an entry.
-/

namespace RunBoard.Realtime

/-! ### Entries -/

namespace Entry

variable {e e' : Entry} {l k : Listener}

/-- The entry with one more listener. -/
def welcome (l : Listener) (e : Entry) : Entry :=
  { e with listeners := e.listeners ++ [l] }

/-- The entry with one listener less. -/
def dismiss (l : Listener) (e : Entry) : Entry :=
  { e with listeners := e.listeners.filter (· ≠ l) }

/-- What is left of an entry without a listener: nothing if nobody else listens. -/
def without (l : Listener) (e : Entry) : Option Entry :=
  if (e.dismiss l).listeners.isEmpty then none else some (e.dismiss l)

/-- The entry when the backend has been told of it. -/
def activated (e : Entry) : Entry :=
  { e with handshake := .active }

@[simp] lemma welcome_serial : (e.welcome l).serial = e.serial := rfl

@[simp] lemma welcome_handshake : (e.welcome l).handshake = e.handshake := rfl

@[simp] lemma mem_welcome : k ∈ (e.welcome l).listeners ↔ k ∈ e.listeners ∨ k = l := by
  simp [welcome]

@[simp] lemma mem_dismiss : k ∈ (e.dismiss l).listeners ↔ k ∈ e.listeners ∧ k ≠ l := by
  simp [dismiss]

lemma without_eq_some (h : e.without l = some e') : e' = e.dismiss l := by
  unfold without at h
  split at h
  · exact absurd h (by simp)
  · exact (Option.some.inj h).symm

/-- An entry stays as long as somebody else listens. -/
lemma without_of_mem (hk : k ∈ e.listeners) (hne : k ≠ l) : e.without l = some (e.dismiss l) := by
  have hmem : k ∈ (e.dismiss l).listeners := mem_dismiss.mpr ⟨hk, hne⟩
  have hempty : (e.dismiss l).listeners.isEmpty = false := by
    rw [List.isEmpty_eq_false_iff]
    exact List.ne_nil_of_mem hmem
  simp only [without, hempty, Bool.false_eq_true, if_false]

end Entry

namespace Topics

variable {t t' : Topics} {topic x : String} {e : Entry} {entry : Option Entry} {l k : Listener}

lemma topic_of_find? (h : t.find? topic = some e) : e.topic = topic := by
  simpa using List.find?_some h

lemma mem_listeners : l ∈ t.listeners topic ↔ ∃ e, t.find? topic = some e ∧ l ∈ e.listeners := by
  unfold listeners
  cases t.find? topic <;> simp

lemma listeners_of_find? (h : t.find? topic = some e) : t.listeners topic = e.listeners := by
  simp [listeners, h]

lemma listeners_of_find?_none (h : t.find? topic = none) : t.listeners topic = [] := by
  simp [listeners, h]

/-! ### What each operation changes -/

/-- `t.Sets topic entry t'`: the tables differ in nothing but the entry of a topic. -/
def Sets (t : Topics) (topic : String) (entry : Option Entry) (t' : Topics) : Prop :=
  ∀ x, t'.find? x = if x = topic then entry else t.find? x

lemma sets_erase : t.Sets topic none (t.erase topic) := by
  intro x
  unfold find? erase
  rw [List.find?_filter]
  split
  · rename_i hx
    subst hx
    rw [List.find?_eq_none]
    intro e _
    simp
  · rename_i hx
    refine List.find?_congr fun e _ => ?_
    by_cases he : e.topic = x
    · simp [he, hx]
    · simp [he]

lemma sets_modify {f : Entry → Entry} (hf : ∀ e, e.topic = topic → (f e).topic = topic) :
    t.Sets topic ((t.find? topic).map f) (t.modify topic f) := by
  intro x
  unfold find? modify
  induction t.entries with
  | nil => simp
  | cons e es ih =>
    rw [List.map_cons, List.find?_cons, List.find?_cons, List.find?_cons, ih]
    -- whether the first entry is found depends on its topic only, which `f` keeps
    by_cases he : e.topic = topic
    · have hfe : (f e).topic = topic := hf e he
      by_cases hx : x = topic
      · subst hx
        simp [he, hfe]
      · have hne : (topic == x) = false := by simpa using fun h => hx h.symm
        simp [he, hfe, hx, hne]
    · by_cases hx : x = topic
      · subst hx
        have hne : (e.topic == x) = false := by simpa using he
        simp [he, hne]
      · simp [he, hx]

/-- A new entry at the end of the table. -/
lemma sets_append {n : Nat} (h : t.find? topic = none) (he : e.topic = topic) :
    t.Sets topic (some e) ⟨t.entries ++ [e], n⟩ := by
  intro x
  unfold find? at *
  rw [List.find?_append]
  split
  · rename_i hx
    subst hx
    simp [h, he]
  · rename_i hx
    have hne : ¬ topic = x := fun h => hx h.symm
    simp [he, hne]

/-- The entry that the first listener of a topic makes. -/
def opened (t : Topics) (topic : String) (l : Listener) : Entry :=
  ⟨topic, t.next, [l], .pending⟩

/-- What becomes of a wish to listen: the listener is registered already, it is the first, or it
joins an entry. -/
lemma register_cases (t : Topics) (topic : String) (l : Listener) :
    (∃ e, t.find? topic = some e ∧ l ∈ e.listeners ∧ t.register topic l = (t, .redundant)) ∨
    (∃ t', t.find? topic = none ∧ t.Sets topic (some (t.opened topic l)) t' ∧
      t'.next = t.next + 1 ∧ t.register topic l = (t', .first t.next)) ∨
    (∃ e t', t.find? topic = some e ∧ l ∉ e.listeners ∧ t.Sets topic (some (e.welcome l)) t' ∧
      t'.next = t.next ∧ t.register topic l = (t', .joined (e.welcome l))) := by
  cases hfind : t.find? topic with
  | none =>
    refine .inr (.inl ⟨⟨t.entries ++ [t.opened topic l], t.next + 1⟩, rfl, ?_, rfl, ?_⟩)
    · exact sets_append hfind rfl
    · simp [register, hfind, opened]
  | some e =>
    by_cases hl : l ∈ e.listeners
    · exact .inl ⟨e, rfl, hl, by simp [register, hfind, hl]⟩
    · refine .inr (.inr ⟨e, t.modify topic fun _ => e.welcome l, rfl, hl, ?_, rfl, ?_⟩)
      · have htopic : e.topic = topic := topic_of_find? hfind
        simpa [hfind] using sets_modify (t := t) (f := fun _ => e.welcome l) fun _ _ => htopic
      · simp [register, hfind, hl, Entry.welcome]

/-- What becomes of an entry that a listener leaves. -/
lemma unregister_cases (t : Topics) (topic : String) (l : Listener) :
    (l ∉ t.listeners topic ∧ t.unregister topic l = (t, none)) ∨
    (∃ e t', t.find? topic = some e ∧ l ∈ e.listeners ∧ t.Sets topic (e.without l) t' ∧
      t'.next = t.next ∧
      t.unregister topic l = (t', if (e.without l).isNone then some e else none)) := by
  cases hfind : t.find? topic with
  | none =>
    refine .inl ⟨?_, by simp [unregister, hfind]⟩
    simp [listeners, hfind]
  | some e =>
    by_cases hl : l ∈ e.listeners
    · right
      by_cases hempty : (e.dismiss l).listeners.isEmpty
      · have hwithout : e.without l = none := by simp only [Entry.without, hempty, if_true]
        refine ⟨e, t.erase topic, rfl, hl, hwithout ▸ sets_erase, rfl, ?_⟩
        simp only [unregister, hfind, hl, not_true, if_false, hwithout]
        exact if_pos hempty
      · have hwithout : e.without l = some (e.dismiss l) := by
          simp only [Entry.without, hempty, Bool.false_eq_true, if_false]
        refine ⟨e, t.modify topic fun e' => { e' with listeners := (e.dismiss l).listeners },
          rfl, hl, ?_, rfl, ?_⟩
        · have hset : t.Sets topic _ _ :=
            sets_modify (f := fun e' => { e' with listeners := (e.dismiss l).listeners })
              fun _ h => h
          simpa [hfind, hwithout, Entry.dismiss] using hset
        · simp only [unregister, hfind, hl, not_true, if_false, hwithout]
          exact if_neg hempty
    · refine .inl ⟨?_, by simp [unregister, hfind, hl]⟩
      rwa [listeners_of_find? hfind]

/-! ### The names of the table -/

lemma mem_insertName {name x : String} {names : List String} :
    x ∈ insertName name names ↔ x = name ∨ x ∈ names := by
  induction names with
  | nil => simp [insertName]
  | cons other rest ih =>
    unfold insertName
    split
    · rw [List.mem_cons, ih, List.mem_cons]
      exact or_left_comm
    · rw [List.mem_cons]

/-- The names are the topics that somebody listens to. -/
lemma mem_names : x ∈ t.names ↔ ∃ e, t.find? x = some e := by
  unfold names find?
  induction t.entries with
  | nil => simp
  | cons e es ih =>
    rw [List.foldr_cons, mem_insertName, ih, List.find?_cons]
    by_cases he : e.topic = x
    · simp [he]
    · have hname : ¬ x = e.topic := fun h => he h.symm
      have hne : (e.topic == x) = false := by simpa using he
      simp [hname, hne]

/-- Whether a listener gets the messages of a topic: it is registered, and the backend has been told
of the topic. -/
def Holds (t : Topics) (topic : String) (l : Listener) : Prop :=
  ∃ e, t.find? topic = some e ∧ e.handshake = .active ∧ l ∈ e.listeners

lemma Holds.mem (hh : t.Holds topic l) : l ∈ t.listeners topic := by
  obtain ⟨e, hfind, _, hl⟩ := hh
  exact mem_listeners.mpr ⟨e, hfind, hl⟩

/-! ### Serial numbers -/

lemma Sets.cases (hs : t.Sets topic entry t') (h : t'.find? x = some e) :
    (x = topic ∧ entry = some e) ∨ (x ≠ topic ∧ t.find? x = some e) := by
  rw [hs x] at h
  split at h
  · rename_i hx
    exact .inl ⟨hx, h⟩
  · rename_i hx
    exact .inr ⟨hx, h⟩

lemma Sets.find?_self (hs : t.Sets topic entry t') : t'.find? topic = entry :=
  (hs topic).trans (if_pos rfl)

lemma Sets.find?_of_ne (hs : t.Sets topic entry t') (hx : x ≠ topic) : t'.find? x = t.find? x :=
  (hs x).trans (if_neg hx)

lemma Sets.listeners_of_ne (hs : t.Sets topic entry t') (hx : x ≠ topic) :
    t'.listeners x = t.listeners x := by
  unfold listeners
  rw [hs.find?_of_ne hx]

/-- No entry has a serial number any more, and none will have it again. -/
def Gone (t : Topics) (serial : Nat) : Prop :=
  serial < t.next ∧ ∀ x e, t.find? x = some e → e.serial ≠ serial

/-- Entries have serial numbers of their own, smaller than the next one, and none has failed. -/
structure Sound (t : Topics) : Prop where
  entry : ∀ x e, t.find? x = some e →
    e.serial < t.next ∧ (e.handshake = .pending ∨ e.handshake = .active)
  serial : ∀ x y e e', t.find? x = some e → t.find? y = some e' → e.serial = e'.serial → x = y

/-- A serial number that has gone does not come back, whether an entry changes or a new one is
made. -/
lemma Gone.sets {serial : Nat} (hg : t.Gone serial) (hs : t.Sets topic entry t')
    (hnext : t.next ≤ t'.next)
    (hnew : ∀ e', entry = some e' →
      e'.serial = t.next ∨ ∃ e, t.find? topic = some e ∧ e'.serial = e.serial) :
    t'.Gone serial := by
  obtain ⟨hlt, hgone⟩ := hg
  refine ⟨by omega, fun x e' he' => ?_⟩
  rcases hs.cases he' with ⟨rfl, hentry⟩ | ⟨_, hfind⟩
  · rcases hnew e' hentry with hserial | ⟨e, hfind, hserial⟩
    · omega
    · rw [hserial]
      exact hgone x e hfind
  · exact hgone x e' hfind

/-- The serial number of an entry that is taken out has gone. -/
lemma Sound.gone (ht : t.Sound) (hfind : t.find? topic = some e) (hs : t.Sets topic none t')
    (hnext : t'.next = t.next) : t'.Gone e.serial := by
  refine ⟨hnext ▸ (ht.entry topic e hfind).1, fun x e' he' hserial => ?_⟩
  rcases hs.cases he' with ⟨_, hnone⟩ | ⟨hx, hfind'⟩
  · exact absurd hnone (by simp)
  · exact hx (ht.serial x topic e' e hfind' hfind hserial)

/-- An entry may change in everything but its serial number. -/
lemma Sound.sets (ht : t.Sound) (hs : t.Sets topic entry t') (hnext : t'.next = t.next)
    (hnew : ∀ e', entry = some e' → (e'.handshake = .pending ∨ e'.handshake = .active) ∧
      ∃ e, t.find? topic = some e ∧ e'.serial = e.serial) : t'.Sound := by
  have hold : ∀ x e', t'.find? x = some e' → ∃ e, t.find? x = some e ∧ e'.serial = e.serial := by
    intro x e' he'
    rcases hs.cases he' with ⟨rfl, hentry⟩ | ⟨_, hfind⟩
    · exact (hnew e' hentry).2
    · exact ⟨e', hfind, rfl⟩
  refine ⟨fun x e' he' => ⟨?_, ?_⟩, fun x y e₁ e₂ h₁ h₂ hserial => ?_⟩
  · obtain ⟨e, hfind, hserial⟩ := hold x e' he'
    rw [hserial, hnext]
    exact (ht.entry x e hfind).1
  · rcases hs.cases he' with ⟨_, hentry⟩ | ⟨_, hfind⟩
    · exact (hnew e' hentry).1
    · exact (ht.entry x e' hfind).2
  · obtain ⟨f₁, hf₁, hs₁⟩ := hold x e₁ h₁
    obtain ⟨f₂, hf₂, hs₂⟩ := hold y e₂ h₂
    exact ht.serial x y f₁ f₂ hf₁ hf₂ (by rw [← hs₁, ← hs₂, hserial])

/-- The entry of a topic that gains its first listener has a serial number of its own. -/
lemma Sound.opened (ht : t.Sound) (hs : t.Sets topic (some (t.opened topic l)) t')
    (hnext : t'.next = t.next + 1) : t'.Sound := by
  refine ⟨fun x e' he' => ?_, fun x y e₁ e₂ h₁ h₂ hserial => ?_⟩
  · rcases hs.cases he' with ⟨_, hentry⟩ | ⟨_, hfind⟩
    · obtain rfl := Option.some.inj hentry
      exact ⟨hnext ▸ Nat.lt_succ_self _, .inl rfl⟩
    · obtain ⟨hlt, hstate⟩ := ht.entry x e' hfind
      exact ⟨by omega, hstate⟩
  · rcases hs.cases h₁ with ⟨rfl, hentry⟩ | ⟨hx, hfind⟩
    · obtain rfl := Option.some.inj hentry
      rcases hs.cases h₂ with ⟨hy, _⟩ | ⟨_, hfind'⟩
      · exact hy.symm
      · have hlt : e₂.serial < t.next := (ht.entry y e₂ hfind').1
        have hnew : t.next = e₂.serial := hserial
        omega
    · have hlt : e₁.serial < t.next := (ht.entry x e₁ hfind).1
      rcases hs.cases h₂ with ⟨_, hentry⟩ | ⟨_, hfind'⟩
      · obtain rfl := Option.some.inj hentry
        have hnew : e₁.serial = t.next := hserial
        omega
      · exact ht.serial x y e₁ e₂ hfind hfind' hserial

end Topics

end RunBoard.Realtime
