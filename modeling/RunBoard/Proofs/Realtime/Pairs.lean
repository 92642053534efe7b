import Mathlib.Data.Finset.Sort
import RunBoard.Proofs.Realtime.Editing

/-!
# The table as a set of pairs

Who listens to what is a set of pairs of a topic and a listener.  The table holds it by topic, and
takes out what is left without listeners; this module shows that nothing is lost or added by that.
Each call of the table is an operation on the set, and what it answers, the number of topics and of
listeners, and the names of the topics are those of the set.

`Faithful` is what makes this work: a table lists each topic once, with listeners, and each listener
of a topic once.  Every call keeps it, as every event does.
-/

namespace RunBoard.Realtime

/-! ### Pairs of a topic and a listener -/

/-- A set of pairs of a topic and one who listens to it. -/
abbrev Pairs := Finset (String × Listener)

namespace Pairs

variable {p : Pairs} {x y : String} {l k : Listener}

/-- The pairs of a topic. -/
def on (p : Pairs) (x : String) : Pairs :=
  p.filter (·.1 = x)

/-- The topics of the pairs. -/
def topics (p : Pairs) : Finset String :=
  p.image Prod.fst

@[simp] lemma mem_on : (y, l) ∈ p.on x ↔ (y, l) ∈ p ∧ y = x := by
  simp [on]

lemma mem_topics : x ∈ p.topics ↔ ∃ l, (x, l) ∈ p := by
  simp [topics]

lemma on_eq_empty_iff : p.on x = ∅ ↔ ∀ l, (x, l) ∉ p := by
  rw [Finset.eq_empty_iff_forall_notMem]
  constructor
  · exact fun h l hl => h (x, l) (mem_on.mpr ⟨hl, rfl⟩)
  · rintro h ⟨y, l⟩ hl
    obtain ⟨hmem, rfl⟩ := mem_on.mp hl
    exact h l hmem

lemma on_eq_singleton_iff : p.on x = {(x, l)} ↔ (x, l) ∈ p ∧ ∀ k, (x, k) ∈ p → k = l := by
  rw [Finset.eq_singleton_iff_unique_mem, mem_on]
  constructor
  · rintro ⟨⟨hmem, -⟩, hlast⟩
    exact ⟨hmem, fun k hk => (Prod.mk.inj (hlast (x, k) (mem_on.mpr ⟨hk, rfl⟩))).2⟩
  · rintro ⟨hmem, hlast⟩
    refine ⟨⟨hmem, rfl⟩, ?_⟩
    rintro ⟨y, k⟩ hk
    obtain ⟨hmem', rfl⟩ := mem_on.mp hk
    rw [hlast k hmem']

end Pairs

namespace Topics

variable {t t' : Topics} {x y topic : String} {e : Entry} {l k : Listener}

/-- The pairs of a table, entry by entry. -/
def pairList (t : Topics) : List (String × Listener) :=
  t.entries.flatMap fun e => e.listeners.map (e.topic, ·)

/-- The pairs of a table. -/
def pairs (t : Topics) : Pairs :=
  t.pairList.toFinset

/-- A table that is tidy, and where nobody listens to a topic twice. -/
structure Faithful (t : Topics) : Prop where
  tidy : t.Tidy
  single : ∀ x, (t.listeners x).Nodup

/-- With distinct topics an entry is the one that is found by its topic. -/
lemma find?_of_mem (hdistinct : (t.entries.map Entry.topic).Nodup) (he : e ∈ t.entries) :
    t.find? e.topic = some e := by
  unfold find?
  generalize t.entries = entries at hdistinct he
  induction entries with
  | nil => cases he
  | cons e' entries ih =>
    obtain ⟨hnew, hrest⟩ := List.nodup_cons.mp hdistinct
    rcases List.mem_cons.mp he with rfl | he
    · simp
    · have hne : ¬ e'.topic = e.topic := fun heq => hnew (heq ▸ List.mem_map_of_mem he)
      rw [List.find?_cons_of_neg (by simpa using hne)]
      exact ih hrest he

lemma mem_pairList : (x, l) ∈ t.pairList ↔ ∃ e ∈ t.entries, e.topic = x ∧ l ∈ e.listeners := by
  simp only [pairList, List.mem_flatMap, List.mem_map, Prod.mk.injEq]
  constructor
  · rintro ⟨e, he, k, hk, rfl, rfl⟩
    exact ⟨e, he, rfl, hk⟩
  · rintro ⟨e, he, rfl, hl⟩
    exact ⟨e, he, l, hl, rfl, rfl⟩

namespace Faithful

lemma mem_pairs (ht : t.Faithful) : (x, l) ∈ t.pairs ↔ l ∈ t.listeners x := by
  rw [pairs, List.mem_toFinset, mem_pairList, mem_listeners]
  constructor
  · rintro ⟨e, he, rfl, hl⟩
    exact ⟨e, find?_of_mem ht.tidy.distinct he, hl⟩
  · rintro ⟨e, hfind, hl⟩
    exact ⟨e, List.mem_of_find?_eq_some hfind, topic_of_find? hfind, hl⟩

lemma listeners_eq (ht : t.Faithful) (he : e ∈ t.entries) : t.listeners e.topic = e.listeners :=
  listeners_of_find? (find?_of_mem ht.tidy.distinct he)

/-- No entry is without listeners. -/
lemma listeners_ne_nil (ht : t.Faithful) (he : e ∈ t.entries) : e.listeners ≠ [] :=
  ht.tidy.occupied e.topic e (find?_of_mem ht.tidy.distinct he)

/-- Each pair is in the table once. -/
lemma nodup_pairList (ht : t.Faithful) : t.pairList.Nodup := by
  rw [pairList, List.nodup_flatMap]
  -- the pairs of one entry differ in the listener, and those of two entries in the topic
  constructor
  · intro e he
    exact (ht.listeners_eq he ▸ ht.single e.topic).map (Prod.mk_right_injective e.topic)
  · have hdistinct : t.entries.Pairwise fun e e' => e.topic ≠ e'.topic :=
      List.pairwise_map.mp ht.tidy.distinct
    refine hdistinct.imp fun {e e'} hne => ?_
    rintro ⟨x, l⟩ hmem hmem'
    obtain ⟨k, -, hk⟩ := List.mem_map.mp hmem
    obtain ⟨k', -, hk'⟩ := List.mem_map.mp hmem'
    exact hne ((congrArg Prod.fst hk).trans (congrArg Prod.fst hk').symm)

/-! ### What is counted and listed -/

lemma topics_pairs (ht : t.Faithful) : t.pairs.topics = (t.entries.map Entry.topic).toFinset := by
  ext x
  rw [Pairs.mem_topics, List.mem_toFinset, List.mem_map]
  constructor
  · rintro ⟨l, hl⟩
    rw [pairs, List.mem_toFinset] at hl
    obtain ⟨e, he, rfl, -⟩ := mem_pairList.mp hl
    exact ⟨e, he, rfl⟩
  · rintro ⟨e, he, rfl⟩
    obtain ⟨l, hl⟩ := List.exists_mem_of_ne_nil _ (ht.listeners_ne_nil he)
    refine ⟨l, ?_⟩
    rw [ht.mem_pairs, ht.listeners_eq he]
    exact hl

/-- The number of topics. -/
lemma size_eq (ht : t.Faithful) : t.size = t.pairs.topics.card := by
  rw [ht.topics_pairs, List.toFinset_card_of_nodup ht.tidy.distinct, List.length_map, size]

/-- The number of listeners of a topic. -/
lemma length_listeners (ht : t.Faithful) : (t.listeners x).length = (t.pairs.on x).card := by
  have hon : t.pairs.on x = ((t.listeners x).map (x, ·)).toFinset := by
    ext ⟨y, l⟩
    rw [Pairs.mem_on, ht.mem_pairs, List.mem_toFinset, List.mem_map]
    constructor
    · rintro ⟨hl, rfl⟩
      exact ⟨l, hl, rfl⟩
    · rintro ⟨k, hk, heq⟩
      obtain ⟨rfl, rfl⟩ := Prod.mk.inj heq
      exact ⟨hk, rfl⟩
  have hnodup := (ht.single x).map (Prod.mk_right_injective x)
  rw [hon, List.toFinset_card_of_nodup hnodup, List.length_map]

/-- The names of the topics. -/
lemma names_eq (ht : t.Faithful) : t.names = t.pairs.topics.sort := by
  have hmem : ∀ x, x ∈ t.names ↔ x ∈ t.pairs.topics.sort := by
    intro x
    rw [mem_names, Finset.mem_sort, Pairs.mem_topics, ← ht.tidy.listeners_ne_nil]
    constructor
    · intro h
      obtain ⟨l, hl⟩ := List.exists_mem_of_ne_nil _ h
      exact ⟨l, ht.mem_pairs.mpr hl⟩
    · rintro ⟨l, hl⟩
      exact List.ne_nil_of_mem (ht.mem_pairs.mp hl)
  exact ht.tidy.pairwise_names.sortedLT.eq_of_mem_iff (Finset.sortedLT_sort _) hmem

/-! ### What each operation does to the pairs -/

lemma register (ht : t.Faithful) : (t.register x l).1.Faithful := by
  refine ⟨(Edit.registered x l).tidy ht.tidy, fun y => ?_⟩
  rw [listeners_register]
  exact Seating.nodup_seat (.comes x l) (ht.single y)

lemma unregister (ht : t.Faithful) : (t.unregister x l).1.Faithful := by
  refine ⟨(Edit.unregistered x l).tidy ht.tidy, fun y => ?_⟩
  rw [listeners_unregister]
  exact Seating.nodup_seat (.leaves x l) (ht.single y)

lemma erase (ht : t.Faithful) : (t.erase x).Faithful := by
  refine ⟨(Edit.erased x).tidy ht.tidy, fun y => ?_⟩
  rw [listeners_erase]
  exact Seating.nodup_seat (.clears x) (ht.single y)

lemma pairs_register (ht : t.Faithful) : (t.register x l).1.pairs = insert (x, l) t.pairs := by
  ext ⟨y, k⟩
  rw [ht.register.mem_pairs, listeners_register, Finset.mem_insert, ht.mem_pairs, Prod.mk.injEq]
  by_cases hx : x = y
  · subst hx
    by_cases hl : l ∈ t.listeners x
    · simp only [hl, not_true, and_false, if_false, true_and]
      exact ⟨.inr, fun h => h.elim (fun heq => heq ▸ hl) id⟩
    · simp [hl, or_comm]
  · simp [hx, Ne.symm hx]

lemma pairs_unregister (ht : t.Faithful) :
    (t.unregister x l).1.pairs = t.pairs.erase (x, l) := by
  ext ⟨y, k⟩
  rw [ht.unregister.mem_pairs, listeners_unregister, Finset.mem_erase, ht.mem_pairs, ne_eq,
    Prod.mk.injEq]
  by_cases hx : x = y
  · subst hx
    simp [and_comm]
  · simp [hx, Ne.symm hx]

lemma pairs_erase (ht : t.Faithful) : (t.erase x).pairs = t.pairs.filter (·.1 ≠ x) := by
  ext ⟨y, k⟩
  rw [ht.erase.mem_pairs, listeners_erase, Finset.mem_filter, ht.mem_pairs]
  by_cases hx : x = y
  · subst hx
    simp
  · simp [hx, Ne.symm hx]

/-! ### What each operation answers -/

lemma on_pairs_eq_empty_iff (ht : t.Faithful) : t.pairs.on x = ∅ ↔ t.find? x = none := by
  have hempty : t.pairs.on x = ∅ ↔ t.listeners x = [] := by
    rw [Pairs.on_eq_empty_iff, List.eq_nil_iff_forall_not_mem]
    exact forall_congr' fun l => not_congr ht.mem_pairs
  rw [hempty, ← not_iff_not]
  exact ht.tidy.listeners_ne_nil.trans Option.ne_none_iff_exists'.symm

/-- A wish to listen is redundant if the pair is there, it is the first if its topic has no pair,
and it joins others otherwise. -/
lemma register_answer (ht : t.Faithful) (x : String) (l : Listener) :
    ((t.register x l).2 = .redundant ↔ (x, l) ∈ t.pairs) ∧
      ((∃ n, (t.register x l).2 = .first n) ↔ t.pairs.on x = ∅) ∧
      ((∃ e, (t.register x l).2 = .joined e) ↔ (x, l) ∉ t.pairs ∧ t.pairs.on x ≠ ∅) := by
  rw [ht.mem_pairs, ne_eq, ht.on_pairs_eq_empty_iff]
  rcases t.register_cases x l with ⟨e, hfind, hl, hreg⟩ | ⟨t', hnone, -, -, hreg⟩ |
    ⟨e, t', hfind, hl, -, -, hreg⟩
  · simp [hreg, hfind, listeners_of_find? hfind, hl]
  · simp [hreg, hnone, listeners_of_find?_none hnone]
  · simp [hreg, hfind, listeners_of_find? hfind, hl]

/-- A topic goes with the last of its pairs. -/
lemma unregister_answer (ht : t.Faithful) (x : String) (l : Listener) :
    (t.unregister x l).2.isSome = true ↔ t.pairs.on x = {(x, l)} := by
  rw [Pairs.on_eq_singleton_iff, ht.mem_pairs]
  rcases t.unregister_cases x l with ⟨hl, hreg⟩ | ⟨e, t', hfind, hl, -, -, hreg⟩
  · simp [hreg, hl]
  · -- nothing is left of an entry exactly if nobody else listens
    have hwithout : e.without l = none ↔ ∀ k ∈ e.listeners, k = l := by
      simp [Entry.without, Entry.dismiss]
    have hlisteners : t.listeners x = e.listeners := listeners_of_find? hfind
    simp only [hreg, hlisteners, hl, true_and, ht.mem_pairs, ← hwithout]
    cases e.without l <;> simp

end Faithful

/-- A topic that is not there need not be taken out. -/
lemma erase_of_find?_none (h : t.find? x = none) : t.erase x = t := by
  have hkept : t.entries.filter (·.topic ≠ x) = t.entries :=
    List.filter_eq_self.mpr fun e he => by simpa using List.find?_eq_none.mp h e he
  rw [erase, hkept]

lemma faithful_empty : empty.Faithful :=
  ⟨tidy_empty, fun _ => List.nodup_nil⟩

end Topics

/-! ### Calls -/

/-- A call of the table of a hub. -/
inductive TableCall where
  | register (topic : String) (l : Listener)
  | unregister (topic : String) (l : Listener)
  /-- A topic is taken out with all who listen to it, with the reason. -/
  | abandon (topic message : String)
  deriving DecidableEq, Repr

namespace TableCall

/-- What a call does to a hub. -/
def onHub (h : Hub) : TableCall → Hub
  | register x l => { h with topics := (h.topics.register x l).1 }
  | unregister x l => (h.unregister x l).1
  | abandon x message => (h.abandon x message).1

/-- What a call does to the pairs. -/
def onPairs (p : Pairs) : TableCall → Pairs
  | register x l => insert (x, l) p
  | unregister x l => p.erase (x, l)
  | abandon x _ => p.filter (·.1 ≠ x)

variable {h : Hub}

lemma topics_abandon {x message : String} : (h.abandon x message).1.topics = h.topics.erase x := by
  unfold Hub.abandon
  rw [Hub.disconnectIfIdle_topics]
  split
  · rename_i hnone
    exact (Topics.erase_of_find?_none hnone).symm
  · rfl

/-- A call does to the table what it does to the pairs. -/
lemma pairs_onHub (hh : h.topics.Faithful) (c : TableCall) :
    (onHub h c).topics.Faithful ∧ (onHub h c).topics.pairs = onPairs h.topics.pairs c := by
  cases c with
  | register x l => exact ⟨hh.register, hh.pairs_register⟩
  | unregister x l =>
    rw [onHub, Hub.topics_unregister]
    exact ⟨hh.unregister, hh.pairs_unregister⟩
  | abandon x message =>
    rw [onHub, topics_abandon]
    exact ⟨hh.erase, hh.pairs_erase⟩

/-- Calls do to the table what they do to the pairs. -/
lemma pairs_foldl (hh : h.topics.Faithful) (calls : List TableCall) :
    (calls.foldl onHub h).topics.Faithful ∧
      (calls.foldl onHub h).topics.pairs = calls.foldl onPairs h.topics.pairs := by
  induction calls generalizing h with
  | nil => exact ⟨hh, rfl⟩
  | cons c calls ih =>
    obtain ⟨hfaithful, hpairs⟩ := pairs_onHub hh c
    rw [List.foldl_cons, List.foldl_cons, ← hpairs]
    exact ih hfaithful

end TableCall

end RunBoard.Realtime
