import Mathlib.Data.Set.Function
import Mathlib.Tactic.Common
import RunBoard.Run.Query

/-!
# Row numbers as ranks

The runs on all pages have ranks, counted from one, and a row has the rank of its run as its number.
A place is a page together with an index below the size of the pages.  From a rank to its place it
is a division with remainder, which `bijOn_numberAt` says of all places at once: the numbers of the
places are the ranks, each of them once.

A page and a size are words of 32 bits, and a row number is a word of 64 bits.  There are three ways
to a row number: `reckon?` gets there at once, `reckonFromFirst?` and `reckonListed?` start from the
number of the first row.  Each goes operation by operation and has no result if one of them leaves
its words.  For an index of the page none does, since the pages up to it hold no more rows than the
product of two words of 32 bits, and no such product is too long (`rowNumber_lt`).
-/

namespace RunBoard.Query

variable {q : Query} {rank : Nat}

/-! ### Places and ranks -/

/-- The places of rows on pages of a size: a page that is a word, and an index below the size. -/
def places (size : Nat) : Set (Nat × Nat) :=
  {a | 1 ≤ a.1 ∧ a.1 < UInt32.size ∧ a.2 < size}

/-- The place of a rank. -/
def placeOf (size rank : Nat) : Nat × Nat :=
  ((rank - 1) / size + 1, (rank - 1) % size)

/-- The ranks whose page is a word. -/
def ranks (size : Nat) : Set Nat :=
  {n | 1 ≤ n ∧ (placeOf size n).1 < UInt32.size}

/-- The number of the row at a place, on pages of the size of a query. -/
def numberAt (q : Query) (a : Nat × Nat) : Nat :=
  (q.withPage a.1 q.perPage).rowNumber a.2

lemma withPage_perPage (q : Query) (page : Nat) : (q.withPage page q.perPage).perPage = q.perPage :=
  max_eq_left q.perPage_pos

lemma withPage_page (q : Query) {page : Nat} (h : 1 ≤ page) (perPage : Nat) :
    (q.withPage page perPage).page = page :=
  max_eq_left h

/-- The pages up to one hold what the pages before it hold and one page more. -/
lemma page_mul_perPage (q : Query) :
    q.page * q.perPage = (q.page - 1) * q.perPage + q.perPage := by
  rw [← Nat.succ_mul, Nat.succ_eq_add_one, Nat.sub_add_cancel q.page_pos]

lemma numberAt_eq (q : Query) {a : Nat × Nat} (h : 1 ≤ a.1) :
    q.numberAt a = (a.1 - 1) * q.perPage + a.2 + 1 := by
  rw [numberAt, rowNumber, withPage_page q h, withPage_perPage]

lemma numberAt_placeOf (q : Query) (h : 1 ≤ rank) : q.numberAt (placeOf q.perPage rank) = rank := by
  have hback := Nat.div_add_mod' (rank - 1) q.perPage
  have hpage : 1 ≤ (placeOf q.perPage rank).1 := Nat.succ_pos _
  rw [numberAt_eq q hpage]
  simp only [placeOf, Nat.add_sub_cancel]
  omega

lemma placeOf_numberAt {a : Nat × Nat} (h : a ∈ places q.perPage) :
    placeOf q.perPage (q.numberAt a) = a := by
  obtain ⟨hpage, -, hindex⟩ := h
  rw [numberAt_eq q hpage, placeOf, Nat.add_sub_cancel]
  ext
  · show ((a.1 - 1) * q.perPage + a.2) / q.perPage + 1 = a.1
    rw [Nat.mul_comm, Nat.mul_add_div q.perPage_pos, Nat.div_eq_of_lt hindex]
    omega
  · show ((a.1 - 1) * q.perPage + a.2) % q.perPage = a.2
    rw [Nat.mul_comm, Nat.mul_add_mod, Nat.mod_eq_of_lt hindex]

lemma placeOf_mem_places (q : Query) (h : rank ∈ ranks q.perPage) :
    placeOf q.perPage rank ∈ places q.perPage :=
  ⟨Nat.succ_pos _, h.2, Nat.mod_lt _ q.perPage_pos⟩

lemma numberAt_mem_ranks {a : Nat × Nat} (h : a ∈ places q.perPage) :
    q.numberAt a ∈ ranks q.perPage := by
  refine ⟨?_, ?_⟩
  · rw [numberAt_eq q h.1]
    exact Nat.succ_pos _
  · rw [placeOf_numberAt h]
    exact h.2.1

/-- The numbers of the places are the ranks, and no two places have the same number. -/
lemma bijOn_numberAt (q : Query) : Set.BijOn q.numberAt (places q.perPage) (ranks q.perPage) :=
  Set.InvOn.bijOn ⟨fun _ => placeOf_numberAt, fun _ h => numberAt_placeOf q h.1⟩
    (fun _ => numberAt_mem_ranks) fun _ => placeOf_mem_places q

/-- A rank is the number of its place and of no other. -/
lemma numberAt_eq_iff {a : Nat × Nat} (ha : a ∈ places q.perPage) (h : 1 ≤ rank) :
    q.numberAt a = rank ↔ a = placeOf q.perPage rank := by
  constructor
  · rintro rfl
    exact (placeOf_numberAt ha).symm
  · rintro rfl
    exact numberAt_placeOf q h

/-- The last number of a page is followed by the first one of the next page. -/
lemma rowNumber_succ_page (q : Query) :
    (q.withPage (q.page + 1) q.perPage).rowNumber 0 = q.rowNumber (q.perPage - 1) + 1 := by
  have hsize := q.perPage_pos
  have hheld := q.page_mul_perPage
  rw [rowNumber, withPage_page q (Nat.le_add_left 1 q.page), withPage_perPage, rowNumber,
    Nat.add_sub_cancel]
  omega

lemma rowNumber_add (q : Query) (i : Nat) : q.rowNumber 0 + i = q.rowNumber i := by
  simp only [rowNumber]
  omega

end RunBoard.Query

namespace RunBoard.Word

/-! ### Operations on words

Each has the result of the operation on numbers, or none if that is no word. -/

/-- The difference of two words of 32 bits. -/
def sub? (a b : UInt32) : Option UInt32 :=
  if a.toBitVec.usubOverflow b.toBitVec then none else some (a - b)

/-- The sum of two words of 64 bits. -/
def add? (a b : UInt64) : Option UInt64 :=
  if a.toBitVec.uaddOverflow b.toBitVec then none else some (a + b)

/-- The product of two words of 64 bits. -/
def mul? (a b : UInt64) : Option UInt64 :=
  if a.toBitVec.umulOverflow b.toBitVec then none else some (a * b)

lemma sub?_eq {a b : UInt32} (h : b.toNat ≤ a.toNat) :
    ∃ c, sub? a b = some c ∧ c.toNat = a.toNat - b.toNat := by
  have hfits : a.toBitVec.usubOverflow b.toBitVec = false := by
    simpa [BitVec.usubOverflow] using h
  refine ⟨a - b, by rw [sub?, hfits]; rfl, ?_⟩
  exact UInt32.toNat_sub_of_le a b (UInt32.le_iff_toNat_le.mpr h)

lemma add?_eq {a b : UInt64} (h : a.toNat + b.toNat < UInt64.size) :
    ∃ c, add? a b = some c ∧ c.toNat = a.toNat + b.toNat := by
  have hfits : a.toBitVec.uaddOverflow b.toBitVec = false := by
    simpa [BitVec.uaddOverflow] using h
  refine ⟨a + b, by rw [add?, hfits]; rfl, ?_⟩
  rw [UInt64.toNat_add, Nat.mod_eq_of_lt h]

lemma mul?_eq {a b : UInt64} (h : a.toNat * b.toNat < UInt64.size) :
    ∃ c, mul? a b = some c ∧ c.toNat = a.toNat * b.toNat := by
  have hfits : a.toBitVec.umulOverflow b.toBitVec = false := by
    simpa [BitVec.umulOverflow] using h
  refine ⟨a * b, by rw [mul?, hfits]; rfl, ?_⟩
  rw [UInt64.toNat_mul, Nat.mod_eq_of_lt h]

end RunBoard.Word

namespace RunBoard.Query

variable {q : Query}

/-! ### Reckoning with words -/

/-- How many rows stand on the pages before a page, reckoned with words. -/
def skipped? (page perPage : UInt32) : Option UInt64 := do
  let before ← Word.sub? page 1
  Word.mul? before.toUInt64 perPage.toUInt64

/-- The number of the row at an index, reckoned with words. -/
def reckon? (page perPage : UInt32) (index : UInt64) : Option UInt64 := do
  let skipped ← skipped? page perPage
  let reached ← Word.add? skipped index
  Word.add? reached 1

/-- The same, as tables go on from the number of the first row on a board. -/
def reckonFromFirst? (page perPage : UInt32) (index : UInt64) : Option UInt64 := do
  let first ← reckon? page perPage 0
  Word.add? first index

/-- The same, as tables go on from the number of the first row of a listing. -/
def reckonListed? (page perPage : UInt32) (index : UInt64) : Option UInt64 := do
  let skipped ← skipped? page perPage
  let first ← Word.add? skipped 1
  Word.add? first index

lemma rowNumber_lt (hpage : q.page < UInt32.size) (hsize : q.perPage < UInt32.size) {i : Nat}
    (hi : i < q.perPage) : q.rowNumber i < UInt64.size := by
  -- the row is on one of the pages up to this one, and they hold a product of two words
  have hheld := q.page_mul_perPage
  have hproduct : q.page * q.perPage ≤ (UInt32.size - 1) * (UInt32.size - 1) :=
    Nat.mul_le_mul (Nat.le_sub_one_of_lt hpage) (Nat.le_sub_one_of_lt hsize)
  simp only [rowNumber]
  simp only [UInt32.size, UInt64.size] at hproduct ⊢
  omega

section

variable {page perPage : UInt32} {index : UInt64}
  (hpage : page.toNat = q.page) (hsize : perPage.toNat = q.perPage)
  (hindex : index.toNat < q.perPage)

include hpage hsize

lemma skipped?_eq :
    ∃ skipped, skipped? page perPage = some skipped ∧
      skipped.toNat = (q.page - 1) * q.perPage := by
  have hpos : (1 : UInt32).toNat ≤ page.toNat := hpage ▸ q.page_pos
  obtain ⟨before, hsub, hbefore⟩ := Word.sub?_eq hpos
  have hbefore : before.toUInt64.toNat = q.page - 1 := by
    rw [UInt32.toNat_toUInt64, hbefore, hpage]
    rfl
  have hfits : before.toUInt64.toNat * perPage.toUInt64.toNat < UInt64.size := by
    have hlast := rowNumber_lt (q := q) (hpage ▸ page.toNat_lt_size) (hsize ▸ perPage.toNat_lt_size)
      (i := 0) q.perPage_pos
    rw [hbefore, UInt32.toNat_toUInt64, hsize]
    exact Nat.lt_of_le_of_lt (Nat.le_add_right _ 1) hlast
  obtain ⟨skipped, hmul, hskipped⟩ := Word.mul?_eq hfits
  refine ⟨skipped, ?_, ?_⟩
  · rw [skipped?, hsub]
    exact hmul
  · rw [hskipped, hbefore, UInt32.toNat_toUInt64, hsize]

include hindex

lemma reckon?_eq :
    ∃ n, reckon? page perPage index = some n ∧ n.toNat = q.rowNumber index.toNat := by
  have hlt : (q.page - 1) * q.perPage + index.toNat + 1 < UInt64.size :=
    rowNumber_lt (hpage ▸ page.toNat_lt_size) (hsize ▸ perPage.toNat_lt_size) hindex
  obtain ⟨skipped, hskip, hskipped⟩ := skipped?_eq hpage hsize
  rw [← hskipped] at hlt
  obtain ⟨reached, hreach, hreached⟩ := Word.add?_eq (Nat.lt_of_succ_lt hlt)
  rw [← hreached] at hlt
  obtain ⟨n, hadd, hn⟩ := Word.add?_eq (b := 1) hlt
  refine ⟨n, ?_, ?_⟩
  · rw [reckon?, hskip, Option.bind_eq_bind, Option.bind_some, hreach]
    exact hadd
  · rw [hn, hreached, hskipped]
    rfl

/-- From the number of the first row on, all numbers of a page are words. -/
lemma add?_first {first : UInt64} (hfirst : first.toNat = q.rowNumber 0) :
    ∃ n, Word.add? first index = some n ∧ n.toNat = q.rowNumber index.toNat := by
  have hlt := rowNumber_lt (hpage ▸ page.toNat_lt_size) (hsize ▸ perPage.toNat_lt_size) hindex
  rw [← rowNumber_add, ← hfirst] at hlt ⊢
  exact Word.add?_eq hlt

lemma reckonFromFirst?_eq :
    ∃ n, reckonFromFirst? page perPage index = some n ∧ n.toNat = q.rowNumber index.toNat := by
  have hzero : (0 : UInt64).toNat < q.perPage := q.perPage_pos
  obtain ⟨first, hreckon, hfirst⟩ := reckon?_eq hpage hsize hzero
  obtain ⟨n, hadd, hn⟩ := add?_first hpage hsize hindex hfirst
  refine ⟨n, ?_, hn⟩
  rw [reckonFromFirst?, hreckon]
  exact hadd

lemma reckonListed?_eq :
    ∃ n, reckonListed? page perPage index = some n ∧ n.toNat = q.rowNumber index.toNat := by
  obtain ⟨skipped, hskip, hskipped⟩ := skipped?_eq hpage hsize
  have hlt : skipped.toNat + (1 : UInt64).toNat < UInt64.size := by
    rw [hskipped]
    exact rowNumber_lt (hpage ▸ page.toNat_lt_size) (hsize ▸ perPage.toNat_lt_size) q.perPage_pos
  obtain ⟨first, hadd, hfirst⟩ := Word.add?_eq hlt
  rw [hskipped] at hfirst
  obtain ⟨n, hadd', hn⟩ := add?_first hpage hsize hindex hfirst
  refine ⟨n, ?_, hn⟩
  rw [reckonListed?, hskip, Option.bind_eq_bind, Option.bind_some, hadd]
  exact hadd'

end

end RunBoard.Query
