import Mathlib.Tactic.Common
import RunBoard.Display.Table
import RunBoard.Proofs.Text.Numerals

/-!
# The rows of a table of runs

A table of runs is shown as text, in which a reader finds the number of a row as the first numeral
of its first line.  This module says so of the cells and of the text: under the number sign stands
the number of each row, and it is what `firstNumeral?` reads back from the line (`numbered_ofRuns`).

The cells in front of a number hold marks, which have no digits and do not break the line, and the
cell of the number is followed by a blank.  That the line is not cut off in front of the number is a
matter of the widths: there is one for each column (`length_widths`).
-/

namespace RunBoard.Text

/-! ### The first numeral of a text -/

/-- The value of the first digits in a text that stand together. -/
def firstNumeral? (s : String) : Option Nat :=
  match (s.toList.dropWhile fun c => !c.isDigit).takeWhile Char.isDigit with
  | [] => none
  | ds => some (valueFrom 0 ds)

lemma firstNumeral?_eq {s : String} {front rest : List Char} {n : Nat}
    (h : s.toList = front ++ (decimalDigits n ++ rest)) (hfront : ∀ c ∈ front, c.isDigit = false)
    (hrest : rest.takeWhile Char.isDigit = []) : firstNumeral? s = some n := by
  have hdigits : ∀ c ∈ decimalDigits n, c.isDigit = true := fun _ => isDigit_of_mem_decimalDigits
  obtain ⟨d, ds, hds⟩ := List.exists_cons_of_ne_nil (Nat.toDigits_ne_nil (b := 10) (n := n))
  have hdrop : s.toList.dropWhile (fun c => !c.isDigit) = decimalDigits n ++ rest := by
    rw [h, List.dropWhile_append_of_pos (by simpa using hfront), decimalDigits, hds,
      List.cons_append]
    refine List.dropWhile_cons_of_neg ?_
    simp [hdigits d (by rw [decimalDigits, hds]; exact List.mem_cons_self)]
  have htake : (decimalDigits n ++ rest).takeWhile Char.isDigit = decimalDigits n := by
    rw [List.takeWhile_append_of_pos hdigits, hrest, List.append_nil]
  have hvalue := valueFrom_decimalDigits n
  rw [firstNumeral?, hdrop, htake]
  rw [decimalDigits, hds] at hvalue ⊢
  exact congrArg some hvalue

end RunBoard.Text

namespace RunBoard.Table

open RunBoard.Text

variable {t : Table} {rows : List Run} {first i n : Nat} {mark : Option (Run → Mark)}

/-! ### The columns of a table -/

/-- The cell of a row under a title. -/
def cell? (t : Table) (i : Nat) (title : String) : Option String :=
  t.rows[i]?.bind fun row => row[t.header.idxOf title]?

lemma length_widths (h : ∀ row ∈ t.rows, row.length = t.header.length) :
    t.widths.length = t.header.length := by
  have hfold : ∀ (rows : List (List String)) (ws : List Nat),
      (∀ row ∈ rows, row.length = ws.length) →
      (rows.foldl (fun ws row => ws.zipWith max (row.map cellWidth)) ws).length = ws.length := by
    intro rows
    induction rows with
    | nil => exact fun _ _ => rfl
    | cons row rows ih =>
      intro ws hrows
      have hlength : (ws.zipWith max (row.map cellWidth)).length = ws.length := by
        rw [List.length_zipWith, List.length_map, hrows row List.mem_cons_self, Nat.min_self]
      rw [List.foldl_cons, ih _ fun r hr => ?_, hlength]
      rw [hlength]
      exact hrows r (List.mem_cons_of_mem _ hr)
  rw [widths, hfold t.rows _ (by simpa using h), List.length_map]

/-! ### The first line of a row -/

/-- A cell that does not break the line and has no digits. -/
def Plain (cell : String) : Prop :=
  ∀ c ∈ cell.toList, c ≠ '\n' ∧ c.isDigit = false

lemma cellLines_of_unbroken {cell : String} (h : '\n' ∉ cell.toList) : cellLines cell = [cell] := by
  rw [cellLines, List.splitOn_eq_singleton h, List.map_singleton, String.ofList_toList]

lemma Plain.cellLines {cell : String} (h : Plain cell) : cellLines cell = [cell] :=
  cellLines_of_unbroken fun hmem => (h _ hmem).1 rfl

lemma cellLines_decimal (n : Nat) : cellLines (decimal n) = [decimal n] := by
  refine cellLines_of_unbroken fun hmem => ?_
  rw [decimal, String.toList_ofList] at hmem
  exact absurd (isDigit_of_mem_decimalDigits hmem) (by decide)

/-- A cell with the blanks around it. -/
def padded (w : Nat) (cell : String) : String :=
  " " ++ padTo w cell ++ " "

lemma toList_padded (w : Nat) (cell : String) :
    (padded w cell).toList =
      ' ' :: (cell.toList ++ ' ' :: List.replicate (w - width cell) ' ') := by
  have hblanks (k : Nat) : List.replicate k ' ' ++ [' '] = ' ' :: List.replicate k ' ' :=
    List.replicate_succ'.symm
  simp only [padded, padTo, String.toList_append, String.toList_ofList, String.reduceToList,
    List.nil_append, List.cons_append, List.append_assoc, hblanks]

/-- Between the borders of a line the digits of the number stand behind the plain cells. -/
lemma exists_digits {front back : List String} {ws : List Nat} (hfront : ∀ c ∈ front, Plain c)
    (hlength : ws.length = (front ++ decimal n :: back).length) :
    ∃ before after,
      ("┆".intercalate (ws.zipWith padded (front ++ decimal n :: back))).toList =
        before ++ (decimalDigits n ++ ' ' :: after) ∧
      ∀ c ∈ before, c.isDigit = false := by
  -- each plain cell takes one width, and one is left for the number
  induction front generalizing ws with
  | nil =>
    obtain ⟨w, ws, rfl⟩ := List.exists_cons_of_length_eq_add_one hlength
    let behind := ("┆".intercalate ("" :: ws.zipWith padded back)).toList
    refine ⟨[' '], List.replicate (w - width (decimal n)) ' ' ++ behind, ?_, fun c hc => ?_⟩
    · rw [List.nil_append, List.zipWith_cons_cons,
        ← String.append_empty (s := padded w (decimal n)), String.intercalate_cons_append,
        String.toList_append, toList_padded]
      simp only [behind, decimal, String.toList_ofList, List.cons_append, List.nil_append,
        List.append_assoc]
    · obtain rfl := List.mem_singleton.mp hc
      rfl
  | cons cell front ih =>
    obtain ⟨w, ws, rfl⟩ := List.exists_cons_of_length_eq_add_one hlength
    obtain ⟨before, after, htext, hbefore⟩ :=
      ih (fun c hc => hfront c (List.mem_cons_of_mem _ hc)) (Nat.succ.inj hlength)
    have hne : ws.zipWith padded (front ++ decimal n :: back) ≠ [] := by
      refine List.ne_nil_of_length_pos ?_
      have htail : ws.length = (front ++ decimal n :: back).length := Nat.succ.inj hlength
      rw [List.length_zipWith, htail, Nat.min_self, List.length_append]
      exact Nat.add_pos_right _ (Nat.succ_pos _)
    refine ⟨(padded w cell).toList ++ '┆' :: before, after, ?_, ?_⟩
    · rw [List.cons_append, List.zipWith_cons_cons, String.intercalate_cons_of_ne_nil hne,
        String.toList_append, String.toList_append, htext]
      simp only [String.reduceToList, List.append_assoc, List.cons_append, List.nil_append]
    · intro c hc
      simp only [toList_padded, List.cons_append, List.append_assoc, List.mem_cons,
        List.mem_append] at hc
      rcases hc with rfl | hcell | rfl | hblank | rfl | hrest
      · rfl
      · exact (hfront cell List.mem_cons_self c hcell).2
      · rfl
      · obtain rfl := List.eq_of_mem_replicate hblank
        rfl
      · rfl
      · exact hbefore c hrest

lemma firstNumeral?_line {front back : List String} {ws : List Nat}
    (hfront : ∀ c ∈ front, Plain c) (hlength : ws.length = (front ++ decimal n :: back).length) :
    firstNumeral? (line ws (front ++ decimal n :: back)) = some n := by
  obtain ⟨before, after, htext, hbefore⟩ := exists_digits hfront hlength
  have hline : (line ws (front ++ decimal n :: back)).toList =
      ('│' :: before) ++ (decimalDigits n ++ ' ' :: (after ++ ['│'])) := by
    show ("│" ++ "┆".intercalate (ws.zipWith padded _) ++ "│").toList = _
    rw [String.toList_append, String.toList_append, htext]
    simp only [String.reduceToList, List.cons_append, List.nil_append, List.append_assoc]
  refine firstNumeral?_eq hline (fun c hc => ?_) rfl
  rcases List.mem_cons.mp hc with rfl | hc
  · rfl
  · exact hbefore c hc

/-- A row with a cell of one line starts with the first lines of its cells. -/
lemma exists_rowLines_eq {row : List String} {cell : String} (ws : List Nat) (hmem : cell ∈ row)
    (hcell : cellLines cell = [cell]) :
    ∃ rest,
      rowLines ws row = line ws ((row.map cellLines).map fun c => c.getD 0 "") :: rest := by
  -- a row is as high as its highest cell, so the cell of one line gives it a first line
  let height := ((row.map cellLines).map List.length).foldl max 0
  have hheight : (cellLines cell).length ≤ height := by
    show _ ≤ List.foldl max 0 _
    rw [List.foldl_max]
    have hlengths :=
      List.mem_map_of_mem (f := List.length) (List.mem_map_of_mem (f := cellLines) hmem)
    exact Nat.le_trans (List.le_max?_getD_of_mem hlengths) (Nat.le_max_right ..)
  rw [hcell, List.length_singleton] at hheight
  obtain ⟨k, hk⟩ := Nat.exists_eq_add_of_le' hheight
  have hlines : rowLines ws row =
      (List.range height).map fun i => line ws ((row.map cellLines).map fun c => c.getD i "") := rfl
  rw [hlines, hk, List.range_succ_eq_map, List.map_cons]
  exact ⟨_, rfl⟩

/-- The first numeral of a row is the number behind its plain cells. -/
lemma exists_firstLine {front back : List String} {ws : List Nat} (hfront : ∀ c ∈ front, Plain c)
    (hlength : ws.length = (front ++ decimal n :: back).length) :
    ∃ first rest, rowLines ws (front ++ decimal n :: back) = first :: rest ∧
      firstNumeral? first = some n := by
  have hmem : decimal n ∈ front ++ decimal n :: back :=
    List.mem_append_right _ List.mem_cons_self
  obtain ⟨rest, hlines⟩ := exists_rowLines_eq ws hmem (cellLines_decimal n)
  have hplain : (front.map cellLines).map (fun c => c.getD 0 "") = front := by
    rw [List.map_map]
    refine (List.map_congr_left fun c hc => ?_).trans (List.map_id front)
    rw [Function.comp_apply, (hfront c hc).cellLines]
    rfl
  rw [List.map_append, List.map_append, hplain, List.map_cons, List.map_cons,
    cellLines_decimal] at hlines
  exact ⟨_, rest, hlines, firstNumeral?_line hfront (by simpa using hlength)⟩

/-! ### Tables of runs -/

/-- A table of runs with a number for each: every run has a row, with the number under the number
sign and the identifier of the run beside it, and the number is the first numeral of the row. -/
structure Numbered (t : Table) (rows : List Run) (number : Nat → Nat) : Prop where
  length_eq : t.rows.length = rows.length
  number_cell : ∀ i < rows.length, t.cell? i "#" = some (decimal (number i))
  id_cell : ∀ i < rows.length, t.cell? i "Run ID" = rows[i]?.map fun r => r.id.text
  numeral : ∀ row i, t.rows[i]? = some row →
    ∃ first rest, rowLines t.widths row = first :: rest ∧ firstNumeral? first = some (number i)

lemma length_rows_ofRuns (rows : List Run) (first : Nat) (mark : Option (Run → Mark)) :
    (ofRuns rows first mark).rows.length = rows.length := by
  simp only [ofRuns, List.length_map, List.length_zipIdx]

/-- The cells in front of the number of a run. -/
def frontCells (mark : Option (Run → Mark)) (r : Run) : List String :=
  (mark.map fun m => if (m r).selected then "[x]" else "[ ]").toList

/-- The cells behind the identifier of a run. -/
def backCells (named : Bool) (mark : Option (Run → Mark)) (r : Run) : List String :=
  (if named then [r.workflowLabel] else []) ++
    [r.status.name, triggerLabel r.trigger, timeLabel r.startedAt, timeLabel r.endedAt] ++
    (mark.map fun m => if (m r).live then "●" else "").toList

/-- The titles behind the one of the identifiers. -/
def backTitles (named : Bool) (mark : Option (Run → Mark)) : List String :=
  (if named then ["Workflow"] else []) ++ ["Status", "Trigger", "Started", "Ended"] ++
    (mark.map fun _ => "Live").toList

lemma plain_of_mem_frontCells {r : Run} {c : String} (h : c ∈ frontCells mark r) : Plain c := by
  cases mark with
  | none => exact absurd h List.not_mem_nil
  | some m =>
    obtain rfl := List.mem_singleton.mp h
    show Plain (if (m r).selected then "[x]" else "[ ]")
    split
    · simp [Plain, Char.isDigit]
    · simp [Plain, Char.isDigit]

section

variable (hrows : rows ≠ [])

include hrows

lemma rows_ofRuns :
    (ofRuns rows first mark).rows = rows.zipIdx.map fun (r, i) =>
      frontCells mark r ++ decimal (first + i) :: r.id.text ::
        backCells (rows.any (·.expansion.isSome)) mark r := by
  have hempty : rows.isEmpty = false := by simpa using hrows
  cases mark <;> simp [ofRuns, frontCells, backCells, hempty]

lemma header_ofRuns :
    (ofRuns rows first mark).header = (mark.map fun _ => "").toList ++ "#" :: "Run ID" ::
      backTitles (rows.any (·.expansion.isSome)) mark := by
  have hempty : rows.isEmpty = false := by simpa using hrows
  cases mark <;> simp [ofRuns, backTitles, hempty]

end

lemma getElem?_rows_ofRuns {r : Run} (h : rows[i]? = some r) :
    (ofRuns rows first mark).rows[i]? =
      some (frontCells mark r ++ decimal (first + i) :: r.id.text ::
        backCells (rows.any (·.expansion.isSome)) mark r) := by
  have hrows : rows ≠ [] := by
    rintro rfl
    exact absurd h (by simp)
  rw [rows_ofRuns hrows, List.getElem?_map, List.getElem?_zipIdx, h]
  simp

lemma idxOf_number (hrows : rows ≠ []) (r : Run) :
    (ofRuns rows first mark).header.idxOf "#" = (frontCells mark r).length := by
  rw [header_ofRuns hrows]
  cases mark <;> rfl

lemma idxOf_id (hrows : rows ≠ []) (r : Run) :
    (ofRuns rows first mark).header.idxOf "Run ID" = (frontCells mark r).length + 1 := by
  rw [header_ofRuns hrows]
  cases mark <;> rfl

lemma length_of_mem_rows {row : List String} (h : row ∈ (ofRuns rows first mark).rows) :
    row.length = (ofRuns rows first mark).header.length := by
  have hrows : rows ≠ [] := by
    rintro rfl
    exact absurd h List.not_mem_nil
  rw [rows_ofRuns hrows, List.mem_map] at h
  obtain ⟨⟨r, i⟩, -, rfl⟩ := h
  rw [header_ofRuns hrows]
  cases mark <;> cases rows.any (·.expansion.isSome) <;> rfl

/-- A table of runs numbers its rows from the given number on. -/
lemma numbered_ofRuns (rows : List Run) (first : Nat) (mark : Option (Run → Mark)) :
    (ofRuns rows first mark).Numbered rows fun i => first + i where
  length_eq := length_rows_ofRuns rows first mark
  number_cell i hi := by
    have hrow := List.getElem?_eq_getElem hi
    rw [cell?, getElem?_rows_ofRuns hrow, Option.bind_some,
      idxOf_number (List.ne_nil_of_length_pos (Nat.zero_lt_of_lt hi)) rows[i]]
    simp
  id_cell i hi := by
    have hrow := List.getElem?_eq_getElem hi
    rw [cell?, getElem?_rows_ofRuns hrow, Option.bind_some, hrow,
      idxOf_id (List.ne_nil_of_length_pos (Nat.zero_lt_of_lt hi)) rows[i]]
    simp
  numeral row i hrow := by
    have hlength := length_of_mem_rows (List.mem_of_getElem? hrow)
    have hi : i < rows.length := by
      rw [← length_rows_ofRuns rows first mark]
      exact (List.getElem?_eq_some_iff.mp hrow).1
    rw [getElem?_rows_ofRuns (List.getElem?_eq_getElem hi)] at hrow
    obtain rfl := Option.some.inj hrow
    refine exists_firstLine (fun c hc => plain_of_mem_frontCells hc) ?_
    rw [length_widths fun _ => length_of_mem_rows, hlength]

end RunBoard.Table
