import Mathlib.Tactic.Common
import RunBoard.Backend.Record
import RunBoard.Proofs.Json.Members
import RunBoard.Proofs.Text.Numerals

/-!
# Parameters tell the query

A filter compares a field with a literal between quotes, in which a backslash makes the next
character stand for itself.  `readLiteral` reads such a literal as its receiver does, up to the
first quote that is not escaped.  What is read from an escaped text is the text, and the quote that
ends it is the one that was put behind it: this is the one induction here, and it is over the
characters of the text, whatever follows them.

So a filter can be read back, the parameters of a page can be told apart by the queries that they
are for, and whatever is asked for as a workflow stays within its literal.
-/

namespace RunBoard.Backend

open RunBoard.Json RunBoard.Text

variable {field value : String} {q q' : Query}

/-! ### Literals -/

/-- Reads a literal behind its opening quote, up to the first quote that is not escaped.  A
backslash makes the next character stand for itself.  Gives the literal and what follows it. -/
def readLiteral : List Char → Option (List Char × List Char)
  | [] => none
  | '\'' :: cs => some ([], cs)
  | '\\' :: d :: cs => (readLiteral cs).map fun (read, rest) => (d :: read, rest)
  | c :: cs =>
    if c = '\\' then none else (readLiteral cs).map fun (read, rest) => (c :: read, rest)

lemma readLiteral_cons_of_ne {c : Char} (hquote : c ≠ '\'') (hbackslash : c ≠ '\\')
    (cs : List Char) :
    readLiteral (c :: cs) = (readLiteral cs).map fun (read, rest) => (c :: read, rest) := by
  rw [readLiteral, if_neg hbackslash]
  · exact hquote
  · exact fun _ _ h _ => absurd h hbackslash

/-- An escaped text is read as the text, up to the quote behind it. -/
lemma readLiteral_escapeQuotes (cs rest : List Char) :
    readLiteral (escapeQuotes cs ++ '\'' :: rest) = some (cs, rest) := by
  induction cs with
  | nil => rfl
  | cons c cs ih =>
    rw [escapeQuotes]
    by_cases hspecial : c = '\\' ∨ c = '\''
    · -- the backslash in front is read first, and `c` stands for itself
      rw [if_pos hspecial, List.cons_append, List.cons_append, readLiteral, ih, Option.map_some]
    · obtain ⟨hbackslash, hquote⟩ := not_or.mp hspecial
      rw [if_neg hspecial, List.cons_append, readLiteral_cons_of_ne hquote hbackslash, ih,
        Option.map_some]

/-- The characters, with another text in the place of each occurrence of one of them. -/
def replaceEach (c : Char) (text cs : List Char) : List Char :=
  cs.flatMap fun d => if d = c then text else [d]

/-- Escaping is to double the backslashes first, and to put one before each quote afterwards. -/
lemma escapeQuotes_eq_replaceEach (cs : List Char) :
    escapeQuotes cs = replaceEach '\'' ['\\', '\''] (replaceEach '\\' ['\\', '\\'] cs) := by
  induction cs with
  | nil => rfl
  | cons c cs ih =>
    have hcons : ∀ (d : Char) (text : List Char) (ds : List Char),
        replaceEach d text (c :: ds) = (if c = d then text else [c]) ++ replaceEach d text ds :=
      fun _ _ _ => List.flatMap_cons
    rw [escapeQuotes, hcons, ih]
    by_cases hbackslash : c = '\\'
    · subst hbackslash
      rfl
    · rw [if_neg hbackslash, List.singleton_append, hcons]
      by_cases hquote : c = '\''
      · subst hquote
        rfl
      · rw [if_neg hquote, if_neg (not_or.mpr ⟨hbackslash, hquote⟩)]
        rfl

/-! ### Filters -/

/-- The characters of a literal behind its opening quote. -/
def literalChars (value : String) : List Char :=
  escapeQuotes value.toList ++ ['\'']

lemma equalityFilter_eq (field value : String) :
    equalityFilter field value =
      field ++ "=" ++ String.ofList ('\'' :: literalChars value) := by
  rw [← String.toList_inj]
  simp [equalityFilter, literalChars]

lemma readLiteral_literalChars (value : String) :
    readLiteral (literalChars value) = some (value.toList, []) :=
  readLiteral_escapeQuotes value.toList []

/-- Reads a filter: a field, which ends at the first equals sign, and a literal behind it, which
ends where the text ends. -/
def readFilter (text : String) : Option (String × String) :=
  match text.toList.dropWhile (· ≠ '=') with
  | '=' :: '\'' :: cs =>
    match readLiteral cs with
    | some (value, []) =>
      some (String.ofList (text.toList.takeWhile (· ≠ '=')), String.ofList value)
    | _ => none
  | _ => none

/-- A filter is read as the field and the value that it was made of, whatever the value is. -/
lemma readFilter_equalityFilter (hfield : '=' ∉ field.toList) (value : String) :
    readFilter (equalityFilter field value) = some (field, value) := by
  have hchars : (equalityFilter field value).toList =
      field.toList ++ '=' :: '\'' :: literalChars value := by
    simp [equalityFilter_eq]
  have hbefore : ∀ c ∈ field.toList, decide (c ≠ '=') = true := by
    intro c hc
    exact decide_eq_true fun heq => hfield (heq ▸ hc)
  have hdrop : (equalityFilter field value).toList.dropWhile (· ≠ '=') =
      '=' :: '\'' :: literalChars value := by
    rw [hchars, List.dropWhile_append_of_pos hbefore]
    rfl
  have htake : (equalityFilter field value).toList.takeWhile (· ≠ '=') = field.toList := by
    rw [hchars, List.takeWhile_append_of_pos hbefore]
    exact List.append_nil _
  simp only [readFilter, hdrop, htake, readLiteral_literalChars, String.ofList_toList]

lemma readFilter_workflow (workflow : String) :
    readFilter (equalityFilter workflowRelation workflow) = some (workflowRelation, workflow) :=
  readFilter_equalityFilter (by decide) workflow

/-! ### The parameters of a page -/

lemma decimal_injective : Function.Injective decimal := by
  intro m n h
  have hdigits : decimalDigits m = decimalDigits n := String.ofList_injective h
  rw [← valueFrom_decimalDigits m, hdigits, valueFrom_decimalDigits]

lemma lookup_filter (q : Query) :
    (listParameters q).lookup "filter" = q.workflow.map (equalityFilter workflowRelation) := by
  cases hworkflow : q.workflow <;> cases hexpand : q.expand <;>
    simp [listParameters, hworkflow, hexpand, List.lookup_cons]

lemma isSome_lookup_expand (q : Query) :
    ((listParameters q).lookup "expand").isSome = q.expand := by
  cases hworkflow : q.workflow <;> cases hexpand : q.expand <;>
    simp [listParameters, hworkflow, hexpand, List.lookup_cons]

lemma map_fst_listParameters (q : Query) :
    (listParameters q).map Prod.fst = ["page", "perPage", "sort"] ++
      (if q.workflow.isSome then ["filter"] else []) ++ if q.expand then ["expand"] else [] := by
  cases hworkflow : q.workflow <;> cases hexpand : q.expand <;>
    simp [listParameters, hworkflow, hexpand]

lemma listParameters_injective (h : listParameters q = listParameters q') : q = q' := by
  have hlookup : ∀ name, (listParameters q).lookup name = (listParameters q').lookup name :=
    fun name => congrArg (List.lookup name) h
  have hpage : q.page = q'.page := decimal_injective (Option.some.inj (hlookup "page"))
  have hperPage : q.perPage = q'.perPage := decimal_injective (Option.some.inj (hlookup "perPage"))
  have hexpand : q.expand = q'.expand := by
    rw [← isSome_lookup_expand q, hlookup, isSome_lookup_expand]
  have hworkflow : q.workflow = q'.workflow := by
    have hfilters := hlookup "filter"
    rw [lookup_filter, lookup_filter] at hfilters
    -- two filters that are the same text are read as the same workflow
    refine Option.map_injective (fun w w' hsame => ?_) hfilters
    have hread := readFilter_workflow w
    rw [hsame, readFilter_workflow] at hread
    exact (Prod.mk.inj (Option.some.inj hread)).2.symm
  cases q
  cases q'
  simp_all

/-! ### The theorem -/

/-- **Parameters tell the query.**  Whatever the value of a filter is, behind the equals sign stands
a quote, and a literal that is read as this value and that ends where the text ends; it is escaped
by doubling the backslashes and putting one before each quote afterwards.  Different queries have
different parameters.  Which parameters there are hangs on whether a workflow is asked for, and not
on which one; and the filter, if there is one, is read as the comparison with this workflow. -/
theorem parameters_tell_query :
    (∀ field value : String, ∃ literal : List Char,
      equalityFilter field value = field ++ "=" ++ String.ofList ('\'' :: literal) ∧
      readLiteral literal = some (value.toList, []) ∧
      literal = replaceEach '\'' ['\\', '\''] (replaceEach '\\' ['\\', '\\'] value.toList) ++
        ['\'']) ∧
    (∀ q q' : Query, listParameters q = listParameters q' ↔ q = q') ∧
    ∀ q : Query,
      (listParameters q).map Prod.fst = ["page", "perPage", "sort"] ++
        (if q.workflow.isSome then ["filter"] else []) ++ (if q.expand then ["expand"] else []) ∧
      ((listParameters q).lookup "filter").map readFilter =
        q.workflow.map fun workflow => some (workflowRelation, workflow) := by
  refine ⟨fun field value => ?_, fun q q' => ?_, fun q => ⟨map_fst_listParameters q, ?_⟩⟩
  · refine ⟨literalChars value, equalityFilter_eq field value, readLiteral_literalChars value, ?_⟩
    rw [literalChars, escapeQuotes_eq_replaceEach]
  · exact ⟨listParameters_injective, fun h => h ▸ rfl⟩
  · rw [lookup_filter, Option.map_map]
    exact congrArg (q.workflow.map ·) (funext readFilter_workflow)

end RunBoard.Backend
