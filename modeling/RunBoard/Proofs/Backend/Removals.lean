import Mathlib.Data.List.Basic
import RunBoard.Backend.Operation
import RunBoard.Proofs.Outcome

/-!
# Which batches are accepted

Several runs are removed with one request, a batch, and the backend answers with the results of its
parts in their order.  The removal counts as accepted unless one of the results is a failure, and
the first failure tells the error.  How many results there are is not looked at, so this says that
every run was removed only if there is a result for each of them.
-/

namespace RunBoard.Backend

open RunBoard.Json

variable {results : List BatchResult} {ids : List RunId} {url body : String} {status : Nat}

/-! ### The results of a batch -/

/-- The error of a result: the message of its body, or else the usual reason for its status. -/
def BatchResult.error (r : BatchResult) : RequestError :=
  .api r.status (if r.message.isEmpty then (reason? r.status).getD "request failed" else r.message)

/-- Whether the results of a batch tell of each run that it was removed: in its place there is a
success. -/
def Confirms (results : List BatchResult) (ids : List RunId) : Prop :=
  ∀ i < ids.length, ∃ r, results[i]? = some r ∧ isSuccess r.status = true

lemma checkBatch_eq_ok_iff :
    checkBatch results = .ok () ↔ ∀ r ∈ results, isSuccess r.status = true := by
  unfold checkBatch
  split
  · rename_i hnone
    simpa using hnone
  · rename_i r hfirst
    have hfails : isSuccess r.status = false := by simpa using List.find?_some hfirst
    refine ⟨fun h => (nomatch h), fun h => ?_⟩
    rw [h r (List.mem_of_find?_eq_some hfirst)] at hfails
    cases hfails

/-- A batch that is not a success has a first failure, and its error is that of the batch. -/
lemma checkBatch_of_ne_ok (h : checkBatch results ≠ .ok ()) :
    ∃ before r after, results = before ++ r :: after ∧
      (∀ b ∈ before, isSuccess b.status = true) ∧ isSuccess r.status = false ∧
      checkBatch results = .error r.error := by
  unfold checkBatch at h ⊢
  split
  · rename_i hnone
    rw [hnone] at h
    exact absurd rfl h
  · rename_i r hfirst
    obtain ⟨hfails, before, after, hsplit, hbefore⟩ := List.find?_eq_some_iff_append.mp hfirst
    exact ⟨before, r, after, hsplit, by simpa using hbefore, by simpa using hfails, rfl⟩

/-- With a result for each run, all are confirmed if and only if no result is a failure. -/
lemma confirms_iff_of_length (hlength : results.length = ids.length) :
    Confirms results ids ↔ ∀ r ∈ results, isSuccess r.status = true := by
  constructor
  · intro h r hr
    obtain ⟨i, hi, rfl⟩ := List.mem_iff_getElem.mp hr
    obtain ⟨r, hr, hsuccess⟩ := h i (hlength ▸ hi)
    rw [List.getElem?_eq_getElem hi] at hr
    exact Option.some.inj hr ▸ hsuccess
  · intro h i hi
    have hi' : i < results.length := hlength ▸ hi
    exact ⟨results[i], List.getElem?_eq_getElem hi', h _ (List.getElem_mem hi')⟩

/-- The results behind those for the runs do not matter. -/
lemma confirms_iff_take : Confirms results ids ↔
    ids.length ≤ results.length ∧ ∀ r ∈ results.take ids.length, isSuccess r.status = true := by
  have htake : Confirms (results.take ids.length) ids ↔ Confirms results ids := by
    refine forall₂_congr fun i hi => ?_
    rw [List.getElem?_take_of_lt hi]
  constructor
  · intro h
    have hlength : ids.length ≤ results.length := by
      by_contra hshort
      obtain ⟨r, hr, -⟩ := h results.length (Nat.lt_of_not_le hshort)
      simp at hr
    exact ⟨hlength, (confirms_iff_of_length (List.length_take_of_le hlength)).mp (htake.mpr h)⟩
  · rintro ⟨hlength, h⟩
    exact htake.mp ((confirms_iff_of_length (List.length_take_of_le hlength)).mpr h)

/-- Of the results only the statuses matter. -/
lemma confirms_iff_statuses {statuses : List Nat}
    (hstatuses : results.map BatchResult.status = statuses) : Confirms results ids ↔
      ids.length ≤ statuses.length ∧ ∀ n ∈ statuses.take ids.length, isSuccess n = true := by
  rw [confirms_iff_take, ← hstatuses, List.length_map, ← List.map_take, List.forall_mem_map]

/-! ### The answer to a removal of several runs -/

/-- Several runs are removed with one request. -/
lemma removal_of_several (several : 2 ≤ ids.length) : Operation.removal ids =
    some { method := .post, path := batchPath, body := some (batchBody runCollection ids) } := by
  match ids with
  | [] | [_] => simp at several
  | _ :: _ :: _ => rfl

lemma read_remove (several : 2 ≤ ids.length) (succeeded : isSuccess status = true)
    (decodes : decodeText (Decoder.list BatchResult.decode) body = .ok results) :
    (Operation.remove ids).read url (.answer status body) =
      (checkBatch results >>= fun _ => .ok true : Except RequestError Bool) := by
  have hbody : (Reply.answer status body).body url = .ok body := if_pos succeeded
  have hdecode : decodeBody (Decoder.list BatchResult.decode) body = .ok results := by
    rw [decodeBody, decodes]
  have hread : Operation.readRemoval ids body =
      (checkBatch results >>= fun _ => .ok true : Except RequestError Bool) := by
    match ids with
    | [] | [_] => simp at several
    | _ :: _ :: _ =>
      unfold Operation.readRemoval
      rw [hdecode]
      rfl
  rw [Operation.read, hbody]
  exact hread

/-- **A batch is accepted if none of its results is a failure.**  Several runs are removed with one
request that names all of them.  Take a reply that is a success with any results.  The removal is
accepted if and only if none of the results is a failure; otherwise its error is that of the first
failure, with the status and the message of this result.  With as many results as runs this is to
say that every run is confirmed.  It is accepted although some run is not confirmed exactly if there
are fewer results than runs and none is a failure, and it is not accepted although every run is
confirmed exactly if there is a failure behind the results for the runs. -/
theorem batch_accepted_iff_none_failed (url : String) (several : 2 ≤ ids.length)
    (succeeded : isSuccess status = true)
    (decodes : decodeText (Decoder.list BatchResult.decode) body = .ok results) :
    let answer : Except RequestError Bool :=
      (Operation.remove ids).read url (.answer status body)
    (Operation.remove ids).request =
        some { method := .post, path := batchPath, body := some (batchBody runCollection ids) } ∧
      (answer = .ok true ↔ ∀ r ∈ results, isSuccess r.status = true) ∧
      (answer ≠ .ok true → ∃ before r after, results = before ++ r :: after ∧
        (∀ b ∈ before, isSuccess b.status = true) ∧ isSuccess r.status = false ∧
        answer = .error r.error) ∧
      (results.length = ids.length → (answer = .ok true ↔ Confirms results ids)) ∧
      (answer = .ok true ∧ ¬ Confirms results ids ↔
        results.length < ids.length ∧ ∀ r ∈ results, isSuccess r.status = true) ∧
      (answer ≠ .ok true ∧ Confirms results ids ↔
        Confirms results ids ∧ ∃ r ∈ results.drop ids.length, isSuccess r.status = false) := by
  intro answer
  have hanswer : answer = (checkBatch results >>= fun _ => .ok true) :=
    read_remove several succeeded decodes
  have hok : answer = .ok true ↔ checkBatch results = .ok () := by
    rw [hanswer, bind_eq_ok_iff]
    exact ⟨fun ⟨_, h, _⟩ => h, fun h => ⟨(), h, rfl⟩⟩
  have hnone : answer = .ok true ↔ ∀ r ∈ results, isSuccess r.status = true :=
    hok.trans checkBatch_eq_ok_iff
  refine ⟨removal_of_several several, hnone, fun hrefused => ?_, fun hlength => ?_, ?_, ?_⟩
  · obtain ⟨before, r, after, hsplit, hbefore, hfails, herror⟩ :=
      checkBatch_of_ne_ok (mt hok.mpr hrefused)
    exact ⟨before, r, after, hsplit, hbefore, hfails, by rw [hanswer, herror]; rfl⟩
  · rw [hnone, confirms_iff_of_length hlength]
  · rw [hnone, confirms_iff_take]
    constructor
    · rintro ⟨hall, hnot⟩
      refine ⟨Nat.lt_of_not_le fun hlong => hnot ⟨hlong, fun r hr => ?_⟩, hall⟩
      exact hall r (List.mem_of_mem_take hr)
    · rintro ⟨hshort, hall⟩
      exact ⟨hall, fun h => Nat.not_le.mpr hshort h.1⟩
  · rw [and_comm]
    refine and_congr_right fun hconfirms => ?_
    -- what fails is not among the results for the runs
    have hfirst := (confirms_iff_take.mp hconfirms).2
    have hrest : (∀ r ∈ results, isSuccess r.status = true) ↔
        ∀ r ∈ results.drop ids.length, isSuccess r.status = true := by
      have happend : (∀ r ∈ results.take ids.length ++ results.drop ids.length,
          isSuccess r.status = true) ↔ _ := List.forall_mem_append
      rw [List.take_append_drop] at happend
      exact happend.trans (and_iff_right hfirst)
    rw [Ne, hnone, hrest]
    simp

/-- A text of results is decoded, with their statuses. -/
lemma exists_decodes (body : String) (statuses : List Nat)
    (h : (decodeText (Decoder.list BatchResult.decode) body).toOption.map
      (·.map BatchResult.status) = some statuses) :
    ∃ results, decodeText (Decoder.list BatchResult.decode) body = .ok results ∧
      results.map BatchResult.status = statuses := by
  obtain ⟨results, hresults, hstatuses⟩ := Option.map_eq_some_iff.mp h
  exact ⟨results, toOption_eq_some_iff.mp hresults, hstatuses⟩

/-- A reply to the removal of three runs: the first was removed, and then two failed. -/
def mixedReply : String :=
  "[\x7b\"status\":204\x7d,\x7b\"status\":400,\"body\":\x7b\"message\":\"busy\"\x7d\x7d," ++
    "\x7b\"status\":500\x7d]"

theorem batch_accepted_iff_none_failed_of_mixed :
    let ids : List RunId := ["a", "b", "c"]
    let answer : Except RequestError Bool :=
      (Operation.remove ids).read "" (.answer 200 mixedReply)
    2 ≤ ids.length ∧ answer = .error (.api 400 "busy") ∧ ∃ results,
      decodeText (Decoder.list BatchResult.decode) mixedReply = .ok results ∧
      results.map BatchResult.status = [204, 400, 500] ∧ ¬ Confirms results ids ∧
      ∃ before r after, results = before ++ r :: after ∧
        (∀ b ∈ before, isSuccess b.status = true) ∧ isSuccess r.status = false ∧
        answer = .error r.error := by
  intro ids answer
  have several : 2 ≤ ids.length := by decide
  have hanswer : answer = .error (.api 400 "busy") := fault?_eq_some_iff.mp (by decide +kernel)
  have hrefused : answer ≠ .ok true := by
    rw [hanswer]
    exact fun h => nomatch h
  obtain ⟨results, decodes, hstatuses⟩ :=
    exists_decodes mixedReply [204, 400, 500] (by decide +kernel)
  have hlength : results.length = ids.length := by
    rw [← List.length_map BatchResult.status, hstatuses]
    rfl
  obtain ⟨-, -, hfirst, hconfirms, -⟩ :=
    batch_accepted_iff_none_failed "" several (rfl : isSuccess 200 = true) decodes
  exact ⟨several, hanswer, results, decodes, hstatuses,
    fun h => hrefused ((hconfirms hlength).mpr h), hfirst hrefused⟩

/-- A reply to the removal of two runs that has a failure behind the results for them. -/
def surplusReply : String :=
  "[\x7b\"status\":204\x7d,\x7b\"status\":204\x7d,\x7b\"status\":500\x7d]"

/-- An answer without any results is accepted, although no run is confirmed, and one with a failure
behind the results for the runs is not, although all are. -/
theorem batch_misread_with_too_few_or_too_many_results :
    let ids : List RunId := ["a", "b"]
    let answer (body : String) : Except RequestError Bool :=
      (Operation.remove ids).read "" (.answer 200 body)
    (decodeText (Decoder.list BatchResult.decode) "[]" = .ok [] ∧ answer "[]" = .ok true ∧
        ¬ Confirms [] ids) ∧
      ∃ surplus, decodeText (Decoder.list BatchResult.decode) surplusReply = .ok surplus ∧
        answer surplusReply = .error (.api 500 "Internal Server Error") ∧
        Confirms surplus ids := by
  intro ids answer
  obtain ⟨surplus, decodes, hstatuses⟩ :=
    exists_decodes surplusReply [204, 204, 500] (by decide +kernel)
  have hconfirms : Confirms surplus ids := (confirms_iff_statuses hstatuses).mpr (by decide)
  refine ⟨⟨rfl, toOption_eq_some_iff.mp (by decide +kernel), fun h => ?_⟩, surplus, decodes,
    fault?_eq_some_iff.mp (by decide +kernel), hconfirms⟩
  obtain ⟨r, hr, -⟩ := h 0 (by decide)
  cases hr

end RunBoard.Backend
