import RunBoard.Proofs.Board.Abreast
import RunBoard.Proofs.Board.Releasing
import RunBoard.Proofs.Session.Running

/-!
# The account of a session

However the steps of a session and of its surroundings interleave, what the session has done can be
told as if nothing had happened at the same time: it loaded the first page, and then it carried out
a command, or took in the patch that had waited longest, or patches arrived, one after the other.
An `Account` is such a tale, with what was asked and told in each of its entries and with the frame
that was shown at the end of it.

`Books` and `Work.Accounted` are the invariant that carries this through a run: the entries that are
complete, and what has been asked and told since in the one that is not.  The task at hand leaves
open how that entry ends; whichever way, it will be an entry of the account.
-/

namespace RunBoard.Session

open Board

/-! ### Accounts -/

/-- What an entry is about. -/
inductive Item where
  | load
  | command (c : Command)
  | patch (p : Patch)
  /-- Patches arrived while nothing was being done. -/
  | arrival (patches : List Patch)

namespace Item

/-- The command that was carried out. -/
def command? : Item → Option Command
  | command c => some c
  | _ => none

/-- The patch that was taken in. -/
def patch? : Item → Option Patch
  | patch p => some p
  | _ => none

/-- The patches that arrived other than with an answer. -/
def arrived : Item → List Patch
  | arrival patches => patches
  | _ => []

end Item

/-- One thing that a session did from beginning to end: what was asked and told, and the frame that
was shown afterwards. -/
structure Entry where
  item : Item
  log : BoardLog
  frame : Option Frame

namespace Entry

/-- The command that was carried out. -/
def command? (e : Entry) : Option Command :=
  e.item.command?

/-- The patch that was taken in. -/
def patch? (e : Entry) : Option Patch :=
  e.item.patch?

/-- The patches that arrived. -/
def arrived (e : Entry) : List Patch :=
  e.item.arrived ++ arrivals e.log

end Entry

/-- Why the board is shown after a command. -/
def occasionOf (c : Command) : Except ActionError Unit → Occasion
  | .ok () => .command c
  | .error e => .rejected e

/-- `Account b₀ entries b`: a session that begins with the board `b₀` can do what the entries say,
one after the other, and has the board `b` then.  Each frame has the board after its entry. -/
inductive Account (b₀ : Board) : List Entry → Board → Prop
  | loaded {log : BoardLog} {b : Board} {replaced : Bool}
      (course : b₀.load.Course log (b, replaced)) :
      Account b₀ [⟨.load, log, some ⟨.loaded, b⟩⟩] b
  | obeyed {entries : List Entry} {b c : Board} {command : Command} {log : BoardLog}
      {outcome : Except ActionError Unit} (before : Account b₀ entries c)
      (course : (c.handle command).Course log (b, outcome)) :
      Account b₀ (entries ++ [⟨.command command, log, some ⟨occasionOf command outcome, b⟩⟩]) b
  | absorbed {entries : List Entry} {b c d : Board} {patch : Patch} {log : BoardLog}
      {outcome : Subscriptions.Outcome} (before : Account b₀ entries c)
      (next : c.nextPatch? = some (patch, d))
      (course : (d.applyPatch patch).Course log (b, outcome)) :
      Account b₀ (entries ++ [⟨.patch patch, log,
        if outcome.changed then some ⟨.patched patch.record.id, b⟩ else none⟩]) b
  | received {entries : List Entry} {c : Board} (before : Account b₀ entries c)
      (patches : List Patch) :
      Account b₀ (entries ++ [⟨.arrival patches, [], none⟩]) (c.receive patches)

variable {b b₀ c : Board} {entries : List Entry} {log : BoardLog}

/-! ### What an account shows -/

/-- Whether a frame answers a command. -/
def Frame.answers (f : Frame) : Bool :=
  match f.occasion with
  | .command _ | .rejected _ => true
  | .loaded | .patched _ => false

/-- A frame that answers a command: it was carried out, or it was rejected or failed. -/
def Answers (c : Command) (f : Frame) : Prop :=
  f.occasion = .command c ∨ ∃ e, f.occasion = .rejected e

lemma answers_occasionOf (c : Command) (outcome : Except ActionError Unit) (b : Board) :
    Answers c ⟨occasionOf c outcome, b⟩ ∧ Frame.answers ⟨occasionOf c outcome, b⟩ = true := by
  cases outcome with
  | ok u => exact ⟨Or.inl rfl, rfl⟩
  | error e => exact ⟨Or.inr ⟨e, rfl⟩, rfl⟩

namespace Account

/-- The first frame is that of the first page, and no other one is. -/
lemma frames_eq (h : Account b₀ entries b) :
    ∃ first later, entries.filterMap Entry.frame = ⟨.loaded, first⟩ :: later ∧
      ∀ f ∈ later, f.occasion ≠ .loaded := by
  induction h with
  | @loaded log b => exact ⟨b, [], rfl, fun _ hmem => absurd hmem List.not_mem_nil⟩
  | @obeyed entries b c command log outcome _ _ ih =>
    obtain ⟨first, later, hframes, hlater⟩ := ih
    refine ⟨first, later ++ [⟨occasionOf command outcome, b⟩], by simp [hframes], fun f hf => ?_⟩
    rcases List.mem_append.mp hf with hf | hf
    · exact hlater f hf
    · obtain rfl := List.mem_singleton.mp hf
      cases outcome <;> simp [occasionOf]
  | @absorbed entries b c d patch log outcome _ _ _ ih =>
    obtain ⟨first, later, hframes, hlater⟩ := ih
    by_cases hchanged : outcome.changed = true
    · refine ⟨first, later ++ [⟨.patched patch.record.id, b⟩], by simp [hframes, hchanged],
        fun f hf => ?_⟩
      rcases List.mem_append.mp hf with hf | hf
      · exact hlater f hf
      · obtain rfl := List.mem_singleton.mp hf
        simp
    · exact ⟨first, later, by simp [hframes, hchanged], hlater⟩
  | received _ patches ih =>
    obtain ⟨first, later, hframes, hlater⟩ := ih
    exact ⟨first, later, by simp [hframes], hlater⟩

/-- The commands are answered one each, in their order. -/
lemma answered (h : Account b₀ entries b) :
    List.Forall₂ Answers (entries.filterMap Entry.command?)
      ((entries.filterMap Entry.frame).filter Frame.answers) := by
  induction h with
  | loaded => exact .nil
  | @obeyed entries b c command log outcome _ _ ih =>
    obtain ⟨hanswers, hfilter⟩ := answers_occasionOf command outcome b
    rw [List.filterMap_append, List.filterMap_append, List.filter_append]
    refine List.rel_append ih ?_
    simpa [Entry.command?, Item.command?, hfilter] using hanswers
  | @absorbed entries b c d patch log outcome _ _ _ ih =>
    rw [List.filterMap_append, List.filterMap_append, List.filter_append]
    refine List.rel_append ih ?_
    by_cases hchanged : outcome.changed = true <;>
      simp [Entry.command?, Item.command?, hchanged, Frame.answers]
  | received _ patches ih =>
    simpa [Entry.command?, Item.command?, List.filterMap_cons] using ih

end Account

/-! ### The patches that wait -/

lemma inbox_of_loads {replaced : Bool} (h : b.Loads log c replaced) :
    c.live.inbox.Sublist (b.live.inbox ++ arrivals log) := by
  cases h with
  | shown page arrived follows =>
    rw [arrivals_cons, ← List.append_assoc]
    rcases follows.quietly.2 with rfl | hinbox
    · exact List.nil_sublist _
    · rw [hinbox]
      exact List.Sublist.refl _
  | failed e arrived => simp [arrivedAt, Board.receive, Subscriptions.receive]

lemma inbox_of_requests {action : Call} {result : action.Result → Except RequestError Bool}
    {outcome : Except ActionError Bool} (h : b.Requests action result log c outcome) :
    c.live.inbox = b.live.inbox ++ arrivals log := by
  cases h <;> simp [arrivedAt, Board.receive, Subscriptions.receive]

lemma inbox_of_handles (h : b.Handles log c) :
    c.live.inbox.Sublist (b.live.inbox ++ arrivals log) := by
  cases h with
  | quiet steps rows live => simp [live]
  | loaded loads => exact inbox_of_loads loads
  | @turned query _ _ _ loads =>
    exact inbox_of_loads (b := { b.clearSelection with query }) loads
  | notCanceled requests | notRemoved requests =>
    rw [inbox_of_requests requests]
  | canceled loads | removed ended loads =>
    rw [arrivals_cons, ← List.append_assoc]
    exact inbox_of_loads loads

lemma inbox_of_course_handle {command : Command} {outcome : Except ActionError Unit}
    (h : (b.handle command).Course log (c, outcome)) :
    c.live.inbox.Sublist (b.live.inbox ++ arrivals log) := by
  obtain ⟨rest, rfl, hhandles⟩ := course_handle h
  have hinbox := inbox_of_handles hhandles
  by_cases hdown : (Operation.command command).tearsDown = true
  · simp only [Operation.base, Operation.opening, hdown, if_true, arrivals_append,
      arrivals_releasing, List.nil_append] at hinbox ⊢
    exact hinbox.trans (List.sublist_append_right _ _)
  · simpa [Operation.base, Operation.opening, hdown] using hinbox

lemma nextPatch?_inbox {patch : Patch} (h : b.nextPatch? = some (patch, c)) :
    b.live.inbox = patch :: c.live.inbox := by
  obtain ⟨waiting, hinbox, rfl⟩ := nextPatch?_eq_some_iff.mp h
  exact hinbox

/-- The patches that were taken in, and those that wait, are patches that had arrived, in the order
in which they did. -/
lemma Account.patches (h : Account b₀ entries b) :
    (entries.filterMap Entry.patch? ++ b.live.inbox).Sublist
      (b₀.live.inbox ++ entries.flatMap Entry.arrived) := by
  induction h with
  | loaded course =>
    simpa [Entry.patch?, Item.patch?, Entry.arrived, Item.arrived, List.filterMap_cons] using
      inbox_of_loads (course_load course)
  | @obeyed entries b c command log outcome _ course ih =>
    have hlater : (entries.filterMap Entry.patch? ++ b.live.inbox).Sublist
        ((entries.filterMap Entry.patch? ++ c.live.inbox) ++ arrivals log) := by
      rw [List.append_assoc]
      exact (List.Sublist.refl _).append (inbox_of_course_handle course)
    have hall := hlater.trans (ih.append (List.Sublist.refl (arrivals log)))
    simpa [Entry.patch?, Item.patch?, Entry.arrived, Item.arrived, List.filterMap_cons] using hall
  | @absorbed entries b c d patch log outcome _ next course ih =>
    obtain ⟨rfl, rfl, -⟩ := course_applyPatch_iff.mp course
    rw [nextPatch?_inbox next] at ih
    have hnone : arrivals (if (d.live.merge patch d.rows d.detail).outcome.releases then
        releasing [patch.record.id] else []) = [] := by
      split <;> simp
    simpa [Entry.patch?, Item.patch?, Entry.arrived, Item.arrived, List.filterMap_cons, hnone]
      using ih
  | received _ patches ih =>
    simpa [Entry.patch?, Item.patch?, Entry.arrived, Item.arrived, List.filterMap_cons,
      Board.receive, Subscriptions.receive] using ih.append (List.Sublist.refl patches)

/-! ### The history of an account -/

/-- What an account tells is a history of the board. -/
lemma Account.history (h : Account b₀ entries b) :
    ∃ deeds, History b₀ deeds b ∧ logOf deeds = entries.flatMap Entry.log := by
  induction h with
  | @loaded log b replaced course =>
    exact ⟨[⟨.command .refresh, log⟩], .next .start (course_refresh course), by simp [logOf]⟩
  | @obeyed entries b c command log outcome _ course ih =>
    obtain ⟨deeds, history, hlog⟩ := ih
    refine ⟨deeds ++ [⟨.command command, log⟩],
      history.next (course_perform_command_iff.mpr ⟨outcome, course⟩), ?_⟩
    simp [logOf_append, hlog]
  | @absorbed entries b c d patch log outcome _ next course ih =>
    obtain ⟨deeds, history, hlog⟩ := ih
    have htake : (c.perform .take).Course [] d := by
      simp [perform, next]
    have hnext : History b₀ (deeds ++ [⟨.take, []⟩]) d := history.next htake
    have happly : (d.perform (.apply patch)).Course log b :=
      course_board_iff.mpr ⟨outcome, course⟩
    refine ⟨deeds ++ [⟨.take, []⟩] ++ [⟨.apply patch, log⟩], hnext.next happly, ?_⟩
    rw [logOf_append, logOf_append, hlog]
    simp
  | @received entries c _ patches ih =>
    obtain ⟨deeds, history, hlog⟩ := ih
    refine ⟨deeds ++ [⟨.receive patches, []⟩], history.next (by simp [perform]), ?_⟩
    rw [logOf_append, hlog]
    simp

end RunBoard.Session
