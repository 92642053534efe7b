/-!
# Tasks

A task is a computation that now and then puts a question to its surroundings and goes on with the
answer, and that tells them of events on the way.  What a question means, and when it is answered,
is left to whoever runs the task: `Task.run` takes the answers from any monad.
-/

namespace RunBoard

/-- A computation that asks questions from `Q`, each with its own type of answers, tells events of
type `E`, and ends with a value. -/
inductive Task (Q : Type) (A : Q → Type) (E : Type) (α : Type) : Type where
  | done (value : α)
  | tell (event : E) (next : Task Q A E α)
  | ask (question : Q) (next : A question → Task Q A E α)

namespace Task

variable {Q : Type} {A : Q → Type} {E α β γ : Type}

/-- Goes on with `f` after a task has ended. -/
def bind (f : α → Task Q A E β) : Task Q A E α → Task Q A E β
  | done a => f a
  | tell e t => tell e (bind f t)
  | ask q k => ask q fun a => bind f (k a)

instance : Monad (Task Q A E) where
  pure := done
  bind t f := bind f t

/-- Puts one question and ends with the answer. -/
def query (q : Q) : Task Q A E (A q) :=
  ask q done

/-- Tells one event. -/
def emit (e : E) : Task Q A E Unit :=
  tell e (done ())

/-- Tells events one after the other. -/
def emitAll : List E → Task Q A E Unit
  | [] => done ()
  | e :: es => tell e (emitAll es)

/-- Runs a task in a monad that answers its questions and hears its events. -/
def run {m : Type → Type} [Monad m] (answer : (q : Q) → m (A q)) (hear : E → m Unit) :
    Task Q A E α → m α
  | done a => pure a
  | tell e t => do
    hear e
    run answer hear t
  | ask q k => do
    let a ← answer q
    run answer hear (k a)

@[simp] theorem pure_eq_done (a : α) : (pure a : Task Q A E α) = done a := rfl

@[simp] theorem done_bind (a : α) (f : α → Task Q A E β) : (done a >>= f) = f a := rfl

@[simp] theorem tell_bind (e : E) (t : Task Q A E α) (f : α → Task Q A E β) :
    (tell e t >>= f) = tell e (t >>= f) := rfl

@[simp] theorem ask_bind (q : Q) (k : A q → Task Q A E α) (f : α → Task Q A E β) :
    (ask q k >>= f) = ask q fun a => k a >>= f := rfl

theorem bind_done (t : Task Q A E α) : (t >>= done) = t := by
  induction t with
  | done a => rfl
  | tell e t ih => rw [tell_bind, ih]
  | ask q k ih => rw [ask_bind]; exact congrArg (ask q) (funext ih)

theorem bind_assoc (t : Task Q A E α) (f : α → Task Q A E β) (g : β → Task Q A E γ) :
    (t >>= f >>= g) = t >>= fun a => f a >>= g := by
  induction t with
  | done a => rfl
  | tell e t ih => simp only [tell_bind, ih]
  | ask q k ih => simp only [ask_bind]; exact congrArg (ask q) (funext ih)

end Task

end RunBoard
