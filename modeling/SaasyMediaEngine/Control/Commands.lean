import SaasyMediaEngine.Transition.Program

/-!
# Commands

`command_framework.cpp`: the queue of a session's command thread, and what the thread
executes.  A command is a `Program` over the session that puts out what it passes to its
callback, a response or an error.

An `Engine` is the commands of one engine, together with the fact that the control stream
relies on: whatever happens, a command invokes its callback once.

A command reads members of the session, changes some, calls into libraries that may throw, and
answers; the `try` around its body turns what was thrown into an error response.  As a `Program`
each of these is a step of its own, because other threads may look at the session, or take it
apart, between two of them.  What a library call does is not computed here: an `Outcome` says for
each call of a command whether it throws and what it returns, and everything is proved for all
outcomes.  Object identities are numbers that grow with each object created.
-/

namespace Saasy.Control

open Transition

/-- `CommandQueue`: what was pushed and not popped, and whether it was stopped. -/
structure CommandQueue (Wrapper : Type) where
  queue : List Wrapper
  stopped : Bool
  deriving DecidableEq

namespace CommandQueue

variable {Wrapper : Type}

def empty : CommandQueue Wrapper := ⟨[], false⟩

/-- `Push`. -/
def push (wrapper : Wrapper) (q : CommandQueue Wrapper) : CommandQueue Wrapper :=
  if q.stopped then q else { q with queue := q.queue ++ [wrapper] }

/-- `TryPop`. -/
def tryPop (q : CommandQueue Wrapper) : Option (Wrapper × CommandQueue Wrapper) :=
  match q.queue with
  | [] => none
  | wrapper :: rest => if q.stopped then none else some (wrapper, { q with queue := rest })

/-- `Stop`. -/
def stop (_ : CommandQueue Wrapper) : CommandQueue Wrapper := ⟨[], true⟩

variable {q q' : CommandQueue Wrapper} {wrapper : Wrapper}

theorem push_of_open (isOpen : q.stopped = false) :
    q.push wrapper = { q with queue := q.queue ++ [wrapper] } := by
  rw [push, isOpen]
  rfl

theorem tryPop_eq_some (popped : q.tryPop = some (wrapper, q')) :
    q.queue = wrapper :: q'.queue ∧ q'.stopped = q.stopped := by
  unfold tryPop at popped
  split at popped
  case h_1 => cases popped
  case h_2 first rest queue =>
    split_ifs at popped
    cases popped
    exact ⟨queue, rfl⟩

end CommandQueue

/-- What a callback is invoked with: a response, or the text of an error. -/
abbrev Answer (Result : Type) := Except String Result

/-- The body of an `Execute`, which may throw. -/
abbrev CommandM (Op Session Result : Type) := Throwing Op Session (Answer Result)

section

variable {Op Session Result : Type}

/-- `InvokeCallback(response)`. -/
def invokeCallback (response : Result) : CommandM Op Session Result Unit :=
  Throwing.output (.ok response)

/-- `Execute`: the body, and `InvokeCallback(e.what())` for whatever it throws. -/
def executing (body : CommandM Op Session Result Unit) :
    Program Op Session (Answer Result) Unit :=
  body.catchWith .error

/-- Whether the callback was invoked: it is not invoked again. -/
def answering : Bool → Op ⊕ Answer Result → Option Bool
  | answered, .inl _ => some answered
  | false, .inr _ => some true
  | true, .inr _ => none

@[simp] theorem answering_inl {answered : Bool} {op : Op} :
    @answering Op Result answered (.inl op) = some answered := by
  cases answered <;> rfl

@[simp] theorem follows_invokeCallback {response : Result} {returns : Unit → Bool → Prop}
    {throws : Bool → Prop} :
    Throwing.Follows answering (invokeCallback response : CommandM Op Session Result Unit) false
      returns throws ↔ returns () true := by
  show (∃ answered, some true = some answered ∧ returns () answered) ↔ _
  simp

/-- The body invokes the callback once, or throws before it does. -/
def AnswersOrThrows (body : CommandM Op Session Result Unit) : Prop :=
  Throwing.Follows answering body false (fun _ answered => answered = true)
    fun answered => answered = false

/-- The callback is invoked once. -/
def AnswersOnce (program : Program Op Session (Answer Result) Unit) : Prop :=
  program.Follows answering false fun _ answered => answered = true

theorem answersOnce_executing {body : CommandM Op Session Result Unit}
    (answers : AnswersOrThrows body) : AnswersOnce (executing body) := by
  refine Throwing.follows_catchWith (Program.Follows.mono answers fun result answered holds => ?_)
  cases result with
  | ok _ => exact holds
  | error message =>
      obtain rfl : answered = false := holds
      exact fun message => ⟨true, rfl, rfl⟩

end

/-- The commands of an engine, and whether it sends requests of its own.  An outcome is what
the libraries below the engine do while a command is executed. -/
structure Engine where
  Session : Type
  Op : Type
  Command : Type
  Outcome : Type
  Result : Type
  /-- What an operation does to the session. -/
  apply : Op → Session → Session
  execute : Command → Outcome → Program Op Session (Answer Result) Unit
  answersOnce : ∀ command outcome, AnswersOnce (execute command outcome)
  initiatesRequests : Bool

end Saasy.Control
