import SaasyMediaEngine.Control.ControlStream

/-!
# Commands one after the other

A session has one command thread, so its commands are executed one after the other:
`commandMachine` takes a whole command in a step.  `ControlStream.finished_reachable` says
that this is all there is to see of a session that only the commands of a control stream
use, however the threads of the stream are interleaved.

It is what the properties of a session over its commands rest on (`Control.DeviceLife`,
`Listening.Attachment`): they are proved over `commandMachine`, where a command is one step, and
hold of a session under a control stream because the commands it has finished are such a run.
-/

namespace Saasy.Control

open Transition

/-- A command with its outcome, executed from the beginning to the end. -/
def Engine.executed (E : Engine) (s : E.Session) (action : E.Command × E.Outcome) :
    Program.Ended E.Session (Answer E.Result) Unit :=
  (E.execute action.1 action.2).exec E.apply s

/-- **A session and its commands**, one after the other: the machine of one thread that runs each
command to its end, on what mediasoupclient does in it. -/
def commandMachine (E : Engine) (session : E.Session) :
    Machine E.Session (E.Command × E.Outcome) where
  init := session
  step s action := some (E.executed s action).state

/-- What the callback of a command is invoked with. -/
def Engine.answers (E : Engine) (t : Taken E.Session (E.Command × E.Outcome)) :
    List (Answer E.Result) :=
  (E.executed t.before t.action).outputs

namespace ControlStream

variable {E : Engine}

/-- The session, once the command that is being executed has ended. -/
def finished (s : ControlStream E) : E.Session :=
  match s.executing with
  | none => s.session
  | some execution => (execution.rest.exec E.apply s.session).state

theorem finished_of_none {s : ControlStream E} (idle : s.executing = none) :
    s.finished = s.session := by
  rw [finished, idle]

theorem finished_of_some {s : ControlStream E} {execution : Execution E}
    (executing : s.executing = some execution) :
    s.finished = (execution.rest.exec E.apply s.session).state := by
  rw [finished, executing]

/-- A step of the stream takes up a command, or leaves the end of the current one as it
is. -/
theorem finished_of_moved {sessionId participantId : String} {s t : ControlStream E}
    {action : StreamAction E} (moved : s.Moved sessionId participantId action t) :
    t.finished = s.finished ∨ ∃ taken, t.finished = (E.executed s.finished taken).state := by
  cases moved with
  | @pops ticket command commandQueue outcome idle popped =>
      rw [finished_of_none idle]
      exact .inr ⟨(command, outcome), rfl⟩
  | finishes executing done =>
      rw [finished_of_some executing, done]
      exact .inl rfl
  | looks executing look =>
      rw [finished_of_some executing, look]
      exact .inl rfl
  | performs executing perform =>
      rw [finished_of_some executing, perform]
      exact .inl rfl
  | emits executing emit queued =>
      rw [finished_of_some executing, emit]
      exact .inl rfl
  | _ => exact .inl rfl

/-- **A control stream executes its commands one after the other**, so what holds of every session
that commands lead to holds behind a control stream as well, as soon as no command is being
executed. -/
theorem finished_reachable {sessionId participantId : String} {session : E.Session}
    {s : ControlStream E}
    (reached : (controlStream E sessionId participantId session).Reachable s) :
    (commandMachine E session).Reachable s.finished := by
  refine Machine.invariant _ (motive := fun s => (commandMachine E session).Reachable s.finished)
    ?_ (fun s action t before step => ?_) reached
  · exact ⟨[], rfl⟩
  · obtain same | ⟨taken, ended⟩ := finished_of_moved (step_moved step)
    · exact same ▸ before
    · rw [ended]
      exact before.step (a := taken) rfl

end ControlStream

end Saasy.Control
