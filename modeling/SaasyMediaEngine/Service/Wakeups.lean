import Mathlib.Logic.Relation
import SaasyMediaEngine.Service.Streams
import SaasyMediaEngine.Transition.Waiting

/-!
# The condition variables of the streams

The outgoing threads of the control stream and of the event stream wait on `queue_cv_` under
`queue_mutex_`, for a message or for `running_` to be reset.  `QueueMessage` and `QueueEvent`
push under the mutex and notify afterwards; `Stop` resets `running_` without the mutex.

So a thread never sleeps over a message.  It sleeps over a `Stop` exactly when that falls between
the test and the sleep (`StopsOutside`), and then the destructor of the stream, which joins the
thread, waits with it.

The streams themselves, `eventThreads` and `Outgoing`, know nothing of sleep: there a thread whose
predicate fails is not enabled.  The machines here refine them, as a sleeping thread only leaves
the rest of its state alone, so whatever holds of a stream at all times holds with the condition
variables too.
-/

namespace Saasy.Service

open Transition

/-! ### The event stream

The writer waits for the queue or the end of the stream, under the mutex of the queue.  It is an
instance of `QueueWait`, whose fields are what the source does. -/

namespace EventStream

variable {Event : Type}

theorem running_stepOutgoing {s t : EventStream Event} (step : s.stepOutgoing = some t) :
    t.running = s.running := by
  unfold stepOutgoing at step
  split at step
  case h_2 =>
    obtain ⟨-, ⟨⟩⟩ := Option.ite_none_left_eq_some.mp step
    rfl
  case h_3 => split at step <;> cases step <;> rfl
  all_goals cases step <;> rfl

/-- `ProcessOutgoingEvents` and the users of the stream. -/
def queueWait (Event : Type) : QueueWait (EventStream Event) (EventStreamAction Event) where
  init := .started
  waiting s := s.writer matches .waiting
  ready s := !s.eventQueue.isEmpty || !s.running
  advance := stepOutgoing
  change s
    | .outgoing => none
    | action => s.step action
  guarded action := action matches .queueEvent _
  notifies _
    | .queueEvent _ | .stop => true
    | _ => false
  queued s := !s.eventQueue.isEmpty
  running := running
  exited s := s.writer matches .exited
  stop := .stop
  waiting_init := rfl
  waiting_change := by
    intro s t action step
    cases action with
    | outgoing => cases step
    | incoming | read ok =>
        obtain ⟨-, ⟨⟩⟩ := Option.ite_none_right_eq_some.mp step
        rfl
    | queueEvent event =>
        obtain ⟨-, ⟨⟩⟩ := Option.ite_none_left_eq_some.mp step
        rfl
    | stop =>
        cases step
        rfl
  ready_eq _ := rfl
  queued_change := by
    intro s t action step queued
    cases action with
    | outgoing => cases step
    | incoming | read ok =>
        obtain ⟨-, ⟨⟩⟩ := Option.ite_none_right_eq_some.mp step
        exact .inl queued
    | queueEvent event => exact .inr ⟨rfl, rfl⟩
    | stop =>
        cases step
        exact .inl queued
  running_change := by
    intro s t action step
    cases action with
    | outgoing => cases step
    | incoming | read ok =>
        obtain ⟨-, ⟨⟩⟩ := Option.ite_none_right_eq_some.mp step
        exact .inl rfl
    | queueEvent event =>
        obtain ⟨-, ⟨⟩⟩ := Option.ite_none_left_eq_some.mp step
        exact .inl rfl
    | stop => exact .inr rfl
  running_stop := by
    rintro s t ⟨⟩
    rfl
  notifies_stop _ := rfl
  running_advance := running_stepOutgoing
  finishes := by
    rintro ⟨running, queue, reader, writer⟩ rfl
    cases writer with
    | checking => exact ⟨1, _, rfl, rfl⟩
    | waiting =>
        refine ⟨3, ⟨false, queue, reader, .exited⟩, ?_, rfl⟩
        cases queue <;> rfl
    | draining =>
        refine ⟨2, ⟨false, queue, reader, .exited⟩, ?_, rfl⟩
        cases queue <;> rfl
    | writing event =>
        refine ⟨3, ⟨false, queue, reader, .exited⟩, ?_, rfl⟩
        cases queue <;> rfl
    | exited => exact ⟨0, _, rfl, rfl⟩

/-- Asleep or not, the threads are those of `eventThreads`. -/
theorem reachable_of_sleeping {s : Sleeping (EventStream Event)}
    (reached : (queueWait Event).sleeping.Reachable s) :
    (eventThreads Event).machine.Reachable s.base := by
  refine (queueWait Event).plain.invariant (motive := (eventThreads Event).machine.Reachable)
    ⟨[], rfl⟩ ?_ (WaitLoop.reachable_base reached)
  intro s action t before step
  cases action with
  | none => exact before.step (a := .outgoing) step
  | some action =>
      refine before.step (a := action) ?_
      cases action with
      | outgoing => cases step
      | _ => exact step

end EventStream

end Saasy.Service

/-! ### The control stream

Here the machine without sleep is the outgoing side alone, as nothing else of the stream has to do
with the wait. -/

namespace Saasy.Control.Outgoing

open Transition

/-- What others do to the outgoing side: they queue a message under the lock, or stop the stream
without it. -/
inductive Use (Message : Type) where
  | queueMessage (message : Message)
  | stop

variable {Message : Type}

/-- `ProcessOutgoingMessages` and the users of the stream. -/
def waitLoop (Message : Type) : WaitLoop (Outgoing Message) (Use Message) where
  init := .started
  waiting o := o.writer matches .waiting
  ready o := !o.outgoingQueue.isEmpty || !o.running
  advance := advance
  change o
    | .queueMessage message => o.queueMessage message
    | .stop => some o.stop
  guarded use := use matches .queueMessage _
  notifies o
    | .queueMessage _ => true
    -- `if (running_.exchange(false))`
    | .stop => o.running
  waiting_init := rfl
  waiting_change := by
    intro o o' use changed
    cases use with
    | queueMessage message => rw [← eq_of_queueMessage changed]
    | stop =>
        cases changed
        rfl

/-- Inside its inner loop the thread writes all of the queue before it leaves. -/
theorem finishes_draining (queue written : List Message) :
    ∃ n o, (waitLoop Message).plain.run ⟨false, queue, .draining, written⟩
      (List.replicate n none) = some o ∧ o.writer = .exited := by
  induction queue generalizing written with
  | nil => exact ⟨2, _, rfl, rfl⟩
  | cons message queue ih =>
      obtain ⟨n, o, run, exited⟩ := ih (written ++ [message])
      exact ⟨n + 2, o, run, exited⟩

def queueWait (Message : Type) : QueueWait (Outgoing Message) (Use Message) where
  toWaitLoop := waitLoop Message
  queued o := !o.outgoingQueue.isEmpty
  running := running
  exited o := o.writer matches .exited
  stop := .stop
  ready_eq _ := rfl
  queued_change := by
    intro o o' use changed queued
    cases use with
    | queueMessage message => exact .inr ⟨rfl, rfl⟩
    | stop =>
        cases changed
        exact .inl queued
  running_change := by
    intro o o' use changed
    cases use with
    | queueMessage message =>
        rw [← eq_of_queueMessage changed]
        exact .inl rfl
    | stop => exact .inr rfl
  running_stop := by
    rintro o o' ⟨⟩
    rfl
  notifies_stop running := running
  running_advance := by
    intro o o' advanced
    cases advanced_of_advance advanced <;> rfl
  finishes := by
    rintro ⟨running, queue, writer, written⟩ rfl
    cases writer with
    | checking => exact ⟨1, _, rfl, rfl⟩
    | waiting =>
        refine ⟨2, ⟨false, queue, .exited, written⟩, ?_, rfl⟩
        cases queue <;> rfl
    | woken => exact ⟨1, _, rfl, rfl⟩
    | draining =>
        obtain ⟨n, o, run, exited⟩ := finishes_draining queue written
        exact ⟨n, o, run, by simp [exited]⟩
    | writing message =>
        obtain ⟨n, o, run, exited⟩ := finishes_draining queue (written ++ [message])
        exact ⟨n + 1, o, run, by simp [exited]⟩
    | exited => exact ⟨0, _, rfl, rfl⟩

/-- Asleep or not, each step is one of the outgoing side, or none. -/
theorem moved_of_sleeping {s t : Sleeping (Outgoing Message)}
    {action : SleepingAction (Use Message)}
    (step : (queueWait Message).sleeping.step s action = some t) :
    t.base = s.base ∨ s.base.Moved t.base := by
  refine (WaitLoop.step_moved step).base.imp id ?_
  rintro ⟨_ | use, stepped⟩
  · exact .advances stepped
  · cases use with
    | queueMessage message => exact .queues stepped
    | stop =>
        rw [← Option.some.inj stepped]
        exact .stops

theorem moves_of_sleeping {s : Sleeping (Outgoing Message)}
    (reached : (queueWait Message).sleeping.Reachable s) :
    Relation.ReflTransGen Moved .started s.base := by
  refine (queueWait Message).sleeping.invariant
    (motive := fun s => Relation.ReflTransGen Moved .started s.base) .refl ?_ reached
  intro s action t moves step
  obtain same | moved := moved_of_sleeping step
  · rwa [same]
  · exact moves.tail moved

end Saasy.Control.Outgoing

namespace Saasy.Service

open Transition

/-- **No outgoing thread sleeps over a message, and none over a `Stop`** that does not fall
between its test and its sleep; one that does can leave the thread asleep for good.  The streams
reach no state that they do not reach without sleeping. -/
theorem outgoing_wakes :
    (∀ (Event : Type) actions s,
      (EventStream.queueWait Event).sleeping.run (EventStream.queueWait Event).sleeping.init
        actions = some s →
        (EventStream.queueWait Event).Wakes actions s ∧
          (eventThreads Event).machine.Reachable s.base) ∧
    (∀ (Message : Type) actions s,
      (Control.Outgoing.queueWait Message).sleeping.run
        (Control.Outgoing.queueWait Message).sleeping.init actions = some s →
        (Control.Outgoing.queueWait Message).Wakes actions s ∧
          Relation.ReflTransGen Control.Outgoing.Moved .started s.base) :=
  ⟨fun _ actions _ reached => ⟨QueueWait.wakes_of_run reached,
      EventStream.reachable_of_sleeping ⟨actions, reached⟩⟩,
    fun _ actions _ reached => ⟨QueueWait.wakes_of_run reached,
      Control.Outgoing.moves_of_sleeping ⟨actions, reached⟩⟩⟩

/-- The first thread is woken for an event, the second one sleeps over a `Stop`. -/
theorem outgoing_wakes_stopped :
    let events := EventStream.queueWait String
    let control := Control.Outgoing.queueWait String
    let woken := [.thread, .thread, .thread, .thread, .change (.queueEvent "e"), .notify, .thread]
    let stopped := [.thread, .thread, .thread, .change .stop, .notify, .thread]
    (∃ s, events.sleeping.run events.sleeping.init woken = some s ∧ s.phase = .testing ∧
      events.Wakes woken s ∧ (eventThreads String).machine.Reachable s.base) ∧
    ∃ s, control.sleeping.run control.sleeping.init stopped = some s ∧ control.Asleep s ∧
      s.base.running = false ∧ control.Wakes stopped s ∧
      Relation.ReflTransGen Control.Outgoing.Moved .started s.base :=
  ⟨⟨_, rfl, rfl, outgoing_wakes.1 String _ _ rfl⟩,
    ⟨_, rfl, by decide, rfl, outgoing_wakes.2 String _ _ rfl⟩⟩

end Saasy.Service
