import Mathlib.Data.List.ReduceOption
import SaasyMediaEngine.Service.Streams

/-!
# What an event stream delivers

`QueueEvent` adds to the end of the queue, the outgoing thread takes from its front: the events
that were handed to `Write` and those that are queued, one behind the other, are those that were
queued, in their order.

`told` is this list, for a `Connection` around the threads of an event stream, and `told_of_step`
its law for a step.  Both engines report through such a stream, and both properties of what an
orchestrator is told, `Listening.Reports` and `Speaking.Announcements`, count on it.  The last
lemma is about the handler: no step takes an attached stream from the session again.
-/

namespace Saasy.Service

variable {Event : Type}

/-- The event that a step queues. -/
def EventStreamAction.queued : EventStreamAction Event → List Event
  | .queueEvent event => [event]
  | _ => []

/-- A step takes the event that it begins to write from the front of the queue. -/
theorem EventStream.eventQueue_of_step {s t : EventStream Event}
    {action : EventStreamAction Event} (step : s.step action = some t) :
    (s.begins action).toList ++ t.eventQueue = s.eventQueue ++ action.queued := by
  cases action with
  | outgoing =>
      obtain ⟨running, eventQueue, reader, writer⟩ := s
      rw [show EventStreamAction.outgoing.queued = ([] : List Event) from rfl, List.append_nil]
      cases writer with
      | draining =>
          cases running <;> cases eventQueue <;> cases step <;> rfl
      | waiting =>
          obtain ⟨-, ⟨⟩⟩ := Option.ite_none_left_eq_some.mp step
          rfl
      | exited => cases step
      | checking | writing event =>
          cases step
          rfl
  | incoming | read ok =>
      obtain ⟨-, ⟨⟩⟩ := Option.ite_none_right_eq_some.mp step
      exact (List.append_nil _).symm
  | queueEvent event =>
      obtain ⟨-, ⟨⟩⟩ := Option.ite_none_left_eq_some.mp step
      rfl
  | stop =>
      cases step
      exact (List.append_nil _).symm

namespace Connection

/-- What was handed to `Write`, less the acknowledgement. -/
def written (c : Connection (eventThreads Event)) : List Event :=
  List.reduceOption (α := Event) c.begun

/-- What was handed to `Write`, and what is queued for it. -/
def told (c : Connection (eventThreads Event)) : List Event :=
  c.written ++ EventStream.eventQueue c.threads

/-- What a step of the stream adds to it. -/
def queuedBy : ConnectionAction (eventThreads Event) → List Event
  | .thread action => EventStreamAction.queued action
  | _ => []

theorem reduceOption_append_map_some (front : List (Option Event)) (new : List Event) :
    (front ++ new.map some).reduceOption = front.reduceOption ++ new := by
  rw [List.reduceOption_append]
  simp [List.reduceOption]

theorem told_of_step {c d : Connection (eventThreads Event)}
    {action : ConnectionAction (eventThreads Event)} (step : c.step action = some d) :
    d.told = c.told ++ queuedBy action := by
  cases action with
  | start | attach | endAck =>
      obtain ⟨-, ⟨⟩⟩ := Option.ite_none_right_eq_some.mp step
      exact (List.append_nil _).symm
  | beginAck =>
      obtain ⟨-, ⟨⟩⟩ := Option.ite_none_right_eq_some.mp step
      have begun : List.reduceOption ((c.begun : List (Option Event)) ++ [none]) = c.written :=
        (List.reduceOption_append ..).trans (List.append_nil _)
      exact (congrArg (· ++ _) begun).trans (List.append_nil _).symm
  | thread action =>
      obtain ⟨threads, moved, rfl⟩ := thread_cases step
      have queue : (EventStream.begins c.threads action).toList ++ EventStream.eventQueue threads =
          EventStream.eventQueue c.threads ++ EventStreamAction.queued action :=
        EventStream.eventQueue_of_step moved
      have begun := reduceOption_append_map_some c.begun
        (EventStream.begins c.threads action).toList
      calc
        _ = c.written ++ (EventStream.begins c.threads action).toList ++
            EventStream.eventQueue threads := congrArg (· ++ _) begun
        _ = c.written ++ (EventStream.eventQueue c.threads ++
            EventStreamAction.queued action) := by rw [List.append_assoc, queue]
        _ = _ := (List.append_assoc _ _ _).symm

/-- Once attached, the stream stays with the session. -/
theorem isAttached_of_step {T : StreamThreads} {c d : Connection T} {action : ConnectionAction T}
    (step : c.step action = some d) (attached : c.handler.isAttached = true) :
    d.handler.isAttached = true := by
  cases action with
  | start =>
      obtain ⟨phase, ⟨⟩⟩ := Option.ite_none_right_eq_some.mp step
      rw [phase] at attached
      cases attached
  | attach | beginAck | endAck =>
      obtain ⟨-, ⟨⟩⟩ := Option.ite_none_right_eq_some.mp step
      rfl
  | thread action =>
      obtain ⟨threads, -, rfl⟩ := thread_cases step
      exact attached

end Connection

end Saasy.Service
