import SaasyMediaEngine.Control.ControlStream
import SaasyMediaEngine.Listening.Commands

/-!
# What stopping a control stream does to the queued responses

`Stop` only resets `running_`.  What becomes of the messages that are in `outgoing_queue_`
then is decided in that moment, by where the outgoing thread is (`Outgoing.Drains`): either
they are all promised to be written, or the thread has left its inner loop for good and
writes nothing more.  `Settled` keeps this of a past step, and a run keeps it of all of them.

A client that closes its session meets the second case: its response is queued by the
incoming thread right before the removal is requested, and the removal stops the stream as
soon as its thread runs.

Whether anything is discarded has an exact condition, then, and it is one on the moment of
stopping: with an empty queue there is nothing to lose, and in its inner loop the thread goes on
until the queue is empty.  Everything that happens afterwards only carries this out.
-/

namespace Saasy.Control

open Transition Wire

variable {E : Engine}

namespace ControlStream

/-- The steps that call `Stop`. -/
def callsStop (s : ControlStream E) : StreamAction E → Bool
  | .stop => true
  | .incoming =>
      match s.incoming with
      | .stopping => true
      | _ => false
  | _ => false

/-- `Stop` is called, and takes effect: the stream was running. -/
def Stops (s : ControlStream E) (action : StreamAction E) : Prop :=
  s.outgoing.running = true ∧ s.callsStop action = true

instance (s : ControlStream E) (action : StreamAction E) : Decidable (s.Stops action) :=
  inferInstanceAs (Decidable (_ ∧ _))

variable {sessionId participantId : String} {s t : ControlStream E} {action : StreamAction E}

/-- Every step is one of the outgoing side, or leaves it as it is. -/
theorem Moved.outgoing (moved : s.Moved sessionId participantId action t) :
    t.outgoing = s.outgoing ∨ s.outgoing.Moved t.outgoing := by
  cases moved with
  | responds _ _ queued => exact .inr (.queues queued)
  | closes _ _ queued => exact .inr (.queues queued)
  | leaves _ => exact .inr .stops
  | emits _ _ queued => exact .inr (.queues queued)
  | advances advanced => exact .inr (.advances advanced)
  | stops => exact .inr .stops
  | sends _ _ queued => exact .inr (.queues queued)
  | _ => exact .inl rfl

theorem Moved.outgoing_of_callsStop (moved : s.Moved sessionId participantId action t)
    (calls : s.callsStop action = true) : t.outgoing = s.outgoing.stop := by
  cases moved with
  | leaves _ => rfl
  | stops => rfl
  | checks phase => simp [callsStop, phase] at calls
  | pushes phase _ => simp [callsStop, phase] at calls
  | responds phase _ _ => simp [callsStop, phase] at calls
  | closes phase _ _ => simp [callsStop, phase] at calls
  | answers phase => simp [callsStop, phase] at calls
  | removes phase => simp [callsStop, phase] at calls
  | _ => cases calls

/-- What a step that stops the stream has settled: that everything queued by then is written, or
that nothing is written any more. -/
structure Settled (stop : Taken (ControlStream E) (StreamAction E))
    (o : Outgoing (Message E)) : Prop where
  promised : stop.before.outgoing.Drains → Outgoing.Promised stop.before.outgoing.queued o
  abandoned : ¬ stop.before.outgoing.Drains →
    Outgoing.Abandoned stop.before.outgoing.written o

theorem settled_stop (s : ControlStream E) (action : StreamAction E) (t : ControlStream E) :
    Settled ⟨s, action, t⟩ s.outgoing.stop where
  promised drains := (Outgoing.promised_of_drains drains).moved .stops
  abandoned lost := by
    obtain ⟨-, outside⟩ := not_or.mp lost
    exact ⟨rfl, Bool.eq_false_iff.mpr outside, rfl⟩

theorem Settled.moved {stop : Taken (ControlStream E) (StreamAction E)}
    (settled : Settled stop s.outgoing) (moved : s.Moved sessionId participantId action t) :
    Settled stop t.outgoing := by
  obtain same | step := moved.outgoing
  · rw [same]
    exact settled
  · exact ⟨fun drains => (settled.promised drains).moved step,
      fun lost => (settled.abandoned lost).moved step⟩

/-- **What stopping has settled stays so** for the rest of the run, however often the stream is
stopped again. -/
theorem settled_of_run {session : E.Session} {actions : List (StreamAction E)}
    (reached : (controlStream E sessionId participantId session).run (started session) actions =
      some s) :
    ∀ stop ∈ (controlStream E sessionId participantId session).transitions (started session)
      actions, Stops stop.before stop.action → Settled stop s.outgoing := by
  refine (controlStream E sessionId participantId session).behind_of_run
    (fun stop s => Stops stop.before stop.action → Settled stop s.outgoing)
    (motive := fun _ => True) (fun _ _ _ _ _ => trivial) ?_ ?_ trivial reached
  · intro s action t _ step stops
    rw [(step_moved step).outgoing_of_callsStop stops.2]
    exact settled_stop s action t
  · exact fun _ _ _ _ settled step stops => (settled stops).moved (step_moved step)

/-- Once the outgoing thread has exited, all that was queued before the stop was written, or
something was lost. -/
theorem Settled.written_iff {stop : Taken (ControlStream E) (StreamAction E)}
    (settled : Settled stop s.outgoing) (exited : s.outgoing.writer = .exited) :
    stop.before.outgoing.queued <+: s.outgoing.written ↔ stop.before.outgoing.Drains := by
  constructor
  · intro written
    by_contra lost
    rw [(settled.abandoned lost).same] at written
    have bound := written.length_le
    rw [Outgoing.queued, List.length_append, List.length_append] at bound
    exact lost (.inl (List.eq_nil_of_length_eq_zero (by omega)))
  · intro drains
    refine (settled.promised drains).written.resolve_left ?_
    simp [Outgoing.draining, exited]

end ControlStream

/-- **Stopping discards nothing exactly when** the queue is empty at that moment, or the outgoing
thread is inside its inner loop, where it does not look at the flag. -/
theorem written_of_exited_iff (E : Engine) (sessionId participantId : String)
    (session : E.Session) (actions : List (StreamAction E)) (s : ControlStream E)
    (reached : (controlStream E sessionId participantId session).run (.started session) actions =
      some s) (exited : s.outgoing.writer = .exited) :
    (∀ stop ∈ (controlStream E sessionId participantId session).transitions (.started session)
        actions, stop.before.Stops stop.action →
        stop.before.outgoing.queued <+: s.outgoing.written) ↔
      (controlStream E sessionId participantId session).Meets
        (fun s action => s.Stops action → s.outgoing.Drains) (.started session) actions := by
  refine forall_congr' fun stop => forall_congr' fun mem => forall_congr' fun stops => ?_
  exact (ControlStream.settled_of_run reached stop mem stops).written_iff exited

/-- The stream is stopped while the response to `close_session` is being written. -/
theorem written_of_exited_closing :
    letI := Double.x86Cast
    ∃ actions s, (controlStream ListeningEngine.listeningEngine "session" "participant"
        .created).run (.started .created) actions = some s ∧
      s.outgoing.written.length = 1 ∧
      ∀ stop ∈ (controlStream ListeningEngine.listeningEngine "session" "participant"
          .created).transitions (.started .created) actions,
        stop.before.Stops stop.action → stop.before.outgoing.queued <+: s.outgoing.written := by
  let := Double.x86Cast
  refine ⟨[.outgoing, .incoming,
    .read (.request ⟨"close", "session", "participant", "close_session", .closeSession⟩),
    .incoming, .outgoing, .outgoing, .outgoing, .incoming, .stop,
    .outgoing, .outgoing, .outgoing], _, rfl, rfl, ?_⟩
  refine (written_of_exited_iff ListeningEngine.listeningEngine "session" "participant" .created
    _ _ rfl rfl).mpr ?_
  decide +kernel

/-- The stream is stopped after the response to `close_session` was queued, and before the
outgoing thread has taken the lock: the response stays in the queue. -/
theorem closeSession_discarded :
    letI := Double.x86Cast
    ∃ actions s, (controlStream ListeningEngine.listeningEngine "session" "participant"
        .created).run (.started .created) actions = some s ∧
      s.removalRequested = true ∧ s.outgoing.writer = .exited ∧
      ¬ ∀ stop ∈ (controlStream ListeningEngine.listeningEngine "session" "participant"
          .created).transitions (.started .created) actions,
        stop.before.Stops stop.action → stop.before.outgoing.queued <+: s.outgoing.written := by
  let := Double.x86Cast
  refine ⟨[.outgoing, .incoming,
    .read (.request ⟨"close", "session", "participant", "close_session", .closeSession⟩),
    .incoming, .incoming, .stop, .outgoing, .outgoing], _, rfl, rfl, rfl, fun all => ?_⟩
  have written := all _ (List.mem_append_right [_, _, _, _, _] List.mem_cons_self) (by decide)
  exact absurd (List.prefix_nil.mp written) (List.cons_ne_nil _ _)

end Saasy.Control
