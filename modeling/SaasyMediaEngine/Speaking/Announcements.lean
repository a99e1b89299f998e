import SaasyMediaEngine.Service.Deliveries
import SaasyMediaEngine.Speaking.Completion
import SaasyMediaEngine.Transition.Observation
import SaasyMediaEngine.Wire.Dtls

/-!
# What the orchestrator is told of the playback

The playback completion callback looks for the event stream of the session and queues
`on_playback_complete`; without a stream it is only logged.  `QueueEvent` waits for the lock of
the queue, and the capture thread with it.  The outgoing thread writes what is queued, next to
the handler that writes the acknowledgement and to a transport that reports its connection.

`announcements_of_run` is what the orchestrator can make of the announcements it gets.

The callback runs on the capture thread, between two iterations, and takes two steps: it looks
for the event stream, and if there is one it gets to the queue.  In between, the outgoing thread,
the handler and the transport go on, while the capture thread has to wait with its next frame.  A
completion is known by how many chunks had been pushed when it was armed, so that
`on_playback_complete` can be traced to its `SpeechGenerationComplete`, although the event does not
say so.

What is announced is counted on both ends: by the steps of the callbacks, and by what was written
and what is queued; and those that found no stream are missed for good.
-/

namespace Saasy.SpeakingEngine

open Transition
open Saasy.Service (Connection ConnectionAction eventThreads)

/-- What an event carries.  A completion is known by the chunks that had been pushed when it was
armed, which nothing here looks at. -/
inductive EventPayload where
  | onPlaybackComplete (armed : ℕ)
  | onConnect (transportId : String) (deviceDtlsParameters : Wire.DtlsParameters)

def EventPayload.type : EventPayload → String
  | .onPlaybackComplete _ => "on_playback_complete"
  | .onConnect _ _ => "on_connect"

/-- `EngineToOrchestratorEvent`, with the ids of its stream and what it carries. -/
structure EngineEvent where
  type : String
  sessionId : String
  participantId : String
  payload : EventPayload

/-- The completion that an event announces. -/
def EngineEvent.armed? (event : EngineEvent) : Option ℕ :=
  match event.payload with
  | .onPlaybackComplete armed => some armed
  | .onConnect _ _ => none

/-- The session and the participant of an event stream, which all of its events carry. -/
structure EventIds where
  sessionId : String
  participantId : String

/-- What `SendOnPlaybackCompleteEvent` and `SendOnConnectEvent` queue. -/
def EventIds.event (ids : EventIds) (payload : EventPayload) : EngineEvent :=
  ⟨payload.type, ids.sessionId, ids.participantId, payload⟩

structure AnnounceState where
  playback : PlaybackState
  /-- The callback has found the event stream. -/
  sending : Bool
  stream : Connection (eventThreads EngineEvent)

inductive AnnounceAction where
  /-- A step of the playback, other than the callback. -/
  | playback (action : PlaybackAction)
  /-- The callback looks for the event stream. -/
  | callback
  /-- The callback gets to the queue. -/
  | send
  /-- `OnConnect` of the transport. -/
  | onConnect (transportId : String) (deviceDtlsParameters : Wire.DtlsParameters)
  /-- The handler, and the threads of the stream. -/
  | stream (action : ConnectionAction (eventThreads EngineEvent))

namespace AnnounceState

/-- `QueueEvent`. -/
def queueEvent (s : AnnounceState) (event : EngineEvent) :
    Option (Connection (eventThreads EngineEvent)) :=
  s.stream.step (.thread (.queueEvent event))

variable (ids : EventIds)

/-- One step.  A firing is taken apart: the callback finds the event stream or not, and only if it
does it queues the event, before it returns to the capture loop. -/
def step (s : AnnounceState) : AnnounceAction → Option AnnounceState
  | .playback action =>
      if action = .fire then none
      else (s.playback.step action).map fun playback => { s with playback }
  | .callback =>
      match s.playback.capture, s.sending with
      | .firing _, false =>
          if s.stream.handler.isAttached then some { s with sending := true }
          -- "Event stream not available to send playback complete"
          else (s.playback.step .fire).map fun playback => { s with playback }
      | _, _ => none
  | .send =>
      match s.playback.capture, s.sending with
      | .firing armed, true => do
          let stream ← s.queueEvent (ids.event (.onPlaybackComplete armed))
          let playback ← s.playback.step .fire
          return { playback, sending := false, stream }
      | _, _ => none
  | .onConnect transportId deviceDtlsParameters =>
      (s.queueEvent (ids.event (.onConnect transportId deviceDtlsParameters))).map fun stream =>
        { s with stream }
  | .stream action =>
      if (Connection.queuedBy action).isEmpty then
        (s.stream.step action).map fun stream => { s with stream }
      else none

end AnnounceState

/-- A constructed session, whose event stream is about to be constructed.  Playback may complete
before that, and is announced to nobody then. -/
def announcing (ids : EventIds) : Machine AnnounceState AnnounceAction where
  init :=
    { playback := .created
      sending := false
      stream := (Service.connection (eventThreads EngineEvent)).init }
  step := AnnounceState.step ids

/-- The completion that a step announces. -/
def announced (t : Taken AnnounceState AnnounceAction) : List ℕ :=
  match t.action with
  | .send => t.before.playback.capture.armed.toList
  | _ => []

/-- The completion of a callback that finds no event stream. -/
def missed (t : Taken AnnounceState AnnounceAction) : List ℕ :=
  match t.action, t.before.stream.handler.isAttached with
  | .callback, false => t.before.playback.capture.armed.toList
  | _, _ => []

namespace AnnounceState

/-- Each `SpeechGenerationComplete` sees the queue. -/
def SeesQueue (s : AnnounceState) : AnnounceAction → Prop
  | .playback action => PlaybackState.SeesQueue s.playback action
  | _ => True

/-- The completions whose events were handed to `Write`. -/
def written (s : AnnounceState) : List ℕ := s.stream.written.filterMap EngineEvent.armed?

/-- These, and those whose events are queued. -/
def told (s : AnnounceState) : List ℕ := s.stream.told.filterMap EngineEvent.armed?

theorem written_prefix_told (s : AnnounceState) : s.written <+: s.told := by
  rw [told, Connection.told, List.filterMap_append]
  exact List.prefix_append _ _

variable {ids : EventIds} {s t : AnnounceState} {action : AnnounceAction}

/-- What can happen, with what it does to the playback, to the callback that is under way, and to
the stream. -/
inductive Moved (ids : EventIds) (s : AnnounceState) : AnnounceAction → AnnounceState → Prop
  | plays {action : PlaybackAction} {playback : PlaybackState} (other : action ≠ .fire)
      (step : s.playback.step action = some playback) :
      Moved ids s (.playback action) { s with playback }
  | finds (attached : s.stream.handler.isAttached = true) :
      Moved ids s .callback { s with sending := true }
  | misses {armed : ℕ} {playback : PlaybackState}
      (firing : s.playback.capture.armed = some armed)
      (detached : s.stream.handler.isAttached = false)
      (step : s.playback.step .fire = some playback) :
      Moved ids s .callback { s with playback }
  | sends {armed : ℕ} {playback : PlaybackState}
      {stream : Connection (eventThreads EngineEvent)}
      (firing : s.playback.capture.armed = some armed)
      (queued : s.queueEvent (ids.event (.onPlaybackComplete armed)) = some stream)
      (step : s.playback.step .fire = some playback) :
      Moved ids s .send { playback, sending := false, stream }
  | connects {transportId : String} {dtls : Wire.DtlsParameters}
      {stream : Connection (eventThreads EngineEvent)}
      (queued : s.queueEvent (ids.event (.onConnect transportId dtls)) = some stream) :
      Moved ids s (.onConnect transportId dtls) { s with stream }
  | streams {action : ConnectionAction (eventThreads EngineEvent)}
      {stream : Connection (eventThreads EngineEvent)} (quiet : Connection.queuedBy action = [])
      (step : s.stream.step action = some stream) :
      Moved ids s (.stream action) { s with stream }

theorem step_moved (step : s.step ids action = some t) : Moved ids s action t := by
  cases action with
  | playback action =>
      obtain ⟨other, moved⟩ := Option.ite_none_left_eq_some.mp step
      obtain ⟨playback, stepped, rfl⟩ := Option.map_eq_some_iff.mp moved
      exact .plays other stepped
  | callback =>
      simp only [AnnounceState.step] at step
      split at step
      · next armed firing _ =>
          split_ifs at step with attached
          · obtain rfl := Option.some.inj step
            exact .finds attached
          · obtain ⟨playback, stepped, rfl⟩ := Option.map_eq_some_iff.mp step
            exact .misses (by rw [firing]; rfl) (eq_false_of_ne_true attached) stepped
      · cases step
  | send =>
      simp only [AnnounceState.step] at step
      split at step
      · next armed firing _ =>
          obtain ⟨stream, queued, rest⟩ := Option.bind_eq_some_iff.mp step
          obtain ⟨playback, stepped, same⟩ := Option.bind_eq_some_iff.mp rest
          obtain rfl := Option.some.inj same
          exact .sends (by rw [firing]; rfl) queued stepped
      · cases step
  | onConnect transportId dtls =>
      obtain ⟨stream, queued, rfl⟩ := Option.map_eq_some_iff.mp step
      exact .connects queued
  | stream action =>
      obtain ⟨quiet, moved⟩ := Option.ite_none_right_eq_some.mp step
      obtain ⟨stream, stepped, rfl⟩ := Option.map_eq_some_iff.mp moved
      exact .streams (List.isEmpty_iff.mp quiet) stepped

/-- **No announcement is lost, doubled or moved** behind the callback: what was written and what is
queued grows, at its end, by what a step announces. -/
theorem told_of_step (step : s.step ids action = some t) :
    t.told = s.told ++ announced ⟨s, action, t⟩ := by
  cases step_moved step with
  | plays | finds | misses => exact (List.append_nil _).symm
  | @sends armed playback stream firing queued stepped =>
      have told := Connection.told_of_step queued
      show stream.told.filterMap EngineEvent.armed? = s.told ++ s.playback.capture.armed.toList
      rw [told, List.filterMap_append, firing]
      rfl
  | @connects transportId dtls stream queued =>
      have told := Connection.told_of_step queued
      show stream.told.filterMap EngineEvent.armed? = s.told ++ []
      rw [told, List.filterMap_append]
      rfl
  | @streams action stream quiet stepped =>
      have told := Connection.told_of_step stepped
      show stream.told.filterMap EngineEvent.armed? = s.told ++ []
      rw [told, quiet, List.append_nil, List.append_nil]
      rfl

end AnnounceState

/-! ### The playback behind them

Facts about a step of the playback that the laws below use: what is played out stays so, and a
completion is armed by a command and by nothing else. -/

namespace PlaybackState

variable {s t : PlaybackState} {action : PlaybackAction}

/-- What is played out stays so. -/
theorem PlayedOut.moved {armed : ℕ} (played : s.PlayedOut armed)
    (le : armed ≤ s.pushed.length) (moved : s.Moved action t) :
    t.PlayedOut armed ∧ armed ≤ t.pushed.length := by
  obtain same | ⟨chunk, -, serial, rfl⟩ | ⟨ring, -, -, rfl⟩ | ⟨-, rfl⟩ | ⟨frame, -, rfl⟩ :=
    moved.audio
  · refine ⟨played.mono same.pushed (by rw [same.queue]; exact List.Subset.refl _) ?_,
      same.pushed ▸ le⟩
    rw [settled, settled, same.delivered, same.dropped, same.flushed]
    exact List.Subset.refl _
  · refine ⟨played.pushChunk le serial, le.trans ?_⟩
    simp [PlaybackState.pushChunk]
  · refine ⟨played.mono rfl (List.nil_subset _) ?_, le⟩
    intro o ho
    simp only [PlaybackState.flushedTo, settled, List.mem_append] at ho ⊢
    tauto
  · obtain ⟨ring, underruns, hadm, -⟩ := s.adm.drainCapAssemble_cases
    have none : s.drain.adm.audioQueue = [] := congrArg _ hadm
    refine ⟨played.mono rfl (by rw [none]; exact List.nil_subset _) ?_, le⟩
    intro o ho
    simp only [PlaybackState.drain, settled, List.mem_append] at ho ⊢
    tauto
  · refine ⟨played.mono rfl (List.Subset.refl _) ?_, le⟩
    intro o ho
    simp only [settled, List.mem_append, List.flatten_append, origins, List.filterMap_append]
      at ho ⊢
    tauto

/-- A completion is armed by the last `SpeechGenerationComplete`. -/
theorem Moved.armed (moved : s.Moved action t) :
    ∀ armed ∈ t.capture.armed, armed ∈ s.capture.armed ∨ armed = t.armedAt := by
  intro armed mem
  cases moved with
  | arms => exact .inr (Option.some.inj mem).symm
  | frameDropped | framePushed | completes | flushIgnored | flushes | startIgnored | stops =>
      exact .inl mem
  | starts | sleeps | ends | drains | delivers | waits | unheard | fires => cases mem

theorem Moved.armedAt (moved : s.Moved action t) (le : s.armedAt ≤ s.pushed.length) :
    s.armedAt ≤ t.armedAt ∧ t.armedAt ≤ t.pushed.length := by
  cases moved with
  | completes => exact ⟨le, le_rfl⟩
  | framePushed _ _ chunk =>
      refine ⟨le_rfl, le.trans ?_⟩
      simp [PlaybackState.pushChunk]
  | _ => exact ⟨le_rfl, le⟩

theorem Moved.fired (moved : s.Moved action t) (other : action ≠ .fire) : t.fired = s.fired := by
  cases moved with
  | fires => exact absurd rfl other
  | _ => rfl

/-- The callback returns. -/
theorem fire_cases (step : s.step .fire = some t) :
    t = { s with capture := .looping, fired := s.fired + 1 } := by
  cases step_moved step with
  | fires => rfl

end PlaybackState

/-! ### The law

Four invariants, proved one by one and put together at the end: order, truth, number and address.
Only the second needs a condition on the run. -/

namespace AnnounceState

variable {ids : EventIds} {s t : AnnounceState} {action : AnnounceAction}

/-- The completions are announced in the order in which they were armed, and one that is about to
be is not older than any of them. -/
structure InOrder (s : AnnounceState) : Prop where
  sorted : s.told.Pairwise (· ≤ ·)
  told_le : ∀ armed ∈ s.told, armed ≤ s.playback.armedAt
  told_le_firing : ∀ armed ∈ s.told, ∀ next ∈ s.playback.capture.armed, armed ≤ next
  firing_le : ∀ next ∈ s.playback.capture.armed, next ≤ s.playback.armedAt
  armed_le : s.playback.armedAt ≤ s.playback.pushed.length

theorem inOrder_init (ids : EventIds) : (announcing ids).init.InOrder where
  sorted := List.Pairwise.nil
  told_le := List.forall_mem_nil _
  told_le_firing := List.forall_mem_nil _
  firing_le next mem := by cases mem
  armed_le := le_rfl

/-- The same announcements, and a step of the playback. -/
theorem InOrder.plays (order : s.InOrder) {action : PlaybackAction} {playback : PlaybackState}
    (moved : s.playback.Moved action playback) : InOrder { s with playback } := by
  obtain ⟨later, armed_le⟩ := moved.armedAt order.armed_le
  refine ⟨order.sorted, fun armed mem => (order.told_le armed mem).trans later, ?_, ?_, armed_le⟩
  · intro armed mem next firing
    obtain old | rfl := moved.armed next firing
    · exact order.told_le_firing armed mem next old
    · exact (order.told_le armed mem).trans later
  · intro next firing
    obtain old | rfl := moved.armed next firing
    · exact (order.firing_le next old).trans later
    · exact le_rfl

theorem InOrder.step (order : s.InOrder) (step : s.step ids action = some t) : t.InOrder := by
  have told := told_of_step step
  cases step_moved step with
  | plays other stepped => exact order.plays (PlaybackState.step_moved stepped)
  | misses firing detached stepped => exact order.plays (PlaybackState.step_moved stepped)
  | finds =>
      exact ⟨order.sorted, order.told_le, order.told_le_firing, order.firing_le, order.armed_le⟩
  | @sends armed playback stream firing queued stepped =>
      obtain rfl := PlaybackState.fire_cases stepped
      have last : armed ≤ s.playback.armedAt := order.firing_le armed firing
      rw [announced, firing] at told
      refine ⟨?_, ?_, ?_, ?_, order.armed_le⟩
      · rw [told, List.pairwise_append]
        refine ⟨order.sorted, List.pairwise_singleton _ _, fun old mem next new => ?_⟩
        obtain rfl := List.mem_singleton.mp new
        exact order.told_le_firing old mem next firing
      · rw [told]
        exact List.forall_mem_append.mpr ⟨order.told_le, List.forall_mem_singleton.mpr last⟩
      · intro _ _ next none
        cases none
      · intro next none
        cases none
  | connects | streams =>
      have told := told.trans (List.append_nil _)
      exact ⟨told ▸ order.sorted, told ▸ order.told_le, told ▸ order.told_le_firing,
        order.firing_le, order.armed_le⟩

/-- What was announced was played out, if each `SpeechGenerationComplete` sees the queue: none of
its samples waits in the queue or in the ring. -/
structure Truthful (s : AnnounceState) : Prop where
  onCourse : s.playback.OnCourse
  played : ∀ armed ∈ s.told, armed ≤ s.playback.pushed.length ∧ s.playback.PlayedOut armed

theorem Truthful.plays (truthful : s.Truthful) {action : PlaybackAction}
    {playback : PlaybackState} (sees : PlaybackState.SeesQueue s.playback action)
    (moved : s.playback.Moved action playback) : Truthful { s with playback } := by
  refine ⟨truthful.onCourse.moved sees moved, fun armed mem => ?_⟩
  obtain ⟨le, played⟩ := truthful.played armed mem
  exact (played.moved le moved).symm

theorem Truthful.step (truthful : s.Truthful) (sees : SeesQueue s action)
    (step : s.step ids action = some t) : t.Truthful := by
  have told := told_of_step step
  have fires : PlaybackState.SeesQueue s.playback .fire := fun completes => by cases completes
  cases step_moved step with
  | plays other stepped => exact truthful.plays sees (PlaybackState.step_moved stepped)
  | misses firing detached stepped => exact truthful.plays fires (PlaybackState.step_moved stepped)
  | finds => exact ⟨truthful.onCourse, truthful.played⟩
  | @sends armed playback stream firing queued stepped =>
      have moved := PlaybackState.step_moved stepped
      have after := truthful.plays fires moved
      obtain ⟨le, played⟩ := truthful.onCourse.firing armed firing
      rw [announced, firing] at told
      refine ⟨after.onCourse, ?_⟩
      rw [told]
      exact List.forall_mem_append.mpr
        ⟨after.played, List.forall_mem_singleton.mpr (played.moved le moved).symm⟩
  | connects | streams =>
      have told := told.trans (List.append_nil _)
      exact ⟨truthful.onCourse, told ▸ truthful.played⟩

/-- Each firing was announced, or found no event stream. -/
def Counted (past : List (Taken AnnounceState AnnounceAction)) (s : AnnounceState) : Prop :=
  s.playback.fired = (past.flatMap announced).length + (past.flatMap missed).length

theorem Counted.step {past : List (Taken AnnounceState AnnounceAction)} (counted : Counted past s)
    (step : s.step ids action = some t) : Counted (past ++ [⟨s, action, t⟩]) t := by
  have fired : t.playback.fired = s.playback.fired +
      ((announced ⟨s, action, t⟩).length + (missed ⟨s, action, t⟩).length) := by
    cases step_moved step with
    | plays other stepped => exact (PlaybackState.step_moved stepped).fired other
    | finds attached => simp [announced, missed, attached]
    | misses firing detached stepped =>
        obtain rfl := PlaybackState.fire_cases stepped
        simp [announced, missed, firing, detached]
    | sends firing queued stepped =>
        obtain rfl := PlaybackState.fire_cases stepped
        simp [announced, missed, firing]
    | connects | streams => rfl
  rw [Counted, fired, counted]
  simp only [List.flatMap_append, List.flatMap_singleton, List.length_append]
  omega

/-- There are no more firings than completions. -/
theorem owed_le_of_step (le : s.playback.owed ≤ s.playback.completions)
    (step : s.step ids action = some t) : t.playback.owed ≤ t.playback.completions := by
  cases step_moved step with
  | plays other stepped =>
      exact PlaybackState.owed_le_of_moved le (PlaybackState.step_moved stepped)
  | misses firing detached stepped | sends firing queued stepped =>
      exact PlaybackState.owed_le_of_moved le (PlaybackState.step_moved stepped)
  | finds | connects | streams => exact le

/-- The events of the session name it, its participant and what they carry. -/
def Addressed (ids : EventIds) (s : AnnounceState) : Prop :=
  ∀ event ∈ s.stream.told, event = ids.event event.payload

theorem addressed_of_step (addressed : Addressed ids s) (step : s.step ids action = some t) :
    Addressed ids t := by
  cases step_moved step with
  | plays | finds | misses => exact addressed
  | sends firing queued stepped | connects queued =>
      have told := Connection.told_of_step queued
      intro event mem
      obtain old | new := List.mem_append.mp (told ▸ mem)
      · exact addressed event old
      · rw [List.mem_singleton.mp new]
        rfl
  | streams quiet stepped =>
      have told := Connection.told_of_step stepped
      rw [quiet, List.append_nil] at told
      exact fun event mem => addressed event (told ▸ mem)

end AnnounceState

/-- **What the orchestrator is told.** -/
structure AnnounceLaw (ids : EventIds) (sees : Prop) (announced missed : List ℕ)
    (s : AnnounceState) : Prop where
  addressed : s.Addressed ids
  /-- The announcements are written in the order of the callbacks, and none is lost. -/
  told : s.told = announced
  written : s.written <+: announced
  sorted : announced.Pairwise (· ≤ ·)
  /-- The callbacks that are not announced found no event stream. -/
  fired : s.playback.fired = announced.length + missed.length
  fired_le : s.playback.fired ≤ s.playback.completions
  playedOut : sees → ∀ armed ∈ announced, s.playback.PlayedOut armed

/-- **Along every run of the session** the completions are announced in order, none twice, and
never more of them than were asked for; as long as each `SpeechGenerationComplete` sees the queue,
whatever was announced has been played out. -/
theorem announcements_of_run (ids : EventIds) (actions : List AnnounceAction) (s : AnnounceState) :
    let M := announcing ids
    M.run M.init actions = some s →
      AnnounceLaw ids (M.Meets AnnounceState.SeesQueue M.init actions)
        (M.observed announced M.init actions) (M.observed missed M.init actions) s := by
  intro M reached
  have told : s.told = M.observed announced M.init actions :=
    M.held_of_steps _ AnnounceState.told (fun _ _ _ step => AnnounceState.told_of_step step)
      reached
  have order : s.InOrder :=
    M.invariant_of_run (fun _ _ _ order step => order.step step) (AnnounceState.inOrder_init ids)
      reached
  have owed : s.playback.owed ≤ s.playback.completions :=
    M.invariant_of_run (motive := fun s => s.playback.owed ≤ s.playback.completions)
      (fun _ _ _ le step => AnnounceState.owed_le_of_step le step) le_rfl reached
  have addressed : s.Addressed ids :=
    M.invariant_of_run (fun _ _ _ before step => AnnounceState.addressed_of_step before step)
      (fun _ mem => by cases mem) reached
  refine ⟨addressed, told, told ▸ s.written_prefix_told, told ▸ order.sorted, ?_,
    s.playback.fired_le_owed.trans owed, fun sees => told ▸ ?_⟩
  · have start : AnnounceState.Counted [] M.init := rfl
    exact M.history_invariant (fun _ _ _ _ counted step => counted.step step) start reached
  · have truthful : s.Truthful :=
      M.invariant_of_meets (fun _ _ _ truthful sees step => truthful.step sees step)
        ⟨PlaybackState.onCourse_created, List.forall_mem_nil _⟩ reached sees
    exact fun armed mem => (truthful.played armed mem).2

/-- An utterance of one chunk, which is played out and announced. -/
theorem announcements_of_run_one_utterance :
    let ids : EventIds := ⟨"session", "participant"⟩
    let M := announcing ids
    let frame : MediaFrame := ⟨List.replicate 960 0, .audio, "p"⟩
    let actions : List AnnounceAction :=
      [.stream .start, .stream .attach, .stream .beginAck, .stream (.endAck true),
        .playback (.mediaFrame "p" frame), .playback .loopTest,
        .playback .speechGenerationComplete, .playback .drain, .playback .deliver,
        .playback .check, .callback, .send] ++ List.replicate 3 (.stream (.thread .outgoing))
    ∃ s, M.run M.init actions = some s ∧ s.written = [1] ∧
      AnnounceLaw ids (M.Meets AnnounceState.SeesQueue M.init actions)
        (M.observed announced M.init actions) (M.observed missed M.init actions) s := by
  intro ids M frame actions
  have final : (M.run M.init actions).map (fun s => s.written) = some [1] := by
    decide +kernel
  obtain ⟨s, reached, written⟩ := Option.map_eq_some_iff.mp final
  exact ⟨s, reached, written, announcements_of_run ids actions s reached⟩

end Saasy.SpeakingEngine
