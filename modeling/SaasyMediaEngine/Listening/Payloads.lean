import SaasyMediaEngine.Control.Matching
import SaasyMediaEngine.Listening.Provenance

/-!
# The payloads of a media stream

Two threads send on a media stream, and between the tests they make and the write there is
time.  What does hold around them:

* while the gate is closed and the VAD thread is outside of `OnVadTurnEvent`, nothing is sent
  but the frame that the forwarding thread had already taken past the gate (`Silenced`);
* once the stream is stopped, nothing is sent but what was prepared before (`Finished`);
* the counters of `stats_` agree with what was written, and no request id is given twice
  (`Accounts`).

All three are about `mediaPath`, so they hold with audio coming in, commands executed and `Cleanup`
going on in between.  Only a thread in `SendMediaFrame` writes, and `SendStep` is what it can do:
it finds the stream stopped, drops a frame that is too large, makes a payload, takes the lock, and
writes or fails to.  The first property follows the frames, from the state in which the gate was
closed (`SilencedSince`).  The other two follow the payloads: `Handled` says of any step of the path
that it is one of `SendStep`, or leaves the payloads and the counters as they are.

The counters are 64-bit and the ids are made of one of them, so that two payloads with one id are
2^64 calls apart.  That is why the distinctness, and nothing else here, has a bound on the run.
-/

namespace Saasy.ListeningEngine

open Transition Wire

/-! ### A step of `SendMediaFrame`

What a step does to the counters and to what was written, with the phase the thread is in
afterwards.  `SendStep` says more than `Sends` of `Listening.MediaPath`, which leaves the counters
out. -/

/-- The frame that is on its way. -/
def SendPhase.frame : SendPhase → AudioFrame TrackByte
  | .checking _ frame => frame
  | .locking payload | .writing payload => payload.frame

/-- The payload that was made of it. -/
def SendPhase.inHand : SendPhase → List (MediaPayload TrackByte)
  | .checking _ _ => []
  | .locking payload | .writing payload => [payload]

/-- The steps of `SendMediaFrame`, with all they do to the stream.  Where the next phase is missing
the call has returned. -/
inductive SendStep (m : MediaStream TrackByte) :
    SendPhase → MediaStream TrackByte → Option SendPhase → Prop
  | stops {deviceConsumerId : String} {frame : AudioFrame TrackByte} (stopped : m.running = false) :
      SendStep m (.checking deviceConsumerId frame) m none
  | drops {deviceConsumerId : String} {frame : AudioFrame TrackByte}
      (large : kMaxFrameSize < frame.data.length) :
      SendStep m (.checking deviceConsumerId frame)
        { m with framesDropped := m.framesDropped + 1 } none
  | prepares {deviceConsumerId : String} {frame : AudioFrame TrackByte} (running : m.running = true)
      (fits : frame.data.length ≤ kMaxFrameSize) :
      SendStep m (.checking deviceConsumerId frame)
        { m with requestCounter := m.requestCounter + 1 }
        (some (.locking ⟨m.requestId, m.sessionId, m.participantId, deviceConsumerId, frame⟩))
  | locks {payload : MediaPayload TrackByte} :
      SendStep m (.locking payload) m (some (.writing payload))
  | writes {payload : MediaPayload TrackByte} :
      SendStep m (.writing payload) (m.finishWrite payload true) none
  | fails {payload : MediaPayload TrackByte} :
      SendStep m (.writing payload) (m.finishWrite payload false) none

theorem sendStep_of_stepSend {s : MediaPath} {phase : SendPhase} {writeOk : Bool}
    {media : MediaStream TrackByte} {next : Option SendPhase}
    (step : s.stepSend phase writeOk = some (media, next)) : SendStep s.media phase media next := by
  cases phase with
  | checking deviceConsumerId frame =>
      simp only [MediaPath.stepSend, MediaStream.prepareMediaFrame] at step
      split_ifs at step with stopped large
      · cases step
        exact .stops (by simpa using stopped)
      · cases step
        exact .drops large
      · cases step
        exact .prepares (by simpa using stopped) (not_lt.mp large)
  | locking payload =>
      obtain ⟨-, ⟨⟩⟩ := Option.ite_none_right_eq_some.mp step
      exact .locks
  | writing payload =>
      cases step
      cases writeOk
      · exact .fails
      · exact .writes

namespace SendStep

variable {m media : MediaStream TrackByte} {phase : SendPhase} {next : Option SendPhase}

theorem gateOpen_eq (sends : SendStep m phase media next) : media.gateOpen = m.gateOpen := by
  cases sends <;> rfl

/-- What was written stays written. -/
theorem written_prefix (sends : SendStep m phase media next) : m.written <+: media.written := by
  cases sends with
  | writes => exact List.prefix_append _ _
  | _ => exact List.prefix_refl _

/-- The frame goes on, or is written, or is lost. -/
theorem frames_sublist (sends : SendStep m phase media next) :
    (media.written.map MediaPayload.frame ++ next.toList.map SendPhase.frame).Sublist
      (m.written.map MediaPayload.frame ++ [phase.frame]) := by
  cases sends with
  | stops | drops | fails => exact (List.Sublist.refl _).append (List.nil_sublist _)
  | prepares | locks => exact List.Sublist.refl _
  | writes => simp [MediaStream.finishWrite, SendPhase.frame]

/-- A stream that was stopped stays stopped, and prepares nothing. -/
theorem payloads_sublist (sends : SendStep m phase media next) (stopped : m.running = false) :
    media.running = false ∧
      (media.written ++ next.toList.flatMap SendPhase.inHand).Sublist
        (m.written ++ phase.inHand) := by
  cases sends with
  | stops | drops => exact ⟨stopped, List.Sublist.refl _⟩
  | prepares running => exact absurd running (by simp [stopped])
  | locks => exact ⟨stopped, List.Sublist.refl _⟩
  | writes => exact ⟨stopped, by simp [MediaStream.finishWrite, SendPhase.inHand]⟩
  | fails => exact ⟨rfl, (List.Sublist.refl _).append (List.nil_sublist _)⟩

end SendStep

/-! ### The closed gate

With the gate closed and no call of `OnVadTurnEvent` under way, a frame can only be written if a
thread has it past the gate already, and that is the forwarding thread with one frame at most. -/

/-- The frame that the forwarding thread has taken past the gate. -/
def ForwarderPhase.past : ForwarderPhase → List (AudioFrame TrackByte)
  | .passed frame => [frame]
  | .sending phase => [phase.frame]
  | _ => []

namespace MediaPath

variable {s t : MediaPath} {writeOk : Bool} {nowMs : ℕ}

/-- The frames that were written, and the one that is past the gate. -/
def frames (s : MediaPath) : List (AudioFrame TrackByte) :=
  s.media.written.map MediaPayload.frame ++ s.forwarder.past

/-- The gate is closed, and the VAD thread is outside of `OnVadTurnEvent`: only a new call can open
it. -/
structure Silenced (s : MediaPath) : Prop where
  closed : s.media.gateOpen = false
  idle : s.vad = .idle

theorem silenced_of_complete (step : s.stepTurnEvent "user_turn_complete" = some t) :
    t.Silenced := by
  unfold stepTurnEvent at step
  split at step
  case h_1 idle =>
    cases step
    exact ⟨rfl, idle⟩
  case h_2 => cases step

/-- What happens after it: nothing is sent but what was past the gate, which is at most the one
frame in the hand of the forwarding thread. -/
structure SilencedSince (s t : MediaPath) : Prop where
  silenced : t.Silenced
  written : s.media.written <+: t.media.written
  frames : t.frames.Sublist s.frames

theorem Silenced.stepForward (silenced : s.Silenced) (step : s.stepForward writeOk = some t) :
    SilencedSince s t := by
  -- a thread that does not write drops its frame, or keeps it
  have same {phase : ForwarderPhase} (past : phase.past = [] ∨ phase.past = s.forwarder.past)
      (sink : AudioTrackSink) {media : MediaStream TrackByte}
      (gate : media.gateOpen = s.media.gateOpen) (written : media.written = s.media.written) :
      SilencedSince s { s with sink, media, forwarder := phase } := by
    refine ⟨⟨gate.trans silenced.closed, silenced.idle⟩, ?_, ?_⟩
    · show s.media.written <+: media.written
      rw [written]
    · show (media.written.map _ ++ phase.past).Sublist s.frames
      rw [written, frames]
      obtain none | kept := past
      · rw [none]
        exact (List.Sublist.refl _).append (List.nil_sublist _)
      · rw [kept]
  unfold MediaPath.stepForward at step
  split at step
  case h_1 =>
    cases step
    exact same (.inl (by split_ifs <;> rfl)) _ rfl rfl
  case h_2 =>
    split at step <;> cases step <;> exact same (.inl rfl) _ rfl rfl
  case h_3 =>
    cases step
    exact same (.inl rfl) _ rfl rfl
  case h_4 frame appended =>
    cases step
    rw [silenced.closed]
    exact same (.inl rfl) _ rfl rfl
  case h_5 frame passed =>
    cases step
    refine same ?_ _ rfl rfl
    rw [passed]
    split_ifs
    · exact .inr rfl
    · exact .inl rfl
  case h_6 phase sending =>
    obtain ⟨⟨media, next⟩, sent, rfl⟩ := Option.map_eq_some_iff.mp step
    have sends := sendStep_of_stepSend sent
    refine ⟨⟨sends.gateOpen_eq.trans silenced.closed, silenced.idle⟩, sends.written_prefix, ?_⟩
    have goes := sends.frames_sublist
    have before : s.frames = s.media.written.map MediaPayload.frame ++ [phase.frame] := by
      rw [frames, sending]
      rfl
    rw [before]
    cases next <;> exact goes
  case h_7 => cases step

theorem Silenced.step [Double.UndefinedCast] {action : MediaAction} (silenced : s.Silenced)
    (quiet : action ≠ .turnEvent "speech_started") (step : s.step action = some t) :
    SilencedSince s t := by
  cases action with
  | control action =>
      obtain ⟨control, stepped, rfl⟩ := Option.map_eq_some_iff.mp step
      exact ⟨⟨silenced.closed, silenced.idle⟩, List.prefix_refl _, List.Sublist.refl _⟩
  | onData track data =>
      obtain ⟨-, ⟨⟩⟩ := Option.ite_none_right_eq_some.mp step
      exact ⟨⟨silenced.closed, silenced.idle⟩, List.prefix_refl _, List.Sublist.refl _⟩
  | discard =>
      obtain ⟨-, ⟨⟩⟩ := Option.ite_none_left_eq_some.mp step
      exact ⟨⟨silenced.closed, silenced.idle⟩, List.prefix_refl _, List.Sublist.refl _⟩
  | forward writeOk => exact silenced.stepForward step
  | vad writeOk nowMs =>
      have none : s.stepVad writeOk nowMs = none := by simp [stepVad, silenced.idle]
      rw [show s.step (.vad writeOk nowMs) = _ from none] at step
      cases step
  | turnEvent eventType =>
      cases stepTurnEvent_moved step with
      | findsNothing | copies => exact absurd rfl quiet
      | endsTurn => exact ⟨⟨rfl, silenced.idle⟩, List.prefix_refl _, List.Sublist.refl _⟩
      | ignores => exact ⟨silenced, List.prefix_refl _, List.Sublist.refl _⟩

theorem SilencedSince.trans {r : MediaPath} (first : SilencedSince s t)
    (second : SilencedSince t r) : SilencedSince s r :=
  ⟨second.silenced, first.written.trans second.written, second.frames.trans first.frames⟩

/-- **Silenced**, until a turn is opened, over any number of steps of everybody. -/
theorem Silenced.run [Double.UndefinedCast] {sessionId participantId : String}
    {actions : List MediaAction} (silenced : s.Silenced)
    (quiet : MediaAction.turnEvent "speech_started" ∉ actions)
    (reached : (mediaPath sessionId participantId).run s actions = some t) : SilencedSince s t := by
  refine (mediaPath sessionId participantId).invariant_of_meets (motive := SilencedSince s)
    (fun r a t since other step => since.trans (since.silenced.step other step))
    ⟨silenced, List.prefix_refl _, List.Sublist.refl _⟩ reached
    (fun taken mem same => quiet ?_)
  rw [← same]
  exact Machine.action_mem_of_mem_transitions _ mem

/-- What is written since then is the frame that was past the gate, or nothing. -/
theorem SilencedSince.late (since : SilencedSince s t) :
    ∃ late, t.media.written = s.media.written ++ late ∧
      (late.map MediaPayload.frame).Sublist s.forwarder.past := by
  obtain ⟨late, split⟩ := since.written
  refine ⟨late, split.symm, ?_⟩
  have frames := since.frames
  rw [MediaPath.frames, MediaPath.frames, ← split, List.map_append, List.append_assoc,
    List.append_sublist_append_left] at frames
  exact (List.sublist_append_left _ _).trans frames

/-! ### The stopped stream

A payload that was made before `Stop` is written if its thread gets the lock; nothing is made after
it.  Two threads can each have one in hand. -/

end MediaPath

/-- The payload that a thread has made and not written. -/
def ForwarderPhase.inHand : ForwarderPhase → List (MediaPayload TrackByte)
  | .sending phase => phase.inHand
  | _ => []

def VadPhase.inHand : VadPhase → List (MediaPayload TrackByte)
  | .sending phase => phase.inHand
  | _ => []

namespace MediaPath

variable {s t : MediaPath} {writeOk : Bool} {nowMs : ℕ}

/-- The payloads that were made and not written. -/
def inHand (s : MediaPath) : List (MediaPayload TrackByte) := s.forwarder.inHand ++ s.vad.inHand

/-- What a step does to stream and payloads: nothing, or what a thread in `SendMediaFrame`
does, or `Stop`. -/
inductive Handled (s t : MediaPath) : Prop
  | keeps (written : t.media.written = s.media.written) (inHand : t.inHand = s.inHand)
      (counters : t.media.requestCounter = s.media.requestCounter ∧
        t.media.framesSent = s.media.framesSent ∧ t.media.bytesSent = s.media.bytesSent)
      (ids : t.media.sessionId = s.media.sessionId ∧
        t.media.participantId = s.media.participantId)
      (stopped : s.media.running = false → t.media.running = false)
  | sends {phase : SendPhase} {next : Option SendPhase} (others : List (MediaPayload TrackByte))
      (before : s.inHand.Perm (phase.inHand ++ others))
      (after : t.inHand.Perm (next.toList.flatMap SendPhase.inHand ++ others))
      (sends : SendStep s.media phase t.media next)

theorem handled_stepForward (step : s.stepForward writeOk = some t) : s.Handled t := by
  -- a phase in which the thread holds no payload
  have empty {before after : ForwarderPhase} (here : s.forwarder = before)
      (none : before.inHand = []) (still : after.inHand = []) :
      after.inHand ++ s.vad.inHand = s.inHand := by
    rw [inHand, here, none, still]
  unfold MediaPath.stepForward at step
  split at step
  case h_1 looping =>
    cases step
    exact .keeps rfl (empty looping rfl (by split_ifs <;> rfl)) ⟨rfl, rfl, rfl⟩ ⟨rfl, rfl⟩ id
  case h_2 fetching =>
    split at step <;> cases step <;>
      exact .keeps rfl (empty fetching rfl rfl) ⟨rfl, rfl, rfl⟩ ⟨rfl, rfl⟩ id
  case h_3 frame popped =>
    cases step
    exact .keeps rfl (empty popped rfl rfl) ⟨rfl, rfl, rfl⟩ ⟨rfl, rfl⟩ id
  case h_4 frame appended =>
    cases step
    exact .keeps rfl (empty appended rfl (by split_ifs <;> rfl)) ⟨rfl, rfl, rfl⟩ ⟨rfl, rfl⟩ id
  case h_5 frame passed =>
    cases step
    exact .keeps rfl (empty passed rfl (by split_ifs <;> rfl)) ⟨rfl, rfl, rfl⟩ ⟨rfl, rfl⟩ id
  case h_6 phase sending =>
    obtain ⟨⟨media, next⟩, sent, rfl⟩ := Option.map_eq_some_iff.mp step
    refine .sends s.vad.inHand ?_ ?_ (sendStep_of_stepSend sent)
    · rw [inHand, sending]
      exact List.Perm.refl _
    · cases next with
      | none => exact List.Perm.refl _
      | some phase =>
          rw [show (some phase).toList.flatMap SendPhase.inHand = phase.inHand from
            List.append_nil _]
          exact List.Perm.refl _
  case h_7 => cases step

theorem handled_stepVad (step : s.stepVad writeOk nowMs = some t) : s.Handled t := by
  unfold MediaPath.stepVad at step
  split at step
  case h_1 => cases step
  case h_2 preRollData copied =>
    cases step
    refine .keeps rfl ?_ ⟨rfl, rfl, rfl⟩ ⟨rfl, rfl⟩ id
    rw [inHand, inHand, copied]
    split_ifs <;> rfl
  case h_3 phase sending =>
    obtain ⟨⟨media, next⟩, sent, rfl⟩ := Option.map_eq_some_iff.mp step
    refine .sends s.forwarder.inHand ?_ ?_ (sendStep_of_stepSend sent)
    · rw [inHand, sending]
      exact List.perm_append_comm
    · cases next with
      | none => exact List.perm_append_comm
      | some phase =>
          rw [show (some phase).toList.flatMap SendPhase.inHand = phase.inHand from
            List.append_nil _]
          exact List.perm_append_comm
  case h_4 opening =>
    cases step
    refine .keeps rfl ?_ ⟨rfl, rfl, rfl⟩ ⟨rfl, rfl⟩ id
    rw [inHand, inHand, opening]
    rfl

theorem handled_stepTurnEvent [Double.UndefinedCast] {eventType : String}
    (step : s.stepTurnEvent eventType = some t) :
    s.Handled t := by
  cases stepTurnEvent_moved step with
  | findsNothing idle | copies idle =>
      refine .keeps rfl ?_ ⟨rfl, rfl, rfl⟩ ⟨rfl, rfl⟩ id
      rw [inHand, inHand, idle]
      rfl
  | endsTurn | ignores => exact .keeps rfl rfl ⟨rfl, rfl, rfl⟩ ⟨rfl, rfl⟩ id

theorem handled_step [Double.UndefinedCast] {action : MediaAction} (step : s.step action = some t) :
    s.Handled t := by
  cases action with
  | control action =>
      obtain ⟨control, stepped, rfl⟩ := Option.map_eq_some_iff.mp step
      exact .keeps rfl rfl ⟨rfl, rfl, rfl⟩ ⟨rfl, rfl⟩ fun stopped => by simp [stopped]
  | onData track data =>
      obtain ⟨-, ⟨⟩⟩ := Option.ite_none_right_eq_some.mp step
      exact .keeps rfl rfl ⟨rfl, rfl, rfl⟩ ⟨rfl, rfl⟩ id
  | discard =>
      obtain ⟨-, ⟨⟩⟩ := Option.ite_none_left_eq_some.mp step
      exact .keeps rfl rfl ⟨rfl, rfl, rfl⟩ ⟨rfl, rfl⟩ id
  | forward writeOk => exact handled_stepForward step
  | turnEvent eventType => exact handled_stepTurnEvent step
  | vad writeOk nowMs => exact handled_stepVad step

/-- The stream is stopped, and sends only what was made before: what is written and what is in hand
stays a part of what was written and in hand then. -/
structure FinishedSince (s t : MediaPath) : Prop where
  stopped : t.media.running = false
  written : s.media.written <+: t.media.written
  payloads : (t.media.written ++ t.inHand).Subperm (s.media.written ++ s.inHand)

theorem FinishedSince.trans {r : MediaPath} (first : FinishedSince s t)
    (second : FinishedSince t r) : FinishedSince s r :=
  ⟨second.stopped, first.written.trans second.written, second.payloads.trans first.payloads⟩

theorem finished_of_handled (stopped : s.media.running = false) (handled : s.Handled t) :
    FinishedSince s t := by
  cases handled with
  | keeps written inHand _ _ stays =>
      exact ⟨stays stopped, by rw [written], by rw [written, inHand]⟩
  | @sends phase next others before after sends =>
      obtain ⟨stays, fewer⟩ := sends.payloads_sublist stopped
      refine ⟨stays, sends.written_prefix, ?_⟩
      have shrinks := fewer.append (List.Sublist.refl others)
      rw [List.append_assoc, List.append_assoc] at shrinks
      exact ((after.append_left _).subperm.trans shrinks.subperm).trans
        (before.append_left _).symm.subperm

/-- What is written since then was made before, and is written once. -/
theorem FinishedSince.late (since : FinishedSince s t) :
    ∃ late, t.media.written = s.media.written ++ late ∧ late.Subperm s.inHand := by
  obtain ⟨late, split⟩ := since.written
  refine ⟨late, split.symm, ?_⟩
  have payloads := since.payloads
  rw [← split, List.append_assoc, List.subperm_append_left] at payloads
  exact (List.sublist_append_left _ _).subperm.trans payloads

end MediaPath

/-! ### The counters

They count what was made, what was written, and the bytes of that.  A write that fails counts for
the first and not for the others, so the payloads written have a part of the numbers that were
given out. -/

/-- `GenerateRequestId` at a value of the counter. -/
def mediaRequestId (sessionId : String) (number : ℕ) : String :=
  sessionId ++ "_media_" ++ toString (UInt64.ofNat number)

/-- The ids are distinct until the counter has gone round. -/
theorem mediaRequestId_inj {sessionId : String} {i j : ℕ} (hi : i < 2 ^ 64) (hj : j < 2 ^ 64)
    (same : mediaRequestId sessionId i = mediaRequestId sessionId j) : i = j := by
  have printed : toString (UInt64.ofNat i) = toString (UInt64.ofNat j) :=
    (String.append_right_inj _).mp same
  have numbers : UInt64.ofNat i = UInt64.ofNat j :=
    Control.generateRequestId_inj (show Control.generateRequestId "" _ =
      Control.generateRequestId "" _ from congrArg ("engine_" ++ "" ++ "_" ++ ·) printed)
  have words := congrArg UInt64.toNat numbers
  rwa [UInt64.toNat_ofNat', UInt64.toNat_ofNat', Nat.mod_eq_of_lt (by omega),
    Nat.mod_eq_of_lt (by omega)] at words

/-- A payload as `SendMediaFrame` makes it, as one of the first `prepared`: it carries the ids of
its stream, its number among them, and no more than a frame may hold. -/
structure MadeBy (sessionId participantId : String) (prepared : ℕ)
    (payload : MediaPayload TrackByte) : Prop where
  requestId : ∃ number < prepared, payload.requestId = mediaRequestId sessionId number
  addressed : payload.sessionId = sessionId ∧ payload.participantId = participantId
  fits : payload.frame.data.length ≤ kMaxFrameSize

/-- The bytes of the payloads. -/
def totalBytes (written : List (MediaPayload TrackByte)) : ℕ :=
  (written.map fun payload => payload.frame.data.length).sum

/-- **The books of a stream** that made `prepared` payloads, of which some were not written: the
counters say how many were, and how many bytes they had. -/
structure Accounts (sessionId participantId : String) (prepared : ℕ) (m : MediaStream TrackByte)
    (inHand : List (MediaPayload TrackByte)) : Prop where
  ids : m.sessionId = sessionId ∧ m.participantId = participantId
  counter : m.requestCounter = UInt64.ofNat prepared
  framesSent : m.framesSent = UInt64.ofNat m.written.length
  bytesSent : m.bytesSent = UInt64.ofNat (totalBytes m.written)
  made : ∀ payload ∈ m.written ++ inHand, MadeBy sessionId participantId prepared payload
  distinct : prepared ≤ 2 ^ 64 → ((m.written ++ inHand).map MediaPayload.requestId).Nodup

theorem MadeBy.succ {sessionId participantId : String} {prepared : ℕ}
    {payload : MediaPayload TrackByte} (made : MadeBy sessionId participantId prepared payload) :
    MadeBy sessionId participantId (prepared + 1) payload := by
  obtain ⟨number, lt, id⟩ := made.requestId
  exact ⟨⟨number, lt.trans (Nat.lt_succ_self _), id⟩, made.addressed, made.fits⟩

namespace Accounts

variable {sessionId participantId : String} {prepared : ℕ} {m media : MediaStream TrackByte}
  {inHand others : List (MediaPayload TrackByte)} {phase : SendPhase} {next : Option SendPhase}

/-- Payloads may be lost, and come in another order. -/
theorem of_subperm {inHand' : List (MediaPayload TrackByte)}
    (accounts : Accounts sessionId participantId prepared m inHand)
    (fewer : inHand'.Subperm inHand) : Accounts sessionId participantId prepared m inHand' := by
  have payloads : (m.written ++ inHand').Subperm (m.written ++ inHand) :=
    (List.subperm_append_left _).mpr fewer
  refine ⟨accounts.ids, accounts.counter, accounts.framesSent, accounts.bytesSent,
    fun payload mem => accounts.made payload (payloads.subset mem), fun few => ?_⟩
  obtain ⟨kept, perm, sublist⟩ := payloads
  exact (perm.map _).nodup_iff.mp ((accounts.distinct few).sublist (sublist.map _))

/-- A step of `SendMediaFrame` keeps the books. -/
theorem send (accounts : Accounts sessionId participantId prepared m (phase.inHand ++ others))
    (sends : SendStep m phase media next) :
    ∃ prepared' ≤ prepared + 1, Accounts sessionId participantId prepared' media
      (next.toList.flatMap SendPhase.inHand ++ others) := by
  cases sends with
  | stops => exact ⟨prepared, Nat.le_succ _, accounts⟩
  | drops => exact ⟨prepared, Nat.le_succ _, { accounts with }⟩
  | locks => exact ⟨prepared, Nat.le_succ _, accounts⟩
  | fails =>
      have fewer := accounts.of_subperm (List.sublist_append_right _ others).subperm
      exact ⟨prepared, Nat.le_succ _, { fewer with }⟩
  | @writes payload =>
      have same : m.written ++ ([payload] ++ others) = m.written ++ [payload] ++ others :=
        (List.append_assoc _ _ _).symm
      refine ⟨prepared, Nat.le_succ _, accounts.ids, accounts.counter, ?_, ?_,
        same ▸ accounts.made, same ▸ accounts.distinct⟩
      · show m.framesSent + 1 = UInt64.ofNat (m.written ++ [payload]).length
        rw [accounts.framesSent, List.length_append, UInt64.ofNat_add]
        rfl
      · show m.bytesSent + payload.frame.data.length.toUInt64 =
          UInt64.ofNat (totalBytes (m.written ++ [payload]))
        rw [accounts.bytesSent, totalBytes, totalBytes, List.map_append, List.sum_append,
          UInt64.ofNat_add]
        simp
  | @prepares deviceConsumerId frame running fits =>
      set payload : MediaPayload TrackByte :=
        ⟨m.requestId, m.sessionId, m.participantId, deviceConsumerId, frame⟩
      have id : payload.requestId = mediaRequestId sessionId prepared := by
        show m.sessionId ++ "_media_" ++ toString m.requestCounter = _
        rw [accounts.ids.1, accounts.counter]
        rfl
      have moved : (m.written ++ ([payload] ++ others)).Perm (payload :: (m.written ++ others)) :=
        List.perm_middle
      refine ⟨prepared + 1, le_rfl, accounts.ids, ?_, accounts.framesSent, accounts.bytesSent,
        fun other mem => ?_, fun few => ?_⟩
      · show m.requestCounter + 1 = _
        rw [accounts.counter, UInt64.ofNat_add]
        rfl
      · obtain rfl | old := List.mem_cons.mp (moved.mem_iff.mp mem)
        · exact ⟨⟨prepared, Nat.lt_succ_self _, id⟩, accounts.ids, fits⟩
        · exact (accounts.made other old).succ
      · refine (moved.map MediaPayload.requestId).nodup_iff.mpr ?_
        rw [List.map_cons, List.nodup_cons, id]
        refine ⟨fun mem => ?_, accounts.distinct (Nat.le_of_succ_le few)⟩
        obtain ⟨other, old, same⟩ := List.mem_map.mp mem
        obtain ⟨number, lt, given⟩ := (accounts.made other old).requestId
        rw [given] at same
        exact absurd (mediaRequestId_inj (by omega) (by omega) same) (Nat.ne_of_lt lt)

end Accounts

/-! ### The law

The three laws are about the path as a whole, so the steps of the threads, of `Cleanup` and of
everybody else are taken together here. -/

namespace MediaPath

variable {s t : MediaPath}

theorem Handled.accounts {sessionId participantId : String} {prepared : ℕ}
    (handled : s.Handled t)
    (accounts : Accounts sessionId participantId prepared s.media s.inHand) :
    ∃ prepared' ≤ prepared + 1, Accounts sessionId participantId prepared' t.media t.inHand := by
  cases handled with
  | keeps written inHand counters ids =>
      obtain ⟨counter, framesSent, bytesSent⟩ := counters
      refine ⟨prepared, Nat.le_succ _, ⟨ids.1.trans accounts.ids.1, ids.2.trans accounts.ids.2⟩,
        counter.trans accounts.counter, ?_, ?_, ?_, ?_⟩
      · rw [framesSent, written, accounts.framesSent]
      · rw [bytesSent, written, accounts.bytesSent]
      · rw [written, inHand]
        exact accounts.made
      · rw [written, inHand]
        exact accounts.distinct
  | sends others before after sends =>
      obtain ⟨prepared', few, accounts'⟩ :=
        (accounts.of_subperm before.symm.subperm).send sends
      exact ⟨prepared', few, accounts'.of_subperm after.subperm⟩

end MediaPath

/-- **While the gate is closed**: from the beginning, and from the end of a turn, up to the next
`speech_started`, nothing is written but a frame that was past the gate before. -/
theorem gate_silences [Double.UndefinedCast] (sessionId participantId : String)
    (front back : List MediaAction) (s t : MediaPath) :
    let M := mediaPath sessionId participantId
    M.run M.init front = some s → M.run s back = some t →
      front = [] ∨ front.getLast? = some (.turnEvent "user_turn_complete") →
      .turnEvent "speech_started" ∉ back →
        t.media.gateOpen = false ∧ ∃ late, t.media.written = s.media.written ++ late ∧
          (late.map MediaPayload.frame).Sublist s.forwarder.past := by
  intro M reached runs closes quiet
  have silenced : s.Silenced := by
    obtain rfl | last := closes
    · cases reached
      exact ⟨rfl, rfl⟩
    · obtain ⟨earlier, rfl⟩ := List.getLast?_eq_some_iff.mp last
      obtain ⟨r, -, closing⟩ := M.run_append_eq_some.mp reached
      obtain ⟨r', step, ⟨⟩⟩ := M.run_cons_eq_some.mp closing
      exact MediaPath.silenced_of_complete step
  have since := silenced.run quiet runs
  exact ⟨since.silenced.closed, since.late⟩

/-- A turn of which a frame is past the gate when it ends. -/
def lateFrame : List MediaAction :=
  [MediaPath.twoConsumers,
    [.turnEvent "speech_started", .vad true 0, .onData 4 (MediaPath.oneSample 48000)],
    List.replicate 4 (.forward true), [.turnEvent "user_turn_complete"]].flatten

/-- The frame is written after the end of the turn, and nothing else. -/
theorem gate_silences_late :
    letI := Double.x86Cast
    let M := mediaPath "s" "p"
    ∃ s t, M.run M.init lateFrame = some s ∧ M.run s (List.replicate 4 (.forward true)) = some t ∧
      t.media.written.length = 1 ∧ t.media.gateOpen = false ∧
        ∃ late, t.media.written = s.media.written ++ late ∧
          (late.map MediaPayload.frame).Sublist s.forwarder.past := by
  let := Double.x86Cast
  intro M
  have final : (M.run M.init (lateFrame ++ List.replicate 4 (.forward true))).map
      (·.media.written.length) = some 1 := by
    decide +kernel
  obtain ⟨t, reached, written⟩ := Option.map_eq_some_iff.mp final
  obtain ⟨s, front, back⟩ := M.run_append_eq_some.mp reached
  exact ⟨s, t, front, back, written,
    gate_silences "s" "p" _ _ s t front back (.inr rfl) (by simp)⟩

/-- **Once the stream is stopped**, by `Stop` or by a write that fails, nothing is written but
what a thread had made before, and that once. -/
theorem stop_finishes [Double.UndefinedCast] (sessionId participantId : String)
    (front back : List MediaAction) (s t : MediaPath) :
    let M := mediaPath sessionId participantId
    M.run M.init front = some s → M.run s back = some t → s.media.running = false →
      t.media.running = false ∧ ∃ late, t.media.written = s.media.written ++ late ∧
        late.Subperm s.inHand := by
  intro M _ runs stopped
  have since : s.FinishedSince t := by
    refine M.invariant_of_run (motive := s.FinishedSince) (fun r _ r' since step => ?_)
      ⟨stopped, List.prefix_refl _, List.Subperm.refl _⟩ runs
    exact since.trans (MediaPath.finished_of_handled since.stopped (MediaPath.handled_step step))
  exact ⟨since.stopped, since.late⟩

/-- `Cleanup` stops the stream while the forwarding thread waits for the lock: the payload is
still written. -/
theorem stop_finishes_late :
    letI := Double.x86Cast
    let M := mediaPath "s" "p"
    let front := lateFrame ++ (List.replicate 2 (.forward true) ++
      List.replicate 4 (.control .cleanup))
    ∃ s t, M.run M.init front = some s ∧ M.run s (List.replicate 2 (.forward true)) = some t ∧
      t.media.written.length = 1 ∧ t.media.running = false ∧
        ∃ late, t.media.written = s.media.written ++ late ∧ late.Subperm s.inHand := by
  let := Double.x86Cast
  intro M front
  have stopped : (M.run M.init front).map (·.media.running) = some false := by
    decide +kernel
  have final : (M.run M.init (front ++ List.replicate 2 (.forward true))).map
      (·.media.written.length) = some 1 := by
    decide +kernel
  obtain ⟨t, reached, written⟩ := Option.map_eq_some_iff.mp final
  obtain ⟨s, before, after⟩ := M.run_append_eq_some.mp reached
  have here : s.media.running = false := by
    rw [before] at stopped
    exact Option.some.inj stopped
  exact ⟨s, t, before, after, written, stop_finishes "s" "p" _ _ s t before after here⟩

end Saasy.ListeningEngine
