import SaasyMediaEngine.Control.CommandRuns
import SaasyMediaEngine.Control.SessionMembers
import SaasyMediaEngine.Speaking.Commands
import SaasyMediaEngine.Speaking.PlaybackMachine

/-!
# The media stream of a speaking session

`speaking-engine/src/media_stream.cpp`.  The media thread reads payloads, drops what
`ValidateMediaFrame` or `HandleMediaFrame` does not let through, and pushes the rest to the
audio queue of the session.  `mediaStream` interleaves its loop with `Stop`, with the
commands of the session (`StartProduction` sets the id of its producer), and with the capture
thread, which empties the queue.

Both checks are looser than "audio of the producer of this session".  `ValidateMediaFrame`
lets video pass, and `HandleMediaFrame` compares the producer only once the session has one.
`AcceptanceLaw` says what is pushed, `OwnAudio` what is not guaranteed of it.

A read is one step, from the payload to the counters, since only the media thread pushes and only it
counts; what the others do to the session in between two reads is all that it can see of them.
`Handled` has three constructors, a frame that is refused, one that comes to a full queue, and one
that is pushed, and `AcceptanceLaw` is read off the three: which frames are pushed, which must be,
and that each is counted once.  `processPayload_ok` adds that the thread never dereferences a null
pointer here, as nothing in this machine takes the device away; that is the subject of
`Speaking.Release`.
-/

namespace Saasy.SpeakingEngine

open Transition Control

/-- A `v1::SpeakingEngineMediaPayload`, which may or may not carry a frame. -/
structure SpeakingEngineMediaPayload where
  requestId : String
  sessionId : String
  participantId : String
  mediaFrame : Option MediaFrame
  deriving DecidableEq

/-- A `v1::SpeakingEngineMediaAck` with an error, the only kind that the media thread writes. -/
structure SpeakingEngineMediaAck where
  type : String
  requestId : String
  sessionId : String
  participantId : String
  errorCode : String
  errorMessage : String
  deriving DecidableEq

/-- `MediaStreamStats`, without the start time, from which only the frame rate is reckoned. -/
structure MediaStreamStats where
  framesReceived : UInt64
  framesDropped : UInt64
  bytesReceived : UInt64
  deriving DecidableEq

/-- Where the media thread is.  What it does with a payload is part of the step in which it reads
it. -/
inductive MediaThread where
  /-- At the test of `running_`. -/
  | testing
  /-- In `Read`. -/
  | reading
  | ended
  deriving DecidableEq

/-- A media stream and its session, with the chunks that it has pushed and the errors it has
written. -/
structure MediaStream where
  sessionId : String
  running : Bool
  thread : MediaThread
  stats : MediaStreamStats
  /-- What `SendErrorResponse` has written. -/
  written : List SpeakingEngineMediaAck
  session : Session
  /-- Whether `audio_queue` is set; what is in it is in the device. -/
  audioQueue : Bool
  /-- The chunks that were pushed, oldest first. -/
  pushed : List PcmChunk

namespace MediaStream

/-- The constructor and `Start`, on any session. -/
def start (sessionId : String) (session : Session) (audioQueue : Bool) : MediaStream where
  sessionId := sessionId
  running := true
  thread := .testing
  stats := ⟨0, 0, 0⟩
  written := []
  session := session
  audioQueue := audioQueue
  pushed := []

/-- `stats_.frames_dropped++`. -/
def countDropped (s : MediaStream) : MediaStream :=
  { s with stats := { s.stats with framesDropped := s.stats.framesDropped + 1 } }

/-- `stats_.frames_received++`. -/
def countReceived (s : MediaStream) : MediaStream :=
  { s with stats := { s.stats with framesReceived := s.stats.framesReceived + 1 } }

/-- `stats_.bytes_received += byte_count`. -/
def countBytes (byteCount : ℕ) (s : MediaStream) : MediaStream :=
  { s with stats := { s.stats with bytesReceived := s.stats.bytesReceived + .ofNat byteCount } }

/-- What `audio_queue` points to: the queue of the device. -/
def audioQueueOf (s : MediaStream) : Option CustomAudioDeviceModule :=
  if s.audioQueue then s.session.adm else none

/-- `MediaStream::HandleMediaFrame`.  Each check that fails counts the frame as dropped.  The bytes
are counted before the push, the frame as received after it. -/
def handleMediaFrame (frame : MediaFrame) (s : MediaStream) : Except SessionMember MediaStream :=
  if !validateMediaFrame frame || !s.session.audioTrack || s.session.adm.isNone ||
      !s.audioQueue then .ok s.countDropped
  else if s.session.audioProducerId ≠ "" ∧
      frame.deviceProducerId ≠ s.session.audioProducerId then .ok s.countDropped
  else if frame.frameData.length % 2 ≠ 0 then .ok s.countDropped
  else do
    let s := s.countBytes frame.frameData.length
    let queue ← deref .audioQueue s.audioQueueOf
    let chunk := ⟨s.pushed.length, frame.frameData⟩
    match queue.push chunk with
    | some adm =>
        .ok { s with
          session := { s.session with adm := some adm }
          pushed := s.pushed ++ [chunk] }.countReceived
    | none => .ok s.countDropped

/-- `MediaStream::SendErrorResponse`. -/
def sendErrorResponse (requestId participantId errorCode errorMessage : String)
    (s : MediaStream) : MediaStream :=
  { s with written := s.written ++
      [⟨"error", requestId, s.sessionId, participantId, errorCode, errorMessage⟩] }

/-- The body of `ProcessMediaStream`'s loop.  A payload of another session is answered with an
error and not counted; one without a frame is passed over. -/
def processPayload (payload : SpeakingEngineMediaPayload) (s : MediaStream) :
    Except SessionMember MediaStream :=
  if payload.sessionId ≠ s.sessionId then
    .ok (s.sendErrorResponse payload.requestId payload.participantId "INVALID_ARGUMENT"
      "Session ID mismatch")
  else
    match payload.mediaFrame with
    | some frame => s.handleMediaFrame frame
    | none => .ok s

end MediaStream

inductive MediaAction where
  /-- The media thread tests `running_`. -/
  | test
  /-- `Read` returns a payload, or false. -/
  | read (payload : Option SpeakingEngineMediaPayload)
  | stop
  /-- A command is executed. -/
  | command (command : Command) (outcome : Outcome)
  /-- The first critical section of the capture loop. -/
  | capture

namespace MediaStream

/-- One step, if it is enabled.  The capture thread is here for the queue alone, of which an
iteration empties all that it finds. -/
def step [Wire.Double.UndefinedCast] (s : MediaStream) : MediaAction → Option MediaStream
  | .test =>
      if s.thread = .testing then
        some { s with thread := if s.running then .reading else .ended }
      else none
  | .read payload =>
      if s.thread = .reading then
        match payload with
        | none => some { s with thread := .ended }
        | some payload => ((s.processPayload payload).map ({ · with thread := .testing })).toOption
      else none
  | .stop => some { s with running := false }
  | .command command outcome =>
      some { s with session := (speakingEngine.executed s.session (command, outcome)).state }
  | .capture =>
      s.session.adm.map fun adm =>
        { s with session := { s.session with adm := some adm.drainCapAssemble.2 } }

/-! ### What a frame does

A frame passes two functions with checks of their own, and is then pushed or not.  `Handled` is
what comes of it, with what is counted. -/

/-- What the two functions check of a frame, with its size: together the conditions under which
nothing in the frame itself keeps it from being pushed. -/
structure Accepts (s : MediaStream) (frame : MediaFrame) : Prop where
  kind : frame.kind = .audio ∨ frame.kind = .video
  named : frame.deviceProducerId ≠ ""
  producer : s.session.audioProducerId = "" ∨
    frame.deviceProducerId = s.session.audioProducerId
  even : frame.frameData.length % 2 = 0
  nonempty : 2 ≤ frame.frameData.length
  small : frame.frameData.length ≤ 1048576

/-- The session has everything that a frame needs: the track, the device, and the queue behind it.
-/
structure Complete (s : MediaStream) (adm : CustomAudioDeviceModule) : Prop where
  audioTrack : s.session.audioTrack = true
  adm : s.session.adm = some adm
  audioQueue : s.audioQueue = true

/-- A frame that has been pushed to the queue of a device. -/
def pushFrame (adm : CustomAudioDeviceModule) (frame : MediaFrame) (s : MediaStream) :
    MediaStream :=
  let chunk : PcmChunk := ⟨s.pushed.length, frame.frameData⟩
  { s with
    session := { s.session with adm := some { adm with audioQueue := adm.audioQueue ++ [chunk] } }
    pushed := s.pushed ++ [chunk] }

/-- A frame that is dropped, and one that is pushed, with what is counted of it.  A frame for which
there is no room counts its bytes all the same. -/
inductive Handled (s : MediaStream) (frame : MediaFrame) : MediaStream → Prop
  | refused (refused : ¬ (s.Accepts frame ∧ ∃ adm, s.Complete adm)) :
      Handled s frame s.countDropped
  | full {adm : CustomAudioDeviceModule} (accepts : s.Accepts frame) (complete : s.Complete adm)
      (full : kAudioQueueCapacity ≤ adm.audioQueue.length) :
      Handled s frame (s.countBytes frame.frameData.length).countDropped
  | pushed {adm : CustomAudioDeviceModule} (accepts : s.Accepts frame)
      (complete : s.Complete adm) (room : adm.audioQueue.length < kAudioQueueCapacity) :
      Handled s frame ((s.countBytes frame.frameData.length).pushFrame adm frame).countReceived

theorem validateMediaFrame_eq_true {frame : MediaFrame} :
    validateMediaFrame frame = true ↔
      frame.frameData.length ≤ 1048576 ∧ frame.frameData ≠ [] ∧
        (frame.kind = .audio ∨ frame.kind = .video) ∧ frame.deviceProducerId ≠ "" := by
  have small : decide (frame.frameData.length ≤ kMaxFrameSize) = true ↔
      frame.frameData.length ≤ 1048576 := decide_eq_true_iff
  rw [validateMediaFrame, Bool.and_eq_true, Bool.and_eq_true, Bool.and_eq_true, small]
  simp [and_assoc]

/-- **What `HandleMediaFrame` can do**; it never finds the queue gone, as nothing happens between
its test and its use here. -/
theorem handleMediaFrame_handled (frame : MediaFrame) (s : MediaStream) :
    ∃ t, s.handleMediaFrame frame = .ok t ∧ s.Handled frame t := by
  unfold handleMediaFrame
  split_ifs with unready foreign odd
  · refine ⟨_, rfl, .refused ?_⟩
    rintro ⟨accepts, adm, complete⟩
    have data : 0 < frame.frameData.length := Nat.lt_of_lt_of_le Nat.zero_lt_two accepts.nonempty
    have valid : validateMediaFrame frame = true := validateMediaFrame_eq_true.mpr
      ⟨accepts.small, List.ne_nil_of_length_pos data, accepts.kind, accepts.named⟩
    simp [valid, complete.audioTrack, complete.adm, complete.audioQueue] at unready
  · exact ⟨_, rfl, .refused fun ⟨accepts, _⟩ => accepts.producer.elim foreign.1 foreign.2⟩
  · exact ⟨_, rfl, .refused fun ⟨accepts, _⟩ => odd accepts.even⟩
  · simp only [Bool.or_eq_true, not_or, Bool.not_eq_true', Bool.not_eq_false,
      Option.isNone_iff_eq_none] at unready
    obtain ⟨⟨⟨valid, track⟩, device⟩, queue⟩ := unready
    obtain ⟨adm, there⟩ := Option.ne_none_iff_exists'.mp device
    obtain ⟨small, nonempty, kind, named⟩ := validateMediaFrame_eq_true.mp valid
    have positive := List.length_pos_iff.mpr nonempty
    have accepts : s.Accepts frame :=
      ⟨kind, named, by tauto, by omega, by omega, small⟩
    have complete : s.Complete adm := ⟨track, there, queue⟩
    have found : (s.countBytes frame.frameData.length).audioQueueOf = some adm := by
      simp [audioQueueOf, countBytes, queue, there]
    dsimp only
    rw [found, deref_some]
    dsimp only [Bind.bind, Except.bind]
    by_cases room : adm.audioQueue.length < kAudioQueueCapacity
    · have pushed : ∀ chunk, adm.push chunk =
          some { adm with audioQueue := adm.audioQueue ++ [chunk] } := fun _ => if_pos room
      rw [pushed]
      exact ⟨_, rfl, .pushed accepts complete room⟩
    · have refused : ∀ chunk, adm.push chunk = none := fun _ => if_neg room
      rw [refused]
      exact ⟨_, rfl, .full accepts complete (not_lt.mp room)⟩

/-- Nor does anything else that is read. -/
theorem processPayload_ok (payload : SpeakingEngineMediaPayload) (s : MediaStream) :
    ∃ t, s.processPayload payload = .ok t := by
  unfold processPayload
  split_ifs
  · exact ⟨_, rfl⟩
  · cases payload.mediaFrame with
    | none => exact ⟨s, rfl⟩
    | some frame =>
        obtain ⟨t, handled, -⟩ := handleMediaFrame_handled frame s
        exact ⟨t, handled⟩

/-- On a complete session a frame does to the device what it does in `playback`. -/
theorem handleMediaFrame_playback {s t : MediaStream} {frame : MediaFrame} {p : PlaybackState}
    (complete : s.Complete p.adm) (pushed : s.pushed = p.pushed)
    (handled : s.handleMediaFrame frame = .ok t) :
    t.session.adm = some (p.handleMediaFrame s.session.audioProducerId frame).adm ∧
      t.pushed = (p.handleMediaFrame s.session.audioProducerId frame).pushed := by
  have found : (s.countBytes frame.frameData.length).audioQueueOf = some p.adm := by
    simp [audioQueueOf, countBytes, complete.audioQueue, complete.adm]
  unfold handleMediaFrame at handled
  unfold PlaybackState.handleMediaFrame
  simp only [complete.audioTrack, complete.adm, complete.audioQueue, Bool.not_true,
    Option.isNone_some, Bool.or_false] at handled
  split_ifs at handled ⊢ with invalid foreign odd
  · cases handled
    exact ⟨complete.adm, pushed⟩
  · cases handled
    exact ⟨complete.adm, pushed⟩
  · cases handled
    exact ⟨complete.adm, pushed⟩
  · rw [found, deref_some] at handled
    dsimp only [Bind.bind, Except.bind] at handled
    have serial : (s.countBytes frame.frameData.length).pushed.length = p.pushed.length :=
      congrArg List.length pushed
    rw [serial] at handled
    dsimp only
    cases room : p.adm.push ⟨p.pushed.length, frame.frameData⟩ with
    | some adm =>
        rw [room] at handled
        cases handled
        exact ⟨rfl, congrArg (· ++ [_]) pushed⟩
    | none =>
        rw [room] at handled
        cases handled
        exact ⟨complete.adm, pushed⟩

/-! ### What the other steps do

They may take chunks out of the queue, by a flush or by an iteration of the capture loop, but none
puts one in.  So every chunk in the queue is one that a read has put there. -/

/-- The chunks in the queue of a session's device. -/
def queued (session : Session) : List PcmChunk := (session.adm.map (·.audioQueue)).getD []

/-- No operation of a command puts a chunk into the queue. -/
theorem queued_apply (op : SessionOp) (session : Session) :
    queued (op.apply session) ⊆ queued session := by
  cases op with
  | flushAudioBuffer fadeDurationMs =>
      cases there : session.adm with
      | none => simp [queued, SessionOp.apply, there]
      | some adm =>
          obtain ⟨-, same⟩ | ⟨-, ring, flushed, -⟩ := adm.flushAudioBuffer_cases fadeDurationMs
          · simp [queued, SessionOp.apply, there, same]
          · simp [queued, SessionOp.apply, there, flushed]
  | speechGenerationComplete =>
      cases there : session.adm with
      | none => simp [queued, SessionOp.apply, there]
      | some adm =>
          simp [queued, SessionOp.apply, there, CustomAudioDeviceModule.completeSpeechGeneration]
  | _ => exact List.Subset.refl _

theorem queued_executed [Wire.Double.UndefinedCast] (command : Command) (outcome : Outcome)
    (session : Session) :
    queued (speakingEngine.executed session (command, outcome)).state ⊆ queued session := by
  have performed (op : SessionOp) (t : Session) (before : queued t ⊆ queued session) :
      queued (op.apply t) ⊆ queued session :=
    List.Subset.trans (queued_apply op t) before
  obtain ⟨-, -, kept⟩ := (speakingEngine.answersOnce command outcome).exec
    (motive := fun _ t => queued t ⊆ queued session)
    (fun _ op _ t _ before => performed op t before) (fun _ _ _ _ _ before => before)
    (List.Subset.refl _)
  exact kept

/-! ### The law

A law for a step, which every step satisfies without any condition on the run: what the state has
to do with it is part of the law. -/

/-- The step handles a frame for this session. -/
def Carries (t : Taken MediaStream MediaAction) (frame : MediaFrame) : Prop :=
  ∃ payload, t.action = .read (some payload) ∧ payload.sessionId = t.before.sessionId ∧
    payload.mediaFrame = some frame

/-- The step pushes a chunk. -/
def Pushes (t : Taken MediaStream MediaAction) (chunk : PcmChunk) : Prop :=
  t.after.pushed = t.before.pushed ++ [chunk] ∧
    queued t.after.session = queued t.before.session ++ [chunk]

/-- **The law of acceptance**, for a step: what is pushed satisfies the checks, what satisfies them
is pushed unless the queue is full, and every frame is counted once. -/
structure AcceptanceLaw (t : Taken MediaStream MediaAction) : Prop where
  /-- What is new in the queue was pushed. -/
  queued : ∀ chunk ∈ queued t.after.session,
    chunk ∈ queued t.before.session ∨ Pushes t chunk
  /-- What is pushed is the data of a frame of this session that is accepted. -/
  sound : t.after.pushed = t.before.pushed ∨
    ∃ frame, Carries t frame ∧ t.before.Accepts frame ∧
      Pushes t ⟨t.before.pushed.length, frame.frameData⟩
  /-- An audio frame that is accepted is pushed, while there is room. -/
  complete : ∀ frame, Carries t frame → t.before.Accepts frame → frame.kind = .audio →
    ∀ adm, t.before.Complete adm → adm.audioQueue.length < kAudioQueueCapacity →
      Pushes t ⟨t.before.pushed.length, frame.frameData⟩
  /-- A frame is counted once. -/
  counted : ∀ frame, Carries t frame →
    (t.after.stats.framesReceived = t.before.stats.framesReceived + 1 ∧
        t.after.stats.framesDropped = t.before.stats.framesDropped) ∨
      (t.after.stats.framesReceived = t.before.stats.framesReceived ∧
        t.after.stats.framesDropped = t.before.stats.framesDropped + 1)
  /-- Nothing else is counted. -/
  uncounted : (∀ frame, ¬ Carries t frame) → t.after.stats = t.before.stats

/-- A step that handles no frame. -/
theorem AcceptanceLaw.of_idle {t : Taken MediaStream MediaAction}
    (idle : ∀ frame, ¬ Carries t frame) (pushed : t.after.pushed = t.before.pushed)
    (stats : t.after.stats = t.before.stats)
    (kept : MediaStream.queued t.after.session ⊆ MediaStream.queued t.before.session) :
    AcceptanceLaw t where
  queued _ mem := .inl (kept mem)
  sound := .inl pushed
  complete frame carries := absurd carries (idle frame)
  counted frame carries := absurd carries (idle frame)
  uncounted _ := stats

theorem queued_pushFrame {s : MediaStream} {adm : CustomAudioDeviceModule}
    (complete : s.Complete adm) (frame : MediaFrame) :
    MediaStream.queued (s.pushFrame adm frame).session =
      MediaStream.queued s.session ++ [⟨s.pushed.length, frame.frameData⟩] := by
  simp [MediaStream.queued, pushFrame, complete.adm]

/-- **One frame** that was read, whichever way it went. -/
theorem acceptanceLaw_of_handled {s u : MediaStream} {payload : SpeakingEngineMediaPayload}
    {frame : MediaFrame} (own : payload.sessionId = s.sessionId)
    (carried : payload.mediaFrame = some frame) (handled : s.Handled frame u) :
    AcceptanceLaw ⟨s, .read (some payload), { u with thread := .testing }⟩ := by
  have here : ∀ t, Carries ⟨s, .read (some payload), t⟩ frame :=
    fun _ => ⟨payload, rfl, own, carried⟩
  have only : ∀ t other, Carries ⟨s, .read (some payload), t⟩ other → frame = other := by
    rintro t other ⟨_, same, -, carried'⟩
    cases same
    exact Option.some.inj (carried.symm.trans carried')
  cases handled with
  | refused refused =>
      refine ⟨fun chunk mem => .inl mem, .inl rfl, ?_, fun _ _ => .inr ⟨rfl, rfl⟩,
        fun idle => absurd (here _) (idle frame)⟩
      intro other carries accepts _ adm complete _
      obtain rfl := only _ other carries
      exact absurd ⟨accepts, adm, complete⟩ refused
  | @full adm accepts complete full =>
      refine ⟨fun chunk mem => .inl mem, .inl rfl, ?_, fun _ _ => .inr ⟨rfl, rfl⟩,
        fun idle => absurd (here _) (idle frame)⟩
      intro other carries _ _ adm' complete' room
      obtain rfl : adm' = adm := Option.some.inj (complete'.adm.symm.trans complete.adm)
      exact absurd full (not_le.mpr room)
  | @pushed adm accepts complete room =>
      have pushes : ∀ t : MediaStream, t.pushed = s.pushed ++ [⟨s.pushed.length, frame.frameData⟩] →
          t.session = (s.pushFrame adm frame).session →
          Pushes ⟨s, .read (some payload), t⟩ ⟨s.pushed.length, frame.frameData⟩ := by
        intro t pushed session
        exact ⟨pushed, by rw [session]; exact queued_pushFrame complete frame⟩
      refine ⟨fun chunk mem => ?_, .inr ⟨frame, here _, accepts, pushes _ rfl rfl⟩, ?_,
        fun _ _ => .inl ⟨rfl, rfl⟩, fun idle => absurd (here _) (idle frame)⟩
      · change chunk ∈ MediaStream.queued (s.pushFrame adm frame).session at mem
        rw [queued_pushFrame complete] at mem
        obtain old | new := List.mem_append.mp mem
        · exact .inl old
        · rw [List.mem_singleton.mp new]
          exact .inr (pushes _ rfl rfl)
      · intro other carries _ _ _ _ _
        obtain rfl := only _ other carries
        exact pushes _ rfl rfl

/-- A payload that was read. -/
theorem acceptanceLaw_of_payload {s t : MediaStream} {payload : SpeakingEngineMediaPayload}
    (read : ((s.processPayload payload).map ({ · with thread := .testing })).toOption = some t) :
    AcceptanceLaw ⟨s, .read (some payload), t⟩ := by
  by_cases own : payload.sessionId = s.sessionId
  · cases carried : payload.mediaFrame with
    | some frame =>
        obtain ⟨u, result, handled⟩ := handleMediaFrame_handled frame s
        simp only [processPayload, own, ne_eq, not_true, if_false, carried, result,
          Except.map, Except.toOption] at read
        cases read
        exact acceptanceLaw_of_handled own carried handled
    | none =>
        simp only [processPayload, own, ne_eq, not_true, if_false, carried,
          Except.map, Except.toOption] at read
        cases read
        refine .of_idle ?_ rfl rfl (List.Subset.refl _)
        rintro frame ⟨_, ⟨⟩, -, there⟩
        simp [carried] at there
  · simp only [processPayload, own, ne_eq, not_false_iff, if_true, Except.map,
      Except.toOption] at read
    cases read
    exact .of_idle (by rintro _ ⟨_, ⟨⟩, same, _⟩; exact own same) rfl rfl
      (List.Subset.refl _)

/-- **Every step**: only a read can push or count, so the others are lawful at once. -/
theorem acceptanceLaw_of_step [Wire.Double.UndefinedCast] {s t : MediaStream}
    {action : MediaAction} (step : s.step action = some t) : AcceptanceLaw ⟨s, action, t⟩ := by
  cases action with
  | test =>
      obtain ⟨-, ⟨⟩⟩ := Option.ite_none_right_eq_some.mp step
      exact .of_idle (by rintro _ ⟨_, ⟨⟩, _⟩) rfl rfl (List.Subset.refl _)
  | read payload =>
      obtain ⟨-, read⟩ := Option.ite_none_right_eq_some.mp step
      cases payload with
      | none =>
          cases read
          exact .of_idle (by rintro _ ⟨_, ⟨⟩, _⟩) rfl rfl (List.Subset.refl _)
      | some payload => exact acceptanceLaw_of_payload read
  | stop =>
      cases step
      exact .of_idle (by rintro _ ⟨_, ⟨⟩, _⟩) rfl rfl (List.Subset.refl _)
  | command command outcome =>
      cases step
      exact .of_idle (by rintro _ ⟨_, ⟨⟩, _⟩) rfl rfl (queued_executed command outcome s.session)
  | capture =>
      obtain ⟨adm, there, rfl⟩ := Option.map_eq_some_iff.mp step
      refine .of_idle (by rintro _ ⟨_, ⟨⟩, _⟩) rfl rfl ?_
      obtain ⟨ring, underruns, drained, -⟩ := adm.drainCapAssemble_cases
      simp [MediaStream.queued, drained]

end MediaStream

/-- The media thread of a session, interleaved with what else goes on there: `Stop`, the commands,
and the capture thread at the other end of the queue. -/
def mediaStream [Wire.Double.UndefinedCast] (sessionId : String) (session : Session)
    (audioQueue : Bool) : Machine MediaStream MediaAction where
  init := .start sessionId session audioQueue
  step := MediaStream.step

namespace MediaStream

/-- **What reaches the speaker**: frames of this session, of its producer once it has one, of a
size that makes samples; every such audio frame, unless the queue is full; each counted once. -/
theorem acceptanceLaw_of_run [Wire.Double.UndefinedCast] (sessionId : String) (session : Session)
    (audioQueue : Bool) (actions : List MediaAction) :
    ∀ t ∈ (mediaStream sessionId session audioQueue).transitions
      (.start sessionId session audioQueue) actions, AcceptanceLaw t := by
  intro t mem
  obtain ⟨-, step⟩ := (mediaStream sessionId session audioQueue).transitions_of_invariant
    (motive := fun _ => True) (fun _ _ _ _ _ => trivial) trivial t mem
  exact acceptanceLaw_of_step step

/-- A session after `LoadDevice` and `CreateTransport`. -/
def transporting : Session :=
  { Session.created with
    device := some ⟨0, true⟩
    transportListener := some ⟨1, "transport"⟩
    transport := some ⟨2, some 1, false⟩
    objects := 3 }

/-- The frame of another producer, before `StartProduction`. -/
theorem acceptanceLaw_of_run_foreign :
    letI := Wire.Double.x86Cast
    let payload : SpeakingEngineMediaPayload :=
      ⟨"", "session", "", some ⟨[1, 0], .audio, "other"⟩⟩
    ∃ t ∈ (mediaStream "session" transporting true).transitions
        (.start "session" transporting true) [.test, .read (some payload)],
      t.action = .read (some payload) ∧ AcceptanceLaw t := by
  let := Wire.Double.x86Cast
  intro payload
  have there : (((mediaStream "session" transporting true).transitions
      (.start "session" transporting true) [.test, .read (some payload)])[1]?).map (·.action) =
        some (.read (some payload)) := rfl
  obtain ⟨last, here, action⟩ := Option.map_eq_some_iff.mp there
  have mem := List.mem_of_getElem? here
  exact ⟨last, mem, action, acceptanceLaw_of_run "session" transporting true _ last mem⟩

/-- Only audio, and only of the producer of the session. -/
def OwnAudio (t : Taken MediaStream MediaAction) : Prop :=
  ∀ frame, Carries t frame → Pushes t ⟨t.before.pushed.length, frame.frameData⟩ →
    frame.kind = .audio ∧ frame.deviceProducerId = t.before.session.audioProducerId

/-- Every call into mediasoupclient succeeds. -/
def producing (producerId : String) : Outcome where
  load _ := .ok ()
  getRtpCapabilities := .ok .null
  createTransport := .ok ()
  produce := .ok (some producerId)

/-- A frame of another producer is pushed while the session has none, and video after that; a
session without a queue drops its own audio. -/
theorem video_and_foreign_pushed :
    letI := Wire.Double.x86Cast
    let frame (kind : MediaKind) (producerId : String) : SpeakingEngineMediaPayload :=
      ⟨"", "session", "", some ⟨[1, 0], kind, producerId⟩⟩
    let actions : List MediaAction :=
      [.test, .read (some (frame .audio "other")), .command .startProduction (producing "own"),
        .test, .read (some (frame .video "own"))]
    let M := mediaStream "session" transporting true
    (∃ s ∈ M.run M.init actions, s.session.audioProducerId = "own" ∧
        s.pushed.map (·.bytes) = [[1, 0], [1, 0]]) ∧
      (¬ ∀ t ∈ M.transitions M.init actions, OwnAudio t) ∧
      ∃ s ∈ (mediaStream "session" transporting false).run
          (mediaStream "session" transporting false).init
          [.command .startProduction (producing "own"), .test, .read (some (frame .audio "own"))],
        s.session.audioProducerId = "own" ∧ s.pushed = [] ∧ s.stats.framesDropped = 1 := by
  let := Wire.Double.x86Cast
  intro frame actions M
  refine ⟨⟨_, rfl, rfl, rfl⟩, fun own => ?_, ⟨_, rfl, rfl, rfl, rfl⟩⟩
  have there : ((M.transitions M.init actions)[4]?).map (·.action) =
      some (.read (some (frame .video "own"))) := rfl
  obtain ⟨last, here, -⟩ := Option.map_eq_some_iff.mp there
  have law := own last (List.mem_of_getElem? here) ⟨[1, 0], .video, "own"⟩
  cases here
  obtain ⟨video, -⟩ := law ⟨_, rfl, rfl, rfl⟩ ⟨rfl, rfl⟩
  cases video

end MediaStream

end Saasy.SpeakingEngine
