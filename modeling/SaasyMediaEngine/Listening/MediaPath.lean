import SaasyMediaEngine.Listening.MediaStream
import SaasyMediaEngine.Listening.Teardown

/-!
# The way of the audio through a session

The tracks of all consumers hand their frames to one `AudioTrackSink`, which queues them.  The
forwarding thread of the media stream takes them to the pre-roll ring and, while it finds the
gate open, sends them; the VAD thread, which calls `OnVadTurnEvent`, sends the ring.  Meanwhile
the command thread creates consumers, and `Cleanup` takes the session down.  `mediaPath`
interleaves them all.

`SendMediaFrame` is several steps: the payload is made outside of `write_mutex_`, for the
consumer that `GetFirstConsumerId` named still earlier, and only the write is inside.  Taken in
a row the steps of a thread are the functions of `MediaStream` (`run_forward`, `run_turnEvent`).

A byte carries which track delivered it and in what format, where no definition looks at it.
-/

namespace Saasy.ListeningEngine

open Transition Wire

/-- A byte of captured audio: the track that delivered it, and the format of its frame.  The source
has only the value; no step looks at the rest. -/
structure TrackByte where
  value : UInt8
  track : ℕ
  sampleRate : UInt32
  channels : UInt32
  deriving DecidableEq

/-! ### The sink

WebRTC calls `OnData` on a thread of its own.  What it reads are its arguments and the clock; the
queue is what it shares with the forwarding thread. -/

/-- The arguments of `OnData`, which WebRTC calls, and the system clock that it reads. -/
structure TrackData where
  audioData : List UInt8
  bitsPerSample : Int32
  sampleRate : Int32
  numberOfChannels : UInt64
  numberOfFrames : UInt64
  nowMs : ℕ

/-- `total_bytes`.  The division is one of `int`s; what it gives is made a `size_t`. -/
def TrackData.totalBytes (data : TrackData) : UInt64 :=
  data.numberOfFrames * data.numberOfChannels * (data.bitsPerSample / 8).toInt64.toUInt64

/-- The frame `OnData` makes of them: so many bytes as the arguments say, in the format that they
say. -/
def TrackData.frame (data : TrackData) (track : ℕ) : AudioFrame TrackByte where
  data := (data.audioData.take data.totalBytes.toNat).map fun value =>
    ⟨value, track, data.sampleRate.toUInt32, data.numberOfChannels.toUInt32⟩
  sampleRate := data.sampleRate.toUInt32
  channels := data.numberOfChannels.toUInt32
  timestampMs := data.nowMs

/-- The capacity of `audio_queue_`. -/
def kAudioQueueCapacity : ℕ := 256

structure AudioTrackSink where
  running : Bool
  audioQueue : List (AudioFrame TrackByte)

namespace AudioTrackSink

/-- After `Start`. -/
def started : AudioTrackSink := ⟨true, []⟩

/-- `spsc_queue::push`, which fails while the queue is full. -/
def push (frame : AudioFrame TrackByte) (sink : AudioTrackSink) : AudioTrackSink :=
  if sink.audioQueue.length < kAudioQueueCapacity then
    { sink with audioQueue := sink.audioQueue ++ [frame] }
  else sink

/-- `AudioTrackSink::OnData`, called by a track. -/
def onData (track : ℕ) (data : TrackData) (sink : AudioTrackSink) : AudioTrackSink :=
  if !sink.running then sink
  else if data.numberOfChannels = 2 then sink
  else sink.push (data.frame track)

end AudioTrackSink

/-! ### Sending

`SendMediaFrame` in two parts, as there is a lock between them: what is made of a frame before the
lock is taken, and what happens from the return of `Write`.  Put together they are the function of
`Listening.MediaStream`. -/

namespace MediaStream

variable {Byte : Type*}

/-- `SendMediaFrame` up to the lock: the payload, if there is one to write. -/
def prepareMediaFrame (deviceConsumerId : String) (frame : AudioFrame Byte)
    (m : MediaStream Byte) : MediaStream Byte × Option (MediaPayload Byte) :=
  if !m.running then (m, none)
  else if kMaxFrameSize < frame.data.length then
    ({ m with framesDropped := m.framesDropped + 1 }, none)
  else
    ({ m with requestCounter := m.requestCounter + 1 },
      some ⟨m.requestId, m.sessionId, m.participantId, deviceConsumerId, frame⟩)

/-- `SendMediaFrame` from the return of `Write`.  One that fails stops the stream, and the frame
counts as dropped. -/
def finishWrite (payload : MediaPayload Byte) (writeOk : Bool) (m : MediaStream Byte) :
    MediaStream Byte :=
  if writeOk then
    { m with
      framesSent := m.framesSent + 1
      bytesSent := m.bytesSent + payload.frame.data.length.toUInt64
      written := m.written ++ [payload] }
  else { m with framesDropped := m.framesDropped + 1, running := false }

/-- The two parts in a row. -/
theorem sendMediaFrame_cases (env : MediaEnv) (frame : AudioFrame Byte) (m : MediaStream Byte) :
    m.prepareMediaFrame env.consumerId frame = (m.sendMediaFrame env frame, none) ∨
      ∃ prepared payload, m.prepareMediaFrame env.consumerId frame = (prepared, some payload) ∧
        prepared.finishWrite payload env.writeOk = m.sendMediaFrame env frame := by
  unfold sendMediaFrame prepareMediaFrame
  split_ifs with stopped large written
  · exact .inl rfl
  · exact .inl rfl
  · exact .inr ⟨_, _, rfl, by rw [finishWrite, written, if_pos rfl]⟩
  · exact .inr ⟨_, _, rfl, by rw [finishWrite, if_neg written]⟩

/-- What comes out of it is what went in. -/
theorem prepareMediaFrame_cases (deviceConsumerId : String) (frame : AudioFrame Byte)
    (m : MediaStream Byte) :
    let prepared := m.prepareMediaFrame deviceConsumerId frame
    prepared.1.written = m.written ∧ prepared.1.preRollBuffer = m.preRollBuffer ∧
      (prepared.2 = none ∨ ∃ payload, prepared.2 = some payload ∧
        payload.deviceConsumerId = deviceConsumerId ∧ payload.frame = frame) := by
  unfold prepareMediaFrame
  split_ifs
  · exact ⟨rfl, rfl, .inl rfl⟩
  · exact ⟨rfl, rfl, .inl rfl⟩
  · exact ⟨rfl, rfl, .inr ⟨_, rfl, rfl, rfl⟩⟩

@[simp] theorem preRollBuffer_finishWrite (payload : MediaPayload Byte) (writeOk : Bool)
    (m : MediaStream Byte) : (m.finishWrite payload writeOk).preRollBuffer = m.preRollBuffer := by
  cases writeOk <;> rfl

theorem written_finishWrite (payload : MediaPayload Byte) (writeOk : Bool)
    (m : MediaStream Byte) :
    (m.finishWrite payload writeOk).written = m.written ∨
      (m.finishWrite payload writeOk).written = m.written ++ [payload] := by
  cases writeOk
  · exact .inl rfl
  · exact .inr rfl

end MediaStream

/-- Where a thread is in `SendMediaFrame`: before its tests, at the lock with the payload it has
made, or in `Write`. -/
inductive SendPhase where
  /-- At `if (!running_)`. -/
  | checking (deviceConsumerId : String) (frame : AudioFrame TrackByte)
  /-- At the lock. -/
  | locking (payload : MediaPayload TrackByte)
  /-- In `Write`. -/
  | writing (payload : MediaPayload TrackByte)

/-- The payload of a `Write` in progress. -/
def SendPhase.inWrite : SendPhase → List (MediaPayload TrackByte)
  | .writing payload => [payload]
  | _ => []

/-! ### The threads

A thread stands before its next step, and the phase carries what it has in its hands there.  The
two threads meet in the ring, in the gate and at the lock of `SendMediaFrame`. -/

/-- Where `ForwardMediaStream` is, with the frame that it has popped and, once it has asked, on its
way in `SendMediaFrame`. -/
inductive ForwarderPhase where
  /-- At `while (running_)`. -/
  | looping
  /-- At `GetNextFrame`. -/
  | fetching
  | popped (frame : AudioFrame TrackByte)
  /-- At the gate. -/
  | appended (frame : AudioFrame TrackByte)
  /-- At `GetFirstConsumerId`. -/
  | passed (frame : AudioFrame TrackByte)
  | sending (phase : SendPhase)
  | exited

/-- Where the VAD thread is in `OnVadTurnEvent`, with the copy of the ring while it has it. -/
inductive VadPhase where
  /-- Outside of `OnVadTurnEvent`. -/
  | idle
  /-- In `FlushPreRollBuffer`, at `GetFirstConsumerId`. -/
  | copied (preRollData : List TrackByte)
  | sending (phase : SendPhase)
  /-- At `gate_open_.store(true)`. -/
  | opening

def ForwarderPhase.inWrite : ForwarderPhase → List (MediaPayload TrackByte)
  | .sending phase => phase.inWrite
  | _ => []

def VadPhase.inWrite : VadPhase → List (MediaPayload TrackByte)
  | .sending phase => phase.inWrite
  | _ => []

structure MediaPath where
  /-- The command thread and `Cleanup`, with the session. -/
  control : Teardown
  /-- The tracks that the consumers were created with. -/
  owners : List (ℕ × String)
  sink : AudioTrackSink
  media : MediaStream TrackByte
  forwarder : ForwarderPhase
  vad : VadPhase

inductive MediaAction where
  /-- The command thread or `Cleanup` goes on. -/
  | control (action : TeardownAction)
  /-- A track calls `OnData`. -/
  | onData (track : ℕ) (data : TrackData)
  /-- `AudioTrackSink::Stop` discards a frame. -/
  | discard
  /-- The forwarding thread goes on; if it is in `Write`, that returns. -/
  | forward (writeOk : Bool)
  /-- The VAD thread calls `OnVadTurnEvent`. -/
  | turnEvent (eventType : String)
  /-- It goes on. -/
  | vad (writeOk : Bool) (nowMs : ℕ)

namespace MediaPath

/-- `Session::GetFirstConsumerId`. -/
def firstConsumerId (s : MediaPath) : String :=
  match s.control.session.consumers with
  | [] => ""
  | (consumerId, _) :: _ => consumerId

/-- What the two threads read from outside. -/
def env (s : MediaPath) (writeOk : Bool) (nowMs : ℕ) : MediaEnv :=
  ⟨s.firstConsumerId, writeOk, nowMs⟩

/-- The payloads whose `Write` is in progress. -/
def inWrite (s : MediaPath) : List (MediaPayload TrackByte) :=
  s.forwarder.inWrite ++ s.vad.inWrite

/-- The track of the consumer that a step creates. -/
def owner? (s : MediaPath) (action : TeardownAction) : Option (ℕ × String) :=
  match s.control.op? action with
  | some (.consume consumerId consumer) => consumer.track.map fun track => (track, consumerId)
  | _ => none

/-- The part of `Cleanup` that is about to be done. -/
def cleaning (s : MediaPath) (action : TeardownAction) : Option CleanupStep :=
  match action with
  | .cleanup => s.control.cleanup.head?
  | _ => none

def stepControl [Double.UndefinedCast] (action : TeardownAction) (s : MediaPath) :
    Option MediaPath :=
  (s.control.step action).map fun control =>
    { s with
      control := control
      owners := s.owners ++ (s.owner? action).toList
      sink := { s.sink with
        running := s.sink.running && !(s.cleaning action == some .stopSink) }
      media := { s.media with
        running := s.media.running && !(s.cleaning action == some .stopStreams) } }

/-- A thread goes on in `SendMediaFrame`, until it returns. -/
def stepSend (phase : SendPhase) (writeOk : Bool) (s : MediaPath) :
    Option (MediaStream TrackByte × Option SendPhase) :=
  match phase with
  | .checking deviceConsumerId frame =>
      let prepared := s.media.prepareMediaFrame deviceConsumerId frame
      some (prepared.1, prepared.2.map .locking)
  | .locking payload => if s.inWrite = [] then some (s.media, some (.writing payload)) else none
  | .writing payload => some (s.media.finishWrite payload writeOk, none)

def stepForward (writeOk : Bool) (s : MediaPath) : Option MediaPath :=
  match s.forwarder with
  | .looping =>
      some { s with forwarder := if s.media.running then .fetching else .exited }
  | .fetching =>
      match s.sink.audioQueue with
      | [] => some { s with forwarder := .looping }
      | frame :: rest =>
          some { s with sink := { s.sink with audioQueue := rest }, forwarder := .popped frame }
  | .popped frame =>
      some { s with media := s.media.appendPreRoll frame.data, forwarder := .appended frame }
  | .appended frame =>
      some { s with forwarder := if s.media.gateOpen then .passed frame else .looping }
  | .passed frame =>
      some { s with
        forwarder :=
          if s.firstConsumerId ≠ "" then .sending (.checking s.firstConsumerId frame)
          else .looping }
  | .sending phase =>
      (s.stepSend phase writeOk).map fun (media, next) =>
        { s with media, forwarder := next.elim .looping .sending }
  | .exited => none

/-- `OnVadTurnEvent` up to its first wait: a turn that starts copies the ring, and one that is
complete closes the gate. -/
def stepTurnEvent (eventType : String) (s : MediaPath) : Option MediaPath :=
  match s.vad with
  | .idle =>
      if eventType = "speech_started" then
        some { s with
          vad :=
            if s.media.preRollBuffer.contents.isEmpty then .opening
            else .copied s.media.preRollBuffer.contents }
      else if eventType = "user_turn_complete" then
        some { s with media := { s.media with gateOpen := false } }
      else some s
  | _ => none

def stepVad (writeOk : Bool) (nowMs : ℕ) (s : MediaPath) : Option MediaPath :=
  match s.vad with
  | .idle => none
  | .copied preRollData =>
      some { s with
        vad :=
          if s.firstConsumerId ≠ "" then
            .sending (.checking s.firstConsumerId
              (MediaStream.preRollFrame (s.env writeOk nowMs) preRollData))
          else .opening }
  | .sending phase =>
      (s.stepSend phase writeOk).map fun (media, next) =>
        { s with media, vad := next.elim .opening .sending }
  | .opening => some { s with media := { s.media with gateOpen := true }, vad := .idle }

/-- One step, if it is enabled.  A track calls `OnData` only while the sink is attached to it, and
the loop of `Stop` only pops once the sink is stopped. -/
def step [Double.UndefinedCast] (s : MediaPath) : MediaAction → Option MediaPath
  | .control action => s.stepControl action
  | .onData track data =>
      if track ∈ s.control.session.sinks then some { s with sink := s.sink.onData track data }
      else none
  | .discard =>
      if s.sink.running ∨ s.sink.audioQueue = [] then none
      else some { s with sink := { s.sink with audioQueue := s.sink.audioQueue.tail } }
  | .forward writeOk => s.stepForward writeOk
  | .turnEvent eventType => s.stepTurnEvent eventType
  | .vad writeOk nowMs => s.stepVad writeOk nowMs

/-- A session whose media stream was just started. -/
def started (sessionId participantId : String) : MediaPath where
  control := .created
  owners := []
  sink := .started
  media := .start sessionId participantId
  forwarder := .looping
  vad := .idle

/-! ### What can happen in `SendMediaFrame`

Both threads send in the same way, so what a step of it can do is said once, for whoever is in it.
-/

/-- The steps of a thread in `SendMediaFrame`.  A payload is made of the frame and the id the
thread came with, and only what returns from `Write` counts as written; no step of it touches
the pre-roll ring, which a step of the other thread may be filling. -/
inductive Sends (s : MediaPath) : SendPhase → MediaStream TrackByte → Option SendPhase → Prop
  | drops (deviceConsumerId : String) (frame : AudioFrame TrackByte)
      {media : MediaStream TrackByte} (written : media.written = s.media.written)
      (ring : media.preRollBuffer = s.media.preRollBuffer) :
      Sends s (.checking deviceConsumerId frame) media none
  | prepares (payload : MediaPayload TrackByte) {media : MediaStream TrackByte}
      (written : media.written = s.media.written)
      (ring : media.preRollBuffer = s.media.preRollBuffer) :
      Sends s (.checking payload.deviceConsumerId payload.frame) media (some (.locking payload))
  | locks (payload : MediaPayload TrackByte) (free : s.inWrite = []) :
      Sends s (.locking payload) s.media (some (.writing payload))
  | fails (payload : MediaPayload TrackByte) {media : MediaStream TrackByte}
      (written : media.written = s.media.written)
      (ring : media.preRollBuffer = s.media.preRollBuffer) :
      Sends s (.writing payload) media none
  | writes (payload : MediaPayload TrackByte) {media : MediaStream TrackByte}
      (written : media.written = s.media.written ++ [payload])
      (ring : media.preRollBuffer = s.media.preRollBuffer) :
      Sends s (.writing payload) media none

variable {s : MediaPath} {phase : SendPhase} {writeOk : Bool} {media : MediaStream TrackByte}
  {next : Option SendPhase}

theorem sends_of_stepSend (step : s.stepSend phase writeOk = some (media, next)) :
    s.Sends phase media next := by
  cases phase with
  | checking deviceConsumerId frame =>
      cases step
      obtain ⟨written, ring, none | ⟨payload, some, rfl, rfl⟩⟩ :=
        s.media.prepareMediaFrame_cases deviceConsumerId frame
      · rw [none]
        exact .drops _ _ written ring
      · rw [some]
        exact .prepares payload written ring
  | locking payload =>
      obtain ⟨free, step⟩ := Option.ite_none_right_eq_some.mp step
      cases step
      exact .locks payload free
  | writing payload =>
      cases step
      obtain fails | writes := s.media.written_finishWrite payload writeOk
      · exact .fails payload fails (s.media.preRollBuffer_finishWrite payload writeOk)
      · exact .writes payload writes (s.media.preRollBuffer_finishWrite payload writeOk)

theorem Sends.preRollBuffer_eq (sends : s.Sends phase media next) :
    media.preRollBuffer = s.media.preRollBuffer := by
  cases sends with
  | drops _ _ _ ring | prepares _ _ ring | fails _ _ ring | writes _ _ ring => exact ring
  | locks => rfl

/-! ### What a step can do -/

/-- The steps of everybody, one constructor for each way a step can go, with the state it leads
to.  The invariants of the path are proved by cases on it, and never look at `step`: a step of
`Cleanup` or of the command thread changes the session and, at most, lowers a `running_`; a track
adds to the queue; the forwarding thread moves a frame from the queue on to the ring, past the
gate, to `SendMediaFrame`; the VAD thread copies the ring and sends the copy, and moves the gate.
A thread in `SendMediaFrame` does as `Sends` says. -/
inductive Moved [Double.UndefinedCast] (s : MediaPath) : MediaAction → MediaPath → Prop
  | controls {action : TeardownAction} {control : Teardown}
      (stepped : s.control.step action = some control) :
      Moved s (.control action)
        { s with
          control := control
          owners := s.owners ++ (s.owner? action).toList
          sink := { s.sink with
            running := s.sink.running && !(s.cleaning action == some .stopSink) }
          media := { s.media with
            running := s.media.running && !(s.cleaning action == some .stopStreams) } }
  | hears {track : ℕ} (data : TrackData) (attached : track ∈ s.control.session.sinks) :
      Moved s (.onData track data) { s with sink := s.sink.onData track data }
  | discards : Moved s .discard
      { s with sink := { s.sink with audioQueue := s.sink.audioQueue.tail } }
  | loops {writeOk : Bool} (looping : s.forwarder = .looping) :
      Moved s (.forward writeOk)
        { s with forwarder := if s.media.running then .fetching else .exited }
  | waits {writeOk : Bool} (fetching : s.forwarder = .fetching) :
      Moved s (.forward writeOk) { s with forwarder := .looping }
  | pops {writeOk : Bool} {frame : AudioFrame TrackByte} {rest : List (AudioFrame TrackByte)}
      (fetching : s.forwarder = .fetching) (queued : s.sink.audioQueue = frame :: rest) :
      Moved s (.forward writeOk)
        { s with sink := { s.sink with audioQueue := rest }, forwarder := .popped frame }
  | appends {writeOk : Bool} {frame : AudioFrame TrackByte}
      (popped : s.forwarder = .popped frame) :
      Moved s (.forward writeOk)
        { s with media := s.media.appendPreRoll frame.data, forwarder := .appended frame }
  | testsGate {writeOk : Bool} {frame : AudioFrame TrackByte}
      (appended : s.forwarder = .appended frame) :
      Moved s (.forward writeOk)
        { s with forwarder := if s.media.gateOpen then .passed frame else .looping }
  | addresses {writeOk : Bool} {frame : AudioFrame TrackByte}
      (passed : s.forwarder = .passed frame) :
      Moved s (.forward writeOk)
        { s with
          forwarder :=
            if s.firstConsumerId ≠ "" then .sending (.checking s.firstConsumerId frame)
            else .looping }
  | forwards {writeOk : Bool} {phase : SendPhase} {media : MediaStream TrackByte}
      {next : Option SendPhase} (sending : s.forwarder = .sending phase)
      (sends : s.Sends phase media next) :
      Moved s (.forward writeOk) { s with media, forwarder := next.elim .looping .sending }
  | findsNothing (idle : s.vad = .idle) :
      Moved s (.turnEvent "speech_started") { s with vad := .opening }
  | copies (idle : s.vad = .idle) :
      Moved s (.turnEvent "speech_started")
        { s with vad := .copied s.media.preRollBuffer.contents }
  | endsTurn (idle : s.vad = .idle) :
      Moved s (.turnEvent "user_turn_complete")
        { s with media := { s.media with gateOpen := false } }
  | ignores {eventType : String} (idle : s.vad = .idle) : Moved s (.turnEvent eventType) s
  | addressesPreRoll {writeOk : Bool} {nowMs : ℕ} {preRollData : List TrackByte}
      (copied : s.vad = .copied preRollData) :
      Moved s (.vad writeOk nowMs)
        { s with
          vad :=
            if s.firstConsumerId ≠ "" then
              .sending (.checking s.firstConsumerId
                (MediaStream.preRollFrame (s.env writeOk nowMs) preRollData))
            else .opening }
  | flushes {writeOk : Bool} {nowMs : ℕ} {phase : SendPhase} {media : MediaStream TrackByte}
      {next : Option SendPhase} (sending : s.vad = .sending phase)
      (sends : s.Sends phase media next) :
      Moved s (.vad writeOk nowMs) { s with media, vad := next.elim .opening .sending }
  | opensGate {writeOk : Bool} {nowMs : ℕ} (opening : s.vad = .opening) :
      Moved s (.vad writeOk nowMs)
        { s with media := { s.media with gateOpen := true }, vad := .idle }

variable [Double.UndefinedCast] {t : MediaPath} {action : MediaAction}

theorem stepForward_moved (step : s.stepForward writeOk = some t) :
    s.Moved (.forward writeOk) t := by
  unfold stepForward at step
  split at step
  case h_1 looping =>
    cases step
    exact .loops looping
  case h_2 fetching =>
    split at step
    case h_1 =>
      cases step
      exact .waits fetching
    case h_2 frame rest queued =>
      cases step
      exact .pops fetching queued
  case h_3 frame popped =>
    cases step
    exact .appends popped
  case h_4 frame appended =>
    cases step
    exact .testsGate appended
  case h_5 frame passed =>
    cases step
    exact .addresses passed
  case h_6 phase sending =>
    obtain ⟨⟨media, next⟩, sent, rfl⟩ := Option.map_eq_some_iff.mp step
    exact .forwards sending (sends_of_stepSend sent)
  case h_7 => cases step

theorem stepTurnEvent_moved {eventType : String} (step : s.stepTurnEvent eventType = some t) :
    s.Moved (.turnEvent eventType) t := by
  unfold stepTurnEvent at step
  split at step
  case h_1 idle =>
    split_ifs at step with started empty complete
    · cases step
      exact started ▸ .findsNothing idle
    · cases step
      exact started ▸ .copies idle
    · cases step
      exact complete ▸ .endsTurn idle
    · cases step
      exact .ignores idle
  case h_2 => cases step

theorem stepVad_moved {nowMs : ℕ} (step : s.stepVad writeOk nowMs = some t) :
    s.Moved (.vad writeOk nowMs) t := by
  unfold stepVad at step
  split at step
  case h_1 => cases step
  case h_2 preRollData copied =>
    cases step
    exact .addressesPreRoll copied
  case h_3 phase sending =>
    obtain ⟨⟨media, next⟩, sent, rfl⟩ := Option.map_eq_some_iff.mp step
    exact .flushes sending (sends_of_stepSend sent)
  case h_4 opening =>
    cases step
    exact .opensGate opening

theorem step_moved (step : s.step action = some t) : s.Moved action t := by
  cases action with
  | control action =>
      obtain ⟨control, stepped, rfl⟩ := Option.map_eq_some_iff.mp step
      exact .controls stepped
  | onData track data =>
      obtain ⟨attached, ⟨⟩⟩ := Option.ite_none_right_eq_some.mp step
      exact .hears data attached
  | discard =>
      obtain ⟨-, ⟨⟩⟩ := Option.ite_none_left_eq_some.mp step
      exact .discards
  | forward writeOk => exact stepForward_moved step
  | turnEvent eventType => exact stepTurnEvent_moved step
  | vad writeOk nowMs => exact stepVad_moved step

end MediaPath

/-- The threads of one session that have to do with its audio, interleaved. -/
def mediaPath [Double.UndefinedCast] (sessionId participantId : String) :
    Machine MediaPath MediaAction where
  init := .started sessionId participantId
  step := MediaPath.step

/-! ### Undisturbed, the steps are those of the media stream

This ties the machine to the functions of `Listening.MediaStream`, which are translated from the
source as a whole: what the interleaving adds is only that others may come between two steps. -/

namespace MediaPath

variable [Double.UndefinedCast] {sessionId participantId : String} {s : MediaPath} {writeOk : Bool}
  {nowMs : ℕ}

/-- **A frame that was popped** goes through the body of `ForwardMediaStream`, if nobody else takes
a step in between. -/
theorem run_forward {frame : AudioFrame TrackByte} (popped : s.forwarder = .popped frame)
    (free : s.vad.inWrite = []) :
    ∃ n, (mediaPath sessionId participantId).run s (List.replicate n (.forward writeOk)) =
      some { s with
        media := s.media.forwardMediaStream (s.env writeOk nowMs) frame
        forwarder := .looping } := by
  have sends := (s.media.appendPreRoll frame.data).sendMediaFrame_cases (s.env writeOk nowMs) frame
  obtain ⟨control, owners, sink, media, forwarder, vad⟩ := s
  obtain rfl : forwarder = .popped frame := popped
  simp only [MediaStream.forwardMediaStream, MediaStream.forwardFrame,
    MediaStream.appendPreRoll_gateOpen]
  split_ifs with gate consumer
  · obtain prepared | ⟨prepared, payload, prepares, finishes⟩ := sends
    · refine ⟨4, ?_⟩
      simp only [env, firstConsumerId] at consumer prepared
      simp [mediaPath, Machine.run, step, stepForward, stepSend, gate, firstConsumerId,
        consumer, prepared, env]
    · refine ⟨6, ?_⟩
      simp only [env, firstConsumerId] at consumer prepares finishes
      simp [mediaPath, Machine.run, step, stepForward, stepSend, gate, firstConsumerId,
        consumer, prepares, inWrite, finishes, env, ForwarderPhase.inWrite, SendPhase.inWrite, free]
  · refine ⟨3, ?_⟩
    simp only [env, firstConsumerId] at consumer
    simp [mediaPath, Machine.run, step, stepForward, gate, firstConsumerId, not_not.mp consumer]
  · refine ⟨2, ?_⟩
    simp [mediaPath, Machine.run, step, stepForward, gate]

/-- **An event of the turn** goes through `OnVadTurnEvent`, if nobody else takes a step in between.
-/
theorem run_turnEvent {eventType : String} {timestampMs : ℕ} (idle : s.vad = .idle)
    (free : s.forwarder.inWrite = []) :
    ∃ n, (mediaPath sessionId participantId).run s
        (.turnEvent eventType :: List.replicate n (.vad writeOk nowMs)) =
      some { s with
        media := s.media.onVadTurnEvent (s.env writeOk nowMs) eventType timestampMs } := by
  have sends := s.media.sendMediaFrame_cases (s.env writeOk nowMs)
    (MediaStream.preRollFrame (s.env writeOk nowMs) s.media.preRollBuffer.contents)
  obtain ⟨control, owners, sink, media, forwarder, vad⟩ := s
  obtain rfl : vad = .idle := idle
  simp only [MediaStream.onVadTurnEvent, MediaStream.flushPreRollBuffer, MediaStream.sendPreRoll]
  split_ifs with started empty consumer complete
  · refine ⟨1, ?_⟩
    simp [mediaPath, Machine.run, step, stepTurnEvent, stepVad, started, empty]
  · obtain prepared | ⟨prepared, payload, prepares, finishes⟩ := sends
    · refine ⟨3, ?_⟩
      simp only [env, firstConsumerId] at consumer prepared
      simp [mediaPath, Machine.run, step, stepTurnEvent, stepVad, stepSend, started, empty,
        firstConsumerId, consumer, prepared, env]
    · refine ⟨5, ?_⟩
      simp only [env, firstConsumerId] at consumer prepares finishes
      simp [mediaPath, Machine.run, step, stepTurnEvent, stepVad, stepSend, started, empty,
        firstConsumerId, consumer, prepares, inWrite, finishes, env, VadPhase.inWrite,
        SendPhase.inWrite, free]
  · refine ⟨2, ?_⟩
    simp only [env, firstConsumerId] at consumer
    simp [mediaPath, Machine.run, step, stepTurnEvent, stepVad, started, empty, firstConsumerId,
      not_not.mp consumer]
  · refine ⟨0, ?_⟩
    simp [mediaPath, Machine.run, step, stepTurnEvent, complete]
  · refine ⟨0, ?_⟩
    simp [mediaPath, Machine.run, step, stepTurnEvent, started, complete]

end MediaPath

end Saasy.ListeningEngine
