import SaasyMediaEngine.Service.HalfBuilt
import SaasyMediaEngine.Transition.Tenure

/-!
# What a speaking session releases under its threads

`Session::Cleanup` of the speaking engine joins the capture thread, releases the audio track, the
audio device and the audio queue, and only then stops the command thread.  The thread of the media
stream is told to stop and is not joined at all: that is left to the destructor of the stream.
Both threads test a member for null before they use it, and may stand between the two when it is
released.  `StartProductionCommand` is the longest such stretch: it tests `audio_track`, creates a
listener, and passes the pointer of the track to `Produce` only then.

`release` interleaves `Cleanup` with the three threads.  The command thread executes the programs
of `commands.cpp`; a flush, which keeps the pointer of the device to the queue, takes two steps.
What the media thread reads of `audio_producer_id`, a string that the command thread may be
writing, is an input.

`misuses_iff` says when a release goes wrong: exactly when a thread is between test and use.  A
program that a thread is executing is between the two as soon as it is `Bound` to use the member,
whatever it still finds on its way; that the commands get there only behind a look at a session
that has the member is `Guarded`.
-/

namespace Saasy.SpeakingEngine

open Transition Control Throwing

/-- What `Cleanup` releases and the threads use through a pointer that they have tested before. -/
inductive ReleasedMember where
  | audioTrack
  | adm
  | audioQueue
  deriving DecidableEq

/-- Among the members of a session. -/
def ReleasedMember.sessionMember : ReleasedMember → SessionMember
  | .audioTrack => .audioTrack
  | .adm => .adm
  | .audioQueue => .audioQueue

/-- What a command finds when it tests the member; no command looks at the queue. -/
def Session.isSet (s : Session) : ReleasedMember → Bool
  | .audioTrack => s.audioTrack
  | .adm => s.adm.isSome
  | .audioQueue => false

/-- The statements of `Session::Cleanup`, after `cleaned_up_` is set, down to the two joins: the
one it makes early, and the one it makes last. -/
inductive CleanupStep where
  /-- `streams->StopAllStreams()`, which joins no thread. -/
  | stopStreams
  | closeTransport
  | release (member : ReleasedMember)
  /-- `recording_.exchange(false)` in `StopRecording`. -/
  | stopRecording
  /-- `capture_thread_.join()`. -/
  | joinCapture
  | terminate
  /-- `running_.exchange(false)` in `CommandProcessor::Stop`. -/
  | stopProcessor
  | stopQueue
  /-- `command_thread_.join()`. -/
  | joinCommands
  deriving DecidableEq

/-- `Session::Cleanup`. -/
def cleanupSteps : List CleanupStep :=
  [.stopStreams, .closeTransport, .release .audioTrack, .stopRecording, .joinCapture, .terminate,
    .release .adm, .release .audioQueue, .stopProcessor, .stopQueue, .joinCommands]

/-- What is left of a command. -/
abbrev Rest := Program SessionOp Session (Answer CommandResult) Unit

/-- Where `CommandProcessor::RunLoop` is.  What a command has tested so far is in the program that
is left of it, and nowhere else. -/
inductive CommandThread where
  | checking
  | popping
  | executing (rest : Rest)
  /-- In `FlushAudioBuffer`, with `mutex_`, behind its test of `recording_`. -/
  | flushing (fadeDurationMs : UInt32) (rest : Rest)
  | exited

/-- What `HandleMediaFrame` tests, in this order. -/
def testedMembers : List ReleasedMember := [.audioTrack, .adm, .audioQueue]

/-- Where `ProcessMediaStream` is.  `HandleMediaFrame` is the only part of it that is taken apart,
as only there a member is tested and used. -/
inductive ReaderPhase where
  /-- At the test of `running_`. -/
  | testing
  | reading
  /-- In `HandleMediaFrame`, with the members that are still to be tested; behind the last of them
  the producers are compared. -/
  | checking (frame : MediaFrame) (members : List ReleasedMember)
  /-- At `session_->audio_queue->push`. -/
  | pushing (frame : MediaFrame)
  | ended

structure Release where
  sessionId : String
  /-- What the commands see of the session, up to `adm`. -/
  members : Session
  adm : Bool
  audioQueue : Bool
  /-- The audio device, which its factory keeps alive, and the capture thread. -/
  playback : PlaybackState
  /-- `running_` of the media stream. -/
  mediaRunning : Bool
  reader : ReaderPhase
  /-- `running_` of the command processor. -/
  running : Bool
  commandQueue : CommandQueue Command
  thread : CommandThread
  /-- What is left of `Cleanup`. -/
  cleanup : List CleanupStep

inductive ReleaseAction where
  /-- A command is pushed. -/
  | push (command : Command)
  /-- The command thread takes a command, if there is one. -/
  | tryPop (outcome : Outcome)
  /-- The command thread goes on. -/
  | thread
  /-- The capture thread goes on. -/
  | capture
  /-- `Read` returns a payload, or false. -/
  | read (payload : Option SpeakingEngineMediaPayload)
  /-- The media thread goes on. -/
  | media (audioProducerId : String)
  | cleanup

namespace Release

/-- A constructed session whose media stream was just started. -/
def created (sessionId : String) : Release where
  sessionId := sessionId
  members := .created
  adm := true
  audioQueue := true
  playback := .created
  mediaRunning := true
  reader := .testing
  running := true
  commandQueue := .empty
  thread := .checking
  cleanup := cleanupSteps

def isSet (s : Release) : ReleasedMember → Bool
  | .audioTrack => s.members.audioTrack
  | .adm => s.adm
  | .audioQueue => s.audioQueue

/-- What the commands see. -/
def session (s : Release) : Session :=
  { s.members with adm := if s.adm then some s.playback.adm else none }

/-! ### The command thread

A command is a program, and between a look of the program at the session and the operation that
follows others may take steps.  What it has tested is in what is left of it. -/

/-- An operation of a command, other than a flush. -/
def perform (op : SessionOp) (s : Release) : Release :=
  match op with
  | .speechGenerationComplete => { s with playback := s.playback.speechGenerationComplete }
  | op => { s with members := op.apply s.members }

/-- `FlushAudioBuffer` behind its test of `recording_`, which may be reset by now. -/
def flush (fadeDurationMs : UInt32) (s : Release) : Release :=
  let adm := s.playback.adm
  let playback := ({ s.playback with adm := { adm with recording := true } }).flushAudio
    fadeDurationMs
  { s with playback := { playback with adm := { playback.adm with recording := adm.recording } } }

/-- The command thread goes on.  A flush takes two steps: it tests `recording_` in the first, and
uses the queue only in the second. -/
def stepThread (s : Release) : Option Release :=
  match s.thread with
  | .checking => some { s with thread := if s.running then .popping else .exited }
  | .popping => none
  | .executing (.done ()) => some { s with thread := .checking }
  | .executing (.look next) => some { s with thread := .executing (next s.session) }
  | .executing (.perform (.flushAudioBuffer fadeDurationMs) next) =>
      some { s with thread :=
        if s.playback.adm.recording then .flushing fadeDurationMs next else .executing next }
  | .executing (.perform op next) => some { s.perform op with thread := .executing next }
  | .executing (.emit _ next) => some { s with thread := .executing next }
  | .flushing fadeDurationMs next =>
      some { s.flush fadeDurationMs with thread := .executing next }
  | .exited => none

/-- The command thread takes a command, if there is one. -/
def stepTryPop [Wire.Double.UndefinedCast] (outcome : Outcome) (s : Release) : Option Release :=
  match s.thread with
  | .popping =>
      match s.commandQueue.tryPop with
      | some (command, commandQueue) =>
          some { s with
            commandQueue := commandQueue
            thread := .executing (speakingEngine.execute command outcome) }
      | none => some { s with thread := .checking }
  | _ => none

/-! ### The capture thread

Its steps are those of the playback machine.  Two of them wait for the mutex of the device, which
the command thread holds while it flushes. -/

/-- Whether `mutex_` of the device is free. -/
def unlocked (s : Release) : Bool :=
  match s.thread with
  | .flushing _ _ => false
  | _ => true

/-- The next step of the capture thread, and whether it waits for the mutex. -/
def captureAction : CapturePhase → Option (PlaybackAction × Bool)
  | .stopped => none
  | .looping => some (.loopTest, false)
  | .sleeping => some (.drain, true)
  | .assembled _ => some (.deliver, false)
  | .checking => some (.check, true)
  | .firing _ => some (.fire, false)

def stepCapture (s : Release) : Option Release :=
  match captureAction s.playback.capture with
  | some (action, locks) =>
      if locks && !s.unlocked then none
      else (s.playback.step action).map fun playback => { s with playback }
  | none => none

/-! ### The media thread

It tests the members one after the other, in the order in which `HandleMediaFrame` does, and then
pushes. -/

/-- `Read` returns; the frames that `ValidateMediaFrame` lets through are checked further. -/
def stepRead (payload : Option SpeakingEngineMediaPayload) (s : Release) : Option Release :=
  match s.reader with
  | .reading =>
      match payload with
      | none => some { s with reader := .ended }
      | some payload =>
          if payload.sessionId ≠ s.sessionId then some { s with reader := .testing }
          else
            match payload.mediaFrame with
            | some frame =>
                if validateMediaFrame frame then
                  some { s with reader := .checking frame testedMembers }
                else some { s with reader := .testing }
            | none => some { s with reader := .testing }
  | _ => none

/-- A frame that `HandleMediaFrame` does not drop once the members are tested. -/
def passes (audioProducerId : String) (frame : MediaFrame) : Bool :=
  (audioProducerId = "" || frame.deviceProducerId = audioProducerId) &&
    frame.frameData.length % 2 = 0

/-- The media thread goes on: it tests the members one at a time, then the frame, and then pushes.
-/
def stepMedia (audioProducerId : String) (s : Release) : Option Release :=
  match s.reader with
  | .testing => some { s with reader := if s.mediaRunning then .reading else .ended }
  | .reading => none
  | .checking frame (member :: rest) =>
      some { s with reader := if s.isSet member then .checking frame rest else .testing }
  | .checking frame [] =>
      some { s with reader := if passes audioProducerId frame then .pushing frame else .testing }
  | .pushing frame =>
      some { s with playback := s.playback.handleMediaFrame "" frame, reader := .testing }
  | .ended => none

/-! ### `Cleanup`

Its statements one by one, with the joins, which wait.  The device is stopped before the queue is
released, and the command thread is joined after both. -/

/-- What a step of `Cleanup` does. -/
def clean (s : Release) : CleanupStep → Option Release
  | .stopStreams => some { s with mediaRunning := false }
  | .closeTransport =>
      some { s with members := { s.members with
        transport := s.members.transport.map ({ · with closed := true }) } }
  | .release .audioTrack => some { s with members := { s.members with audioTrack := false } }
  | .release .adm => some { s with adm := false }
  | .release .audioQueue => some { s with audioQueue := false }
  | .stopRecording =>
      some { s with playback := { s.playback with adm := s.playback.adm.stopRecording } }
  | .joinCapture => if s.playback.capture = .stopped then some s else none
  | .terminate =>
      some { s with playback := { s.playback with
        adm := { s.playback.adm with initialized := false, ringSamples := [] } } }
  | .stopProcessor => some { s with running := false }
  | .stopQueue => some { s with commandQueue := s.commandQueue.stop }
  | .joinCommands =>
      match s.thread with
      | .exited => some s
      | _ => none

/-- One step, if it is enabled. -/
def step [Wire.Double.UndefinedCast] (s : Release) : ReleaseAction → Option Release
  | .push command => some { s with commandQueue := s.commandQueue.push command }
  | .tryPop outcome => s.stepTryPop outcome
  | .thread => s.stepThread
  | .capture => s.stepCapture
  | .read payload => s.stepRead payload
  | .media audioProducerId => s.stepMedia audioProducerId
  | .cleanup =>
      match s.cleanup with
      | [] => none
      | first :: rest => { s with cleanup := rest }.clean first

end Release

/-- **A speaking session**, torn down while its threads are running: the command thread, the media
thread and the capture thread, each with the steps between a test and a use, and `Cleanup` next to
them. -/
def release [Wire.Double.UndefinedCast] (sessionId : String) : Machine Release ReleaseAction where
  init := .created sessionId
  step := Release.step

/-! ### Between test and use

Who is between the test of a member and its use.  For a command this is read off the program that
is left: whatever it finds, it is bound to use the member. -/

/-- The next operation of the program uses the member. -/
def UsesNext (member : ReleasedMember) (rest : Rest) : Prop :=
  ∃ op ∈ rest.next?, op.uses member.sessionMember = true

/-- Whatever the program finds in the session, it is going to use the member. -/
def Bound (member : ReleasedMember) : Rest → Prop
  | .done _ => False
  | .look next => ∀ s, Bound member (next s)
  | .perform op next => op.uses member.sessionMember = true ∨ Bound member next
  | .emit _ next => Bound member next

/-- The program is bound to use the member only behind a look that has found it. -/
def Guarded (member : ReleasedMember) : Rest → Prop
  | .done _ => True
  | .look next => ∀ s,
      (Bound member (next s) → Bound member (.look next) ∨ s.isSet member = true) ∧
        Guarded member (next s)
  | .perform _ next | .emit _ next => Guarded member next

/-- What the command thread has tested and is still going to use. -/
def CommandThread.Holds : CommandThread → ReleasedMember → Prop
  | .executing rest, member => Bound member rest
  | .flushing _ rest, member => member = .audioQueue ∨ Bound member rest
  | .checking, _ | .popping, _ | .exited, _ => False

/-- What it uses next. -/
def CommandThread.Uses : CommandThread → ReleasedMember → Prop
  | .executing rest, member => UsesNext member rest
  | .flushing _ _, member => member = .audioQueue
  | .checking, _ | .popping, _ | .exited, _ => False

/-- The same for the media thread; a chunk of an odd size is dropped. -/
def ReaderPhase.Holds : ReaderPhase → ReleasedMember → Prop
  | .checking frame [], .audioQueue => frame.frameData.length % 2 = 0
  | .pushing _, .audioQueue => True
  | _, _ => False

/-- The capture thread may use the queue as long as it runs. -/
def CapturePhase.Holds : CapturePhase → ReleasedMember → Prop
  | .stopped, _ => False
  | _, .audioQueue => True
  | _, _ => False

/-- The commands keep to it. -/
def CommandThread.KeepsGuard : CommandThread → Prop
  | .executing rest | .flushing _ rest => ∀ member, Guarded member rest
  | .checking | .popping | .exited => True

/-- The media thread tests the members in their order. -/
def ReaderPhase.KeepsOrder : ReaderPhase → Prop
  | .checking _ members => members <:+ testedMembers
  | _ => True

namespace Release

/-- Some thread is between the test of a member and its use. -/
def InUse (s : Release) (member : ReleasedMember) : Prop :=
  s.thread.Holds member ∨ s.reader.Holds member ∨ s.playback.capture.Holds member

/-- What a step uses. -/
def Uses (s : Release) : ReleaseAction → ReleasedMember → Prop
  | .thread, member => s.thread.Uses member
  | .capture, .audioQueue => s.playback.capture = .sleeping
  | .media _, .audioQueue => ∃ frame, s.reader = .pushing frame
  | _, _ => False

/-- What is known of a session while `Cleanup` is under way: a member is set as long as its release
is still to come, and recording or a capture thread is left only before its stop or its join. -/
structure Ordered (s : Release) : Prop where
  guarded : s.thread.KeepsGuard
  tests : s.reader.KeepsOrder
  steps : s.cleanup <:+ cleanupSteps
  adm : s.adm = true ↔ .release .adm ∈ s.cleanup
  audioQueue : s.audioQueue = true ↔ .release .audioQueue ∈ s.cleanup
  recording : s.playback.adm.recording = true → .stopRecording ∈ s.cleanup
  capture : s.playback.capture ≠ .stopped → .joinCapture ∈ s.cleanup

/-- What the threads leave to `Cleanup`: none of them sets or releases a member, starts to record,
or starts the capture thread again. -/
structure Aside (s t : Release) : Prop where
  audioTrack : t.members.audioTrack = s.members.audioTrack
  adm : t.adm = s.adm
  audioQueue : t.audioQueue = s.audioQueue
  cleanup : t.cleanup = s.cleanup
  recording : t.playback.adm.recording = true → s.playback.adm.recording = true
  capture : t.playback.capture ≠ .stopped → s.playback.capture ≠ .stopped

end Release

/-! ### The commands

Every command is shown to be guarded: wherever it uses a member, it has looked for it before, and
did not go on without it.  That is a property of the program, proved by its rules. -/

/-- A program that spares the member. -/
theorem guarded_of_follows {member : ReleasedMember} {rest : Rest}
    (follows : rest.Follows (performing fun op : SessionOp => !op.uses member.sessionMember) ()
      fun _ _ => True) :
    ¬ Bound member rest ∧ Guarded member rest := by
  induction rest with
  | done result => exact ⟨id, trivial⟩
  | look next ih =>
      refine ⟨fun bound => (ih _ (follows .created)).1 (bound .created), fun s => ?_⟩
      obtain ⟨spares, guarded⟩ := ih s (follows s)
      exact ⟨fun bound => absurd bound spares, guarded⟩
  | perform op next ih =>
      obtain ⟨k, accepted, follows⟩ := follows
      obtain ⟨spares, guarded⟩ := ih follows
      have other : op.uses member.sessionMember = false := by
        simpa using performing_inl.mp accepted
      refine ⟨?_, guarded⟩
      rintro (uses | bound)
      · exact absurd (uses.symm.trans other) nofun
      · exact spares bound
  | emit output next ih =>
      obtain ⟨k, -, follows⟩ := follows
      exact ih follows

theorem guarded_of_spares {member : ReleasedMember} {body : Body}
    (spares : Spares member.sessionMember body) :
    ¬ Bound member (executing body) ∧ Guarded member (executing body) :=
  guarded_of_follows (spares_executing spares)

theorem guarded_admCommand (op : SessionOp) (response : CommandResult) :
    ¬ Bound .adm (executing (admCommand op response)) ∧
      Guarded .adm (executing (admCommand op response)) := by
  refine ⟨fun bound => bound { Session.created with adm := none }, fun s => ?_⟩
  obtain ⟨device, transportListener, transport, audioTrack, producerListener, audioProducerId, adm,
    objects⟩ := s
  cases adm with
  | none => exact ⟨False.elim, trivial⟩
  | some adm => exact ⟨fun _ => .inr rfl, trivial⟩

/-- Behind its two tests `StartProduction` is bound to pass the track on: nothing it does until
then can fail. -/
theorem guarded_startProduction (outcome : Outcome) :
    ¬ Bound .audioTrack (executing (startProduction outcome)) ∧
      Guarded .audioTrack (executing (startProduction outcome)) := by
  refine ⟨fun bound => bound { Session.created with transport := none }, fun s => ?_⟩
  obtain ⟨device, transportListener, transport, audioTrack, producerListener, audioProducerId, adm,
    objects⟩ := s
  cases transport with
  | none => exact ⟨False.elim, trivial⟩
  | some transport =>
      refine ⟨fun bound => (bound { Session.created with audioTrack := false }).elim, fun s => ?_⟩
      obtain ⟨device, transportListener, transport, audioTrack, producerListener, audioProducerId,
        adm, objects⟩ := s
      cases audioTrack with
      | false => exact ⟨False.elim, trivial⟩
      | true =>
          refine ⟨fun _ => .inr rfl, fun s => ⟨fun _ => .inl fun s => .inr (.inl rfl), ?_⟩⟩
          obtain ⟨deviceOutcome, produce⟩ := outcome
          cases produce with
          | error message => trivial
          | ok producer => cases producer <;> trivial

/-- **Every command** tests a member before it uses it, on whatever session it finds and whatever
mediasoupclient does. -/
theorem guarded_execute [Wire.Double.UndefinedCast] (command : Command) (outcome : Outcome)
    (member : ReleasedMember) :
    ¬ Bound member (executing (command.body outcome)) ∧
      Guarded member (executing (command.body outcome)) := by
  cases command with
  | loadDevice routerRtpCapabilities =>
      exact guarded_of_spares (spares_loadDevice _ routerRtpCapabilities _)
  | getDeviceRtpCapabilities => exact guarded_of_spares (spares_getDeviceRtpCapabilities _ _)
  | createTransport transportId =>
      exact guarded_of_spares (spares_createTransport _ transportId _)
  | startProduction =>
      cases member with
      | audioTrack => exact guarded_startProduction outcome
      | adm | audioQueue => exact guarded_of_spares (spares_startProduction _ (by decide) outcome)
  | flushAudio | speechGenerationComplete =>
      cases member with
      | adm => exact guarded_admCommand _ _
      | audioTrack | audioQueue => exact guarded_of_spares (spares_admCommand rfl _)

namespace Release

variable {s t : Release} {member : ReleasedMember}

/-- What a command finds is there. -/
theorem isSet_of_session (found : s.session.isSet member = true) : s.isSet member = true := by
  cases member with
  | audioTrack => exact found
  | adm => cases adm : s.adm <;> simp_all [session, Session.isSet, isSet]
  | audioQueue => cases found

/-! ### The order of `Cleanup`

What is set at which moment of `Cleanup`.  The capture thread is the reason for it: it may use the
queue as long as it runs, and is safe as it has ended when the queue is released. -/

theorem Ordered.audioQueue_of_mem (ordered : s.Ordered) {step : CleanupStep}
    (mem : step ∈ s.cleanup) (before : step = .stopRecording ∨ step = .joinCapture) :
    s.audioQueue = true := by
  have order : ∀ steps ∈ cleanupSteps.tails,
      CleanupStep.stopRecording ∈ steps ∨ CleanupStep.joinCapture ∈ steps →
        CleanupStep.release .audioQueue ∈ steps := by
    decide
  refine ordered.audioQueue.mpr (order s.cleanup ((List.mem_tails _ _).mpr ordered.steps) ?_)
  obtain rfl | rfl := before
  · exact .inl mem
  · exact .inr mem

/-- While the device is recording the queue is there. -/
theorem Ordered.audioQueue_of_recording (ordered : s.Ordered)
    (recording : s.playback.adm.recording = true) : s.audioQueue = true :=
  ordered.audioQueue_of_mem (ordered.recording recording) (.inl rfl)

/-- While the capture thread runs the queue is there. -/
theorem Ordered.audioQueue_of_capture (ordered : s.Ordered)
    (running : s.playback.capture ≠ .stopped) : s.audioQueue = true :=
  ordered.audioQueue_of_mem (ordered.capture running) (.inr rfl)

theorem mem_cleanupSteps (step : CleanupStep) : step ∈ cleanupSteps := by
  cases step with
  | release member => cases member <;> decide
  | _ => decide

theorem ordered_created (sessionId : String) : (created sessionId).Ordered where
  guarded := trivial
  tests := trivial
  steps := List.suffix_rfl
  adm := iff_of_true rfl (mem_cleanupSteps _)
  audioQueue := iff_of_true rfl (mem_cleanupSteps _)
  recording _ := mem_cleanupSteps _
  capture _ := mem_cleanupSteps _

/-! ### What the threads do

Each thread leaves to `Cleanup` what is its own, and gets hold of a member only where that is
there. -/

/-- A step of a thread: a member that it has in use behind it was in use before, or is there.  So a
thread gets hold of a member only while that is set. -/
structure Proceeds (s t : Release) : Prop where
  aside : s.Aside t
  guarded : t.thread.KeepsGuard
  tests : t.reader.KeepsOrder
  found : ∀ member, t.InUse member → s.InUse member ∨ t.isSet member = true

theorem Aside.isSet (aside : s.Aside t) (member : ReleasedMember) :
    t.isSet member = s.isSet member := by
  cases member with
  | audioTrack => exact aside.audioTrack
  | adm => exact aside.adm
  | audioQueue => exact aside.audioQueue

theorem Proceeds.ordered (proceeds : s.Proceeds t) (ordered : s.Ordered) : t.Ordered where
  guarded := proceeds.guarded
  tests := proceeds.tests
  steps := proceeds.aside.cleanup ▸ ordered.steps
  adm := by rw [proceeds.aside.adm, proceeds.aside.cleanup, ordered.adm]
  audioQueue := by rw [proceeds.aside.audioQueue, proceeds.aside.cleanup, ordered.audioQueue]
  recording recording :=
    proceeds.aside.cleanup ▸ ordered.recording (proceeds.aside.recording recording)
  capture running := proceeds.aside.cleanup ▸ ordered.capture (proceeds.aside.capture running)

theorem Aside.refl (s : Release) : s.Aside s := ⟨rfl, rfl, rfl, rfl, id, id⟩

/-- A step of the command thread. -/
theorem proceeds_of_thread (ordered : s.Ordered) (aside : s.Aside t) (reader : t.reader = s.reader)
    (capture : t.playback.capture = s.playback.capture) (guarded : t.thread.KeepsGuard)
    (found : ∀ member, t.thread.Holds member → s.thread.Holds member ∨ t.isSet member = true) :
    s.Proceeds t := by
  refine ⟨aside, guarded, reader ▸ ordered.tests, ?_⟩
  rintro member (thread | other)
  · exact (found member thread).imp_left .inl
  · rw [reader, capture] at other
    exact .inl (.inr other)

theorem aside_thread (s : Release) (thread : CommandThread) : s.Aside { s with thread } :=
  ⟨rfl, rfl, rfl, rfl, id, id⟩

theorem aside_perform (op : SessionOp) (s : Release) (thread : CommandThread) :
    s.Aside { s.perform op with thread } := by
  cases op with
  | _ => exact ⟨rfl, rfl, rfl, rfl, id, id⟩

theorem aside_flush (fadeDurationMs : UInt32) (s : Release) (thread : CommandThread) :
    s.Aside { s.flush fadeDurationMs with thread } :=
  ⟨rfl, rfl, rfl, rfl, id, id⟩

/-- **The command thread** uses what it has found: looks are where it gets hold of a member, and
operations are where it lets go. -/
theorem proceeds_stepThread (ordered : s.Ordered) (step : s.stepThread = some t) :
    s.Proceeds t := by
  have guarded := ordered.guarded
  cases thread : s.thread with
  | checking =>
      simp only [stepThread, thread] at step
      obtain rfl := Option.some.inj step
      refine proceeds_of_thread ordered (aside_thread s _) rfl rfl ?_ ?_
      · dsimp only
        split_ifs <;> trivial
      · intro member holds
        dsimp only at holds
        split_ifs at holds <;> exact holds.elim
  | popping =>
      simp only [stepThread, thread] at step
      cases step
  | exited =>
      simp only [stepThread, thread] at step
      cases step
  | flushing fadeDurationMs next =>
      rw [thread] at guarded
      simp only [stepThread, thread] at step
      obtain rfl := Option.some.inj step
      refine proceeds_of_thread ordered (aside_flush fadeDurationMs s _) rfl rfl guarded ?_
      exact fun member bound => .inl (by rw [thread]; exact .inr bound)
  | executing rest =>
      rw [thread] at guarded
      cases rest with
      | done result =>
          simp only [stepThread, thread] at step
          obtain rfl := Option.some.inj step
          exact proceeds_of_thread ordered (aside_thread s _) rfl rfl trivial
            fun _ holds => holds.elim
      | look next =>
          simp only [stepThread, thread] at step
          obtain rfl := Option.some.inj step
          refine proceeds_of_thread ordered (aside_thread s _) rfl rfl
            (fun member => (guarded member s.session).2) fun member bound => ?_
          obtain before | found := (guarded member s.session).1 bound
          · exact .inl (by rw [thread]; exact before)
          · exact .inr (isSet_of_session found)
      | emit output next =>
          simp only [stepThread, thread] at step
          obtain rfl := Option.some.inj step
          refine proceeds_of_thread ordered (aside_thread s _) rfl rfl guarded ?_
          exact fun member bound => .inl (by rw [thread]; exact bound)
      | perform op next =>
          have before : ∀ member, Bound member next → s.thread.Holds member := by
            intro member bound
            rw [thread]
            exact .inr bound
          cases op with
          | flushAudioBuffer fadeDurationMs =>
              simp only [stepThread, thread] at step
              obtain rfl := Option.some.inj step
              refine proceeds_of_thread ordered (aside_thread s _) rfl rfl ?_ ?_
              · dsimp only
                split_ifs <;> exact guarded
              · intro member holds
                dsimp only at holds
                split_ifs at holds with recording
                · obtain rfl | bound := holds
                  · exact .inr (ordered.audioQueue_of_recording recording)
                  · exact .inl (before member bound)
                · exact .inl (before member holds)
          | _ =>
              simp only [stepThread, thread] at step
              obtain rfl := Option.some.inj step
              exact proceeds_of_thread ordered (aside_perform _ s _) rfl rfl guarded
                fun member bound => .inl (before member bound)

theorem proceeds_stepTryPop [Wire.Double.UndefinedCast] {outcome : Outcome}
    (ordered : s.Ordered) (step : s.stepTryPop outcome = some t) : s.Proceeds t := by
  cases thread : s.thread with
  | popping =>
      cases popped : s.commandQueue.tryPop with
      | none =>
          simp only [stepTryPop, thread, popped] at step
          obtain rfl := Option.some.inj step
          exact proceeds_of_thread ordered (aside_thread s _) rfl rfl trivial
            fun _ holds => holds.elim
      | some taken =>
          simp only [stepTryPop, thread, popped] at step
          obtain rfl := Option.some.inj step
          have starts := guarded_execute taken.1 outcome
          exact proceeds_of_thread ordered ⟨rfl, rfl, rfl, rfl, id, id⟩ rfl rfl
            (fun member => (starts member).2) fun member bound => absurd bound (starts member).1
  | checking | executing | flushing | exited =>
      simp only [stepTryPop, thread] at step
      cases step

theorem recording_drainCapAssemble (adm : CustomAudioDeviceModule) :
    adm.drainCapAssemble.2.recording = adm.recording := by
  obtain ⟨ring, underruns, same, -⟩ := adm.drainCapAssemble_cases
  rw [same]

/-- The steps of the capture thread neither record nor start it. -/
theorem capture_moved {action : PlaybackAction} {p q : PlaybackState} {locks : Bool}
    (moved : p.Moved action q) (own : captureAction p.capture = some (action, locks)) :
    q.adm.recording = p.adm.recording ∧ p.capture ≠ .stopped := by
  cases moved with
  | frameDropped | framePushed | completes | flushIgnored | flushes | startIgnored | starts |
      stops => cases phase : p.capture <;> simp [captureAction, phase] at own
  | sleeps looping | ends looping => exact ⟨rfl, by simp [looping]⟩
  | drains sleeping => exact ⟨recording_drainCapAssemble p.adm, by simp [sleeping]⟩
  | delivers frame assembled => exact ⟨rfl, by simp [assembled]⟩
  | waits checking | arms checking | unheard checking => exact ⟨rfl, by simp [checking]⟩
  | fires armed firing => exact ⟨rfl, by simp [firing]⟩

theorem proceeds_stepCapture (ordered : s.Ordered) (step : s.stepCapture = some t) :
    s.Proceeds t := by
  cases own : captureAction s.playback.capture with
  | none =>
      simp only [stepCapture, own] at step
      cases step
  | some next =>
      obtain ⟨action, locks⟩ := next
      simp only [stepCapture, own, Option.ite_none_left_eq_some, Option.map_eq_some_iff] at step
      obtain ⟨-, playback, moves, rfl⟩ := step
      obtain ⟨recording, running⟩ := capture_moved (PlaybackState.step_moved moves) own
      refine ⟨⟨rfl, rfl, rfl, rfl, fun still => recording ▸ still, fun _ => running⟩,
        ordered.guarded, ordered.tests, ?_⟩
      rintro member (thread | reader | capture)
      · exact .inl (.inl thread)
      · exact .inl (.inr (.inl reader))
      · refine .inl (.inr (.inr ?_))
        cases member with
        | audioQueue => cases phase : s.playback.capture <;> simp_all [CapturePhase.Holds]
        | audioTrack | adm => cases phase : playback.capture <;> simp_all [CapturePhase.Holds]

/-- A step of the media thread. -/
theorem proceeds_of_reader (ordered : s.Ordered) (aside : s.Aside t) (thread : t.thread = s.thread)
    (capture : t.playback.capture = s.playback.capture) (tests : t.reader.KeepsOrder)
    (found : ∀ member, t.reader.Holds member → s.reader.Holds member ∨ t.isSet member = true) :
    s.Proceeds t := by
  refine ⟨aside, thread ▸ ordered.guarded, tests, ?_⟩
  rintro member (command | reader | device)
  · exact .inl (.inl (thread ▸ command))
  · exact (found member reader).imp_left fun holds => .inr (.inl holds)
  · exact .inl (.inr (.inr (capture ▸ device)))

theorem aside_reader (s : Release) (reader : ReaderPhase) : s.Aside { s with reader } :=
  ⟨rfl, rfl, rfl, rfl, id, id⟩

/-- The thread drops the frame, or has none. -/
theorem proceeds_idle (ordered : s.Ordered) {reader : ReaderPhase} (tests : reader.KeepsOrder)
    (idle : ∀ member, ¬ reader.Holds member) : s.Proceeds { s with reader } :=
  proceeds_of_reader ordered (aside_reader s reader) rfl rfl tests
    fun member holds => absurd holds (idle member)

theorem proceeds_stepRead {payload : Option SpeakingEngineMediaPayload} (ordered : s.Ordered)
    (step : s.stepRead payload = some t) : s.Proceeds t := by
  have testing : s.Proceeds { s with reader := .testing } :=
    proceeds_idle ordered trivial fun _ holds => holds
  cases reader : s.reader with
  | reading =>
      rcases payload with _ | payload
      · simp only [stepRead, reader] at step
        obtain rfl := Option.some.inj step
        exact proceeds_idle ordered trivial fun _ holds => holds
      · simp only [stepRead, reader] at step
        split_ifs at step with foreign
        · obtain rfl := Option.some.inj step
          exact testing
        · rcases media : payload.mediaFrame with _ | frame
          · rw [media] at step
            obtain rfl := Option.some.inj step
            exact testing
          · simp only [media] at step
            split_ifs at step with valid
            · obtain rfl := Option.some.inj step
              exact proceeds_idle ordered List.suffix_rfl fun _ holds => holds
            · obtain rfl := Option.some.inj step
              exact testing
  | testing | checking | pushing | ended =>
      simp only [stepRead, reader] at step
      cases step

theorem passes_even {audioProducerId : String} {frame : MediaFrame}
    (passed : passes audioProducerId frame = true) : frame.frameData.length % 2 = 0 :=
  of_decide_eq_true (Bool.and_eq_true_iff.mp passed).2

/-- Behind the test of the last member only the queue is in use. -/
theorem holds_checking {frame : MediaFrame} {members : List ReleasedMember}
    (holds : (ReaderPhase.checking frame members).Holds member) :
    members = [] ∧ member = .audioQueue := by
  cases members with
  | nil => cases member with
    | audioQueue => exact ⟨rfl, rfl⟩
    | audioTrack | adm => exact holds.elim
  | cons first rest => exact holds.elim

theorem last_tested {first : ReleasedMember} (tests : [first] <:+ testedMembers) :
    first = .audioQueue := by
  obtain ⟨front, split⟩ := tests
  simpa [testedMembers] using congrArg List.getLast? split

theorem handleMediaFrame_device (audioProducerId : String) (frame : MediaFrame)
    (p : PlaybackState) :
    (p.handleMediaFrame audioProducerId frame).adm.recording = p.adm.recording ∧
      (p.handleMediaFrame audioProducerId frame).capture = p.capture := by
  generalize pushed : p.handleMediaFrame audioProducerId frame = q
  have moved := pushed ▸ PlaybackState.mediaFrame_moved audioProducerId frame p
  cases moved with
  | frameDropped => exact ⟨rfl, rfl⟩
  | framePushed => exact ⟨rfl, rfl⟩

theorem aside_push (frame : MediaFrame) (s : Release) :
    s.Aside { s with playback := s.playback.handleMediaFrame "" frame, reader := .testing } where
  audioTrack := rfl
  adm := rfl
  audioQueue := rfl
  cleanup := rfl
  recording still := (handleMediaFrame_device "" frame s.playback).1 ▸ still
  capture still := (handleMediaFrame_device "" frame s.playback).2 ▸ still

/-- **The media thread** tests the queue last, and has it in use from there to the push. -/
theorem proceeds_stepMedia {audioProducerId : String} (ordered : s.Ordered)
    (step : s.stepMedia audioProducerId = some t) : s.Proceeds t := by
  have tests := ordered.tests
  have testing : s.Proceeds { s with reader := .testing } :=
    proceeds_idle ordered trivial fun _ holds => holds
  cases reader : s.reader with
  | testing =>
      simp only [stepMedia, reader] at step
      obtain rfl := Option.some.inj step
      by_cases running : s.mediaRunning = true
      · rw [if_pos running]
        exact proceeds_idle ordered trivial fun _ holds => holds
      · rw [if_neg running]
        exact proceeds_idle ordered trivial fun _ holds => holds
  | reading =>
      simp only [stepMedia, reader] at step
      cases step
  | ended =>
      simp only [stepMedia, reader] at step
      cases step
  | checking frame members =>
      rw [reader] at tests
      rcases members with _ | ⟨member, rest⟩
      · simp only [stepMedia, reader] at step
        obtain rfl := Option.some.inj step
        by_cases passed : passes audioProducerId frame = true
        · rw [if_pos passed]
          refine proceeds_of_reader ordered (aside_reader s _) rfl rfl trivial ?_
          rintro (_ | _ | _) holds
          · exact holds.elim
          · exact holds.elim
          · exact .inl (reader ▸ (passes_even passed : frame.frameData.length % 2 = 0))
        · rw [if_neg passed]
          exact testing
      · simp only [stepMedia, reader] at step
        obtain rfl := Option.some.inj step
        by_cases set : s.isSet member = true
        · rw [if_pos set]
          refine proceeds_of_reader ordered (aside_reader s _) rfl rfl
            ((List.suffix_cons member rest).trans tests) ?_
          intro other holds
          obtain ⟨rfl, rfl⟩ := holds_checking holds
          exact .inr (last_tested tests ▸ set)
        · rw [if_neg set]
          exact testing
  | pushing frame =>
      simp only [stepMedia, reader] at step
      obtain rfl := Option.some.inj step
      exact proceeds_of_reader ordered (aside_push frame s) rfl
        (handleMediaFrame_device "" frame s.playback).2 trivial fun _ holds => holds.elim

/-! ### What `Cleanup` does

A release is one step, which takes the member from the session and touches no thread.  So whoever
is in between at that moment is still in between after it. -/

/-- A step of `Cleanup`, behind it: the threads are where they were, and exactly the member that it
releases is set no longer. -/
structure Cleaned (first : CleanupStep) (s t : Release) : Prop where
  thread : t.thread = s.thread
  reader : t.reader = s.reader
  capture : t.playback.capture = s.playback.capture
  cleanup : t.cleanup = s.cleanup
  isSet : ∀ member, t.isSet member = true ↔ s.isSet member = true ∧ first ≠ .release member
  recording : t.playback.adm.recording = true →
    s.playback.adm.recording = true ∧ first ≠ .stopRecording
  joined : first = .joinCapture → s.playback.capture = .stopped

theorem cleaned_of_clean {first : CleanupStep} (step : s.clean first = some t) :
    Cleaned first s t := by
  cases first with
  | stopStreams | closeTransport | stopProcessor | stopQueue =>
      obtain rfl := Option.some.inj step
      exact ⟨rfl, rfl, rfl, rfl, by rintro (_ | _ | _) <;> simp [isSet], by simp, by simp⟩
  | stopRecording =>
      obtain rfl := Option.some.inj step
      exact ⟨rfl, rfl, rfl, rfl, by rintro (_ | _ | _) <;> simp [isSet],
        by simp [CustomAudioDeviceModule.stopRecording], by simp⟩
  | terminate =>
      obtain rfl := Option.some.inj step
      exact ⟨rfl, rfl, rfl, rfl, by rintro (_ | _ | _) <;> simp [isSet], by simp, by simp⟩
  | release released =>
      cases released with
      | _ =>
          obtain rfl := Option.some.inj step
          exact ⟨rfl, rfl, rfl, rfl, by rintro (_ | _ | _) <;> simp [isSet], by simp, by simp⟩
  | joinCapture =>
      obtain ⟨stopped, same⟩ := Option.ite_none_right_eq_some.mp step
      obtain rfl := Option.some.inj same
      exact ⟨rfl, rfl, rfl, rfl, by simp, by simp, fun _ => stopped⟩
  | joinCommands =>
      cases thread : s.thread with
      | exited =>
          simp only [clean, thread] at step
          obtain rfl := Option.some.inj step
          exact ⟨rfl, rfl, rfl, rfl, by simp, by simp, by simp⟩
      | checking | popping | executing | flushing =>
          simp only [clean, thread] at step
          cases step

/-- The members that are released are those whose step is over. -/
theorem ordered_of_cleaned {first : CleanupStep} {rest : List CleanupStep} (ordered : s.Ordered)
    (head : s.cleanup = first :: rest) (cleaned : Cleaned first { s with cleanup := rest } t) :
    t.Ordered := by
  have cleanup : t.cleanup = rest := cleaned.cleanup
  have steps : first :: rest <:+ cleanupSteps := head ▸ ordered.steps
  have absent : first ∉ rest := by
    have once : cleanupSteps.Nodup := by decide
    exact (List.nodup_cons.mp (once.sublist steps.sublist)).1
  have kept : ∀ {other}, first ≠ other → other ∈ s.cleanup → other ∈ rest := by
    intro other different mem
    rw [head] at mem
    exact (List.mem_cons.mp mem).resolve_left different.symm
  have set : ∀ member, (s.isSet member = true ↔ .release member ∈ s.cleanup) →
      (t.isSet member = true ↔ .release member ∈ rest) := by
    intro member before
    rw [cleaned.isSet member]
    constructor
    · rintro ⟨set, different⟩
      exact kept different (before.mp set)
    · intro mem
      refine ⟨before.mpr (head ▸ List.mem_cons_of_mem first mem), ?_⟩
      rintro rfl
      exact absent mem
  refine ⟨?_, ?_, ?_, ?_, ?_, ?_, ?_⟩
  · rw [cleaned.thread]
    exact ordered.guarded
  · rw [cleaned.reader]
    exact ordered.tests
  · rw [cleanup]
    exact (List.suffix_cons first rest).trans steps
  · rw [cleanup]
    exact set .adm ordered.adm
  · rw [cleanup]
    exact set .audioQueue ordered.audioQueue
  · intro recording
    obtain ⟨before, different⟩ := cleaned.recording recording
    rw [cleanup]
    exact kept different (ordered.recording before)
  · intro running
    rw [cleaned.capture] at running
    rw [cleanup]
    refine kept ?_ (ordered.capture running)
    rintro rfl
    exact running (cleaned.joined rfl)

theorem inUse_of_cleaned {first : CleanupStep} (cleaned : Cleaned first s t) :
    t.InUse member ↔ s.InUse member := by
  rw [InUse, cleaned.thread, cleaned.reader, cleaned.capture, InUse]

/-- **What a step does**: a thread proceeds, or `Cleanup` does.  All that is needed of a step in
the proofs about runs is one of the two. -/
theorem step_cases [Wire.Double.UndefinedCast] {action : ReleaseAction} (ordered : s.Ordered)
    (step : s.step action = some t) :
    s.Proceeds t ∨ ∃ first rest, action = .cleanup ∧ s.cleanup = first :: rest ∧
      Cleaned first { s with cleanup := rest } t := by
  cases action with
  | push command =>
      obtain rfl := Option.some.inj step
      exact .inl ⟨⟨rfl, rfl, rfl, rfl, id, id⟩, ordered.guarded, ordered.tests, fun _ => .inl⟩
  | tryPop outcome => exact .inl (proceeds_stepTryPop ordered step)
  | thread => exact .inl (proceeds_stepThread ordered step)
  | capture => exact .inl (proceeds_stepCapture ordered step)
  | read payload => exact .inl (proceeds_stepRead ordered step)
  | media audioProducerId => exact .inl (proceeds_stepMedia ordered step)
  | cleanup =>
      cases head : s.cleanup with
      | nil =>
          simp only [Release.step, head] at step
          cases step
      | cons first rest =>
          simp only [Release.step, head] at step
          exact .inr ⟨first, rest, rfl, rfl, cleaned_of_clean step⟩

/-- **Step.** What is known of a session stays so, whoever takes the step. -/
theorem ordered_of_step [Wire.Double.UndefinedCast] {action : ReleaseAction} (ordered : s.Ordered)
    (step : s.step action = some t) : t.Ordered := by
  obtain proceeds | ⟨first, rest, -, head, cleaned⟩ := step_cases ordered step
  · exact proceeds.ordered ordered
  · exact ordered_of_cleaned ordered head cleaned

/-- Nothing is set again. -/
theorem isSet_of_step [Wire.Double.UndefinedCast] {action : ReleaseAction} (ordered : s.Ordered)
    (step : s.step action = some t) (set : t.isSet member = true) : s.isSet member = true := by
  obtain proceeds | ⟨first, rest, -, head, cleaned⟩ := step_cases ordered step
  · exact (proceeds.aside.isSet member).symm.trans set
  · exact ((cleaned.isSet member).mp set).1

/-- What comes into use is there. -/
theorem isSet_of_test [Wire.Double.UndefinedCast] {action : ReleaseAction} (ordered : s.Ordered)
    (step : s.step action = some t) (unused : ¬ s.InUse member) (inUse : t.InUse member) :
    t.isSet member = true := by
  obtain proceeds | ⟨first, rest, -, head, cleaned⟩ := step_cases ordered step
  · exact (proceeds.found member inUse).resolve_left unused
  · exact absurd ((inUse_of_cleaned cleaned).mp inUse) unused

theorem holds_of_uses {thread : CommandThread} (uses : thread.Uses member) :
    thread.Holds member := by
  cases thread with
  | executing rest =>
      obtain ⟨op, next, uses⟩ := uses
      cases rest with
      | perform op rest =>
          cases next
          exact .inl uses
      | done | look | emit => cases next
  | flushing fadeDurationMs rest => exact .inl uses
  | checking | popping | exited => exact uses.elim

theorem inUse_of_uses {action : ReleaseAction} (uses : s.Uses action member) :
    s.InUse member := by
  cases action with
  | thread => exact .inl (holds_of_uses uses)
  | capture =>
      cases member with
      | audioQueue =>
          have sleeping : s.playback.capture = .sleeping := uses
          exact .inr (.inr (by simp [sleeping, CapturePhase.Holds]))
      | audioTrack | adm => exact uses.elim
  | media audioProducerId =>
      cases member with
      | audioQueue =>
          obtain ⟨frame, pushing⟩ := uses
          exact .inr (.inl (by simp [pushing, ReaderPhase.Holds]))
      | audioTrack | adm => exact uses.elim
  | push | tryPop | read | cleanup => exact uses.elim

end Release

/-! ### Who is in between goes on

For the converse: the thread that is in between is let to take its steps alone, and comes to the
use. -/

section Uses

variable [Wire.Double.UndefinedCast] {sessionId : String} {s : Release} {member : ReleasedMember}

open Release

/-- The next step uses the member. -/
def NextUses (member : ReleasedMember) (s : Release) : Prop :=
  ∃ action t, s.step action = some t ∧ s.Uses action member

omit [Wire.Double.UndefinedCast] in
/-- An operation is behind the thread after one step, or after the two of a flush. -/
theorem exists_stepThread_perform {op : SessionOp} {next : Rest}
    (executing : s.thread = .executing (.perform op next)) :
    ∃ t, s.stepThread = some t ∧ (t.thread = .executing next ∨
      ∃ fadeDurationMs, t.thread = .flushing fadeDurationMs next) := by
  cases op with
  | flushAudioBuffer fadeDurationMs =>
      simp only [stepThread, executing]
      refine ⟨_, rfl, ?_⟩
      dsimp only
      split_ifs
      · exact .inr ⟨fadeDurationMs, rfl⟩
      · exact .inl rfl
  | _ =>
      simp only [stepThread, executing]
      exact ⟨_, rfl, .inl rfl⟩

theorem mayUse_of_flushing {fadeDurationMs : UInt32} {rest : Rest}
    (flushing : s.thread = .flushing fadeDurationMs rest)
    (may : ∀ {t : Release}, t.thread = .executing rest →
      (release sessionId).MayReach (NextUses member) t) :
    (release sessionId).MayReach (NextUses member) s := by
  refine .step (a := .thread) (t := { s.flush fadeDurationMs with thread := .executing rest }) ?_
    (may rfl)
  simp only [release, Release.step, stepThread, flushing]

/-- **A program that is bound to use the member** gets there, if it is let: by induction on the
program, with the command thread alone taking steps. -/
theorem mayUse_of_bound {rest : Rest} (bound : Bound member rest)
    (executing : s.thread = .executing rest) :
    (release sessionId).MayReach (NextUses member) s := by
  induction rest generalizing s with
  | done result => exact bound.elim
  | look next ih =>
      refine .step (a := .thread) (t := { s with thread := .executing (next s.session) }) ?_
        (ih _ (bound s.session) rfl)
      simp only [release, Release.step, stepThread, executing]
  | emit output next ih =>
      refine .step (a := .thread) (t := { s with thread := .executing next }) ?_ (ih bound rfl)
      simp only [release, Release.step, stepThread, executing]
  | perform op next ih =>
      obtain ⟨t, step, behind⟩ := exists_stepThread_perform executing
      obtain uses | bound := bound
      · refine .here ⟨.thread, t, step, ?_⟩
        show s.thread.Uses member
        rw [executing]
        exact ⟨op, rfl, uses⟩
      · refine .step (a := .thread) step ?_
        obtain executing | ⟨fadeDurationMs, flushing⟩ := behind
        · exact ih bound executing
        · exact mayUse_of_flushing flushing fun executing => ih bound executing

theorem mayUse_of_thread (holds : s.thread.Holds member) :
    (release sessionId).MayReach (NextUses member) s := by
  cases thread : s.thread with
  | executing rest =>
      rw [thread] at holds
      exact mayUse_of_bound holds thread
  | flushing fadeDurationMs rest =>
      rw [thread] at holds
      obtain rfl | bound := holds
      · refine .here ⟨.thread, _, by simp only [Release.step, stepThread, thread]; rfl, ?_⟩
        show s.thread.Uses .audioQueue
        rw [thread]
        rfl
      · exact mayUse_of_flushing thread fun executing => mayUse_of_bound bound executing
  | checking | popping | exited =>
      rw [thread] at holds
      exact holds.elim

theorem mayUse_of_reader (holds : s.reader.Holds member) :
    (release sessionId).MayReach (NextUses member) s := by
  have pushes : ∀ {s : Release} {frame}, s.reader = .pushing frame →
      (release sessionId).MayReach (NextUses .audioQueue) s := by
    intro s frame pushing
    have step : s.step (.media "") = some { s with
        playback := s.playback.handleMediaFrame "" frame, reader := .testing } := by
      simp only [Release.step, stepMedia, pushing]
    exact .here ⟨_, _, step, frame, pushing⟩
  cases reader : s.reader with
  | checking frame members =>
      rw [reader] at holds
      obtain ⟨rfl, rfl⟩ := holds_checking holds
      have even : frame.frameData.length % 2 = 0 := holds
      have passed : passes "" frame = true := by simp [passes, even]
      refine .step (a := .media "") (t := { s with reader := .pushing frame }) ?_ (pushes rfl)
      simp only [release, Release.step, stepMedia, reader, if_pos passed]
  | pushing frame =>
      rw [reader] at holds
      cases member with
      | audioQueue => exact pushes reader
      | audioTrack | adm => exact holds.elim
  | testing | reading | ended =>
      rw [reader] at holds
      exact holds.elim

/-- Whoever is between test and use when the member is gone may go on. -/
theorem mayUse_of_inUse (ordered : s.Ordered) (gone : ¬ s.isSet member = true)
    (inUse : s.InUse member) : (release sessionId).MayReach (NextUses member) s := by
  obtain thread | reader | capture := inUse
  · exact mayUse_of_thread thread
  · exact mayUse_of_reader reader
  · -- the capture thread was joined before
    have running : s.playback.capture ≠ .stopped := by
      intro stopped
      simp [stopped, CapturePhase.Holds] at capture
    cases member with
    | audioQueue => exact absurd (ordered.audioQueue_of_capture running) gone
    | audioTrack | adm =>
        cases phase : s.playback.capture <;> simp [phase, CapturePhase.Holds] at capture

/-- The next step uses a member that was released. -/
def Misuses (member : ReleasedMember) (s : Release) : Prop :=
  s.isSet member = false ∧ NextUses member s

end Uses

/-! ### The releases

The members and their users are a `Tenure`, so the statement is an instance of the general one. -/

/-- The members and their users. -/
def tenure [Wire.Double.UndefinedCast] (sessionId : String) :
    Tenure (release sessionId) ReleasedMember where
  alive s member := s.isSet member = true
  inUse := Release.InUse
  uses := Release.Uses
  Invariant := Release.Ordered
  start := Release.ordered_created sessionId
  preserved _ _ _ ordered step := Release.ordered_of_step ordered step
  alive_init member _ := by cases member <;> rfl
  alive_of_step ordered step set := Release.isSet_of_step ordered step set
  inUse_of_uses _ _ uses := Release.inUse_of_uses uses
  alive_of_test ordered step unused inUse := Release.isSet_of_test ordered step unused inUse
  mayUse ordered gone inUse := mayUse_of_inUse ordered gone inUse

/-- No member is released while it is in use. -/
def Release.ReleasesUnused (s : Release) (action : ReleaseAction) : Prop :=
  ∀ member rest, action = .cleanup → s.cleanup = .release member :: rest → ¬ s.InUse member

theorem Release.step_release [Wire.Double.UndefinedCast] {s t : Release} {member : ReleasedMember}
    {rest : List CleanupStep} (head : s.cleanup = .release member :: rest)
    (step : s.step .cleanup = some t) :
    ¬ t.isSet member = true ∧ (t.InUse member ↔ s.InUse member) := by
  simp only [Release.step, head] at step
  have cleaned := cleaned_of_clean step
  have same : t.InUse member ↔ ({ s with cleanup := rest } : Release).InUse member :=
    inUse_of_cleaned cleaned
  exact ⟨fun set => ((cleaned.isSet member).mp set).2 rfl, same⟩

theorem releasesUnused_tenure [Wire.Double.UndefinedCast] {sessionId : String} {s : Release}
    {action : ReleaseAction} (ordered : s.Ordered) (releases : s.ReleasesUnused action) :
    (tenure sessionId).ReleasesUnused s action := by
  intro t member step set inUse
  obtain proceeds | ⟨first, rest, cleans, head, cleaned⟩ := Release.step_cases ordered step
  · exact (proceeds.aside.isSet member).trans set
  · refine (cleaned.isSet member).mpr ⟨set, ?_⟩
    rintro rfl
    exact releases member rest cleans head ((Release.inUse_of_cleaned cleaned).mp inUse)

/-- **A release goes wrong exactly when the member is in use.**  As long as none is, every use
finds its member; once one was, it may be used behind its release. -/
theorem misuses_iff [Wire.Double.UndefinedCast] (sessionId : String)
    (actions : List ReleaseAction) {s : Release}
    (reached : (release sessionId).run (.created sessionId) actions = some s) :
    ((release sessionId).Meets Release.ReleasesUnused (.created sessionId) actions →
      ∀ taken ∈ (release sessionId).transitions (.created sessionId) actions,
        ∀ member, taken.before.Uses taken.action member → taken.before.isSet member = true) ∧
    ∀ member rest t, s.cleanup = .release member :: rest → s.step .cleanup = some t →
      ((release sessionId).MayReach (Misuses member) t ↔ s.InUse member) := by
  let T := tenure sessionId
  constructor
  · intro meets
    have unused : (release sessionId).Meets T.ReleasesUnused (.created sessionId) actions := by
      intro taken mem
      obtain ⟨ordered, -⟩ := (release sessionId).transitions_of_invariant T.preserved T.start
        taken mem
      exact releasesUnused_tenure ordered (meets taken mem)
    exact T.alive_of_uses unused
  · intro member rest t head step
    obtain ⟨gone, same⟩ := Release.step_release head step
    have reachable : (release sessionId).Reachable t :=
      Machine.Reachable.step (a := .cleanup) ⟨actions, reached⟩ step
    have misuses : Misuses member = T.Misuses member := by
      funext s
      exact congrArg (· ∧ NextUses member s) (propext Bool.eq_false_iff)
    rw [← same, misuses]
    exact T.mayMisuse_iff reachable gone

/-- The command thread takes a command, and takes so many steps in it. -/
def executed (steps : ℕ) : List ReleaseAction :=
  [.thread, .tryPop (MediaStream.producing "own")] ++ List.replicate steps .thread

/-- The queue is released while the media thread is about to push; the track, while the command
thread creates the listener of a producer. -/
theorem misuses_iff_pushing :
    letI := Wire.Double.x86Cast
    let frame : SpeakingEngineMediaPayload := ⟨"", "session", "", some ⟨[1, 0], .audio, "own"⟩⟩
    let pushing : List ReleaseAction :=
      [.media "", .read (some frame)] ++ List.replicate 4 (.media "own") ++
        List.replicate 4 .cleanup ++ [.capture] ++ List.replicate 3 .cleanup
    let producing : List ReleaseAction :=
      [.push (.loadDevice ⟨[], []⟩), .push (.createTransport "transport"),
          .push .startProduction] ++ executed 6 ++ executed 8 ++ executed 2 ++
        List.replicate 2 .cleanup
    (∃ s t, (release "session").run (.created "session") pushing = some s ∧
      s.step .cleanup = some t ∧ (release "session").MayReach (Misuses .audioQueue) t) ∧
    ∃ s t, (release "session").run (.created "session") producing = some s ∧
      s.step .cleanup = some t ∧ (release "session").MayReach (Misuses .audioTrack) t := by
  let := Wire.Double.x86Cast
  intro frame pushing producing
  let M := @release Wire.Double.x86Cast "session"
  constructor
  · have reached : M.run M.init pushing = some _ := rfl
    refine ⟨_, _, reached, rfl, ?_⟩
    refine ((misuses_iff "session" pushing reached).2 .audioQueue _ _ rfl rfl).mpr ?_
    exact .inr (.inl trivial)
  · have reached : M.run M.init producing = some _ := rfl
    refine ⟨_, _, reached, rfl, ?_⟩
    refine ((misuses_iff "session" producing reached).2 .audioTrack _ _ rfl rfl).mpr ?_
    exact .inl fun _ => .inr (.inl rfl)

end Saasy.SpeakingEngine
