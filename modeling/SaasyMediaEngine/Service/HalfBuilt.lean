import SaasyMediaEngine.Listening.Attachment
import SaasyMediaEngine.Listening.MediaPath
import SaasyMediaEngine.Speaking.MediaStream
import SaasyMediaEngine.Transition.Crash

/-!
# Sessions whose constructor returns early

The constructors of both sessions return early when WebRTC does not give them what they ask
for, and the session is registered all the same.  Here a session has all the members that own
an audio object, and every `->` on one of them is a `deref`: `ListeningEngine.operate` and
`SpeakingEngine.operate` are the parts of `Control`, `Events`, `Media`, of the threads of the
media streams, of the commands and of `Cleanup` that use them.

The speaking engine tests each member that it uses.  The listening engine does not test
`audio_track_sink`, in `Control` and in the thread of the media stream.

The early returns are not failures of the constructor: it has no way to report them, and the
session is put in the table as any other, so that `Control`, `Events` and `Media` find it.  What is
atomic here is an operation: another thread that resets a member in the middle of one is the
business of `Speaking.Release`, where the operations are taken apart.
-/

namespace Saasy.ListeningEngine

open Transition Control

/-- `CustomAudioDeviceModule` of the listening engine, which only plays out; what is behind its
flags is the subject of `Service.DeviceThread`. -/
structure CustomAudioDeviceModule where
  initialized : Bool
  playoutIsInitialized : Bool
  playing : Bool

namespace CustomAudioDeviceModule

def create : CustomAudioDeviceModule := ⟨false, false, false⟩

/-- `CustomAudioDeviceModule::Init`. -/
def init (adm : CustomAudioDeviceModule) : CustomAudioDeviceModule :=
  { adm with initialized := true }

/-- `CustomAudioDeviceModule::InitPlayout`. -/
def initPlayout (adm : CustomAudioDeviceModule) : CustomAudioDeviceModule :=
  if adm.initialized then { adm with playoutIsInitialized := true } else adm

/-- `CustomAudioDeviceModule::StartPlayout`. -/
def startPlayout (adm : CustomAudioDeviceModule) : CustomAudioDeviceModule :=
  if adm.initialized && adm.playoutIsInitialized then { adm with playing := true } else adm

/-- `CustomAudioDeviceModule::StopPlayout`. -/
def stopPlayout (adm : CustomAudioDeviceModule) : CustomAudioDeviceModule :=
  { adm with playing := false }

/-- `CustomAudioDeviceModule::Terminate`. -/
def terminate (adm : CustomAudioDeviceModule) : CustomAudioDeviceModule :=
  { adm.stopPlayout with initialized := false }

end CustomAudioDeviceModule

/-- A sink that knows the pipeline it hands samples to, once `Control` has created one. -/
structure WiredSink extends AudioTrackSink where
  vadTurnPipeline : Option ℕ

/-- A session with the members that own an audio object. -/
structure FullSession where
  sessionId : String
  /-- What the commands see. -/
  session : Session
  adm : Option CustomAudioDeviceModule
  /-- Whether `peer_connection_factory` is set. -/
  peerConnectionFactory : Bool
  audioTrackSink : Option WiredSink
  vadTurnPipeline : Option ℕ
  /-- How many pipelines were created. -/
  pipelines : ℕ
  mediaStream : Option (MediaStream TrackByte)
  cleanedUp : Bool

namespace FullSession

/-- `Session::Session`.  `CreateFactory` returns a factory or null. -/
def construct (sessionId : String) (factory : Bool) : Except SessionMember FullSession := do
  let s : FullSession := ⟨sessionId, .created, some .create, factory, none, none, 0, none, false⟩
  if !s.peerConnectionFactory then return s
  let adm ← deref .adm s.adm
  let s := { s with
    adm := some adm.init.initPlayout.startPlayout
    audioTrackSink := some ⟨⟨false, []⟩, none⟩ }
  let sink ← deref .audioTrackSink s.audioTrackSink
  return { s with audioTrackSink := some { sink with running := true } }

/-- `Control`, from `GetOrCreateSession` to its loop.  The models are there if the service has
loaded them. -/
def control (models : Bool) (s : FullSession) : Except SessionMember FullSession := do
  if !models then return s
  let s := { s with vadTurnPipeline := some s.pipelines, pipelines := s.pipelines + 1 }
  let sink ← deref .audioTrackSink s.audioTrackSink
  return { s with audioTrackSink := some { sink with vadTurnPipeline := s.vadTurnPipeline } }

/-- `Media`, up to its loop. -/
def media (participantId : String) (s : FullSession) : FullSession :=
  { s with mediaStream := some (.start s.sessionId participantId) }

/-- `Session::GetFirstConsumerId`. -/
def firstConsumerId (s : FullSession) : String := (s.session.consumers.head?.map (·.1)).getD ""

/-- An iteration of `ForwardMediaStream`, on the media stream there is. -/
def forward (writeOk : Bool) (nowMs : ℕ) (s : FullSession) :
    Except SessionMember FullSession := do
  let some mediaStream := s.mediaStream | return s
  if !mediaStream.running then return s
  let sink ← deref .audioTrackSink s.audioTrackSink
  match sink.audioQueue with
  | [] => return s
  | frame :: rest =>
      let env : MediaEnv := ⟨s.firstConsumerId, writeOk, nowMs⟩
      return { s with
        audioTrackSink := some { sink with audioQueue := rest }
        mediaStream := some (mediaStream.forwardMediaStream env frame) }

/-- `Session::Cleanup`. -/
def cleanup (s : FullSession) : Except SessionMember FullSession := do
  if s.cleanedUp then return s
  let mut s := { s with cleanedUp := true }
  if s.audioTrackSink.isSome then
    let sink ← deref .audioTrackSink s.audioTrackSink
    s := { s with audioTrackSink := some { sink with running := false, audioQueue := [] } }
  s := { s with
    session := s.session.cleaned
    mediaStream := s.mediaStream.map ({ · with running := false }) }
  if s.adm.isSome then
    let adm ← deref .adm s.adm
    s := { s with adm := some adm.stopPlayout.terminate }
    s := { s with adm := none }
  return s

end FullSession

inductive SessionOperation where
  | control
  | events
  | media (participantId : String)
  /-- An iteration of the thread of the media stream. -/
  | forward (writeOk : Bool) (nowMs : ℕ)
  | command (command : Command) (outcome : Outcome)
  | cleanup

/-- What an operation does to the session.  The commands pass `peer_connection_factory` and
`audio_track_sink` on as they are. -/
def operate [Wire.Double.UndefinedCast] (models : Bool) (operation : SessionOperation)
    (s : FullSession) : Except SessionMember FullSession :=
  match operation with
  | .control => s.control models
  | .events => .ok s
  | .media participantId => .ok (s.media participantId)
  | .forward writeOk nowMs => s.forward writeOk nowMs
  | .command command outcome =>
      .ok { s with session := (s.session.executed command outcome).state }
  | .cleanup => s.cleanup

namespace FullSession

variable {s : FullSession}

/-- Whether the thread of the media stream is going to take a frame. -/
def forwarding (s : FullSession) : Bool := (s.mediaStream.map (·.running)).getD false

/-- `Control` connects a pipeline, and the thread of a media stream takes frames, only in a
session that has a sink. -/
def Spares (models : Bool) (s : FullSession) : SessionOperation → Prop
  | .control => models = true → s.audioTrackSink.isSome
  | .forward _ _ => s.forwarding = true → s.audioTrackSink.isSome
  | _ => True

theorem control_ok (models : Bool) (s : FullSession) :
    (∃ t, s.control models = .ok t) ↔ (models = true → s.audioTrackSink.isSome) := by
  cases models with
  | false => exact iff_of_true ⟨s, rfl⟩ nofun
  | true =>
      cases sink : s.audioTrackSink with
      | some sink' =>
          refine iff_of_true ⟨{ s with
            vadTurnPipeline := some s.pipelines
            pipelines := s.pipelines + 1
            audioTrackSink := some { sink' with vadTurnPipeline := some s.pipelines } }, ?_⟩
            fun _ => rfl
          simp only [control, sink, deref_some]
          rfl
      | none =>
          refine iff_of_false ?_ fun there => by simpa using there rfl
          rintro ⟨t, done⟩
          simp only [control, sink, deref_none] at done
          cases done

theorem forward_ok (writeOk : Bool) (nowMs : ℕ) (s : FullSession) :
    (∃ t, s.forward writeOk nowMs = .ok t) ↔
      (s.forwarding = true → s.audioTrackSink.isSome) := by
  unfold forward forwarding
  cases s.mediaStream with
  | none => exact iff_of_true ⟨s, rfl⟩ nofun
  | some mediaStream =>
      cases running : mediaStream.running with
      | false =>
          refine iff_of_true ⟨s, ?_⟩ (by simp [running])
          simp only [running]
          rfl
      | true =>
          cases s.audioTrackSink with
          | none =>
              refine iff_of_false ?_ fun there => by simp [running] at there
              rintro ⟨t, done⟩
              simp only [running, deref_none] at done
              cases done
          | some sink =>
              refine iff_of_true ?_ fun _ => rfl
              simp only [running, deref_some]
              obtain ⟨⟨accepting, frames⟩, pipeline⟩ := sink
              cases frames with
              | nil => exact ⟨s, rfl⟩
              | cons frame rest => exact ⟨_, rfl⟩

theorem cleanup_ok (s : FullSession) : ∃ t, s.cleanup = .ok t := by
  unfold cleanup
  cases s.cleanedUp with
  | true => exact ⟨_, rfl⟩
  | false =>
      cases s.audioTrackSink with
      | none => cases s.adm <;> exact ⟨_, rfl⟩
      | some sink => cases s.adm <;> exact ⟨_, rfl⟩

/-- **One operation** crashes exactly if it uses the sink of a session that has none. -/
theorem operate_ok [Wire.Double.UndefinedCast] (models : Bool) (s : FullSession)
    (operation : SessionOperation) :
    (∃ t, operate models operation s = .ok t) ↔ s.Spares models operation := by
  cases operation with
  | control => exact control_ok models s
  | forward writeOk nowMs => exact forward_ok writeOk nowMs s
  | cleanup => exact iff_of_true (cleanup_ok s) trivial
  | _ => exact iff_of_true ⟨_, rfl⟩ trivial

/-- A sink, once there, stays. -/
theorem sink_of_operate [Wire.Double.UndefinedCast] {models : Bool} {t : FullSession}
    {operation : SessionOperation} (done : operate models operation s = .ok t)
    (there : s.audioTrackSink.isSome) : t.audioTrackSink.isSome := by
  obtain ⟨sessionId, session, adm, factory, sink, pipeline, pipelines, media, cleanedUp⟩ := s
  obtain ⟨sink, rfl⟩ := Option.isSome_iff_exists.mp there
  cases operation with
  | control => cases models <;> cases done <;> rfl
  | forward writeOk nowMs =>
      obtain _ | ⟨streamId, participantId, _ | _⟩ := media
      · cases done
        rfl
      · cases done
        rfl
      · obtain ⟨⟨accepting, _ | ⟨frame, rest⟩⟩, wired⟩ := sink <;> cases done <;> rfl
  | cleanup => cases cleanedUp <;> cases adm <;> cases done <;> rfl
  | _ =>
      cases done
      rfl

theorem construct_ok (sessionId : String) (factory : Bool) :
    ∃ s, construct sessionId factory = .ok s ∧ s.audioTrackSink.isSome = factory := by
  cases factory <;> exact ⟨_, rfl, rfl⟩

/-- **A session that has its factory survives**, as its constructor has gone on to create the sink.
-/
theorem survives_of_factory [Wire.Double.UndefinedCast] (sessionId : String) (models : Bool)
    (operations : List SessionOperation) :
    Survives (construct sessionId true) (operate models) operations := by
  obtain ⟨s, constructed, sink⟩ := construct_ok sessionId true
  rw [constructed, survives_iff (Spares models) fun s a => operate_ok models s a]
  intro t mem
  have found := ((crashing (.ok s) (operate models)).transitions_of_invariant
    (motive := fun s => ∀ state, s = .ok state → state.audioTrackSink.isSome) ?_
    (fun state same => Except.ok.inj same ▸ sink) t mem).1
  · intro state same
    cases t.action with
    | control | forward => exact fun _ => found state same
    | _ => trivial
  · rintro (_ | s) a t before step
    · cases step
    · cases step
      exact fun state done => sink_of_operate done (before s rfl)

end FullSession

end Saasy.ListeningEngine

namespace Saasy.SpeakingEngine

open Transition Control Throwing

/-- A session with the members that own an audio object, and with what its media stream has
done.  Before `Media` is called the stream does not run. -/
structure FullSession where
  media : MediaStream
  /-- Whether `peer_connection_factory` is set. -/
  peerConnectionFactory : Bool
  /-- Whether `audio_source` is set. -/
  audioSource : Bool
  cleanedUp : Bool

/-- How the constructor of a session ends: it returns early where an object of WebRTC could not be
created, and the members behind that stay null. -/
inductive Construction where
  /-- `CreateFactory` returns null. -/
  | noFactory
  /-- `CreateAudioTrack` returns null. -/
  | noTrack
  | complete
  deriving DecidableEq

/-- An operation of a command, on the members it dereferences. -/
def SessionOp.operate (op : SessionOp) (s : Session) : Except SessionMember Session :=
  match op with
  | flushAudioBuffer fadeDurationMs => do
      let adm ← deref .adm s.adm
      return { s with adm := some (adm.flushAudioBuffer fadeDurationMs) }
  | speechGenerationComplete => do
      let adm ← deref .adm s.adm
      return { s with adm := some adm.completeSpeechGeneration }
  | op => return op.apply s

namespace FullSession

/-- Change what the commands see. -/
def update (f : Session → Session) (s : FullSession) : FullSession :=
  { s with media := { s.media with session := f s.media.session } }

/-- `Session::Session`. -/
def construct (sessionId : String) (construction : Construction) :
    Except SessionMember FullSession := do
  let session := { Session.created with audioTrack := false, adm := some .create }
  let stream := { MediaStream.start sessionId session true with running := false, thread := .ended }
  -- `adm->SetAudioQueue`: the queue is part of the device
  let adm ← deref .adm session.adm
  let s : FullSession := ⟨stream, construction ≠ .noFactory, false, false⟩
  let s := s.update ({ · with adm := some adm })
  if !s.peerConnectionFactory then return s
  deref .peerConnectionFactory (guard s.peerConnectionFactory)
  let s := { s with audioSource := true }.update fun session =>
    { session with audioTrack := decide (construction = Construction.complete) }
  if !s.media.session.audioTrack then return s
  let adm ← deref .adm s.media.session.adm
  let adm := adm.init.initRecording.startRecording.1.setPlaybackCompletionCallback
  return s.update ({ · with adm := some adm })

/-- `Media`, up to its loop. -/
def connectMedia (s : FullSession) : FullSession :=
  { s with media := .start s.media.sessionId s.media.session s.media.audioQueue }

/-- An iteration of `ProcessMediaStream`: `Read` returns a payload, or false. -/
def process (payload : Option SpeakingEngineMediaPayload) (s : FullSession) :
    Except SessionMember FullSession := do
  if s.media.thread = .ended then return s
  match s.media.running, payload with
  | true, some payload =>
      let media ← s.media.processPayload payload
      return { s with media }
  | _, _ => return { s with media := { s.media with thread := .ended } }

/-- `Session::Cleanup`. -/
def cleanup (s : FullSession) : Except SessionMember FullSession := do
  if s.cleanedUp then return s
  let mut s := { s with cleanedUp := true, media := { s.media with running := false } }
  s := s.update fun session =>
    { session with
      transport := session.transport.map ({ · with closed := true }), audioTrack := false }
  if s.media.session.adm.isSome then
    let adm ← deref .adm s.media.session.adm
    s := s.update ({ · with adm := some { adm.stopRecording with
      initialized := false, ringSamples := [] } })
    s := s.update ({ · with adm := none })
  return { s with media := { s.media with audioQueue := false } }

end FullSession

inductive SessionOperation where
  | control
  | events
  | media
  /-- An iteration of the thread of the media stream. -/
  | process (payload : Option SpeakingEngineMediaPayload)
  | command (command : Command) (outcome : Outcome)
  | cleanup

/-- What an operation does to the session.  `CreateTransport` passes
`peer_connection_factory` on as it is. -/
def operate [Wire.Double.UndefinedCast] (operation : SessionOperation) (s : FullSession) :
    Except SessionMember FullSession :=
  match operation with
  | .control | .events => .ok s
  | .media => .ok s.connectMedia
  | .process payload => s.process payload
  | .command command outcome => do
      let ended ← (executing (command.body outcome)).attempt SessionOp.operate s.media.session
      return s.update fun _ => ended.state
  | .cleanup => s.cleanup

/-! ### The commands

A command may throw at several places, and a throw is answered.  So it is not enough that an
operation would crash: it must be reached, behind a test that has found the member. -/

/-- The members that an operation uses as what it is: `produce` passes the track on, the others
call the audio device. -/
def SessionOp.uses : SessionOp → SessionMember → Bool
  | .produce, .audioTrack => true
  | .flushAudioBuffer _, .adm | .speechGenerationComplete, .adm => true
  | _, _ => false

theorem SessionOp.operate_of_not_uses {op : SessionOp} (other : op.uses .adm = false)
    (s : Session) : op.operate s = .ok (op.apply s) := by
  cases op with
  | flushAudioBuffer | speechGenerationComplete => cases other
  | _ => rfl

/-- **A command that calls the device** finds it, or throws, and a command that throws is answered
with an error. -/
theorem attempt_admCommand {op : SessionOp} (uses : op.uses .adm = true)
    (response : CommandResult) (s : Session) :
    (executing (admCommand op response)).attempt SessionOp.operate s =
      .ok ((executing (admCommand op response)).exec SessionOp.apply s) := by
  obtain ⟨device, transportListener, transport, audioTrack, producerListener, audioProducerId, adm,
    objects⟩ := s
  cases adm with
  | none => rfl
  | some adm =>
      cases op with
      | flushAudioBuffer | speechGenerationComplete => rfl
      | _ => cases uses

/-- The commands that use no such member. -/
abbrev Spares (member : SessionMember) (body : Body) : Prop :=
  Throwing.Follows (performing fun op : SessionOp => !op.uses member) body () (fun _ _ => True)
    fun _ => True

theorem spares_executing {member : SessionMember} {body : Body} (spares : Spares member body) :
    (executing body).Follows (performing fun op : SessionOp => !op.uses member) ()
      fun _ _ => True :=
  follows_catchWith (Program.Follows.mono spares fun result _ _ => by
    cases result with
    | ok _ => trivial
    | error message => exact fun _ => ⟨(), rfl, trivial⟩)

theorem attempt_of_spares {body : Body} (spares : Spares .adm body) (s : Session) :
    (executing body).attempt SessionOp.operate s =
      .ok ((executing body).exec SessionOp.apply s) := by
  refine Program.attempt_of_follows (spares_executing spares) (fun _ op _ accepted s => ?_) s
  have other := performing_inl.mp accepted
  exact SessionOp.operate_of_not_uses (by simpa using other) s

theorem spares_startProduction (member : SessionMember) (other : member ≠ .audioTrack)
    (outcome : Outcome) : Spares member (startProduction outcome) := by
  have produces : SessionOp.produce.uses member = false := by
    cases member with
    | audioTrack => exact absurd rfl other
    | _ => rfl
  unfold Spares startProduction
  simp only [follows_bind, follows_read, follows_perform]
  intro s
  refine follows_require (fun s => follows_require (fun s => ⟨(), rfl, (), ?_, ?_⟩) trivial)
    trivial
  · exact performing_inl.mpr (by rw [produces, Bool.not_false])
  · refine follows_call (fun producer => follows_require? (fun _ _ => ?_) trivial) trivial
    exact ⟨(), rfl, (), rfl, trivial⟩

theorem spares_admCommand {op : SessionOp} {member : SessionMember}
    (other : op.uses member = false) (response : CommandResult) :
    Spares member (admCommand op response) := by
  unfold Spares admCommand
  simp only [follows_bind, follows_read, follows_perform]
  intro s
  refine follows_require ⟨(), performing_inl.mpr ?_, (), rfl, trivial⟩ trivial
  rw [other, Bool.not_false]

theorem spares_loadDevice [Wire.Double.UndefinedCast] (member : SessionMember)
    (routerRtpCapabilities : Wire.RtpCapabilitiesFinalized) (outcome : DeviceOutcome) :
    Spares member (loadDevice deviceAccess routerRtpCapabilities outcome) := by
  unfold Spares loadDevice
  simp only [follows_bind, follows_read]
  intro s
  split_ifs
  · exact ⟨(), rfl, trivial⟩
  · simp only [follows_bind, follows_read, follows_perform]
    intro s
    refine ⟨(), rfl, follows_call (fun json => follows_call (fun _ => ?_) trivial) trivial⟩
    exact ⟨(), rfl, (), rfl, trivial⟩

theorem spares_getDeviceRtpCapabilities [Wire.Double.UndefinedCast] (member : SessionMember)
    (outcome : DeviceOutcome) :
    Spares member (getDeviceRtpCapabilities deviceAccess outcome) := by
  unfold Spares getDeviceRtpCapabilities
  simp only [follows_bind, follows_read]
  intro s
  refine follows_require (follows_call (fun json => follows_call (fun _ => ?_) trivial) trivial)
    trivial
  exact ⟨(), rfl, trivial⟩

theorem spares_createTransport (member : SessionMember) (transportId : String)
    (outcome : DeviceOutcome) :
    Spares member (createTransport deviceAccess transportId outcome) := by
  unfold Spares createTransport
  simp only [follows_bind, follows_read, follows_perform]
  intro s
  refine follows_require (fun s => ⟨(), rfl, fun s => ?_⟩) trivial
  exact follows_call (fun _ s => ⟨(), rfl, (), rfl, trivial⟩) trivial

/-- **No command crashes**: it does what it does on the device that is there, or is refused before
it gets to one. -/
theorem attempt_command [Wire.Double.UndefinedCast] (command : Command) (outcome : Outcome)
    (s : Session) :
    (executing (command.body outcome)).attempt SessionOp.operate s =
      .ok ((executing (command.body outcome)).exec SessionOp.apply s) := by
  cases command with
  | loadDevice routerRtpCapabilities =>
      exact attempt_of_spares (spares_loadDevice _ routerRtpCapabilities _) s
  | getDeviceRtpCapabilities => exact attempt_of_spares (spares_getDeviceRtpCapabilities _ _) s
  | createTransport transportId =>
      exact attempt_of_spares (spares_createTransport _ transportId _) s
  | startProduction => exact attempt_of_spares (spares_startProduction .adm nofun outcome) s
  | flushAudio fadeDurationMs => exact attempt_admCommand rfl _ s
  | speechGenerationComplete => exact attempt_admCommand rfl _ s

/-! ### The other operations

What is not a command tests the members itself, so its cases are few: each member is there or is
not. -/

namespace FullSession

theorem process_ok (payload : Option SpeakingEngineMediaPayload) (s : FullSession) :
    ∃ t, s.process payload = .ok t := by
  unfold process
  split_ifs with ended
  · exact ⟨s, rfl⟩
  · split
    case h_1 payload running =>
      obtain ⟨media, processed⟩ := MediaStream.processPayload_ok payload s.media
      rw [processed]
      exact ⟨_, rfl⟩
    case h_2 => exact ⟨_, rfl⟩

theorem cleanup_ok (s : FullSession) : ∃ t, s.cleanup = .ok t := by
  obtain ⟨media, factory, source, cleanedUp⟩ := s
  obtain ⟨sessionId, running, thread, stats, written, session, audioQueue, pushed⟩ := media
  obtain ⟨device, transportListener, transport, audioTrack, producerListener, audioProducerId, adm,
    objects⟩ := session
  cases cleanedUp with
  | true => exact ⟨_, rfl⟩
  | false => cases adm <;> exact ⟨_, rfl⟩

/-- **No operation crashes**, whatever is missing. -/
theorem operate_ok [Wire.Double.UndefinedCast] (s : FullSession) (operation : SessionOperation) :
    ∃ t, operate operation s = .ok t := by
  cases operation with
  | process payload => exact process_ok payload s
  | cleanup => exact cleanup_ok s
  | command command outcome =>
      simp only [operate, attempt_command]
      exact ⟨_, rfl⟩
  | _ => exact ⟨_, rfl⟩

theorem construct_ok (sessionId : String) (construction : Construction) :
    ∃ s, construct sessionId construction = .ok s := by
  cases construction <;> exact ⟨_, rfl⟩

/-- A session whose constructor comes to its end is `Session.created`. -/
theorem construct_complete (sessionId : String) :
    construct sessionId .complete =
      .ok ⟨{ MediaStream.start sessionId .created true with running := false, thread := .ended },
        true, true, false⟩ := rfl

end FullSession

end Saasy.SpeakingEngine

namespace Saasy.Service

open Transition Control

/-- **Half-built sessions are harmless exactly when** the listening session has a sink
wherever `Control` connects a pipeline or the thread of a media stream takes a frame. -/
theorem survives_iff_spares [Wire.Double.UndefinedCast] (sessionId : String) (models : Bool)
    (factory : Bool) (listening : List ListeningEngine.SessionOperation)
    (construction : SpeakingEngine.Construction)
    (speaking : List SpeakingEngine.SessionOperation) :
    (Survives (ListeningEngine.FullSession.construct sessionId factory)
        (ListeningEngine.operate models) listening ∧
      Survives (SpeakingEngine.FullSession.construct sessionId construction)
        SpeakingEngine.operate speaking) ↔
      (crashing (ListeningEngine.FullSession.construct sessionId factory)
        (ListeningEngine.operate models)).Meets
          (OnState (ListeningEngine.FullSession.Spares models))
          (ListeningEngine.FullSession.construct sessionId factory) listening := by
  obtain ⟨s, constructed, -⟩ := ListeningEngine.FullSession.construct_ok sessionId factory
  obtain ⟨t, constructed'⟩ := SpeakingEngine.FullSession.construct_ok sessionId construction
  rw [constructed, constructed']
  have total := survives_of_total (fun s a => SpeakingEngine.FullSession.operate_ok s a) t speaking
  rw [and_iff_left total]
  exact survives_iff _ (fun s a => ListeningEngine.FullSession.operate_ok models s a) s listening

/-- A listening session without a factory, on which `Control` connects its pipeline. -/
theorem control_crashes :
    letI := Wire.Double.x86Cast
    ¬ Survives (ListeningEngine.FullSession.construct "session" false)
      (ListeningEngine.operate true) [.control] := by
  rintro ⟨s, run⟩
  cases run

end Saasy.Service
