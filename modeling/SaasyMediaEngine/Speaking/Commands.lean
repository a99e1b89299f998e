import SaasyMediaEngine.Control.Devices
import SaasyMediaEngine.Speaking.CustomAudioDevice

/-!
# The commands of the speaking engine

`speaking-engine/src/commands.cpp`, on the part of the session that they see.

The commands are programs over a session, as in the listening engine, and three of them are shared
with it.  The parts of a session that a command tests for null are options here, or a flag where
only the null test matters, as for the audio track; what is behind `audio_device_module`, the queue
and the ring, is the device itself, so that a flush is the flush of `CustomAudioDevice`.

`StartProduction` calls `Produce`, which asks the orchestrator for an id over the control stream and
blocks until it has one or fails.  That request is a call of the control stream, and only what comes
of it is in the `Outcome`.
-/

namespace Saasy.SpeakingEngine

open Transition Control Wire Throwing

structure SendTransport where
  object : ℕ
  /-- The listener it was created with. -/
  listener : Option ℕ
  closed : Bool
  deriving DecidableEq

/-- What the commands see of a `Session`: the members they test or change, and how many objects
were created, from which the next one takes its number. -/
structure Session where
  device : Option Device
  transportListener : Option TransportListener
  transport : Option SendTransport
  /-- Whether `audio_track` is set. -/
  audioTrack : Bool
  producerListener : Option ℕ
  audioProducerId : String
  adm : Option CustomAudioDeviceModule
  /-- How many objects were created. -/
  objects : ℕ

/-- A constructed `Session`, its WebRTC factory and track created. -/
def Session.created : Session where
  device := none
  transportListener := none
  transport := none
  audioTrack := true
  producerListener := none
  audioProducerId := ""
  adm := some (CustomAudioDeviceModule.create.init.initRecording.startRecording.1
    |>.setPlaybackCompletionCallback)
  objects := 0

/-- The statements of the commands that change the session, or that hand something of it to a call.
-/
inductive SessionOp where
  /-- `device = make_unique<Device>()`. -/
  | newDevice (object : ℕ)
  /-- `Load` completes. -/
  | deviceLoaded
  /-- `transport_listener = make_unique<TransportListener>(…)`. -/
  | newTransportListener (listener : TransportListener)
  /-- `transport.reset(…)`. -/
  | resetTransport (object : ℕ) (listener : Option ℕ)
  /-- `producer_listener = make_unique<ProducerListener>(…)`. -/
  | newProducerListener (object : ℕ)
  /-- `transport->Produce(…, audio_track.get(), …)` is called.  What comes of it is told when it
  returns. -/
  | produce
  | setAudioProducerId (producerId : String)
  | flushAudioBuffer (fadeDurationMs : UInt32)
  | speechGenerationComplete
  deriving DecidableEq

/-- What they do.  `produce` passes the track on and changes nothing here; the two operations on
the device do nothing where there is none. -/
def SessionOp.apply (op : SessionOp) (s : Session) : Session :=
  match op with
  | newDevice object => { s with device := some ⟨object, false⟩, objects := s.objects + 1 }
  | deviceLoaded => { s with device := s.device.map ({ · with loaded := true }) }
  | newTransportListener listener =>
      { s with transportListener := some listener, objects := s.objects + 1 }
  | resetTransport object listener =>
      { s with transport := some ⟨object, listener, false⟩, objects := s.objects + 1 }
  | newProducerListener object =>
      { s with producerListener := some object, objects := s.objects + 1 }
  | produce => s
  | setAudioProducerId producerId => { s with audioProducerId := producerId }
  | flushAudioBuffer fadeDurationMs =>
      { s with adm := s.adm.map (·.flushAudioBuffer fadeDurationMs) }
  | speechGenerationComplete => { s with adm := s.adm.map (·.completeSpeechGeneration) }

/-- What mediasoupclient does during one command, on top of what the commands shared by the engines
call. -/
structure Outcome extends DeviceOutcome where
  /-- `SendTransport::Produce`: it throws, returns nothing, or returns a producer.  The
  request for its id, which `Produce` makes through `OnProduce` and waits for, is one of
  the calls of the control stream. -/
  produce : Except String (Option String)

inductive Command where
  | loadDevice (routerRtpCapabilities : RtpCapabilitiesFinalized)
  | getDeviceRtpCapabilities
  | createTransport (transportId : String)
  | startProduction
  | flushAudio (fadeDurationMs : UInt32)
  | speechGenerationComplete

/-- The responses to them; an error is not among these, as every command can be answered with one.
-/
inductive CommandResult where
  | loadDevice
  | getDeviceRtpCapabilities (deviceRtpCapabilities : RtpCapabilities)
  | createTransport
  | startProduction (deviceProducerId : String)
  | flushAudio
  | speechGenerationComplete

def deviceAccess : DeviceAccess SessionOp Session CommandResult where
  device s := s.device
  transportListener s := s.transportListener
  objects s := s.objects
  newDevice := .newDevice
  deviceLoaded := .deviceLoaded
  newTransportListener := .newTransportListener
  resetTransport := .resetTransport
  loadDeviceResponse := .loadDevice
  getDeviceRtpCapabilitiesResponse := .getDeviceRtpCapabilities
  createTransportResponse := .createTransport

abbrev Body := CommandM SessionOp Session CommandResult Unit

/-- `StartProductionCommand::Execute`.  Transport and track are tested first; the producer id is
set only once there is a producer. -/
def startProduction (outcome : Outcome) : Body := do
  let transport ← read (·.transport)
  require transport.isSome "Transport not created"
  let audioTrack ← read (·.audioTrack)
  require audioTrack "No audio track available"
  let object ← read (·.objects)
  perform (.newProducerListener object)
  perform .produce
  let producer ← call outcome.produce
  let deviceProducerId ← require? producer "Failed to create audio producer"
  perform (.setAudioProducerId deviceProducerId)
  invokeCallback (.startProduction deviceProducerId)

/-- What `FlushAudio` and `SpeechGenerationComplete` share: one call of the audio device. -/
def admCommand (op : SessionOp) (response : CommandResult) : Body := do
  let adm ← read (·.adm)
  require adm.isSome "Audio device module not initialized"
  perform op
  invokeCallback response

/-- `FlushAudioCommand::Execute`. -/
def flushAudio (fadeDurationMs : UInt32) : Body :=
  admCommand (.flushAudioBuffer fadeDurationMs) .flushAudio

/-- `SpeechGenerationCompleteCommand::Execute`. -/
def speechGenerationComplete : Body :=
  admCommand .speechGenerationComplete .speechGenerationComplete

/-- `Execute`, of any command. -/
def Command.body [Double.UndefinedCast] (command : Command) (outcome : Outcome) : Body :=
  match command with
  | .loadDevice routerRtpCapabilities =>
      Control.loadDevice deviceAccess routerRtpCapabilities outcome.toDeviceOutcome
  | .getDeviceRtpCapabilities =>
      Control.getDeviceRtpCapabilities deviceAccess outcome.toDeviceOutcome
  | .createTransport transportId =>
      Control.createTransport deviceAccess transportId outcome.toDeviceOutcome
  | .startProduction => SpeakingEngine.startProduction outcome
  | .flushAudio fadeDurationMs => SpeakingEngine.flushAudio fadeDurationMs
  | .speechGenerationComplete => SpeakingEngine.speechGenerationComplete

/-! ### Every command answers once

As in the listening engine.  `StartProduction` is the one with a request of its own in it, which is
a call that may throw like any other. -/

theorem answers_startProduction (outcome : Outcome) :
    AnswersOrThrows (startProduction outcome) := by
  unfold AnswersOrThrows startProduction
  simp only [follows_bind, follows_read, follows_perform, answering_inl]
  intro s
  refine follows_require (fun s => follows_require (fun s => ⟨false, rfl, false, rfl, ?_⟩) rfl) rfl
  refine follows_call (fun producer => follows_require? (fun _ _ => ⟨false, rfl, ?_⟩) rfl) rfl
  simp

theorem answers_admCommand (op : SessionOp) (response : CommandResult) :
    AnswersOrThrows (admCommand op response) := by
  unfold AnswersOrThrows admCommand
  simp only [follows_bind, follows_read, follows_perform, answering_inl]
  intro s
  refine follows_require ⟨false, rfl, ?_⟩ rfl
  simp

theorem Command.answers [Double.UndefinedCast] (command : Command) (outcome : Outcome) :
    AnswersOrThrows (command.body outcome) := by
  cases command with
  | loadDevice routerRtpCapabilities => exact answers_loadDevice _ routerRtpCapabilities _
  | getDeviceRtpCapabilities => exact answers_getDeviceRtpCapabilities _ _
  | createTransport transportId => exact answers_createTransport _ transportId _
  | startProduction => exact answers_startProduction outcome
  | flushAudio fadeDurationMs => exact answers_admCommand _ _
  | speechGenerationComplete => exact answers_admCommand _ _

/-- **The speaking engine**: its session, its commands, and that each of them answers once.  It
asks the orchestrator for the ids of its producers. -/
def speakingEngine [Double.UndefinedCast] : Engine where
  Session := Session
  Op := SessionOp
  Command := Command
  Outcome := Outcome
  Result := CommandResult
  apply := SessionOp.apply
  execute command outcome := executing (command.body outcome)
  answersOnce command outcome := answersOnce_executing (command.answers outcome)
  initiatesRequests := true

end Saasy.SpeakingEngine
