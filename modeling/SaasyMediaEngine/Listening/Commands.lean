import SaasyMediaEngine.Control.Devices

/-!
# The commands of the listening engine

`listening-engine/src/commands.cpp`, on the part of the session that they see.

A command is a program of statements that look at the session, change it or answer, so that the
same command can be run at a stroke or with other threads in between.  The objects of the library
mediasoupclient are numbers, given out by the session in the order in which they are created, and
what the library does during one command, whether a call returns or throws, is the `Outcome` that
the surroundings choose for it.

Three of the five commands are the same in both engines, up to the fields they use: `deviceAccess`
says which those are here.  Each command answers once, or throws before it has answered and is
answered for, and with that `listeningEngine` is an engine for the modules on the control stream.
-/

namespace Saasy.ListeningEngine

open Transition Control Wire Codec Throwing

structure Consumer where
  object : ℕ
  /-- `GetTrack`. -/
  track : Option ℕ
  closed : Bool
  deriving DecidableEq

structure RecvTransport where
  object : ℕ
  /-- The listener it was created with. -/
  listener : Option ℕ
  /-- The consumers it has created, by id. -/
  consumers : List (String × ℕ)
  closed : Bool
  deriving DecidableEq

/-- What the commands see of a `Session`: the members they test, and how many objects were created,
from which the next one takes its number. -/
structure Session where
  device : Option Device
  transportListener : Option TransportListener
  transport : Option RecvTransport
  consumers : List (String × Consumer)
  /-- The tracks `audio_track_sink` is attached to. -/
  sinks : List ℕ
  /-- How many objects were created. -/
  objects : ℕ
  deriving DecidableEq

def Session.created : Session := ⟨none, none, none, [], [], 0⟩

/-- The statements of the commands that change the session, each with the object that it puts
there. -/
inductive SessionOp where
  /-- `device = make_unique<Device>()`. -/
  | newDevice (object : ℕ)
  /-- `Load` completes. -/
  | deviceLoaded
  /-- `transport_listener = make_unique<TransportListener>(…)`. -/
  | newTransportListener (listener : TransportListener)
  /-- `transport.reset(…)`. -/
  | resetTransport (object : ℕ) (listener : Option ℕ)
  /-- What `Consume` does: the transport has one more consumer. -/
  | consume (consumerId : String) (consumer : Consumer)
  /-- `AddSink`. -/
  | addSink (track : ℕ)
  /-- `consumers[…] = …`, under the lock. -/
  | registerConsumer (consumerId : String) (consumer : Consumer)
  deriving DecidableEq

/-- What they do.  Each object that is created takes the next number; a consumer and its track take
one each. -/
def SessionOp.apply (op : SessionOp) (s : Session) : Session :=
  match op with
  | newDevice object => { s with device := some ⟨object, false⟩, objects := s.objects + 1 }
  | deviceLoaded => { s with device := s.device.map ({ · with loaded := true }) }
  | newTransportListener listener =>
      { s with transportListener := some listener, objects := s.objects + 1 }
  | resetTransport object listener =>
      { s with transport := some ⟨object, listener, [], false⟩, objects := s.objects + 1 }
  | consume consumerId consumer =>
      { s with
        transport := s.transport.map fun transport =>
          { transport with
            consumers := SortedMap.insert consumerId consumer.object transport.consumers }
        objects := s.objects + 2 }
  | addSink track => { s with sinks := s.sinks.insert track }
  | registerConsumer consumerId consumer =>
      { s with consumers := SortedMap.insert consumerId consumer s.consumers }

/-- What mediasoupclient does during one command, on top of what the commands shared by the engines
call. -/
structure Outcome extends DeviceOutcome where
  /-- `RecvTransport::Consume`: it throws, returns nothing, or returns a consumer with or
  without a track. -/
  consume : Except String (Option Bool)

inductive Command where
  | loadDevice (routerRtpCapabilities : RtpCapabilitiesFinalized)
  | getDeviceRtpCapabilities
  | createTransport (transportId : String)
  | createConsumer (consumerId : String) (kind : MediaKind)
  | resumeConsumer (deviceConsumerId : String)

/-- The responses to them; an error is not among these, as every command can be answered with one.
-/
inductive CommandResult where
  | loadDevice
  | getDeviceRtpCapabilities (deviceRtpCapabilities : RtpCapabilities)
  | createTransport
  | createConsumer (deviceConsumerId : String)
  | resumeConsumer

def deviceAccess : DeviceAccess SessionOp Session CommandResult where
  device s := s.device
  transportListener s := s.transportListener
  objects s := s.objects
  newDevice := .newDevice
  deviceLoaded := .deviceLoaded
  newTransportListener := .newTransportListener
  resetTransport := .resetTransport
  loadDeviceResponse := .loadDevice
  getDeviceRtpCapabilitiesResponse := .getDeviceRtpCapabilities
  createTransportResponse := .createTransport

abbrev Body := CommandM SessionOp Session CommandResult Unit

/-- `CreateConsumerCommand::Execute`.  The transport has the consumer before its track is tested,
and the sink the track before the consumer is registered. -/
def createConsumer (consumerId : String) (kind : MediaKind) (outcome : Outcome) : Body := do
  let transport ← read (·.transport)
  require transport.isSome "Transport not created yet"
  require (kind == .audio) "Only audio consumers are supported"
  let consumed ← call outcome.consume
  let hasTrack ← require? consumed "Failed to create consumer"
  let object ← read (·.objects)
  let consumer : Consumer := ⟨object, if hasTrack then some (object + 1) else none, false⟩
  perform (.consume consumerId consumer)
  let track ← require? consumer.track "Consumer has no track"
  perform (.addSink track)
  perform (.registerConsumer consumerId consumer)
  invokeCallback (.createConsumer consumerId)

/-- `ResumeConsumerCommand::Execute`. -/
def resumeConsumer (deviceConsumerId : String) : Body := do
  let consumers ← read (·.consumers)
  require (consumers.lookup deviceConsumerId).isSome ("Consumer not found: " ++ deviceConsumerId)
  invokeCallback .resumeConsumer

/-- `Execute`, of any command. -/
def Command.body [Double.UndefinedCast] (command : Command) (outcome : Outcome) : Body :=
  match command with
  | .loadDevice routerRtpCapabilities =>
      Control.loadDevice deviceAccess routerRtpCapabilities outcome.toDeviceOutcome
  | .getDeviceRtpCapabilities =>
      Control.getDeviceRtpCapabilities deviceAccess outcome.toDeviceOutcome
  | .createTransport transportId =>
      Control.createTransport deviceAccess transportId outcome.toDeviceOutcome
  | .createConsumer consumerId kind => ListeningEngine.createConsumer consumerId kind outcome
  | .resumeConsumer deviceConsumerId => ListeningEngine.resumeConsumer deviceConsumerId

/-! ### Every command answers once

The commands are programs, and the automaton that they follow accepts an answer only if there was
none before.  A command that returns has answered; one that throws has not, and its exception
becomes the answer. -/

theorem answers_createConsumer (consumerId : String) (kind : MediaKind) (outcome : Outcome) :
    AnswersOrThrows (createConsumer consumerId kind outcome) := by
  unfold AnswersOrThrows createConsumer
  simp only [follows_bind, follows_read, follows_perform, answering_inl]
  intro s
  refine follows_require (follows_require (follows_call (fun consumed => ?_) rfl) rfl) rfl
  refine follows_require? (fun hasTrack _ s => ⟨false, rfl, ?_⟩) rfl
  refine follows_require? (fun track _ => ⟨false, rfl, false, rfl, ?_⟩) rfl
  simp

theorem answers_resumeConsumer (deviceConsumerId : String) :
    AnswersOrThrows (resumeConsumer deviceConsumerId) := by
  unfold AnswersOrThrows resumeConsumer
  simp only [follows_bind, follows_read]
  intro s
  refine follows_require ?_ rfl
  simp

theorem Command.answers [Double.UndefinedCast] (command : Command) (outcome : Outcome) :
    AnswersOrThrows (command.body outcome) := by
  cases command with
  | loadDevice routerRtpCapabilities => exact answers_loadDevice _ routerRtpCapabilities _
  | getDeviceRtpCapabilities => exact answers_getDeviceRtpCapabilities _ _
  | createTransport transportId => exact answers_createTransport _ transportId _
  | createConsumer consumerId kind => exact answers_createConsumer consumerId kind outcome
  | resumeConsumer deviceConsumerId => exact answers_resumeConsumer deviceConsumerId

/-- **The listening engine**: its session, its commands, and that each of them answers once.  It
sends no requests of its own. -/
def listeningEngine [Double.UndefinedCast] : Engine where
  Session := Session
  Op := SessionOp
  Command := Command
  Outcome := Outcome
  Result := CommandResult
  apply := SessionOp.apply
  execute command outcome := executing (command.body outcome)
  answersOnce command outcome := answersOnce_executing (command.answers outcome)
  initiatesRequests := false

end Saasy.ListeningEngine
