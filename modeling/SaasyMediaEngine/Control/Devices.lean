import SaasyMediaEngine.Control.Commands
import SaasyMediaEngine.Wire.RtpCapabilities

/-!
# Devices and transports

Three commands are the same in both engines: `LoadDevice`, `GetDeviceRtpCapabilities` and
`CreateTransport`.  `DeviceAccess` is how they reach the session of an engine.

The commands share the session with the threads that tear it down, so each access to a
member of the session is a step of its own.  Objects that are created on the way are
numbered, and a pointer is the number of what it points to.  What mediasoupclient does is
the outcome of a command: whether a call throws, and what it returns.

`LoadDevice` is sent `RtpCapabilitiesFinalized`: `proto_json_converter.h` declares `ProtoToJson`
for this message and not for `RtpCapabilities`.  `routerRtpCapabilitiesJson` is that document, with
the `kind` that mediasoupclient wants, and it is handed to `Device::Load` as it is; what the
device makes of it is the outcome.
-/

namespace Saasy.Control

open Transition Wire Codec Throwing

structure Device where
  object : ℕ
  /-- Whether `Load` has completed. -/
  loaded : Bool
  deriving DecidableEq

structure TransportListener where
  object : ℕ
  transportId : String
  deriving DecidableEq

/-- What mediasoupclient does during one of these commands: each call returns, or throws an
exception with a message. -/
structure DeviceOutcome where
  /-- `Device::Load`. -/
  load : Json → Except String Unit
  /-- `Device::GetRtpCapabilities`. -/
  getRtpCapabilities : Except String Json
  /-- `Device::CreateRecvTransport` or `Device::CreateSendTransport`. -/
  createTransport : Except String Unit

/-- The members of the session, the statements that change them, and the responses: all by which
the engines differ in these commands. -/
structure DeviceAccess (Op Session Result : Type) where
  device : Session → Option Device
  transportListener : Session → Option TransportListener
  /-- How many objects were created. -/
  objects : Session → ℕ
  newDevice (object : ℕ) : Op
  deviceLoaded : Op
  newTransportListener (listener : TransportListener) : Op
  resetTransport (object : ℕ) (listener : Option ℕ) : Op
  loadDeviceResponse : Result
  getDeviceRtpCapabilitiesResponse (deviceRtpCapabilities : RtpCapabilities) : Result
  createTransportResponse : Result

variable {Op Session Result : Type}

/-! ### Loading

The kind of a codec is a member of its JSON that mediasoupclient asks for and that the message does
not carry: it is in the type of the codec there, and is added to the JSON in a loop. -/

/-- The body of the loop that adds the kind of a codec to its JSON. -/
def addKind (codec : Json) : Except String Json :=
  match codec.find? "mimeType" with
  | some (.string mimeType) =>
      if startsWith "audio/" mimeType then .ok (codec.set "kind" (.string "audio"))
      else if startsWith "video/" mimeType then .ok (codec.set "kind" (.string "video"))
      else .ok codec
  | other =>
      .error ("[json.exception.type_error.302] type must be string, but is " ++
        (other.getD .null).typeName)

/-- The JSON that is loaded: what is printed for the message, each of its codecs with its kind. -/
def routerRtpCapabilitiesJson [Double.UndefinedCast] (capabilities : RtpCapabilitiesFinalized) :
    Except String Json := do
  let json := RtpCapabilitiesFinalized.protoToJson capabilities
  match json.find? "codecs" with
  | some (.array codecs) => do
      let codecs ← codecs.mapM addKind
      return json.set "codecs" (.array codecs)
  | _ => return json

/-- `LoadDeviceCommand::Execute`.  A device that is there is not loaded again; a new one is created
before anything that may throw. -/
def loadDevice [Double.UndefinedCast] (access : DeviceAccess Op Session Result)
    (routerRtpCapabilities : RtpCapabilitiesFinalized) (outcome : DeviceOutcome) :
    CommandM Op Session Result Unit := do
  let device ← read access.device
  if device.isSome then
    invokeCallback access.loadDeviceResponse
  else
    let object ← read access.objects
    perform (access.newDevice object)
    let json ← call (routerRtpCapabilitiesJson routerRtpCapabilities)
    call (outcome.load json)
    perform access.deviceLoaded
    invokeCallback access.loadDeviceResponse

/-- `GetDeviceRtpCapabilitiesCommand::Execute`.  It asks whether there is a device, and leaves it
to mediasoupclient whether that is loaded. -/
def getDeviceRtpCapabilities [Double.UndefinedCast] (access : DeviceAccess Op Session Result)
    (outcome : DeviceOutcome) : CommandM Op Session Result Unit := do
  let device ← read access.device
  require device.isSome "Device not loaded yet"
  let json ← call outcome.getRtpCapabilities
  let deviceRtpCapabilities ← call (RtpCapabilities.jsonToProto json)
  invokeCallback (access.getDeviceRtpCapabilitiesResponse deviceRtpCapabilities)

/-- `CreateTransportCommand::Execute`.  The new listener is in the session before the call that may
throw, and the new transport after it. -/
def createTransport (access : DeviceAccess Op Session Result) (transportId : String)
    (outcome : DeviceOutcome) : CommandM Op Session Result Unit := do
  let device ← read access.device
  require device.isSome "Device not loaded yet"
  let object ← read access.objects
  perform (access.newTransportListener ⟨object, transportId⟩)
  let transportListener ← read access.transportListener
  call outcome.createTransport
  let object ← read access.objects
  perform (access.resetTransport object (transportListener.map (·.object)))
  invokeCallback access.createTransportResponse

/-! ### They answer once

The same automaton as for the other commands.  In each of the three a call of mediasoupclient may
throw at any place, before the answer. -/

theorem answers_loadDevice [Double.UndefinedCast] (access : DeviceAccess Op Session Result)
    (routerRtpCapabilities : RtpCapabilitiesFinalized) (outcome : DeviceOutcome) :
    AnswersOrThrows (loadDevice access routerRtpCapabilities outcome) := by
  unfold AnswersOrThrows loadDevice
  simp only [follows_bind, follows_read]
  intro s
  split_ifs
  · simp
  · simp only [follows_bind, follows_read, follows_perform, answering_inl]
    intro s
    refine ⟨false, rfl, follows_call (fun json => follows_call (fun _ => ?_) rfl) rfl⟩
    exact ⟨false, rfl, by simp⟩

theorem answers_getDeviceRtpCapabilities [Double.UndefinedCast]
    (access : DeviceAccess Op Session Result) (outcome : DeviceOutcome) :
    AnswersOrThrows (getDeviceRtpCapabilities access outcome) := by
  unfold AnswersOrThrows getDeviceRtpCapabilities
  simp only [follows_bind, follows_read]
  intro s
  refine follows_require (follows_call (fun json => follows_call (fun _ => ?_) rfl) rfl) rfl
  simp

theorem answers_createTransport (access : DeviceAccess Op Session Result)
    (transportId : String) (outcome : DeviceOutcome) :
    AnswersOrThrows (createTransport access transportId outcome) := by
  unfold AnswersOrThrows createTransport
  simp only [follows_bind, follows_read, follows_perform, answering_inl]
  intro s
  refine follows_require (fun s => ⟨false, rfl, fun s => follows_call (fun _ s => ?_) rfl⟩) rfl
  exact ⟨false, rfl, by simp⟩

end Saasy.Control
