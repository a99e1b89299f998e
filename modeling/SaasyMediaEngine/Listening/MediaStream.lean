import Mathlib.Data.Rat.Defs

/-!
# The media stream and the event stream of a session

`listening-engine/src/media_stream.cpp` and `event_stream.cpp`.  A `MediaStream`
forwards captured audio while its gate is open; the turn events, which reach it as
a listener of the `EventStream`, open and close the gate and flush the pre-roll
ring in front of a turn.

The bytes of the audio are a type variable.  What a call reads from outside is a
`MediaEnv`: the session's first consumer, whether the gRPC write succeeds, the
system clock.  The payloads written and the events queued are kept in order.

A send is one step here, and so is the callback that flushes the ring.  The modules in which two
threads meet on a stream take both apart where the source takes a lock or reads a flag, and show
that the parts in a row are the functions of this module.

The ring is a list with its bound as a field, so a ring that holds more than its capacity cannot be
built, and what it holds is always the end of what was pushed (`pushBack_suffix`).  An event stream
does not know what its listeners are: they are functions on a state of which nothing is assumed, and
a session puts the media stream there.
-/

namespace Saasy.ListeningEngine

/-- `AudioFrame`: the bytes of a frame, their format, and when they were captured. -/
structure AudioFrame (Byte : Type*) where
  data : List Byte
  sampleRate : UInt32
  channels : UInt32
  timestampMs : ℕ

/-- A `ListeningEngineMediaPayload` of type `media_frame`, kind audio, which is the only kind that
the engine makes. -/
structure MediaPayload (Byte : Type*) where
  requestId : String
  sessionId : String
  participantId : String
  deviceConsumerId : String
  frame : AudioFrame Byte

/-- `kMaxFrameSize`. -/
def kMaxFrameSize : ℕ := 1024 * 1024

/-- `kPreRollBytes`: half a second of 16-bit samples at 48 kHz. -/
def kPreRollBytes : ℕ := 48000 * 500 / 1000 * 2

/-- `boost::circular_buffer`: it never holds more than its capacity, and what is pushed to a full
one takes the place of the oldest. -/
structure CircularBuffer (α : Type*) where
  capacity : ℕ
  contents : List α
  bounded : contents.length ≤ capacity

namespace CircularBuffer

variable {α : Type*}

def empty (capacity : ℕ) : CircularBuffer α := ⟨capacity, [], Nat.zero_le _⟩

/-- `push_back` of one element after the other: the oldest ones make room. -/
def pushBack (xs : List α) (b : CircularBuffer α) : CircularBuffer α where
  capacity := b.capacity
  contents := (b.contents ++ xs).drop ((b.contents ++ xs).length - b.capacity)
  bounded := by
    rw [List.length_drop]
    omega

/-- What is left of the elements pushed is the last of them. -/
theorem pushBack_suffix {ys : List α} {b : CircularBuffer α} (suffix : b.contents <:+ ys)
    (xs : List α) : (b.pushBack xs).contents <:+ ys ++ xs := by
  obtain ⟨older, rfl⟩ := suffix
  refine (List.drop_suffix _ _).trans ⟨older, ?_⟩
  rw [List.append_assoc]

end CircularBuffer

structure MediaEnv where
  /-- `GetFirstConsumerId`, empty when there is none. -/
  consumerId : String
  writeOk : Bool
  nowMs : ℕ

structure MediaStream (Byte : Type*) where
  sessionId : String
  participantId : String
  running : Bool
  framesSent : UInt64
  framesDropped : UInt64
  bytesSent : UInt64
  requestCounter : UInt64
  preRollBuffer : CircularBuffer Byte
  gateOpen : Bool
  written : List (MediaPayload Byte)

namespace MediaStream

variable {Byte : Type*}

/-- The constructor followed by `Start`: counters at zero, the ring empty, the gate closed. -/
def start (sessionId participantId : String) : MediaStream Byte where
  sessionId := sessionId
  participantId := participantId
  running := true
  framesSent := 0
  framesDropped := 0
  bytesSent := 0
  requestCounter := 0
  preRollBuffer := .empty kPreRollBytes
  gateOpen := false
  written := []

/-- `MediaStream::GenerateRequestId`, before the counter moves on. -/
def requestId (m : MediaStream Byte) : String :=
  m.sessionId ++ "_media_" ++ toString m.requestCounter

/-- `MediaStream::SendMediaFrame`.  A frame that is too large is counted and dropped; the request
counter only moves on for one that is not. -/
def sendMediaFrame (env : MediaEnv) (frame : AudioFrame Byte) (m : MediaStream Byte) :
    MediaStream Byte :=
  if !m.running then m
  else if kMaxFrameSize < frame.data.length then { m with framesDropped := m.framesDropped + 1 }
  else
    let payload : MediaPayload Byte :=
      { requestId := m.requestId, sessionId := m.sessionId, participantId := m.participantId,
        deviceConsumerId := env.consumerId, frame := frame }
    let m := { m with requestCounter := m.requestCounter + 1 }
    if env.writeOk then
      { m with
        framesSent := m.framesSent + 1
        bytesSent := m.bytesSent + frame.data.length.toUInt64
        written := m.written ++ [payload] }
    else { m with framesDropped := m.framesDropped + 1, running := false }

/-- `push_back` of each byte of a frame. -/
def appendPreRoll (data : List Byte) (m : MediaStream Byte) : MediaStream Byte :=
  { m with preRollBuffer := m.preRollBuffer.pushBack data }

/-- The frame `FlushPreRollBuffer` makes of the ring it copied. -/
def preRollFrame (env : MediaEnv) (preRollData : List Byte) : AudioFrame Byte :=
  { data := preRollData, sampleRate := 48000, channels := 1, timestampMs := env.nowMs }

/-- `FlushPreRollBuffer` once the ring is copied: nothing to do on an empty copy. -/
def sendPreRoll (env : MediaEnv) (preRollData : List Byte) (m : MediaStream Byte) :
    MediaStream Byte :=
  if preRollData.isEmpty then m
  else if env.consumerId ≠ "" then m.sendMediaFrame env (preRollFrame env preRollData)
  else m

/-- `MediaStream::FlushPreRollBuffer`. -/
def flushPreRollBuffer (env : MediaEnv) (m : MediaStream Byte) : MediaStream Byte :=
  m.sendPreRoll env m.preRollBuffer.contents

/-- `MediaStream::OnVadTurnEvent`. -/
def onVadTurnEvent (env : MediaEnv) (eventType : String) (_timestampMs : ℕ)
    (m : MediaStream Byte) : MediaStream Byte :=
  if eventType = "speech_started" then { m.flushPreRollBuffer env with gateOpen := true }
  else if eventType = "user_turn_complete" then { m with gateOpen := false }
  else m

/-- The send of `ForwardMediaStream`'s loop body, for a gate found open. -/
def forwardFrame (env : MediaEnv) (frame : AudioFrame Byte) (m : MediaStream Byte) :
    MediaStream Byte :=
  if env.consumerId ≠ "" then m.sendMediaFrame env frame else m

/-- The body of `ForwardMediaStream`'s loop on a frame it popped. -/
def forwardMediaStream (env : MediaEnv) (frame : AudioFrame Byte) (m : MediaStream Byte) :
    MediaStream Byte :=
  let m := m.appendPreRoll frame.data
  if m.gateOpen then m.forwardFrame env frame else m

/-! ### The gate

Only `OnVadTurnEvent` moves it.  All that sends or records a frame leaves it as it was. -/

@[simp] theorem sendMediaFrame_gateOpen (env : MediaEnv) (frame : AudioFrame Byte)
    (m : MediaStream Byte) : (m.sendMediaFrame env frame).gateOpen = m.gateOpen := by
  simp only [sendMediaFrame]
  split_ifs <;> rfl

@[simp] theorem appendPreRoll_gateOpen (data : List Byte) (m : MediaStream Byte) :
    (m.appendPreRoll data).gateOpen = m.gateOpen := rfl

/-- Forwarding a frame leaves the gate alone. -/
@[simp] theorem forwardMediaStream_gateOpen (env : MediaEnv) (frame : AudioFrame Byte)
    (m : MediaStream Byte) : (m.forwardMediaStream env frame).gateOpen = m.gateOpen := by
  simp only [forwardMediaStream, forwardFrame]
  split_ifs <;> simp

end MediaStream

/-! ### The event stream

Of the event stream only what the turn has to do with it is here: the three events of a turn, the
queue that they go to, and the listeners that hear of two of them. -/

/-- The `EngineToOrchestratorEvent`s a turn queues, with the session and participant of their
stream. -/
structure EngineEvent where
  type : String
  sessionId : String
  participantId : String
  timestampMs : ℕ
  confidence : Option ℚ := none

/-- `EventCallback`, on the state its closure captured. -/
abbrev EventCallback (World : Type*) := MediaEnv → String → ℕ → World → World

structure EventStream (World : Type*) where
  sessionId : String
  participantId : String
  eventQueue : List EngineEvent
  eventListeners : List (EventCallback World)

namespace EventStream

variable {World : Type*}

/-- The constructor. -/
def create (sessionId participantId : String) : EventStream World where
  sessionId := sessionId
  participantId := participantId
  eventQueue := []
  eventListeners := []

/-- `EventStream::RegisterEventListener`. -/
def registerEventListener (callback : EventCallback World) (es : EventStream World) :
    EventStream World :=
  { es with eventListeners := es.eventListeners ++ [callback] }

/-- `EventStream::QueueEvent`. -/
def queueEvent (event : EngineEvent) (es : EventStream World) : EventStream World :=
  { es with eventQueue := es.eventQueue ++ [event] }

/-- `EventStream::NotifyListeners`. -/
def notifyListeners (env : MediaEnv) (eventType : String) (timestampMs : ℕ)
    (es : EventStream World) (world : World) : World :=
  es.eventListeners.foldl (fun world callback => callback env eventType timestampMs world) world

/-- The event all three calls start from. -/
def event (es : EventStream World) (type : String) (timestampMs : ℕ) : EngineEvent :=
  { type := type, sessionId := es.sessionId, participantId := es.participantId,
    timestampMs := timestampMs }

/-- `EventStream::SendOnSpeechStartedEvent`. -/
def sendOnSpeechStartedEvent (env : MediaEnv) (timestampMs : ℕ) (es : EventStream World)
    (world : World) : EventStream World × World :=
  (es.queueEvent (es.event "on_speech_started" timestampMs),
    es.notifyListeners env "speech_started" timestampMs world)

/-- `EventStream::SendOnSpeechEndedEvent`: queued, but no listener hears of it. -/
def sendOnSpeechEndedEvent (timestampMs : ℕ) (es : EventStream World) (world : World) :
    EventStream World × World :=
  (es.queueEvent (es.event "on_speech_ended" timestampMs), world)

/-- `EventStream::SendOnUserTurnCompleteEvent`. -/
def sendOnUserTurnCompleteEvent (env : MediaEnv) (confidence : ℚ) (timestampMs : ℕ)
    (es : EventStream World) (world : World) : EventStream World × World :=
  (es.queueEvent
      { es.event "on_user_turn_complete" timestampMs with confidence := some confidence },
    es.notifyListeners env "user_turn_complete" timestampMs world)

end EventStream

end Saasy.ListeningEngine
