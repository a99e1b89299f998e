import SaasyMediaEngine.Control.Commands
import SaasyMediaEngine.Control.Outgoing
import SaasyMediaEngine.Control.Requests
import SaasyMediaEngine.Transition.Machine

/-!
# A control stream with its threads

`control_stream.cpp`, which is the same in both engines up to the commands and the
requests of the engine.  `controlStream` interleaves

* the incoming thread, which reads messages, answers some requests itself, pushes the
  commands of the others, and invokes the callbacks that wait for a response;
* the command thread, which takes one command after the other and executes it;
* the outgoing thread, which writes;
* the callers of `GetRouterProducerId`;
* whoever calls `Stop`.

A request is numbered when it is read (`Ticket`), and its number goes with its command and
with its response, where no definition looks at it.

Where the source holds a mutex, one step takes it and gives it back; where it does not, a step ends
and the others may come in.  `running_` is atomic and is read by each loop on its own.  A `Write`
that fails is logged and nothing else, so a message counts as written once it was handed to it.

The machine is an `Option`-valued step function, so that a run can be evaluated, and `step_moved`
takes it apart into the cases of `Moved`, which is what the invariants are proved from.
-/

namespace Saasy.Control

open Transition

/-! ### Messages

A request is read together with its number, the ticket.  It is on no wire and nothing in the source
reads it; it says which request a response answers when two of them have one id. -/

/-- The body of a request: a command, `close_session`, or none that is known.  The commands are
those of the engine. -/
inductive RequestBody (Command : Type) where
  | command (command : Command)
  | closeSession
  | unknown

structure Request (Body : Type) where
  requestId : String
  sessionId : String
  participantId : String
  type : String
  body : Body

/-- A request, and how many were read before it, by which two requests with one id are told apart.
-/
structure Ticket (Command : Type) where
  serial : ℕ
  request : Request (RequestBody Command)

inductive ResponseBody (Result : Type) where
  | result (result : Result)
  | closeSession
  | error (code message : String)

structure Response (Result : Type) where
  requestId : String
  sessionId : String
  participantId : String
  type : String
  body : ResponseBody Result

/-- A message that comes in, by its direction: a request of the orchestrator, or its response to a
request of the engine. -/
inductive Incoming (Command : Type) where
  | request (request : Request (RequestBody Command))
  | response (requestId : String) (response : OrchestratorResponse)

/-- A message that goes out: a response with the request it answers, or a request of the engine.
Only what is written of it is on the wire. -/
inductive Message (E : Engine) where
  | response (ticket : Ticket E.Command) (response : Response E.Result)
  | request (request : Request GetRouterProducerIdRequest)

/-! ### The stream

Its three threads share the two queues, the map of pending requests and the flag.  Where a thread
is, and what it has in hand there, is its phase. -/

/-- Where `ProcessIncomingMessages` is. -/
inductive IncomingPhase (Command : Type) where
  /-- At `while (running_ && …)`. -/
  | checking
  /-- In `stream_->Read`. -/
  | reading
  | handling (ticket : Ticket Command)
  | answering (requestId : String) (response : OrchestratorResponse)
  /-- Before `RequestRemoval`. -/
  | removing
  /-- After the loop, before `Stop`. -/
  | stopping
  | exited

/-- A command that is being executed: what is left of it, and whether it has invoked its
callback. -/
structure Execution (E : Engine) where
  ticket : Ticket E.Command
  answered : Bool
  rest : Program E.Op E.Session (Answer E.Result) Unit

structure ControlStream (E : Engine) where
  outgoing : Outgoing (Message E)
  requests : Requests
  incoming : IncomingPhase E.Command
  /-- The requests that were read, in order. -/
  received : List (Ticket E.Command)
  commandQueue : CommandQueue (Ticket E.Command × E.Command)
  executing : Option (Execution E)
  session : E.Session
  removalRequested : Bool

inductive StreamAction (E : Engine) where
  /-- The incoming thread goes on. -/
  | incoming
  /-- `Read` returns a message. -/
  | read (message : Incoming E.Command)
  /-- `Read` returns `false`. -/
  | readFails
  /-- The command thread takes a command. -/
  | tryPop (outcome : E.Outcome)
  /-- The command thread goes on. -/
  | execute
  /-- The outgoing thread goes on. -/
  | outgoing
  /-- `Stop`, from another thread. -/
  | stop
  /-- A call of `GetRouterProducerId` begins. -/
  | call (request : GetRouterProducerIdRequest)
  /-- A call registers its callback. -/
  | register (number : ℕ)
  /-- A call queues its request. -/
  | send (number : ℕ)

/-! ### Handling a request

What the incoming thread does with a request is decided by the body of the request.  What it
answers by itself does not go through the command queue, which is why such an answer may overtake
others. -/

section

variable {Command Result : Type}

/-- What becomes of a request: its command is pushed, or it is answered right away, and after
`close_session` the session is removed. -/
inductive Handling (Command Result : Type) where
  | push (command : Command)
  | respond (response : Response Result)
  /-- The response to `close_session`, after which the removal is requested. -/
  | close (response : Response Result)

/-- `SendErrorResponse`.  It carries the ids of the request, also where the session of the request
is not the one of the stream. -/
def errorResponse (request : Request (RequestBody Command)) (code message : String) :
    Response Result where
  requestId := request.requestId
  sessionId := request.sessionId
  participantId := request.participantId
  type := "error"
  body := .error code message

/-- `HandleIncomingRequest`.  The session id is tested before the body is looked at, so a mismatch
is answered whatever the request is. -/
def handleIncomingRequest (sessionId : String) (request : Request (RequestBody Command)) :
    Handling Command Result :=
  if request.sessionId ≠ sessionId then
    .respond (errorResponse request "INVALID_ARGUMENT" "Session ID mismatch")
  else
    match request.body with
    | .command command => .push command
    | .closeSession =>
        .close ⟨request.requestId, sessionId, request.participantId, "close_session",
          .closeSession⟩
    | .unknown =>
        .respond (errorResponse request "UNIMPLEMENTED"
          ("Unknown request type: " ++ request.type))

/-- `create_response_callback`: the response of a command.  An error has a type of its own, and a
result the type of its request. -/
def createResponse (sessionId : String) (request : Request (RequestBody Command))
    (answer : Answer Result) : Response Result where
  requestId := request.requestId
  sessionId := sessionId
  participantId := request.participantId
  type :=
    match answer with
    | .ok _ => request.type
    | .error _ => "error"
  body :=
    match answer with
    | .ok result => .result result
    | .error message => .error "INTERNAL" message

end

/-- The request that `GetRouterProducerId` queues, under the id that its call was given. -/
def engineRequest (sessionId participantId : String) (call : Call) :
    Request GetRouterProducerIdRequest where
  requestId := call.requestId
  sessionId := sessionId
  participantId := participantId
  type := "get_router_producer_id"
  body := call.request

namespace ControlStream

variable {E : Engine}

/-- A stream that was started on a session: nothing was read, nothing is queued or pending, and
each thread is at the test of its loop. -/
def started (session : E.Session) : ControlStream E where
  outgoing := .started
  requests := .empty
  incoming := .checking
  received := []
  commandQueue := .empty
  executing := none
  session := session
  removalRequested := false

/-- `QueueMessage`. -/
def queueMessage (message : Message E) (s : ControlStream E) : Option (ControlStream E) :=
  (s.outgoing.queueMessage message).map fun outgoing => { s with outgoing }

/-- The next step of the incoming thread, other than `Read`. -/
def stepIncoming (sessionId : String) (s : ControlStream E) : Option (ControlStream E) :=
  match s.incoming with
  | .checking => some { s with incoming := if s.outgoing.running then .reading else .stopping }
  | .reading => none
  | .handling ticket =>
      match handleIncomingRequest sessionId ticket.request with
      | .push command =>
          some { s with
            commandQueue := s.commandQueue.push (ticket, command)
            incoming := .checking }
      | .respond response =>
          queueMessage (.response ticket response) { s with incoming := .checking }
      | .close response =>
          queueMessage (.response ticket response) { s with incoming := .removing }
  | .answering requestId response =>
      some { s with requests := s.requests.respond requestId response, incoming := .checking }
  | .removing => some { s with removalRequested := true, incoming := .checking }
  | .stopping => some { s with outgoing := s.outgoing.stop, incoming := .exited }
  | .exited => none

/-- `Read` returns: a request with the next ticket, a response, or the end of the stream, which
takes the thread out of its loop. -/
def stepRead (message : Option (Incoming E.Command)) (s : ControlStream E) :
    Option (ControlStream E) :=
  match s.incoming, message with
  | .reading, some (.request request) =>
      let ticket := ⟨s.received.length, request⟩
      some { s with incoming := .handling ticket, received := s.received ++ [ticket] }
  | .reading, some (.response requestId response) =>
      some { s with incoming := .answering requestId response }
  | .reading, none => some { s with incoming := .stopping }
  | _, _ => none

/-- The command thread takes a command, if it is not in one and the queue has one to give.  What
the libraries do in it is chosen here. -/
def stepTryPop (outcome : E.Outcome) (s : ControlStream E) : Option (ControlStream E) :=
  match s.executing, s.commandQueue.tryPop with
  | none, some ((ticket, command), commandQueue) =>
      some { s with
        commandQueue := commandQueue
        executing := some ⟨ticket, false, E.execute command outcome⟩ }
  | _, _ => none

/-- The next step of the command that is being executed. -/
def stepExecute (sessionId : String) (s : ControlStream E) : Option (ControlStream E) :=
  match s.executing with
  | none => none
  | some execution =>
      match execution.rest with
      | .done _ => some { s with executing := none }
      | .look next => some { s with executing := some { execution with rest := next s.session } }
      | .perform op next =>
          some { s with
            session := E.apply op s.session
            executing := some { execution with rest := next } }
      | .emit answer next =>
          queueMessage
            (.response execution.ticket (createResponse sessionId execution.ticket.request answer))
            { s with executing := some { execution with answered := true, rest := next } }

/-- The critical section of `GetRouterProducerId`: the callback goes into the map, in place of one
that may be there under the id. -/
def stepRegister (number : ℕ) (s : ControlStream E) : Option (ControlStream E) :=
  match s.requests.calls[number]? with
  | some call =>
      if call.phase = .generated then some { s with requests := s.requests.register number call }
      else none
  | none => none

/-- The end of `GetRouterProducerId`: the request is queued, for which the mutex of the queue has
to be free. -/
def stepSend (sessionId participantId : String) (number : ℕ) (s : ControlStream E) :
    Option (ControlStream E) :=
  match s.requests.calls[number]? with
  | some call =>
      if call.phase = .registered then
        queueMessage (.request (engineRequest sessionId participantId call))
          { s with requests := s.requests.sent number }
      else none
  | none => none

/-- One step, if it is enabled.  An engine that sends no requests of its own does not call
`GetRouterProducerId`. -/
def step (sessionId participantId : String) (s : ControlStream E) :
    StreamAction E → Option (ControlStream E)
  | .incoming => s.stepIncoming sessionId
  | .read message => s.stepRead (some message)
  | .readFails => s.stepRead none
  | .tryPop outcome => s.stepTryPop outcome
  | .execute => s.stepExecute sessionId
  | .outgoing => s.outgoing.advance.map fun outgoing => { s with outgoing }
  | .stop => some { s with outgoing := s.outgoing.stop }
  | .call request =>
      if E.initiatesRequests then
        some { s with requests := s.requests.generate sessionId request }
      else none
  | .register number => s.stepRegister number
  | .send number => s.stepSend sessionId participantId number

/-! ### What a step can do

One constructor for each way in which a step can go, with the guards that it passed.  An invariant
that is about one part of the stream only looks at what `Moved` says of this part. -/

/-- The steps of a control stream, with one constructor for each way they can go.  The invariants
of the stream are proved by cases on these, or on what they do to one of its parts. -/
inductive Moved (sessionId participantId : String) (s : ControlStream E) :
    StreamAction E → ControlStream E → Prop
  | checks (checking : s.incoming = .checking) :
      Moved sessionId participantId s .incoming
        { s with incoming := if s.outgoing.running then .reading else .stopping }
  | pushes {ticket : Ticket E.Command} {command : E.Command}
      (handling : s.incoming = .handling ticket)
      (routed : (handleIncomingRequest sessionId ticket.request : Handling _ E.Result) =
        .push command) :
      Moved sessionId participantId s .incoming
        { s with commandQueue := s.commandQueue.push (ticket, command), incoming := .checking }
  | responds {ticket : Ticket E.Command} {response : Response E.Result}
      {outgoing : Outgoing (Message E)} (handling : s.incoming = .handling ticket)
      (direct : handleIncomingRequest sessionId ticket.request = .respond response)
      (queued : s.outgoing.queueMessage (.response ticket response) = some outgoing) :
      Moved sessionId participantId s .incoming { s with outgoing, incoming := .checking }
  | closes {ticket : Ticket E.Command} {response : Response E.Result}
      {outgoing : Outgoing (Message E)} (handling : s.incoming = .handling ticket)
      (direct : handleIncomingRequest sessionId ticket.request = .close response)
      (queued : s.outgoing.queueMessage (.response ticket response) = some outgoing) :
      Moved sessionId participantId s .incoming { s with outgoing, incoming := .removing }
  | answers {requestId : String} {response : OrchestratorResponse}
      (answering : s.incoming = .answering requestId response) :
      Moved sessionId participantId s .incoming
        { s with requests := s.requests.respond requestId response, incoming := .checking }
  | removes (removing : s.incoming = .removing) :
      Moved sessionId participantId s .incoming
        { s with removalRequested := true, incoming := .checking }
  | leaves (stopping : s.incoming = .stopping) :
      Moved sessionId participantId s .incoming
        { s with outgoing := s.outgoing.stop, incoming := .exited }
  | readsRequest (request : Request (RequestBody E.Command)) (reading : s.incoming = .reading) :
      Moved sessionId participantId s (.read (.request request))
        { s with
          incoming := .handling ⟨s.received.length, request⟩
          received := s.received ++ [⟨s.received.length, request⟩] }
  | readsResponse (requestId : String) (response : OrchestratorResponse)
      (reading : s.incoming = .reading) :
      Moved sessionId participantId s (.read (.response requestId response))
        { s with incoming := .answering requestId response }
  | readFails (reading : s.incoming = .reading) :
      Moved sessionId participantId s .readFails { s with incoming := .stopping }
  | pops {ticket : Ticket E.Command} {command : E.Command}
      {commandQueue : CommandQueue (Ticket E.Command × E.Command)} (outcome : E.Outcome)
      (idle : s.executing = none)
      (popped : s.commandQueue.tryPop = some ((ticket, command), commandQueue)) :
      Moved sessionId participantId s (.tryPop outcome)
        { s with
          commandQueue := commandQueue
          executing := some ⟨ticket, false, E.execute command outcome⟩ }
  | finishes {execution : Execution E} (executing : s.executing = some execution)
      (done : execution.rest = .done ()) :
      Moved sessionId participantId s .execute { s with executing := none }
  | looks {execution : Execution E}
      {next : E.Session → Program E.Op E.Session (Answer E.Result) Unit}
      (executing : s.executing = some execution) (look : execution.rest = .look next) :
      Moved sessionId participantId s .execute
        { s with executing := some { execution with rest := next s.session } }
  | performs {execution : Execution E} {op : E.Op}
      {next : Program E.Op E.Session (Answer E.Result) Unit}
      (executing : s.executing = some execution) (perform : execution.rest = .perform op next) :
      Moved sessionId participantId s .execute
        { s with
          session := E.apply op s.session
          executing := some { execution with rest := next } }
  | emits {execution : Execution E} {answer : Answer E.Result}
      {next : Program E.Op E.Session (Answer E.Result) Unit} {outgoing : Outgoing (Message E)}
      (executing : s.executing = some execution) (emit : execution.rest = .emit answer next)
      (queued : s.outgoing.queueMessage (.response execution.ticket
        (createResponse sessionId execution.ticket.request answer)) = some outgoing) :
      Moved sessionId participantId s .execute
        { s with
          outgoing := outgoing
          executing := some { execution with answered := true, rest := next } }
  | advances {outgoing : Outgoing (Message E)} (advanced : s.outgoing.advance = some outgoing) :
      Moved sessionId participantId s .outgoing { s with outgoing }
  | stops : Moved sessionId participantId s .stop { s with outgoing := s.outgoing.stop }
  | calls (request : GetRouterProducerIdRequest) :
      Moved sessionId participantId s (.call request)
        { s with requests := s.requests.generate sessionId request }
  | registers {number : ℕ} {call : Call} (found : s.requests.calls[number]? = some call)
      (generated : call.phase = .generated) :
      Moved sessionId participantId s (.register number)
        { s with requests := s.requests.register number call }
  | sends {number : ℕ} {call : Call} {outgoing : Outgoing (Message E)}
      (found : s.requests.calls[number]? = some call) (registered : call.phase = .registered)
      (queued : s.outgoing.queueMessage
        (.request (engineRequest sessionId participantId call)) = some outgoing) :
      Moved sessionId participantId s (.send number)
        { s with outgoing, requests := s.requests.sent number }

variable {sessionId participantId : String} {s t : ControlStream E} {action : StreamAction E}

theorem queueMessage_eq_some {message : Message E} :
    queueMessage message s = some t ↔
      ∃ outgoing, s.outgoing.queueMessage message = some outgoing ∧
        { s with outgoing := outgoing } = t :=
  Option.map_eq_some_iff

theorem stepIncoming_moved (step : s.stepIncoming sessionId = some t) :
    s.Moved sessionId participantId .incoming t := by
  unfold stepIncoming at step
  split at step
  case h_1 checking =>
    cases step
    exact .checks checking
  case h_2 => cases step
  case h_3 ticket handling =>
    split at step
    case h_1 command routed =>
      cases step
      exact .pushes handling routed
    case h_2 response direct =>
      obtain ⟨outgoing, queued, rfl⟩ := queueMessage_eq_some.mp step
      exact .responds handling direct queued
    case h_3 response direct =>
      obtain ⟨outgoing, queued, rfl⟩ := queueMessage_eq_some.mp step
      exact .closes handling direct queued
  case h_4 requestId response answering =>
    cases step
    exact .answers answering
  case h_5 removing =>
    cases step
    exact .removes removing
  case h_6 stopping =>
    cases step
    exact .leaves stopping
  case h_7 => cases step

theorem stepExecute_moved (step : s.stepExecute sessionId = some t) :
    s.Moved sessionId participantId .execute t := by
  unfold stepExecute at step
  split at step
  case h_1 => cases step
  case h_2 execution executing =>
    split at step
    case h_1 done =>
      cases step
      exact .finishes executing done
    case h_2 next look =>
      cases step
      exact .looks executing look
    case h_3 op next perform =>
      cases step
      exact .performs executing perform
    case h_4 answer next emit =>
      obtain ⟨outgoing, queued, rfl⟩ := queueMessage_eq_some.mp step
      exact .emits executing emit queued

/-- **What a step can do.** No other proof looks at the definition of a step. -/
theorem step_moved (step : s.step sessionId participantId action = some t) :
    s.Moved sessionId participantId action t := by
  cases action with
  | incoming => exact stepIncoming_moved step
  | read message =>
      change s.stepRead (some message) = some t at step
      unfold stepRead at step
      split at step
      case h_1 request reading hmessage =>
        cases hmessage
        cases step
        exact .readsRequest request reading
      case h_2 requestId response reading hmessage =>
        cases hmessage
        cases step
        exact .readsResponse requestId response reading
      case h_3 hmessage => cases hmessage
      case h_4 => cases step
  | readFails =>
      change s.stepRead none = some t at step
      unfold stepRead at step
      split at step
      case h_1 hmessage => cases hmessage
      case h_2 hmessage => cases hmessage
      case h_3 reading _ =>
        cases step
        exact .readFails reading
      case h_4 => cases step
  | tryPop outcome =>
      change s.stepTryPop outcome = some t at step
      unfold stepTryPop at step
      split at step
      case h_1 ticket command commandQueue idle popped =>
        cases step
        exact .pops outcome idle popped
      case h_2 => cases step
  | execute => exact stepExecute_moved step
  | outgoing =>
      obtain ⟨outgoing, advanced, rfl⟩ := Option.map_eq_some_iff.mp step
      exact .advances advanced
  | stop =>
      cases step
      exact .stops
  | call request =>
      change (if E.initiatesRequests = true then _ else none) = some t at step
      split_ifs at step
      cases step
      exact .calls request
  | register number =>
      change s.stepRegister number = some t at step
      unfold stepRegister at step
      split at step
      case h_1 call found =>
        split_ifs at step with generated
        cases step
        exact .registers found generated
      case h_2 => cases step
  | send number =>
      change s.stepSend sessionId participantId number = some t at step
      unfold stepSend at step
      split at step
      case h_1 call found =>
        split_ifs at step with registered
        obtain ⟨outgoing, queued, rfl⟩ := queueMessage_eq_some.mp step
        exact .sends found registered queued
      case h_2 => cases step

end ControlStream

/-- **A control stream**, started on a session: its two threads, the command thread, and the
callers of `Stop` and of `GetRouterProducerId`. -/
def controlStream (E : Engine) (sessionId participantId : String) (session : E.Session) :
    Machine (ControlStream E) (StreamAction E) where
  init := .started session
  step s action := s.step sessionId participantId action

end Saasy.Control
