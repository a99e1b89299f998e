import SaasyMediaEngine.Transition.Machine
import SaasyMediaEngine.Transition.Registry

/-!
# The session table of an engine service

`listening_engine_service.cpp` and `speaking_engine_service.cpp`, which share their
session management line by line.  A `Control` call gets or creates the session of its
id, `Events` and `Media` calls find it; each of the three attaches a stream, writes an
acknowledgement, polls the session until the call is cancelled or the removal of the
session was requested, and calls `RemoveSession` with the id.  A `close_session`
request, which comes in on the control stream, requests the removal, and a detached
thread calls `RemoveSession` with the id, too.

Only the look-ups and the removal hold `sessions_mutex_`; a handler keeps the raw
pointer it got.  Here the pointer is the number of the session in the registry, and
`isLive` says whether it is still the one in `sessions_`.  `sessionTable` runs any
number of handlers and removal threads, in any order.

The loop condition `!context->IsCancelled() && !session->IsRemovalRequested()` reads the
context first and the session second, and nothing keeps the two reads together: a call may
be cancelled in between, and a session removed.  So they are two steps, `poll` and `check`,
and a handler that has found its call not cancelled is going to read the session, whatever
happens to the call.
-/

namespace Saasy.Service

open Transition

/-- `kMaxSessions`. -/
def kMaxSessions : ℕ := 20

/-- What the handlers see of a `Session`; its `session_id` is its name in the registry, and the
rest of it belongs to the engines. -/
structure Session where
  participantId : String
  /-- Whether a control stream is attached. -/
  controlStream : Bool
  removalRequested : Bool
  deriving DecidableEq

inductive StatusCode where
  | ok
  | invalidArgument
  | resourceExhausted
  | notFound
  | internal
  deriving DecidableEq

/-- `grpc::Status`, with which a handler returns. -/
structure Status where
  code : StatusCode
  message : String
  deriving DecidableEq

def Status.OK : Status := ⟨.ok, ""⟩

inductive StreamKind where
  | control
  | events
  | media
  deriving DecidableEq

/-- The error of a handler that cannot write its acknowledgement. -/
def StreamKind.ackFailure : StreamKind → Status
  | .control => ⟨.internal, "Failed to write initial ack"⟩
  | .events => ⟨.internal, "Failed to write initial event"⟩
  | .media => ⟨.internal, "Failed to write initial media ack"⟩

/-- Attaching the stream. -/
def StreamKind.attach (kind : StreamKind) (session : Session) : Session :=
  match kind with
  | .control => { session with controlStream := true }
  | .events | .media => session

/-- Where a handler is, with the session it holds by its number, which is not reused when the
session is gone. -/
inductive HandlerPhase where
  | entered
  | attaching (session : ℕ)
  | acking (session : ℕ)
  /-- At `context->IsCancelled()`. -/
  | polling (session : ℕ)
  /-- At `session->IsRemovalRequested()`. -/
  | checking (session : ℕ)
  | leaving (session : ℕ)
  | returned (status : Status)
  deriving DecidableEq

structure Handler where
  kind : StreamKind
  sessionId : String
  participantId : String
  /-- `context->IsCancelled()`. -/
  cancelled : Bool
  phase : HandlerPhase
  deriving DecidableEq

inductive HandlerAction where
  | cancel
  | lookup
  | attach
  | ack (written : Bool)
  | poll
  | check
  | leave
  deriving DecidableEq

abbrev Sessions := Registry String Session

/-- `GetOrCreateSession`: the table after the call, and the session it returns. -/
def getOrCreateSession (sessions : Sessions) (sessionId participantId : String) :
    Sessions × Option ℕ :=
  match sessions.find? sessionId with
  | some session =>
      (sessions.modify session fun x => { x with participantId }, some session)
  | none =>
      if kMaxSessions ≤ sessions.size then (sessions, none)
      else (sessions.register sessionId ⟨participantId, false, false⟩,
        some sessions.entries.length)

/-- `RemoveSession`. -/
def removeSession (sessions : Sessions) (sessionId : String) : Sessions :=
  sessions.remove sessionId

namespace Handler

/-- The start of a call, which checks its metadata. -/
def enter (kind : StreamKind) (sessionId participantId : Option String) : Handler where
  kind := kind
  sessionId := sessionId.getD ""
  participantId := participantId.getD ""
  cancelled := false
  phase :=
    if sessionId.isNone then .returned ⟨.invalidArgument, "'session-id' metadata is required"⟩
    else if participantId.isNone then
      .returned ⟨.invalidArgument, "'participant-id' metadata is required"⟩
    else .entered

/-- The look-up under the lock.  `Control` creates the session if there is none and there is room;
`Events` and `Media` need one that is there. -/
def lookup (x : Handler) (sessions : Sessions) : Sessions × Handler :=
  match x.kind with
  | .control =>
      match getOrCreateSession sessions x.sessionId x.participantId with
      | (sessions, some session) => (sessions, { x with phase := .attaching session })
      | (sessions, none) =>
          (sessions,
            { x with phase := .returned ⟨.resourceExhausted, "Session limit reached"⟩ })
  | .events | .media =>
      match sessions.find? x.sessionId with
      | some session => (sessions, { x with phase := .attaching session })
      | none => (sessions, { x with phase := .returned ⟨.notFound, "Session not found"⟩ })

/-- The first half of the loop condition: a cancelled call does not look at the session. -/
def poll (x : Handler) (session : ℕ) : Handler :=
  { x with phase := if x.cancelled then .leaving session else .checking session }

/-- The second half, which looks at the session without looking at the call again. -/
def check (x : Handler) (sessions : Sessions) (session : ℕ) : Handler :=
  { x with
    phase :=
      if (sessions.get? session).any Session.removalRequested then .leaving session
      else .polling session }

/-- One step of a handler, and what it does to the table. -/
def step (x : Handler) (sessions : Sessions) : HandlerAction → Option (Sessions × Handler)
  | .cancel => some (sessions, { x with cancelled := true })
  | .lookup => if x.phase = .entered then some (x.lookup sessions) else none
  | .attach =>
      match x.phase with
      | .attaching session =>
          some (sessions.modify session x.kind.attach, { x with phase := .acking session })
      | _ => none
  | .ack written =>
      match x.phase with
      | .acking session =>
          some (sessions, { x with
            phase := if written then .polling session else .returned x.kind.ackFailure })
      | _ => none
  | .poll =>
      match x.phase with
      | .polling session => some (sessions, x.poll session)
      | _ => none
  | .check =>
      match x.phase with
      | .checking session => some (sessions, x.check sessions session)
      | _ => none
  | .leave =>
      match x.phase with
      | .leaving _ =>
          some (removeSession sessions x.sessionId, { x with phase := .returned .OK })
      | _ => none

end Handler

/-- A detached removal thread that has not run yet.  It was given the id by value, and nothing
else. -/
structure Remover where
  /-- The session whose removal was requested. -/
  session : ℕ
  /-- The id it is going to remove. -/
  sessionId : String
  deriving DecidableEq

structure ServiceState where
  sessions : Sessions
  handlers : List Handler
  removers : List Remover

inductive ServiceAction where
  | call (kind : StreamKind) (sessionId participantId : Option String)
  | handler (index : ℕ) (action : HandlerAction)
  | closeSession (session : ℕ)
  | removal (index : ℕ)
  deriving DecidableEq

namespace ServiceState

/-- `RequestRemoval`, by the control stream of a session.  The stream is destroyed with
the session, its threads joined. -/
def requestRemoval (s : ServiceState) (session : ℕ) : Option ServiceState :=
  match s.sessions.entries[session]? with
  | some (sessionId, data) =>
      if s.sessions.isLive session && data.controlStream then
        if data.removalRequested then some s
        else some { s with
          sessions := s.sessions.modify session fun x => { x with removalRequested := true }
          removers := s.removers ++ [⟨session, sessionId⟩] }
      else none
  | none => none

def step (s : ServiceState) : ServiceAction → Option ServiceState
  | .call kind sessionId participantId =>
      some { s with handlers := s.handlers ++ [.enter kind sessionId participantId] }
  | .handler index action =>
      (s.handlers[index]?).bind fun x => (x.step s.sessions action).map fun y =>
        { s with sessions := y.1, handlers := s.handlers.set index y.2 }
  | .closeSession session => s.requestRemoval session
  | .removal index =>
      (s.removers[index]?).map fun r =>
        { s with
          sessions := removeSession s.sessions r.sessionId
          removers := s.removers.eraseIdx index }

end ServiceState

/-- A service and everything that runs in it, from its start: any number of calls, their handlers,
and the removal threads. -/
def sessionTable : Machine ServiceState ServiceAction where
  init := ⟨.empty, [], []⟩
  step := ServiceState.step

namespace Handler

variable {x y : Handler} {sessions sessions' : Sessions} {action : HandlerAction}

/-- The session that a handler is still going to look at in its loop condition.  If its call is
cancelled that is none, unless the handler has already found that it was not. -/
def watching (x : Handler) : Option ℕ :=
  match x.phase with
  | .attaching session | .acking session | .polling session =>
      if x.cancelled then none else some session
  | .checking session => some session
  | _ => none

/-- The session on whose behalf a handler may still call `RemoveSession`. -/
def held (x : Handler) : Option ℕ :=
  match x.phase with
  | .attaching session | .acking session | .polling session | .checking session
  | .leaving session => some session
  | _ => none

theorem held_of_watching (x : Handler) {session : ℕ} (watching : x.watching = some session) :
    x.held = some session := by
  unfold Handler.watching at watching
  unfold held
  cases phase : x.phase <;> simp_all

/-- `GetOrCreateSession` returns the session its id leads to from then on. -/
theorem getOrCreateSession_cases (sessions : Sessions) (sessionId participantId : String) :
    (∃ session f, sessions.find? sessionId = some session ∧
        getOrCreateSession sessions sessionId participantId =
          (sessions.modify session f, some session)) ∨
      (sessions.find? sessionId = none ∧
        (getOrCreateSession sessions sessionId participantId = (sessions, none) ∨
          ∃ data, getOrCreateSession sessions sessionId participantId =
            (sessions.register sessionId data, some sessions.entries.length))) := by
  unfold getOrCreateSession
  cases found : sessions.find? sessionId with
  | some session => exact .inl ⟨session, _, rfl, rfl⟩
  | none =>
      refine .inr ⟨rfl, ?_⟩
      dsimp only
      split_ifs
      · exact .inl rfl
      · exact .inr ⟨_, rfl⟩

/-- **What a handler can do**, to the table and to itself.  A removal by a handler is like one by a
removal thread: it goes by the id. -/
inductive Moved (x : Handler) (sessions : Sessions) :
    HandlerAction → Sessions → Handler → Prop
  | cancel : x.Moved sessions .cancel sessions { x with cancelled := true }
  | lookupFails (status : Status) (entered : x.phase = .entered) :
      x.Moved sessions .lookup sessions { x with phase := .returned status }
  | finds (session : ℕ) (entered : x.phase = .entered)
      (found : sessions.find? x.sessionId = some session) :
      x.Moved sessions .lookup sessions { x with phase := .attaching session }
  | gets (session : ℕ) (f : Session → Session) (entered : x.phase = .entered)
      (found : sessions.find? x.sessionId = some session) :
      x.Moved sessions .lookup (sessions.modify session f)
        { x with phase := .attaching session }
  | creates (data : Session) (entered : x.phase = .entered) (control : x.kind = .control)
      (free : sessions.find? x.sessionId = none) :
      x.Moved sessions .lookup (sessions.register x.sessionId data)
        { x with phase := .attaching sessions.entries.length }
  | attaches (session : ℕ) (attaching : x.phase = .attaching session) :
      x.Moved sessions .attach (sessions.modify session x.kind.attach)
        { x with phase := .acking session }
  | acks (session : ℕ) (acking : x.phase = .acking session) :
      x.Moved sessions (.ack true) sessions { x with phase := .polling session }
  | ackFails (session : ℕ) (acking : x.phase = .acking session) :
      x.Moved sessions (.ack false) sessions { x with phase := .returned x.kind.ackFailure }
  | polls (session : ℕ) (polling : x.phase = .polling session) (running : x.cancelled = false) :
      x.Moved sessions .poll sessions { x with phase := .checking session }
  | stopsPolling (session : ℕ) (polling : x.phase = .polling session) :
      x.Moved sessions .poll sessions { x with phase := .leaving session }
  | goesOn (session : ℕ) (checking : x.phase = .checking session) :
      x.Moved sessions .check sessions { x with phase := .polling session }
  | leavesLoop (session : ℕ) (checking : x.phase = .checking session) :
      x.Moved sessions .check sessions { x with phase := .leaving session }
  | removes (session : ℕ) (leaving : x.phase = .leaving session) :
      x.Moved sessions .leave (sessions.remove x.sessionId)
        { x with phase := .returned .OK }

theorem lookup_moved (sessions : Sessions) (entered : x.phase = .entered) :
    x.Moved sessions .lookup (x.lookup sessions).1 (x.lookup sessions).2 := by
  obtain ⟨kind, sessionId, participantId, cancelled, phase⟩ := x
  unfold lookup
  cases kind with
  | control =>
      obtain ⟨session, f, found, get⟩ | ⟨free, full | ⟨data, create⟩⟩ :=
        getOrCreateSession_cases sessions sessionId participantId
      · rw [get]
        exact .gets session f entered found
      · rw [full]
        exact .lookupFails _ entered
      · rw [create]
        exact .creates data entered rfl free
  | events | media =>
      cases found : sessions.find? sessionId with
      | none => exact .lookupFails _ entered
      | some session => exact .finds session entered found

theorem step_moved (step : x.step sessions action = some (sessions', y)) :
    x.Moved sessions action sessions' y := by
  cases action with
  | cancel =>
      cases step
      exact .cancel
  | lookup =>
      obtain ⟨entered, hlookup⟩ := Option.ite_none_right_eq_some.mp step
      have moved := lookup_moved sessions entered
      rwa [Option.some.inj hlookup] at moved
  | attach =>
      cases phase : x.phase <;> simp only [Handler.step, phase] at step <;> cases step
      exact .attaches _ phase
  | ack written =>
      cases phase : x.phase <;> simp only [Handler.step, phase] at step <;> cases step
      cases written
      · exact .ackFails _ phase
      · exact .acks _ phase
  | poll =>
      cases phase : x.phase <;> simp only [Handler.step, phase] at step <;> cases step
      unfold Handler.poll
      split_ifs with cancelled
      · exact .stopsPolling _ phase
      · exact .polls _ phase (eq_false_of_ne_true cancelled)
  | check =>
      cases phase : x.phase <;> simp only [Handler.step, phase] at step <;> cases step
      unfold Handler.check
      split_ifs
      · exact .leavesLoop _ phase
      · exact .goesOn _ phase
  | leave =>
      cases phase : x.phase <;> simp only [Handler.step, phase] at step <;> cases step
      exact .removes _ phase

/-- What a handler holds it held before, or its id leads to. -/
theorem Moved.held (moved : x.Moved sessions action sessions' y) {session : ℕ}
    (held : y.held = some session) :
    x.held = some session ∨ sessions'.find? x.sessionId = some session := by
  cases moved with
  | cancel => exact .inl held
  | lookupFails | ackFails | removes => cases held
  | finds found _ hfound | gets found _ _ hfound =>
      cases held
      exact .inr hfound
  | creates =>
      cases held
      exact .inr (Registry.find?_register_self _)
  | attaches _ phase | acks _ phase | polls _ phase | stopsPolling _ phase | goesOn _ phase
  | leavesLoop _ phase => exact .inl (by simpa [Handler.held, phase] using held)

/-- What a handler is going to look at it was going to look at before, or its id leads to. -/
theorem Moved.watching (moved : x.Moved sessions action sessions' y) {session : ℕ}
    (watching : y.watching = some session) :
    x.watching = some session ∨ sessions'.find? x.sessionId = some session := by
  cases moved with
  | cancel =>
      -- a cancellation does not stop a handler that has looked at the call before
      refine .inl ?_
      unfold Handler.watching at watching ⊢
      cases phase : x.phase <;> simp_all
  | lookupFails | ackFails | removes | stopsPolling | leavesLoop => cases watching
  | finds found _ hfound | gets found _ _ hfound =>
      obtain ⟨-, rfl⟩ : x.cancelled = false ∧ found = session := by
        simpa [Handler.watching] using watching
      exact .inr hfound
  | creates =>
      obtain ⟨-, rfl⟩ : x.cancelled = false ∧ sessions.entries.length = session := by
        simpa [Handler.watching] using watching
      exact .inr (Registry.find?_register_self _)
  | attaches _ phase | acks _ phase | goesOn _ phase | polls _ phase _ =>
      refine .inl ?_
      unfold Handler.watching at watching ⊢
      simp_all

theorem Moved.sessionId_eq (moved : x.Moved sessions action sessions' y) :
    y.sessionId = x.sessionId := by
  cases moved <;> rfl

end Handler

namespace ServiceState

variable {s t : ServiceState}

theorem handler_cases {index : ℕ} {action : HandlerAction}
    (step : s.step (.handler index action) = some t) :
    ∃ x sessions y, s.handlers[index]? = some x ∧
      x.Moved s.sessions action sessions y ∧
      t = { s with sessions, handlers := s.handlers.set index y } := by
  obtain ⟨x, hx, hmap⟩ := Option.bind_eq_some_iff.mp step
  obtain ⟨⟨sessions, y⟩, own, rfl⟩ := Option.map_eq_some_iff.mp hmap
  exact ⟨x, sessions, y, hx, Handler.step_moved own, rfl⟩

/-- Only a live session requests its removal, and only once. -/
theorem closeSession_cases {session : ℕ} (step : s.step (.closeSession session) = some t) :
    t = s ∨ ∃ sessionId f, s.sessions.find? sessionId = some session ∧
      t = { s with
        sessions := s.sessions.modify session f
        removers := s.removers ++ [⟨session, sessionId⟩] } := by
  simp only [ServiceState.step, requestRemoval] at step
  split at step
  next sessionId data hentry =>
    split_ifs at step with hlive requested
    · exact .inl (Option.some.inj step).symm
    · obtain rfl := Option.some.inj step
      have live := (Bool.and_eq_true_iff.mp hlive).1
      exact .inr ⟨sessionId, _, s.sessions.find?_of_isLive live (by rw [hentry]; rfl), rfl⟩
  next => cases step

end ServiceState

end Saasy.Service
