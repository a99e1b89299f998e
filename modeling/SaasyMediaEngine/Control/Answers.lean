import Mathlib.Data.List.Nodup
import Mathlib.Data.List.Range
import SaasyMediaEngine.Control.ControlStream
import SaasyMediaEngine.Listening.Commands
import SaasyMediaEngine.Speaking.Commands

/-!
# Every request is answered once, and in order

A request that was read is in one place: with the incoming thread, in the command queue,
with its command while that has not invoked its callback, on its way out, or answered.
`placed` lists the tickets in all places, from the written responses back to the incoming
thread.  A request with a command moves down that list one place at a time, so that its
ticket keeps its position; the others jump from the end to the outgoing queue, and keep
their order among themselves.  `InOrder` says that both kinds are in the order in which they
were read.

Nothing is said of when an answer is written, and nothing could be: the outgoing thread may never
be scheduled, and `Stop` discards what it has not taken (`Control.Stopping`).  What holds at every
moment is that a request is not answered twice and not forgotten on the way, and that a response
carries the id of the request it answers, since ticket and response travel together.

The two kinds of requests are ordered each for itself.  A `close_session`, or a request nobody
knows, is answered by the incoming thread at once, and overtakes the commands that are queued.
-/

namespace Saasy.Control

open Transition Wire

variable {E : Engine}

/-- The request a message answers. -/
def Message.ticket? : Message E → Option (Ticket E.Command)
  | .response ticket _ => some ticket
  | .request _ => none

/-- Whether a request goes through the command queue. -/
def Routed (E : Engine) (sessionId : String) (ticket : Ticket E.Command) : Bool :=
  match (handleIncomingRequest sessionId ticket.request : Handling _ E.Result) with
  | .push _ => true
  | .respond _ | .close _ => false

/-- Where a request can be, from the thread that has read it to the response that was written.  The
five places are disjoint parts of the state. -/
inductive Place where
  /-- Handled by the incoming thread. -/
  | incoming
  | commandQueue
  /-- Its command is executed, and has not invoked its callback. -/
  | executing
  /-- Its response is queued, or is being written. -/
  | outgoingQueue
  /-- Its response was written. -/
  | answered
  deriving DecidableEq

/-- From the end to the beginning. -/
def Place.all : List Place := [.answered, .outgoingQueue, .executing, .commandQueue, .incoming]

theorem Place.mem_all (place : Place) : place ∈ all := by cases place <;> decide

namespace ControlStream

/-- The tickets in a place. -/
def tickets (s : ControlStream E) : Place → List (Ticket E.Command)
  | .incoming =>
      match s.incoming with
      | .handling ticket => [ticket]
      | _ => []
  | .commandQueue => s.commandQueue.queue.map Prod.fst
  | .executing =>
      match s.executing with
      | some execution => if execution.answered then [] else [execution.ticket]
      | none => []
  | .outgoingQueue => (s.outgoing.inHand ++ s.outgoing.outgoingQueue).filterMap Message.ticket?
  | .answered => s.outgoing.written.filterMap Message.ticket?

/-- The tickets in all places. -/
def placed (s : ControlStream E) : List (Ticket E.Command) := Place.all.flatMap s.tickets

/-- The tickets whose responses were queued. -/
def queuedTickets (s : ControlStream E) : List (Ticket E.Command) :=
  s.outgoing.queued.filterMap Message.ticket?

theorem placed_eq (s : ControlStream E) :
    s.placed = s.queuedTickets ++
      (s.tickets .executing ++ (s.tickets .commandQueue ++ s.tickets .incoming)) := by
  simp [placed, Place.all, queuedTickets, tickets, Outgoing.queued]

/-! ### The invariant

The places of a request are lists, and the requests in all of them together, from the last place to
the first, are those that were read, in their order.  There are two such lists: one for the
requests with a command, and one for those that are answered right away. -/

/-- The requests are in the order in which they were read, both those with a command and the
others.  Between the two kinds there is no order: a response without a command overtakes the
commands. -/
structure InOrder (sessionId : String) (s : ControlStream E) : Prop where
  numbered : s.received.map Ticket.serial = List.range s.received.length
  last : ∀ ticket ∈ s.tickets .incoming, ticket.serial + 1 = s.received.length
  open_ : s.commandQueue.stopped = false
  routed : s.placed.filter (Routed E sessionId) = s.received.filter (Routed E sessionId)
  direct : s.placed.filter (!Routed E sessionId ·) = s.received.filter (!Routed E sessionId ·)
  pushed : ∀ ticket ∈ s.tickets .executing ++ s.tickets .commandQueue,
    Routed E sessionId ticket = true
  execution : ∀ execution ∈ s.executing,
    execution.rest.Follows answering execution.answered fun _ answered => answered = true
  responses : ∀ ticket response, .response ticket response ∈ s.outgoing.queued →
    response.requestId = ticket.request.requestId

variable {sessionId participantId : String} {s t : ControlStream E} {action : StreamAction E}

theorem inOrder_started (session : E.Session) : InOrder sessionId (started session) where
  numbered := rfl
  last _ mem := absurd mem List.not_mem_nil
  open_ := rfl
  routed := rfl
  direct := rfl
  pushed _ mem := absurd mem List.not_mem_nil
  execution _ mem := absurd mem (Option.not_mem_none _)
  responses _ _ mem := absurd mem List.not_mem_nil

/-- A ticket goes from one place to the next: the places together stay as they are. -/
theorem InOrder.of_placed (inOrder : InOrder sessionId s) (received : t.received = s.received)
    (queue : t.commandQueue.stopped = s.commandQueue.stopped)
    (incoming : t.tickets .incoming ⊆ s.tickets .incoming) (placed : t.placed = s.placed)
    (pushed : ∀ ticket ∈ t.tickets .executing ++ t.tickets .commandQueue,
      Routed E sessionId ticket = true)
    (execution : ∀ execution ∈ t.executing,
      execution.rest.Follows answering execution.answered fun _ answered => answered = true)
    (responses : ∀ ticket response, .response ticket response ∈ t.outgoing.queued →
      response.requestId = ticket.request.requestId) : InOrder sessionId t := by
  refine ⟨?_, ?_, queue.trans inOrder.open_, ?_, ?_, pushed, execution, responses⟩
  · rw [received]
    exact inOrder.numbered
  · rw [received]
    exact fun ticket mem => inOrder.last ticket (incoming mem)
  · rw [placed, received]
    exact inOrder.routed
  · rw [placed, received]
    exact inOrder.direct

/-- Most steps leave the places as they are. -/
theorem InOrder.of_same (inOrder : InOrder sessionId s) (received : t.received = s.received)
    (queue : t.commandQueue = s.commandQueue) (executing : t.executing = s.executing)
    (incoming : t.tickets .incoming = s.tickets .incoming)
    (queued : t.queuedTickets = s.queuedTickets)
    (responses : ∀ ticket response, .response ticket response ∈ t.outgoing.queued →
      .response ticket response ∈ s.outgoing.queued) : InOrder sessionId t := by
  have sameExecuting : t.tickets .executing = s.tickets .executing := by
    simp only [tickets, executing]
  have sameQueue : t.tickets .commandQueue = s.tickets .commandQueue := by
    simp only [tickets, queue]
  have placed : t.placed = s.placed := by
    rw [placed_eq, placed_eq, queued, sameExecuting, sameQueue, incoming]
  refine inOrder.of_placed received (by rw [queue]) (incoming ▸ List.Subset.refl _) placed ?_ ?_ ?_
  · rw [sameExecuting, sameQueue]
    exact inOrder.pushed
  · rw [executing]
    exact inOrder.execution
  · exact fun ticket response mem => inOrder.responses ticket response (responses _ _ mem)

theorem routed_of_push {ticket : Ticket E.Command} {command : E.Command}
    (routed : (handleIncomingRequest sessionId ticket.request : Handling _ E.Result) =
      .push command) : Routed E sessionId ticket = true := by
  rw [Routed, routed]

/-- The command of a request is pushed. -/
theorem InOrder.pushes (inOrder : InOrder sessionId s) {ticket : Ticket E.Command}
    {command : E.Command} (handling : s.incoming = .handling ticket)
    (routed : (handleIncomingRequest sessionId ticket.request : Handling _ E.Result) =
      .push command) :
    InOrder sessionId { s with
      commandQueue := s.commandQueue.push (ticket, command)
      incoming := .checking } := by
  rw [CommandQueue.push_of_open inOrder.open_]
  refine inOrder.of_placed rfl rfl (List.nil_subset _) ?_ ?_ inOrder.execution
    inOrder.responses
  · simp [placed, Place.all, tickets, handling]
  · intro ticket' mem
    simp only [tickets, List.map_append, List.map_cons, List.map_nil, ← List.append_assoc] at mem
    obtain before | now := List.mem_append.mp mem
    · exact inOrder.pushed ticket' before
    · exact List.mem_singleton.mp now ▸ routed_of_push routed

/-- Responses carry the id of their request. -/
theorem requestId_of_handle {request : Request (RequestBody E.Command)}
    {response : Response E.Result}
    (direct : handleIncomingRequest sessionId request = .respond response ∨
      handleIncomingRequest sessionId request = .close response) :
    response.requestId = request.requestId := by
  unfold handleIncomingRequest at direct
  split_ifs at direct with mismatch
  · obtain direct | direct := direct <;> cases direct
    rfl
  · split at direct <;> obtain direct | direct := direct <;> cases direct <;> rfl

/-- What a new message adds. -/
theorem queuedTickets_of_queueMessage {message : Message E} {outgoing : Outgoing (Message E)}
    (queued : s.outgoing.queueMessage message = some outgoing) :
    outgoing.queued.filterMap Message.ticket? =
      s.queuedTickets ++ [message].filterMap Message.ticket? := by
  rw [Outgoing.queued_of_queueMessage queued, List.filterMap_append]
  rfl

/-- The responses are still right when one more is queued. -/
theorem InOrder.responses_of_queueMessage (inOrder : InOrder sessionId s) {message : Message E}
    {outgoing : Outgoing (Message E)}
    (queued : s.outgoing.queueMessage message = some outgoing)
    (right : ∀ ticket response, message = .response ticket response →
      response.requestId = ticket.request.requestId)
    (ticket : Ticket E.Command) (response : Response E.Result)
    (mem : .response ticket response ∈ outgoing.queued) :
    response.requestId = ticket.request.requestId := by
  rw [Outgoing.queued_of_queueMessage queued] at mem
  obtain before | now := List.mem_append.mp mem
  · exact inOrder.responses ticket response before
  · exact right ticket response (List.mem_singleton.mp now).symm

/-- A request is answered by the incoming thread. -/
theorem InOrder.responds (inOrder : InOrder sessionId s) {ticket : Ticket E.Command}
    {response : Response E.Result} {outgoing : Outgoing (Message E)}
    {incoming : IncomingPhase E.Command} (handling : s.incoming = .handling ticket)
    (direct : Routed E sessionId ticket = false)
    (requestId : response.requestId = ticket.request.requestId)
    (queued : s.outgoing.queueMessage (.response ticket response) = some outgoing)
    (next : ({ s with outgoing, incoming } : ControlStream E).tickets .incoming = []) :
    InOrder sessionId { s with outgoing, incoming } := by
  have before : s.placed = s.queuedTickets ++
      (s.tickets .executing ++ s.tickets .commandQueue) ++ [ticket] := by
    simp [placed_eq, tickets, handling]
  have after : ({ s with outgoing, incoming } : ControlStream E).placed =
      s.queuedTickets ++ [ticket] ++ (s.tickets .executing ++ s.tickets .commandQueue) := by
    rw [placed_eq, next, queuedTickets, queuedTickets_of_queueMessage queued, List.append_nil]
    rfl
  have others : (s.tickets .executing ++ s.tickets .commandQueue).filter
      (!Routed E sessionId ·) = [] := by
    rw [List.filter_eq_nil_iff]
    intro ticket mem
    simp [inOrder.pushed ticket mem]
  refine ⟨inOrder.numbered, ?_, inOrder.open_, ?_, ?_, inOrder.pushed, inOrder.execution, ?_⟩
  · rw [next]
    exact fun _ mem => absurd mem List.not_mem_nil
  · have routed := inOrder.routed
    rw [before, List.filter_append, List.filter_append] at routed
    rw [after, List.filter_append, List.filter_append, ← routed]
    simp [direct]
  · have others' := inOrder.direct
    rw [before, List.filter_append, List.filter_append, others] at others'
    rw [after, List.filter_append, List.filter_append, others, ← others']
    simp [direct]
  · refine inOrder.responses_of_queueMessage queued ?_
    rintro _ _ ⟨⟩
    exact requestId

/-- A request is read. -/
theorem InOrder.reads (inOrder : InOrder sessionId s)
    (request : Request (RequestBody E.Command)) (reading : s.incoming = .reading) :
    InOrder sessionId { s with
      incoming := .handling ⟨s.received.length, request⟩
      received := s.received ++ [⟨s.received.length, request⟩] } := by
  have after : ({ s with
      incoming := .handling ⟨s.received.length, request⟩
      received := s.received ++ [⟨s.received.length, request⟩] } : ControlStream E).placed =
        s.placed ++ [⟨s.received.length, request⟩] := by
    simp [placed, Place.all, tickets, reading]
  refine ⟨?_, ?_, inOrder.open_, ?_, ?_, inOrder.pushed, inOrder.execution, inOrder.responses⟩
  · rw [List.map_append, inOrder.numbered, List.length_append, List.length_singleton,
      List.range_succ]
    rfl
  · rintro ticket mem
    obtain rfl := List.mem_singleton.mp mem
    simp
  · rw [after, List.filter_append, List.filter_append, inOrder.routed]
  · rw [after, List.filter_append, List.filter_append, inOrder.direct]

/-- A command is taken out of the queue. -/
theorem InOrder.pops (inOrder : InOrder sessionId s) {ticket : Ticket E.Command}
    {command : E.Command} {commandQueue : CommandQueue (Ticket E.Command × E.Command)}
    (outcome : E.Outcome) (idle : s.executing = none)
    (popped : s.commandQueue.tryPop = some ((ticket, command), commandQueue)) :
    InOrder sessionId { s with
      commandQueue := commandQueue
      executing := some ⟨ticket, false, E.execute command outcome⟩ } := by
  obtain ⟨queue, stopped⟩ := CommandQueue.tryPop_eq_some popped
  refine inOrder.of_placed rfl stopped (List.Subset.refl _) ?_ ?_ ?_ inOrder.responses
  · simp [placed, Place.all, tickets, idle, queue]
  · have pushed := inOrder.pushed
    simp only [tickets, idle, queue] at pushed
    simpa [tickets] using pushed
  · rintro execution ⟨⟩
    exact E.answersOnce command outcome

/-- A command goes on without invoking its callback. -/
theorem InOrder.executes (inOrder : InOrder sessionId s) {execution : Execution E}
    (executing : s.executing = some execution) {session : E.Session}
    {rest : Program E.Op E.Session (Answer E.Result) Unit}
    (follows : rest.Follows answering execution.answered fun _ answered => answered = true) :
    InOrder sessionId { s with session, executing := some { execution with rest } } := by
  refine inOrder.of_placed rfl rfl (List.Subset.refl _) ?_ ?_ ?_ inOrder.responses
  · simp [placed, Place.all, tickets, executing]
  · have pushed := inOrder.pushed
    simpa [tickets, executing] using pushed
  · rintro _ ⟨⟩
    exact follows

/-- A command invokes its callback. -/
theorem InOrder.emits (inOrder : InOrder sessionId s) {execution : Execution E}
    {answer : Answer E.Result} {next : Program E.Op E.Session (Answer E.Result) Unit}
    {outgoing : Outgoing (Message E)} (executing : s.executing = some execution)
    (emit : execution.rest = .emit answer next)
    (queued : s.outgoing.queueMessage (.response execution.ticket
      (createResponse sessionId execution.ticket.request answer)) = some outgoing) :
    InOrder sessionId { s with
      outgoing := outgoing
      executing := some { execution with answered := true, rest := next } } := by
  have follows := inOrder.execution _ executing
  rw [emit] at follows
  obtain ⟨answered, hanswered, follows⟩ := follows
  obtain ⟨ticket, wasAnswered, rest⟩ := execution
  cases wasAnswered with
  | true => cases hanswered
  | false =>
      cases hanswered
      refine inOrder.of_placed rfl rfl (List.Subset.refl _) ?_ ?_ ?_
        (inOrder.responses_of_queueMessage queued ?_)
      · rw [placed_eq, placed_eq, queuedTickets, queuedTickets_of_queueMessage queued]
        simp [tickets, executing, Message.ticket?]
      · have pushed := inOrder.pushed
        simp only [tickets, executing] at pushed
        exact fun ticket mem => pushed ticket (List.mem_append_right _ mem)
      · rintro _ ⟨⟩
        exact follows
      · rintro _ _ ⟨⟩
        rfl

/-- **What a step preserves.** Most steps leave all requests where they are; the others take one
from the end of a place to the beginning of the next. -/
theorem InOrder.moved (inOrder : InOrder sessionId s)
    (moved : s.Moved sessionId participantId action t) : InOrder sessionId t := by
  cases moved with
  | pushes handling routed => exact inOrder.pushes handling routed
  | responds handling direct queued =>
      exact inOrder.responds handling (by rw [Routed, direct]) (requestId_of_handle (.inl direct))
        queued rfl
  | closes handling direct queued =>
      exact inOrder.responds handling (by rw [Routed, direct]) (requestId_of_handle (.inr direct))
        queued rfl
  | readsRequest request reading => exact inOrder.reads request reading
  | pops outcome idle popped => exact inOrder.pops outcome idle popped
  | finishes executing done =>
      have follows := inOrder.execution _ executing
      rw [done] at follows
      refine inOrder.of_placed rfl rfl (List.Subset.refl _) ?_ ?_ ?_ inOrder.responses
      · simp [placed, Place.all, tickets, executing, show _ = true from follows]
      · have pushed := inOrder.pushed
        simp only [tickets, executing] at pushed
        exact fun ticket mem => pushed ticket (List.mem_append_right _ mem)
      · rintro _ ⟨⟩
  | looks executing look =>
      have follows := inOrder.execution _ executing
      rw [look] at follows
      exact inOrder.executes executing (follows s.session)
  | performs executing perform =>
      have follows := inOrder.execution _ executing
      rw [perform] at follows
      obtain ⟨answered, hanswered, follows⟩ := follows
      rw [answering_inl] at hanswered
      cases hanswered
      exact inOrder.executes executing follows
  | emits executing emit queued => exact inOrder.emits executing emit queued
  | checks checking =>
      refine inOrder.of_same rfl rfl rfl ?_ rfl fun _ _ mem => mem
      simp only [tickets, checking]
      split_ifs <;> rfl
  | answers answering =>
      exact inOrder.of_same rfl rfl rfl (by simp [tickets, answering]) rfl fun _ _ mem => mem
  | removes removing =>
      exact inOrder.of_same rfl rfl rfl (by simp [tickets, removing]) rfl fun _ _ mem => mem
  | leaves stopping =>
      exact inOrder.of_same rfl rfl rfl (by simp [tickets, stopping]) rfl fun _ _ mem => mem
  | readsResponse requestId response reading =>
      exact inOrder.of_same rfl rfl rfl (by simp [tickets, reading]) rfl fun _ _ mem => mem
  | readFails reading =>
      exact inOrder.of_same rfl rfl rfl (by simp [tickets, reading]) rfl fun _ _ mem => mem
  | advances advanced =>
      have same := Outgoing.queued_of_advance advanced
      refine inOrder.of_same rfl rfl rfl rfl ?_ fun _ _ mem => same ▸ mem
      rw [queuedTickets, same]
      rfl
  | stops => exact inOrder.of_same rfl rfl rfl rfl rfl fun _ _ mem => mem
  | calls request => exact inOrder.of_same rfl rfl rfl rfl rfl fun _ _ mem => mem
  | registers found generated => exact inOrder.of_same rfl rfl rfl rfl rfl fun _ _ mem => mem
  | sends found registered queued =>
      refine inOrder.of_same rfl rfl rfl rfl ?_ fun ticket response mem => ?_
      · rw [queuedTickets, queuedTickets_of_queueMessage queued]
        exact List.append_nil _
      · rw [Outgoing.queued_of_queueMessage queued] at mem
        obtain before | now := List.mem_append.mp mem
        · exact before
        · cases List.mem_singleton.mp now

theorem inOrder_of_reachable {session : E.Session}
    (reached : (controlStream E sessionId participantId session).Reachable s) :
    InOrder sessionId s :=
  (controlStream E sessionId participantId session).invariant (inOrder_started session)
    (fun _ _ _ inOrder step => inOrder.moved (step_moved step)) reached

/-! ### One place for each request

What the order implies: as no ticket is read twice, none stands in two places, or in one place
twice.  In particular no request is answered twice. -/

/-- No request is counted twice. -/
theorem InOrder.nodup_received (inOrder : InOrder sessionId s) : s.received.Nodup := by
  refine List.Nodup.of_map Ticket.serial ?_
  rw [inOrder.numbered]
  exact List.nodup_range

/-- The places together hold what was read. -/
theorem InOrder.placed_perm (inOrder : InOrder sessionId s) : s.placed.Perm s.received := by
  have byKind := List.filter_append_perm (Routed E sessionId) s.placed
  rw [inOrder.routed, inOrder.direct] at byKind
  exact byKind.symm.trans (List.filter_append_perm _ _)

theorem InOrder.nodup_placed (inOrder : InOrder sessionId s) : s.placed.Nodup :=
  inOrder.placed_perm.nodup_iff.mpr inOrder.nodup_received

theorem mem_placed {ticket : Ticket E.Command} :
    ticket ∈ s.placed ↔ ∃ place, ticket ∈ s.tickets place := by
  refine List.mem_flatMap.trans (exists_congr fun place => ?_)
  exact and_iff_right place.mem_all

theorem InOrder.place_unique (inOrder : InOrder sessionId s) {ticket : Ticket E.Command}
    {place place' : Place} (here : ticket ∈ s.tickets place) (there : ticket ∈ s.tickets place') :
    place = place' := by
  obtain ⟨-, disjoint⟩ := List.nodup_flatMap.mp inOrder.nodup_placed
  by_contra other
  have symm : Std.Symm (Function.onFun List.Disjoint s.tickets) :=
    ⟨fun _ _ apart _ here there => apart there here⟩
  exact disjoint.forall place.mem_all place'.mem_all other here there

/-- What is known about the requests at any moment: where each of them is, that it is nowhere else,
and in which order they are answered. -/
structure AnswersRequests (sessionId : String) (s : ControlStream E) : Prop where
  nodup_received : s.received.Nodup
  /-- Each request that was read is in exactly one place, -/
  place : ∀ ticket ∈ s.received, ∃! place, ticket ∈ s.tickets place
  /-- and there only once: no request is answered twice. -/
  nodup : ∀ place, (s.tickets place).Nodup
  /-- Nothing but requests is answered. -/
  received : ∀ place, ∀ ticket ∈ s.tickets place, ticket ∈ s.received
  /-- Only the request that was read last is with the incoming thread. -/
  handled : ∀ ticket ∈ s.tickets .incoming, ticket.serial + 1 = s.received.length
  /-- A response that was written carries the id of the request it answers. -/
  requestId : ∀ ticket response, .response ticket response ∈ s.outgoing.written →
    response.requestId = ticket.request.requestId
  /-- The requests with a command are answered in the order in which they were read. -/
  ordered : (s.tickets .answered).filter (Routed E sessionId) <+:
    s.received.filter (Routed E sessionId)

theorem InOrder.answersRequests (inOrder : InOrder sessionId s) :
    AnswersRequests sessionId s where
  nodup_received := inOrder.nodup_received
  place ticket mem := by
    obtain ⟨place, here⟩ := mem_placed.mp (inOrder.placed_perm.mem_iff.mpr mem)
    exact ⟨place, here, fun place' there => inOrder.place_unique there here⟩
  nodup place := (List.nodup_flatMap.mp inOrder.nodup_placed).1 place place.mem_all
  received place ticket mem := inOrder.placed_perm.mem_iff.mp (mem_placed.mpr ⟨place, mem⟩)
  handled := inOrder.last
  requestId ticket response mem := by
    refine inOrder.responses ticket response ?_
    rw [Outgoing.queued, List.append_assoc]
    exact List.mem_append_left _ mem
  ordered := by
    rw [← inOrder.routed]
    exact (List.prefix_append _ _).filter _

end ControlStream

/-- **Every request is answered once, and in order**, in both engines, whatever the interleaving of
the threads and whatever the commands do. -/
theorem answersRequests_of_reachable [Double.UndefinedCast] (sessionId participantId : String) :
    (∀ session s,
      (controlStream ListeningEngine.listeningEngine sessionId participantId session).Reachable s →
        s.AnswersRequests sessionId) ∧
    ∀ session s,
      (controlStream SpeakingEngine.speakingEngine sessionId participantId session).Reachable s →
        s.AnswersRequests sessionId :=
  ⟨fun _ _ reached => (ControlStream.inOrder_of_reachable reached).answersRequests,
    fun _ _ reached => (ControlStream.inOrder_of_reachable reached).answersRequests⟩

/-- A command that fails, and an unknown request that is read after it and answered before
it. -/
theorem answersRequests_of_reachable_failing :
    letI := Double.x86Cast
    ∃ s : ControlStream ListeningEngine.listeningEngine,
      (s.tickets .answered).map (·.request.requestId) = ["second", "first"] ∧
        s.AnswersRequests "session" := by
  let := Double.x86Cast
  refine ⟨_, ?_, (answersRequests_of_reachable "session" "participant").1 .created _
    ⟨[.incoming, .read (.request ⟨"first", "session", "participant", "create_transport",
        .command (.createTransport "transport")⟩), .incoming,
      .incoming, .read (.request ⟨"second", "session", "participant", "", .unknown⟩),
      .incoming, .tryPop ⟨⟨fun _ => .ok (), .ok .null, .ok ()⟩, .ok none⟩,
      .execute, .execute, .execute,
      .outgoing, .outgoing, .outgoing, .outgoing, .outgoing, .outgoing, .outgoing], rfl⟩⟩
  rfl

end Saasy.Control
