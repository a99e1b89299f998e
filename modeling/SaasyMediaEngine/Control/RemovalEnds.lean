import SaasyMediaEngine.Control.Removal
import SaasyMediaEngine.Listening.Teardown
import SaasyMediaEngine.Transition.Progress

/-!
# When the removal of a session ends

A `Removal` that is not `Deadlocked` may come to its end: the command thread finishes its command,
`Cleanup` goes on, and the two threads of the control stream exit one after the other.  Every stage
has a rank that some step lowers.  A deadlock is a trap.

The listening engine sends no requests, so its sessions can always be removed.  In either engine
the destructor of the control stream waits for the incoming thread, and that one may be in `Read`:
without a message of the orchestrator, or its leave, nobody else gets the mutex of the table.

"May come to its end" is `MayReach`: there is a run from the state to one in which the mutex is
given back.  This is the strongest that can be said without assumptions on the scheduler, and it is
exact, because the other case is a trap from which no run leads out.  The ranks of the stages bound
how many steps are needed from each.
-/

namespace Saasy.Control

open Transition

/-! ### Going on

Two rankings of the outgoing thread: how far it is from giving the mutex of the queue back, and how
far from its end.  Everybody who queues a message waits for the first. -/

namespace Outgoing

variable {Message : Type} {o : Outgoing Message}

/-- How many steps the outgoing thread may take before it gives the mutex of the queue back. -/
def lockRank (o : Outgoing Message) : ℕ :=
  match o.writer with
  | .woken => 2
  | .draining => 1
  | _ => 0

theorem exists_advance_of_locked (locked : o.locked = true) :
    ∃ o', o.advance = some o' ∧ o'.lockRank < o.lockRank ∧ o'.running = o.running := by
  obtain ⟨running, outgoingQueue, writer, written⟩ := o
  cases writer with
  | woken =>
      refine ⟨_, rfl, ?_, rfl⟩
      cases running <;> simp [lockRank]
  | draining =>
      cases outgoingQueue with
      | nil => exact ⟨_, rfl, Nat.zero_lt_one, rfl⟩
      | cons message rest => exact ⟨_, rfl, Nat.zero_lt_one, rfl⟩
  | _ => cases locked

/-- How many steps the outgoing thread may take before it exits, once it is stopped. -/
def exitRank (o : Outgoing Message) : ℕ :=
  match o.writer with
  | .exited => 0
  | .checking | .woken => 1
  | .waiting => 2
  | .draining => 2 + 2 * o.outgoingQueue.length
  | .writing _ => 3 + 2 * o.outgoingQueue.length

theorem exists_advance_of_stopped (stopped : o.running = false) (inside : o.writer ≠ .exited) :
    ∃ o', o.advance = some o' ∧ o'.exitRank < o.exitRank ∧ o'.running = false := by
  obtain ⟨running, outgoingQueue, writer, written⟩ := o
  obtain rfl : running = false := stopped
  cases writer with
  | checking | woken => exact ⟨_, rfl, Nat.zero_lt_one, rfl⟩
  | waiting =>
      refine ⟨_, if_neg ?_, Nat.one_lt_two, rfl⟩
      simp
  | draining =>
      cases outgoingQueue with
      | nil => exact ⟨_, rfl, Nat.one_lt_two, rfl⟩
      | cons message rest =>
          refine ⟨_, rfl, ?_, rfl⟩
          simp only [exitRank, List.length_cons]
          omega
  | writing message =>
      refine ⟨_, rfl, ?_, rfl⟩
      simp only [exitRank]
      omega
  | exited => exact absurd rfl inside

end Outgoing

namespace ControlStream

variable {E : Engine} {s : ControlStream E}

/-- Handling a request ends, when the mutex of the queue is free. -/
theorem exists_handled (sessionId : String) {ticket : Ticket E.Command}
    (handling : s.incoming = .handling ticket) (free : s.outgoing.locked = false) :
    ∃ commandQueue outgoing incoming, s.stepIncoming sessionId =
        some { s with commandQueue, outgoing, incoming } ∧
      outgoing.writer = s.outgoing.writer ∧ outgoing.running = s.outgoing.running ∧
      (incoming = .checking ∨ incoming = .removing) := by
  let after (message : Message E) : Outgoing (Message E) :=
    { s.outgoing with outgoingQueue := s.outgoing.outgoingQueue ++ [message] }
  have queued (message : Message E) : s.outgoing.queueMessage message = some (after message) := by
    rw [Outgoing.queueMessage, if_neg (by simp [free])]
  unfold stepIncoming
  rw [handling]
  dsimp only
  cases routed : (handleIncomingRequest sessionId ticket.request : Handling _ E.Result) with
  | push command => exact ⟨_, s.outgoing, .checking, rfl, rfl, rfl, .inl rfl⟩
  | respond response =>
      refine ⟨s.commandQueue, after (.response ticket response), .checking, ?_, rfl, rfl, .inl rfl⟩
      exact queueMessage_eq_some.mpr ⟨_, queued _, rfl⟩
  | close response =>
      refine ⟨s.commandQueue, after (.response ticket response), .removing, ?_, rfl, rfl, .inr rfl⟩
      exact queueMessage_eq_some.mpr ⟨_, queued _, rfl⟩

end ControlStream

namespace Removal

variable {E : Engine} {R : Removable E} {sessionId participantId : String} {s t : Removal E}
  {action : RemovalAction E}

/-! ### Without a deadlock

A chain of "it may get there" statements in the order of `Cleanup`: the command thread becomes
idle, for which its call has to be answered; the remover comes to the control stream; the two
threads of the stream end and are joined. -/

variable {session : E.Session}

theorem step_stream (action : StreamAction E) {stream : ControlStream E}
    (admitted : s.admits action = true)
    (own : s.stream.step sessionId participantId action = some stream) :
    (removal E R sessionId participantId session).step s (.stream action) =
      some { s with stream, produce := s.produceAfter R action } := by
  show s.step R sessionId participantId (.stream action) = _
  rw [Removal.step, if_pos admitted, own]
  rfl

theorem step_leaveProduce (may : s.mayLeave = true) :
    (removal E R sessionId participantId session).step s .leaveProduce =
      some { s with produce := .outside } :=
  if_pos may

/-- The mutex of the queue becomes free. -/
theorem mayReach_unlocked {goal : Removal E → Prop}
    (rest : ∀ outgoing : Outgoing (Message E), outgoing.locked = false →
      outgoing.running = s.stream.outgoing.running →
        (removal E R sessionId participantId session).MayReach goal
          { s with stream := { s.stream with outgoing } }) :
    (removal E R sessionId participantId session).MayReach goal s := by
  have free : (removal E R sessionId participantId session).MayReach
      (fun t => ∃ outgoing, outgoing.locked = false ∧
        outgoing.running = s.stream.outgoing.running ∧
          t = { s with stream := { s.stream with outgoing } }) s := by
    refine Machine.mayReach_of_rank (motive := fun t => ∃ outgoing,
      outgoing.running = s.stream.outgoing.running ∧
        t = { s with stream := { s.stream with outgoing } })
      (fun t => t.stream.outgoing.lockRank) ?_ ⟨_, rfl, rfl⟩
    rintro t ⟨outgoing, running, rfl⟩
    cases locked : outgoing.locked with
    | false => exact .inl ⟨outgoing, locked, running, rfl⟩
    | true =>
        obtain ⟨outgoing', advance, lower, same⟩ := Outgoing.exists_advance_of_locked locked
        have own : { s.stream with outgoing }.step sessionId participantId .outgoing =
            some { s.stream with outgoing := outgoing' } :=
          Option.map_eq_some_iff.mpr ⟨outgoing', advance, rfl⟩
        exact .inr ⟨_, _, step_stream _ rfl own, ⟨outgoing', same.trans running, rfl⟩, lower⟩
  refine free.trans ?_
  rintro t ⟨outgoing, free, running, rfl⟩
  exact rest outgoing free running

/-- The command thread has nothing to do, and the remover is where it was. -/
structure Idle (remover : RemoverPhase) (s : Removal E) : Prop where
  outside : s.produce = .outside
  remover_eq : s.remover = remover
  idle : s.stream.executing = none

/-- A command that is being executed comes to its end. -/
theorem mayReach_executed (rest : Program E.Op E.Session (Answer E.Result) Unit) :
    ∀ {s : Removal E} {execution : Execution E}, s.stream.executing = some execution →
      execution.rest = rest → s.produce = .outside →
        (removal E R sessionId participantId session).MayReach (Idle s.remover) s := by
  induction rest with
  | done result =>
      intro s execution executing done outside
      refine .step (step_stream .execute (by simp [admits, outside])
        (by simp [ControlStream.step, ControlStream.stepExecute, executing, done]; rfl)) ?_
      exact .here ⟨by simp [produceAfter, entersProduce, executing, done, Program.next?, outside],
        rfl, rfl⟩
  | look next ih =>
      intro s execution executing look outside
      refine .step (step_stream .execute (by simp [admits, outside])
        (by simp [ControlStream.step, ControlStream.stepExecute, executing, look]; rfl)) ?_
      exact ih s.stream.session rfl rfl
        (by simp [produceAfter, entersProduce, executing, look, Program.next?, outside])
  | perform op next ih =>
      intro s execution executing perform outside
      refine .step (step_stream .execute (by simp [admits, outside])
        (by simp [ControlStream.step, ControlStream.stepExecute, executing, perform]; rfl)) ?_
      by_cases enters : s.entersProduce R = true
      · -- `Produce` ends before it has asked for anything
        refine .step (step_leaveProduce (by simp [mayLeave, produceAfter, enters])) ?_
        exact ih rfl rfl rfl
      · exact ih rfl rfl (by simp [produceAfter, enters, outside])
  | emit answer next ih =>
      intro s execution executing emit outside
      refine mayReach_unlocked fun outgoing free _ => ?_
      refine .step (step_stream .execute (by simp [admits, outside])
        (by simp [ControlStream.step, ControlStream.stepExecute, executing, emit,
          ControlStream.queueMessage, Outgoing.queueMessage, free]; rfl)) ?_
      exact ih rfl rfl
        (by simp [produceAfter, entersProduce, executing, emit, Program.next?, outside])

/-- Outside of `Produce` the command thread becomes idle. -/
theorem mayReach_idle (outside : s.produce = .outside) :
    (removal E R sessionId participantId session).MayReach (Idle s.remover) s := by
  cases executing : s.stream.executing with
  | none => exact .here ⟨outside, rfl, executing⟩
  | some execution => exact mayReach_executed execution.rest executing rfl outside

/-- The command thread waits for a call whose request was sent, and that may be answered: it was
invoked, or its answer may still be read. -/
structure Asking (number : ℕ) (remover : RemoverPhase) (s : Removal E) : Prop where
  consistent : s.Consistent
  waiting : s.produce = .waiting number
  remover_eq : s.remover = remover
  sent : (s.stream.requests.calls[number]?).any (fun call => call.phase == .waiting) = true
  answers : s.stream.requests.Invoked number ∨ s.MayAnswer number

/-- The incoming thread has the answer. -/
def HasAnswer (number : ℕ) (s : Removal E) : Prop :=
  ∃ requestId response, s.stream.incoming = .answering requestId response ∧
    (s.stream.requests.calls[number]?).map Call.requestId = some requestId

/-- How far the incoming thread is from it, if it comes back to `Read`. -/
def answerRank (number : ℕ) (s : Removal E) : ℕ :=
  match s.stream.incoming with
  | .reading => 1
  | .checking => 2
  | .removing => 3
  | .answering requestId _ =>
      if (s.stream.requests.calls[number]?).map Call.requestId = some requestId then 0 else 3
  | .handling _ => 4
  | .stopping | .exited => 0

/-- A step of the stream that leaves the calls alone. -/
theorem Asking.next {number : ℕ} {remover : RemoverPhase} (asking : s.Asking number remover)
    {action : StreamAction E} {stream : ControlStream E} (admitted : s.admits action = true)
    (own : s.stream.step sessionId participantId action = some stream)
    (produce : s.produceAfter R action = s.produce)
    (calls : stream.requests.calls = s.stream.requests.calls)
    (may : MayAnswer { s with stream } number) :
    Asking number remover { s with stream, produce := s.produceAfter R action } where
  consistent := asking.consistent.streams admitted (ControlStream.step_moved own)
  waiting := produce.trans asking.waiting
  remover_eq := asking.remover_eq
  sent := by
    rw [calls]
    exact asking.sent
  answers := .inr may

/-- **The answer arrives**, if the orchestrator sends it: the incoming thread gets back to `Read`,
and reads it there. -/
theorem Asking.mayReach_hasAnswer {number : ℕ} {remover : RemoverPhase}
    (asking : s.Asking number remover) :
    (removal E R sessionId participantId session).MayReach
      (fun t => t.Asking number remover ∧
        (t.stream.requests.Invoked number ∨ t.HasAnswer number)) s := by
  refine Machine.mayReach_of_rank (motive := Asking number remover)
    (fun t => 3 * t.answerRank number + t.stream.outgoing.lockRank) ?_ asking
  intro s asking
  by_cases invoked : s.stream.requests.Invoked number
  · exact .inl ⟨asking, .inl invoked⟩
  have may := asking.answers.resolve_left invoked
  unfold MayAnswer at may
  cases incoming : s.stream.incoming with
  | reading =>
      obtain ⟨call, found, -⟩ := (Option.any_eq_true _ _).mp asking.sent
      have ids : (s.stream.requests.calls[number]?).map Call.requestId = some call.requestId := by
        rw [found]
        rfl
      have own (response : OrchestratorResponse) :
          s.stream.step sessionId participantId (.read (.response call.requestId response)) =
            some { s.stream with incoming := .answering call.requestId response } := by
        simp only [ControlStream.step, ControlStream.stepRead, incoming]
      refine .inr ⟨_, _, step_stream _ rfl (own (.getRouterProducerId "")),
        asking.next rfl (own _) rfl rfl (.inr ids), ?_⟩
      simp [answerRank, incoming, ids]
  | checking =>
      rw [incoming] at may
      have own : s.stream.step sessionId participantId .incoming =
          some { s.stream with incoming := .reading } := by
        simp only [ControlStream.step, ControlStream.stepIncoming, incoming, if_pos may]
      refine .inr ⟨_, _, step_stream _ rfl own, asking.next rfl own rfl rfl trivial, ?_⟩
      simp [answerRank, incoming]
  | removing =>
      rw [incoming] at may
      have own : s.stream.step sessionId participantId .incoming =
          some { s.stream with removalRequested := true, incoming := .checking } := by
        simp only [ControlStream.step, ControlStream.stepIncoming, incoming]
      refine .inr ⟨_, _, step_stream _ rfl own, asking.next rfl own rfl rfl may, ?_⟩
      simp [answerRank, incoming]
  | answering requestId response =>
      rw [incoming] at may
      by_cases ids : (s.stream.requests.calls[number]?).map Call.requestId = some requestId
      · exact .inl ⟨asking, .inr ⟨requestId, response, incoming, ids⟩⟩
      · have own : s.stream.step sessionId participantId .incoming =
            some { s.stream with
              requests := s.stream.requests.respond requestId response
              incoming := .checking } := by
          simp only [ControlStream.step, ControlStream.stepIncoming, incoming]
        have calls := (Requests.calls_respond requestId response s.stream.requests).1
        refine .inr ⟨_, _, step_stream _ rfl own,
          asking.next rfl own rfl calls (may.resolve_right ids), ?_⟩
        simp [answerRank, incoming, ids]
  | handling ticket =>
      rw [incoming] at may
      cases locked : s.stream.outgoing.locked with
      | true =>
          obtain ⟨outgoing, advance, lower, same⟩ := Outgoing.exists_advance_of_locked locked
          have own : s.stream.step sessionId participantId .outgoing =
              some { s.stream with outgoing } := by
            simp only [ControlStream.step, advance, Option.map_some]
          refine .inr ⟨_, _, step_stream _ rfl own, asking.next rfl own rfl rfl ?_, ?_⟩
          · simp only [MayAnswer, incoming]
            exact same.trans may
          · simpa [answerRank, incoming] using lower
      | false =>
          obtain ⟨commandQueue, outgoing, next, handled, writer, running, next_eq⟩ :=
            s.stream.exists_handled sessionId incoming locked
          have own : s.stream.step sessionId participantId .incoming = some _ := handled
          have lock : outgoing.lockRank = s.stream.outgoing.lockRank := by
            simp only [Outgoing.lockRank, writer]
          refine .inr ⟨_, _, step_stream _ rfl own, asking.next rfl own rfl rfl ?_, ?_⟩
          · obtain rfl | rfl := next_eq <;> exact running.trans may
          · obtain rfl | rfl := next_eq <;> simp [answerRank, incoming, lock]
  | stopping | exited =>
      rw [incoming] at may
      exact may.elim

/-- It is passed on to the callback. -/
theorem Asking.mayReach_resolved {number : ℕ} {remover : RemoverPhase}
    (asking : s.Asking number remover) :
    (removal E R sessionId participantId session).MayReach
      (fun t => t.produce = .waiting number ∧ t.remover = remover ∧ t.Resolved number) s := by
  refine asking.mayReach_hasAnswer.trans fun s ⟨asking, answered⟩ => ?_
  by_cases invoked : s.stream.requests.Invoked number
  · exact .here ⟨asking.waiting, asking.remover_eq, asking.sent, invoked⟩
  obtain ⟨requestId, response, incoming, ids⟩ := answered.resolve_left invoked
  obtain ⟨call, found, same⟩ := Option.map_eq_some_iff.mp ids
  obtain ⟨sent, hsent, phase⟩ := (Option.any_eq_true _ _).mp asking.sent
  obtain rfl : call = sent := Option.some.inj (found.symm.trans hsent)
  -- a call that was sent and not answered is pending, and under its own id
  have registered : call.phase ≠ .generated := by
    rw [eq_of_beq phase]
    decide
  have pending : s.stream.requests.Pending number := by
    by_contra lost
    exact asking.consistent.covered number ⟨⟨call, found, registered⟩, invoked, lost⟩
  obtain ⟨own, hown⟩ := pending
  obtain ⟨call', found', same', -⟩ := asking.consistent.sound.pending _ _ hown
  obtain rfl : call = call' := Option.some.inj (found.symm.trans found')
  obtain rfl : own = requestId := same'.symm.trans same
  have responds : s.stream.step sessionId participantId .incoming =
      some { s.stream with
        requests := s.stream.requests.respond own response
        incoming := .checking } := by
    simp only [ControlStream.step, ControlStream.stepIncoming, incoming]
  refine .step (step_stream _ rfl responds) (.here ⟨asking.waiting, asking.remover_eq, ?_, ?_⟩)
  · show ((s.stream.requests.respond own response).calls[number]?).any _ = true
    rw [(Requests.calls_respond own response s.stream.requests).1]
    exact asking.sent
  · show (s.stream.requests.respond own response).Invoked number
    rw [Requests.respond, hown, Requests.Invoked, List.map_append]
    exact List.mem_append_right _ (List.mem_singleton_self _)

/-- A call that was registered is sent. -/
theorem mayReach_asking_of_registered {number : ℕ} {call : Call} (consistent : s.Consistent)
    (waiting : s.produce = .waiting number)
    (found : s.stream.requests.calls[number]? = some call) (registered : call.phase = .registered)
    (answers : s.stream.requests.Invoked number ∨ s.MayAnswer number) :
    (removal E R sessionId participantId session).MayReach (Asking number s.remover) s := by
  refine mayReach_unlocked fun outgoing free running => ?_
  let queued : Outgoing (Message E) :=
    { outgoing with
      outgoingQueue := outgoing.outgoingQueue ++
        [.request (engineRequest sessionId participantId call)] }
  have own : { s.stream with outgoing }.step sessionId participantId (.send number) =
      some { s.stream with outgoing := queued, requests := s.stream.requests.sent number } := by
    simp only [ControlStream.step, ControlStream.stepSend, found, registered]
    refine ControlStream.queueMessage_eq_some.mpr ⟨queued, ?_, rfl⟩
    simp [Outgoing.queueMessage, free, queued]
  have unlocked : Consistent { s with stream := { s.stream with outgoing } } :=
    { consistent with stopped := fun late => running.trans (consistent.stopped late) }
  have admitted : s.admits (.send number) = true := by
    rw [admits, waiting]
    exact beq_self_eq_true _
  refine .step (step_stream (.send number) admitted own) (.here ?_)
  refine ⟨unlocked.streams admitted (ControlStream.step_moved own), waiting, rfl, ?_, ?_⟩
  · simp [Requests.sent, found]
  · refine answers.imp id fun may => may.of_incoming rfl running.symm.trans ?_
    exact (Requests.map_requestId_modify _ _ _ _).symm

/-- The command thread makes its call. -/
theorem mayReach_asking {number : ℕ} (consistent : s.Consistent)
    (waiting : s.produce = .waiting number)
    (answers : s.stream.requests.Invoked number ∨ s.MayAnswer number) :
    (removal E R sessionId participantId session).MayReach (Asking number s.remover) s := by
  obtain ⟨call, found⟩ : ∃ call, s.stream.requests.calls[number]? = some call :=
    ⟨_, List.getElem?_eq_getElem (consistent.asked number waiting)⟩
  cases phase : call.phase with
  | generated =>
      have own : s.stream.step sessionId participantId (.register number) =
          some { s.stream with requests := s.stream.requests.register number call } := by
        simp only [ControlStream.step, ControlStream.stepRegister, found, if_pos phase]
      have admitted : s.admits (.register number) = true := by
        rw [admits, waiting]
        exact beq_self_eq_true _
      have next := consistent.streams (R := R) admitted (ControlStream.step_moved own)
      refine .step (step_stream (.register number) admitted own) ?_
      have registered : (s.stream.requests.register number call).calls[number]? =
          some { call with phase := .registered } := by
        simp [Requests.register, found]
      refine mayReach_asking_of_registered next waiting registered rfl
        (answers.imp id fun may => ?_)
      exact may.of_incoming rfl id (Requests.map_requestId_modify _ _ _ _).symm
  | registered => exact mayReach_asking_of_registered consistent waiting found phase answers
  | waiting =>
      exact .here ⟨consistent, waiting, rfl, by simp [found, phase], answers⟩

/-- **Without a deadlock the command thread becomes idle**, by its own steps and those that bring
it the answer it waits for. -/
theorem mayReach_idle_of_consistent (consistent : s.Consistent) (free : ¬ s.Deadlocked) :
    (removal E R sessionId participantId session).MayReach (Idle s.remover) s := by
  cases produce : s.produce with
  | outside => exact mayReach_idle produce
  | inside =>
      refine .step (step_leaveProduce (by rw [mayLeave, produce])) ?_
      exact mayReach_idle rfl
  | waiting number =>
      have answers : s.stream.requests.Invoked number ∨ s.MayAnswer number := by
        by_contra neither
        obtain ⟨notInvoked, unanswered⟩ := not_or.mp neither
        exact free (deadlocked_iff.mpr ⟨number, produce, notInvoked, unanswered⟩)
      refine (mayReach_asking consistent produce answers).trans fun s asking => ?_
      refine asking.mayReach_resolved.trans ?_
      rintro t ⟨waiting, same, resolved⟩
      have leaves : t.mayLeave = true := by
        rw [mayLeave, waiting]
        exact decide_eq_true resolved
      refine .step (step_leaveProduce leaves) ((mayReach_idle rfl).mono ?_)
      rintro r ⟨outside, here, idle⟩
      exact ⟨outside, here.trans same, idle⟩

theorem step_remove (own : s.stepRemove R = some t) :
    (removal E R sessionId participantId session).step s .remove = some t :=
  own

/-- `Cleanup` goes on while the command thread is idle. -/
theorem exists_stepRemove (idle : s.stream.executing = none) (begun : 1 ≤ s.remover.rank)
    (early : s.remover.rank < 6) :
    ∃ t, s.stepRemove R = some t ∧ t.stream.executing = none ∧
      t.remover.rank = s.remover.rank + 1 := by
  obtain ⟨stream, produce, remover⟩ := s
  obtain rfl | inside := eq_or_ne remover .joiningCommands
  · refine ⟨⟨stream, produce, .joiningIncoming⟩, ?_, idle, rfl⟩
    simp only [stepRemove, show stream.executing = none from idle]
  cases remover with
  | detaching | stoppingStreams | closing | stoppingQueue => exact ⟨_, rfl, idle, rfl⟩
  | joiningCommands => exact absurd rfl inside
  | entering => exact absurd begun (Nat.not_succ_le_zero 0)
  | joiningIncoming => exact absurd early (Nat.lt_irrefl 6)
  | joiningOutgoing | removed => simp [RemoverPhase.rank] at early

/-- It comes to the control stream. -/
theorem mayReach_joiningIncoming (idle : s.stream.executing = none) (begun : 1 ≤ s.remover.rank)
    (early : s.remover.rank ≤ 6) :
    (removal E R sessionId participantId session).MayReach
      (fun t => t.remover = .joiningIncoming) s := by
  refine Machine.mayReach_of_rank (motive := fun t => t.stream.executing = none ∧
    1 ≤ t.remover.rank ∧ t.remover.rank ≤ 6) (fun t => 6 - t.remover.rank) ?_
    ⟨idle, begun, early⟩
  rintro s ⟨idle, begun, early⟩
  obtain before | here := lt_or_eq_of_le early
  · obtain ⟨t, own, still, rank⟩ := exists_stepRemove (R := R) idle begun before
    exact .inr ⟨.remove, t, step_remove own, ⟨still, by omega, by omega⟩, by omega⟩
  · exact .inl (RemoverPhase.eq_of_rank here)

/-- How far the incoming thread is from its end, once it is stopped. -/
def leaveRank (s : Removal E) : ℕ :=
  match s.stream.incoming with
  | .exited => 0
  | .stopping => 1
  | .checking | .reading => 2
  | .answering _ _ | .removing => 3
  | .handling _ => 4

/-- The stream is stopped, and the remover waits for one of its threads, which finds the flag reset
where it looks at it next. -/
structure Joining (remover : RemoverPhase) (s : Removal E) : Prop where
  stopped : s.stream.outgoing.running = false
  remover_eq : s.remover = remover

/-- The incoming thread exits: `Read` fails. -/
theorem Joining.mayReach_exited (joining : s.Joining .joiningIncoming) :
    (removal E R sessionId participantId session).MayReach
      (fun t => t.Joining .joiningIncoming ∧ t.stream.incoming = .exited) s := by
  refine Machine.mayReach_of_rank (motive := Joining .joiningIncoming)
    (fun t => 3 * t.leaveRank + t.stream.outgoing.lockRank) ?_ joining
  rintro s ⟨stopped, phase⟩
  cases incoming : s.stream.incoming with
  | exited => exact .inl ⟨⟨stopped, phase⟩, rfl⟩
  | stopping =>
      have own : s.stream.step sessionId participantId .incoming =
          some { s.stream with outgoing := s.stream.outgoing.stop, incoming := .exited } := by
        simp only [ControlStream.step, ControlStream.stepIncoming, incoming]
      refine .inr ⟨_, _, step_stream _ rfl own, ⟨rfl, phase⟩, ?_⟩
      simp [leaveRank, incoming, Outgoing.lockRank, Outgoing.stop]
  | checking =>
      have own : s.stream.step sessionId participantId .incoming =
          some { s.stream with incoming := .stopping } := by
        simp [ControlStream.step, ControlStream.stepIncoming, incoming, stopped]
      refine .inr ⟨_, _, step_stream _ rfl own, ⟨stopped, phase⟩, ?_⟩
      simp [leaveRank, incoming]
  | reading =>
      have own : s.stream.step sessionId participantId .readFails =
          some { s.stream with incoming := .stopping } := by
        simp only [ControlStream.step, ControlStream.stepRead, incoming]
      refine .inr ⟨_, _, step_stream _ rfl own, ⟨stopped, phase⟩, ?_⟩
      simp [leaveRank, incoming]
  | answering requestId response =>
      have own : s.stream.step sessionId participantId .incoming =
          some { s.stream with
            requests := s.stream.requests.respond requestId response
            incoming := .checking } := by
        simp only [ControlStream.step, ControlStream.stepIncoming, incoming]
      refine .inr ⟨_, _, step_stream _ rfl own, ⟨stopped, phase⟩, ?_⟩
      simp [leaveRank, incoming]
  | removing =>
      have own : s.stream.step sessionId participantId .incoming =
          some { s.stream with removalRequested := true, incoming := .checking } := by
        simp only [ControlStream.step, ControlStream.stepIncoming, incoming]
      refine .inr ⟨_, _, step_stream _ rfl own, ⟨stopped, phase⟩, ?_⟩
      simp [leaveRank, incoming]
  | handling ticket =>
      cases locked : s.stream.outgoing.locked with
      | true =>
          obtain ⟨outgoing, advance, lower, same⟩ := Outgoing.exists_advance_of_locked locked
          have own : s.stream.step sessionId participantId .outgoing =
              some { s.stream with outgoing } := by
            simp only [ControlStream.step, advance, Option.map_some]
          refine .inr ⟨_, _, step_stream _ rfl own, ⟨same.trans stopped, phase⟩, ?_⟩
          simpa [leaveRank, incoming] using lower
      | false =>
          obtain ⟨commandQueue, outgoing, next, handled, writer, running, next_eq⟩ :=
            s.stream.exists_handled sessionId incoming locked
          have own : s.stream.step sessionId participantId .incoming = some _ := handled
          have lock : outgoing.lockRank = s.stream.outgoing.lockRank := by
            simp only [Outgoing.lockRank, writer]
          refine .inr ⟨_, _, step_stream _ rfl own, ⟨running.trans stopped, phase⟩, ?_⟩
          obtain rfl | rfl := next_eq <;> simp [leaveRank, incoming, lock]

/-- The outgoing thread exits. -/
theorem Joining.mayReach_written (joining : s.Joining .joiningOutgoing) :
    (removal E R sessionId participantId session).MayReach
      (fun t => t.Joining .joiningOutgoing ∧ t.stream.outgoing.writer = .exited) s := by
  refine Machine.mayReach_of_rank (motive := Joining .joiningOutgoing)
    (fun t => t.stream.outgoing.exitRank) ?_ joining
  rintro s ⟨stopped, phase⟩
  by_cases exited : s.stream.outgoing.writer = .exited
  · exact .inl ⟨⟨stopped, phase⟩, exited⟩
  · obtain ⟨outgoing, advance, lower, still⟩ :=
      Outgoing.exists_advance_of_stopped stopped exited
    have own : s.stream.step sessionId participantId .outgoing =
        some { s.stream with outgoing } := by
      simp only [ControlStream.step, advance, Option.map_some]
    exact .inr ⟨_, _, step_stream _ rfl own, ⟨still, phase⟩, lower⟩

theorem Joining.mayReach_unlocked_outgoing (joining : s.Joining .joiningOutgoing) :
    (removal E R sessionId participantId session).MayReach (fun t => t.locks = false) s := by
  refine joining.mayReach_written.trans fun t ⟨⟨_, phase⟩, exited⟩ => ?_
  refine .step (step_remove (t := { t with remover := .removed }) ?_) (.here rfl)
  rw [stepRemove, phase]
  simp only [exited]

theorem Joining.mayReach_unlocked_incoming (joining : s.Joining .joiningIncoming) :
    (removal E R sessionId participantId session).MayReach (fun t => t.locks = false) s := by
  refine joining.mayReach_exited.trans fun t ⟨⟨stopped, phase⟩, exited⟩ => ?_
  refine .step (step_remove (t := { t with remover := .joiningOutgoing }) ?_)
    (Joining.mayReach_unlocked_outgoing ⟨stopped, rfl⟩)
  rw [stepRemove, phase]
  simp only [exited]

theorem locks_iff : s.locks = true ↔ 1 ≤ s.remover.rank ∧ s.remover.rank ≤ 7 := by
  unfold locks
  cases s.remover <;> decide

/-- **Without a deadlock the mutex may be given back**, by steps of the threads that the remover
waits for, one after the other. -/
theorem mayReach_of_not_deadlocked (consistent : s.Consistent) (locks : s.locks = true)
    (free : ¬ s.Deadlocked) :
    (removal E R sessionId participantId session).MayReach (fun t => t.locks = false) s := by
  have keeps (s : Removal E) (action : RemovalAction E) (t : Removal E) (consistent : s.Consistent)
      (step : (removal E R sessionId participantId session).step s action = some t) :
      t.Consistent :=
    consistent.moved (step_moved step)
  obtain ⟨begun, late⟩ := locks_iff.mp locks
  by_cases early : s.remover.rank ≤ 5
  · -- in `Cleanup`
    refine ((mayReach_idle_of_consistent consistent free).keeping keeps consistent).trans ?_
    rintro t ⟨⟨-, same, idle⟩, consistent⟩
    rw [← same] at begun early
    have joins : (removal E R sessionId participantId session).MayReach
        (fun t => t.remover = .joiningIncoming) t :=
      mayReach_joiningIncoming idle begun (early.trans (by decide))
    refine (joins.keeping keeps consistent).trans fun r ⟨phase, consistent⟩ => ?_
    exact Joining.mayReach_unlocked_incoming ⟨consistent.stopped (by rw [phase]; decide), phase⟩
  · have stopped := consistent.stopped (by omega)
    obtain incoming | outgoing : s.remover.rank = 6 ∨ s.remover.rank = 7 := by omega
    · exact Joining.mayReach_unlocked_incoming ⟨stopped, RemoverPhase.eq_of_rank incoming⟩
    · exact Joining.mayReach_unlocked_outgoing ⟨stopped, RemoverPhase.eq_of_rank outgoing⟩

/-! ### With a deadlock

The deadlock is a trap, and in it the mutex is held.  What remains is to put the two directions
together, and to see for each engine whether its commands can wait at all. -/

theorem Moved.rank_le (moved : s.Moved R sessionId participantId action t) :
    s.remover.rank ≤ t.remover.rank := by
  cases moved with
  | streams | leaves => exact le_rfl
  | removes step =>
      cases step with
      | enters phase | detaches phase | stops phase | closes phase | stopsQueue phase
      | joinsCommands phase | joinsIncoming phase | joinsOutgoing phase =>
          rw [phase]
          exact Nat.le_succ _

/-- The command thread is not joined. -/
theorem Deadlocked.rank_lt (consistent : s.Consistent) (deadlocked : s.Deadlocked) :
    s.remover.rank < 6 := by
  by_contra joined
  obtain ⟨number, waiting, -⟩ := deadlocked_iff.mp deadlocked
  have executing := consistent.producing (by simp [waiting])
  rw [consistent.joined (not_lt.mp joined)] at executing
  cases executing

/-- **With a deadlock the mutex is never given back**, whatever anybody does: the remover waits for
the command thread, and that for a future that nobody sets. -/
theorem not_mayReach_of_deadlocked (consistent : s.Consistent) (locks : s.locks = true)
    (deadlocked : s.Deadlocked) :
    ¬ (removal E R sessionId participantId session).MayReach (fun t => t.locks = false) s := by
  refine Machine.not_mayReach_of_trap
    (motive := fun t => t.Consistent ∧ t.Deadlocked ∧ 1 ≤ t.remover.rank) ?_ ?_
    ⟨consistent, deadlocked, (locks_iff.mp locks).1⟩
  · rintro s action t ⟨consistent, deadlocked, begun⟩ step
    have moved := step_moved step
    exact ⟨consistent.moved moved, deadlocked.moved consistent moved, begun.trans moved.rank_le⟩
  · rintro t ⟨consistent, deadlocked, begun⟩ unlocked
    have locked := locks_iff.mpr ⟨begun, (deadlocked.rank_lt consistent).le.trans (by decide)⟩
    rw [locked] at unlocked
    cases unlocked

/-- Only a message, or the end of the messages, takes the incoming thread out of `Read`. -/
theorem Moved.reading (moved : s.Moved R sessionId participantId action t)
    (silent : action.reads = false) (reading : s.stream.incoming = .reading) :
    t.stream.incoming = .reading := by
  cases moved with
  | streams admitted moved =>
      cases moved with
      | checks phase | pushes phase | responds phase | closes phase | answers phase
      | removes phase | leaves phase => cases reading.symm.trans phase
      | readsRequest | readsResponse | readFails => cases silent
      | _ => exact reading
  | leaves => exact reading
  | removes step => cases step <;> exact reading

/-- **A silent orchestrator** keeps the mutex locked: to give it back, the incoming thread has to
come out of `Read`. -/
theorem exists_reads (consistent : s.Consistent) (locks : s.locks = true)
    (reading : s.stream.incoming = .reading) {later : List (RemovalAction E)}
    (run : (removal E R sessionId participantId session).run s later = some t)
    (unlocked : t.locks = false) : ∃ action ∈ later, action.reads = true := by
  by_contra none
  have silent : ∀ action ∈ later, action.reads = false := fun action mem =>
    Bool.eq_false_iff.mpr fun reads => none ⟨action, mem, reads⟩
  have meets : (removal E R sessionId participantId session).Meets
      (fun _ action => action.reads = false) s later := fun taken mem =>
    silent taken.action (Machine.action_mem_of_mem_transitions _ mem)
  obtain ⟨consistent, reading, begun⟩ :=
    (removal E R sessionId participantId session).invariant_of_meets
      (motive := fun t => t.Consistent ∧ t.stream.incoming = .reading ∧ 1 ≤ t.remover.rank)
      (fun s action t before silent step =>
        have moved := step_moved step
        ⟨before.1.moved moved, moved.reading silent before.2.1,
          before.2.2.trans moved.rank_le⟩)
      ⟨consistent, reading, (locks_iff.mp locks).1⟩ run meets
  have late : 7 ≤ t.remover.rank := by
    by_contra early
    have locked := locks_iff.mpr ⟨begun, by omega⟩
    rw [locked] at unlocked
    cases unlocked
  cases reading.symm.trans (consistent.exited late)

theorem consistent_of_run {actions : List (RemovalAction E)}
    (reached : (removal E R sessionId participantId session).run
      (removal E R sessionId participantId session).init actions = some s) : s.Consistent :=
  (removal E R sessionId participantId session).invariant_of_run
    (fun _ _ _ consistent step => consistent.moved (step_moved step))
    (consistent_started session) reached

/-- Where no command calls `Produce`, the command thread is never in it. -/
theorem outside_of_run (never : ∀ op, R.produces op = false) {actions : List (RemovalAction E)}
    (reached : (removal E R sessionId participantId session).run
      (removal E R sessionId participantId session).init actions = some s) :
    s.produce = .outside := by
  refine (removal E R sessionId participantId session).invariant_of_run
    (motive := fun s => s.produce = .outside) (fun s action t outside step => ?_) rfl reached
  cases step_moved step with
  | @streams action stream admitted moved =>
      have stays : s.entersProduce R = false := by
        unfold entersProduce
        split
        · next execution executing => cases execution.rest.next? <;> simp [never]
        · rfl
      cases action with
      | execute => exact (if_neg (by simp [stays])).trans outside
      | call request => cases outside.symm.trans (eq_of_beq admitted)
      | _ => exact outside
  | leaves => rfl
  | removes step => cases step <;> exact outside

end Removal

end Saasy.Control

namespace Saasy.SpeakingEngine

open Control

/-- `transport->Close()`, and what `Cleanup` releases after it. -/
def Session.close (s : Session) : Session :=
  { s with
    transport := s.transport.map ({ · with closed := true })
    audioTrack := false
    adm := none }

/-- `StartProduction` waits in `Produce`. -/
def removable [Wire.Double.UndefinedCast] : Removable speakingEngine where
  produces op :=
    match op with
    | .produce => true
    | _ => false
  detach := id
  close := Session.close

end Saasy.SpeakingEngine

namespace Saasy.ListeningEngine

open Control

/-- No command of the listening engine waits for the orchestrator. -/
def removable [Wire.Double.UndefinedCast] : Removable listeningEngine where
  produces _ := false
  detach := Session.detachSinks
  close s := { s.closeTransport with consumers := [] }

end Saasy.ListeningEngine

namespace Saasy.Control

open Transition Wire

/-- **A session is removed, and the mutex of the table given back, exactly if** the command thread
does not wait for an answer that the incoming thread will not bring: in the speaking engine it
may, in the listening engine it never does.  In either engine, while the incoming thread is in
`Read`, it takes a message of the orchestrator, or its leave. -/
theorem removal_ends_iff [Double.UndefinedCast] (sessionId participantId : String) :
    (∀ (session : SpeakingEngine.Session)
      (actions : List (RemovalAction SpeakingEngine.speakingEngine))
      (s : Removal SpeakingEngine.speakingEngine),
      let M := removal SpeakingEngine.speakingEngine SpeakingEngine.removable sessionId
        participantId session
      M.run M.init actions = some s → s.locks = true →
        (M.MayReach (fun t => t.locks = false) s ↔ ¬ s.Deadlocked) ∧
          (s.stream.incoming = .reading → ∀ later t, M.run s later = some t → t.locks = false →
            ∃ action ∈ later, action.reads = true)) ∧
    ∀ (session : ListeningEngine.Session)
      (actions : List (RemovalAction ListeningEngine.listeningEngine))
      (s : Removal ListeningEngine.listeningEngine),
      let M := removal ListeningEngine.listeningEngine ListeningEngine.removable sessionId
        participantId session
      M.run M.init actions = some s → s.locks = true →
        M.MayReach (fun t => t.locks = false) s ∧
          (s.stream.incoming = .reading → ∀ later t, M.run s later = some t → t.locks = false →
            ∃ action ∈ later, action.reads = true) := by
  constructor
  · intro session actions s M reached locks
    have consistent := Removal.consistent_of_run reached
    refine ⟨⟨?_, ?_⟩, ?_⟩
    · intro may deadlocked
      exact Removal.not_mayReach_of_deadlocked consistent locks deadlocked may
    · exact Removal.mayReach_of_not_deadlocked consistent locks
    · intro reading later t run unlocked
      exact Removal.exists_reads consistent locks reading run unlocked
  · intro session actions s M reached locks
    have consistent := Removal.consistent_of_run reached
    have free : ¬ s.Deadlocked := by
      rw [Removal.Deadlocked, Removal.outside_of_run (fun _ => rfl) reached]
      exact id
    refine ⟨Removal.mayReach_of_not_deadlocked consistent locks free, ?_⟩
    intro reading later t run unlocked
    exact Removal.exists_reads consistent locks reading run unlocked

/-- The session is removed while the orchestrator has not answered, and the incoming thread is
not in `Read`: nobody gets the mutex any more. -/
theorem removal_ends_iff_producing :
    letI := Double.x86Cast
    let session : SpeakingEngine.Session :=
      { SpeakingEngine.Session.created with transport := some ⟨0, none, false⟩ }
    let M := removal SpeakingEngine.speakingEngine SpeakingEngine.removable "session" "participant"
      session
    ∃ actions s, M.run M.init actions = some s ∧ s.locks = true ∧
      ¬ M.MayReach (fun t => t.locks = false) s := by
  let := Double.x86Cast
  intro session M
  let request : Request (RequestBody SpeakingEngine.Command) :=
    ⟨"r", "session", "participant", "start_production", .command .startProduction⟩
  let outcome : SpeakingEngine.Outcome :=
    ⟨⟨fun _ => .ok (), .ok .null, .ok ()⟩, .ok (some "producer")⟩
  let actions : List (RemovalAction SpeakingEngine.speakingEngine) :=
    [.stream .incoming, .stream (.read (.request request)), .stream .incoming,
      .stream (.tryPop outcome), .stream .execute, .stream .execute, .stream .execute,
      .stream .execute, .stream .execute,
      .stream (.call ⟨"transport", .audio, ⟨none, [], [], [], none⟩⟩),
      .stream (.register 0), .stream (.send 0), .remove, .remove, .remove]
  have reached : M.run M.init actions = some _ := rfl
  refine ⟨actions, _, reached, rfl, ?_⟩
  refine fun may => (((removal_ends_iff "session" "participant").1 session actions _ reached
    rfl).1.mp may) ?_
  exact ⟨List.not_mem_nil, Bool.false_ne_true⟩

end Saasy.Control
