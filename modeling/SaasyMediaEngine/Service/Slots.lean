import SaasyMediaEngine.Service.Lifetime

/-!
# The slots of the session table

A session takes one of `kMaxSessions` slots until somebody calls `RemoveSession` with its
id.  Those who are going to are the handlers that hold a session under the id, and the
removal threads.  A handler that cannot write its acknowledgement returns before it gets
there, and then the session stays: unless somebody else answers for the id, nobody will
ever remove it.

`noLeak_iff_othersAnswer` says that this is the only way to lose a slot.

`answering` lists the ids for which a removal is still to come, and `NoLeak` says that every id in
the table is on the list.  So a table that is full has somebody on the way for each of its slots,
and calls are refused only then; a slot that is lost is on nobody's list, and no later step can put
it there, short of another `Control` call under the same id.
-/

namespace Saasy.Service

open Transition

/-- A handler that holds a session goes on holding it, calls `RemoveSession`, or fails to
write its acknowledgement. -/
theorem Handler.Moved.isSome_held {x y : Handler} {sessions sessions' : Sessions}
    {action : HandlerAction} (moved : x.Moved sessions action sessions' y)
    (held : x.held.isSome = true) :
    y.held.isSome = true ∨ (action = .leave ∧ sessions' = sessions.remove x.sessionId) ∨
      action = .ack false ∧ y.held = none := by
  cases moved with
  | cancel => exact .inl held
  | lookupFails _ entered => simp [Handler.held, entered] at held
  | finds | gets | creates | attaches | acks | polls | stopsPolling | goesOn | leavesLoop =>
      exact .inl rfl
  | removes => exact .inr (.inl ⟨rfl, rfl⟩)
  | ackFails => exact .inr (.inr ⟨rfl, rfl⟩)

namespace ServiceState

variable {s t : ServiceState} {action : ServiceAction} {sessionId : String}

/-- The ids with which somebody is going to call `RemoveSession`, once for each who is. -/
def answering (s : ServiceState) : List String :=
  (s.handlers.filter (·.held.isSome)).map Handler.sessionId ++ s.removers.map Remover.sessionId

theorem mem_answering : sessionId ∈ s.answering ↔
    (∃ x ∈ s.handlers, x.held.isSome = true ∧ x.sessionId = sessionId) ∨
      ∃ r ∈ s.removers, r.sessionId = sessionId := by
  simp only [answering, List.mem_append, List.mem_map, List.mem_filter, and_assoc]

theorem mem_answering_of_handler {x : Handler} (mem : x ∈ s.handlers)
    (held : x.held.isSome = true) : x.sessionId ∈ s.answering :=
  mem_answering.mpr (.inl ⟨x, mem, held, rfl⟩)

/-- **No slot is lost**: every session in the table has somebody who is going to remove its id, and
what follows of that for the number of sessions. -/
structure NoLeak (s : ServiceState) : Prop where
  /-- Somebody is going to remove each session. -/
  answered : ∀ sessionId ∈ s.sessions.names, sessionId ∈ s.answering
  /-- No more slots are taken than there are handlers and threads that will free them. -/
  size_le : s.sessions.size ≤ s.answering.length
  /-- Once all of them have returned the table is empty. -/
  emptied : (∀ x ∈ s.handlers, ∃ status, x.phase = .returned status) → s.removers = [] →
    s.sessions.size = 0
  /-- Clients that are gone do not exhaust the limit. -/
  admits : s.answering.length < kMaxSessions →
    ∀ sessionId participantId, (getOrCreateSession s.sessions sessionId participantId).2 ≠ none

theorem NoLeak.of_answered (answered : ∀ sessionId ∈ s.sessions.names, sessionId ∈ s.answering) :
    s.NoLeak := by
  have size_le : s.sessions.size ≤ s.answering.length := by
    rw [← Registry.length_names]
    exact (List.subperm_of_subset s.sessions.nodup_names answered).length_le
  refine ⟨answered, size_le, fun returned none => ?_, fun few sessionId participantId => ?_⟩
  · have idle : s.handlers.filter (·.held.isSome) = [] := by
      refine List.filter_eq_nil_iff.mpr fun x mem => ?_
      obtain ⟨status, phase⟩ := returned x mem
      simp [Handler.held, phase]
    rw [answering, idle, none] at size_le
    exact Nat.le_zero.mp size_le
  · obtain ⟨session, f, -, get⟩ | ⟨free, full | ⟨data, create⟩⟩ :=
      Handler.getOrCreateSession_cases s.sessions sessionId participantId
    · simp [get]
    · -- the limit is not reached
      have room : ¬ kMaxSessions ≤ s.sessions.size := by omega
      simp [getOrCreateSession, free, room]
    · simp [create]

/-- A handler that cannot write its acknowledgement leaves its session, if that is still in
the table, to somebody else. -/
def OthersAnswer (s : ServiceState) (action : ServiceAction) : Prop :=
  match action with
  | .handler index (.ack false) =>
      ∀ x ∈ s.handlers[index]?, x.sessionId ∈ s.sessions.names →
        x.sessionId ∈ answering { s with handlers := s.handlers.eraseIdx index }
  | _ => True

instance : Decidable (OthersAnswer s action) := by
  unfold OthersAnswer
  split <;> infer_instance

/-- A handler that holds nothing answers for nothing. -/
theorem answering_set (s : ServiceState) (index : ℕ) {y : Handler} (idle : y.held = none) :
    answering { s with handlers := s.handlers.set index y } =
      answering { s with handlers := s.handlers.eraseIdx index } := by
  have same : (s.handlers.set index y).filter (·.held.isSome) =
      (s.handlers.eraseIdx index).filter (·.held.isSome) := by
    induction s.handlers generalizing index with
    | nil => rfl
    | cons x rest ih => cases index <;> simp [List.filter_cons, idle, ih]
  rw [answering, same, answering]

theorem mem_set_or_getElem? {α : Type} {l : List α} {x : α} (index : ℕ) (y : α) (mem : x ∈ l) :
    x ∈ l.set index y ∨ l[index]? = some x := by
  obtain ⟨place, hx⟩ := List.getElem?_of_mem mem
  obtain rfl | other := eq_or_ne index place
  · exact .inr hx
  · exact .inl (List.mem_of_getElem? ((List.getElem?_set_ne other).trans hx))

/-- A name is taken before a step that leaves it taken, or its handler has just taken it. -/
theorem mem_names_of_step (step : s.step action = some t) (taken : sessionId ∈ t.sessions.names) :
    sessionId ∈ s.sessions.names ∨ sessionId ∈ t.answering := by
  obtain ⟨current, found⟩ := t.sessions.mem_names.mp taken
  cases action with
  | handler index action =>
      obtain ⟨x, sessions, y, hx, moved, rfl⟩ := handler_cases step
      have mem : y ∈ s.handlers.set index y :=
        List.mem_set (List.getElem?_eq_some_iff.mp hx).1 y
      cases moved with
      | creates data entered control free =>
          obtain rfl | same := eq_or_ne sessionId x.sessionId
          · exact .inr (mem_answering.mpr (.inl ⟨_, mem, rfl, rfl⟩))
          · exact .inl (s.sessions.mem_names.mpr
              ⟨current, (s.sessions.find?_register_of_ne same).symm.trans found⟩)
      | removes => exact .inl (s.sessions.mem_names.mpr ⟨current, s.sessions.find?_of_remove found⟩)
      | _ => exact .inl taken
  | call kind id participantId => exact .inl (by cases step; exact taken)
  | closeSession number =>
      obtain rfl | ⟨_, f, -, rfl⟩ := closeSession_cases step <;> exact .inl taken
  | removal index =>
      obtain ⟨r, -, rfl⟩ := Option.map_eq_some_iff.mp step
      exact .inl (s.sessions.mem_names.mpr ⟨current, s.sessions.find?_of_remove found⟩)

/-- Who answers for a name that stays taken goes on to, or fails to write an acknowledgement. -/
theorem mem_answering_of_step (step : s.step action = some t)
    (written : ∀ index, action = .handler index (.ack false) →
      ∀ x ∈ s.handlers[index]?, x.sessionId ≠ sessionId)
    (answers : sessionId ∈ s.answering) (taken : sessionId ∈ t.sessions.names) :
    sessionId ∈ t.answering := by
  obtain ⟨x, mem, held, rfl⟩ | ⟨r, mem, rfl⟩ := mem_answering.mp answers
  · cases action with
    | call kind id participantId =>
        cases step
        exact mem_answering_of_handler (List.mem_append_left _ mem) held
    | handler index action =>
        obtain ⟨z, sessions, y, hz, moved, rfl⟩ := handler_cases step
        obtain other | own := mem_set_or_getElem? index y mem
        · exact mem_answering_of_handler other held
        · obtain rfl : z = x := Option.some.inj (hz.symm.trans own)
          obtain holds | ⟨-, rfl⟩ | ⟨rfl, -⟩ := moved.isSome_held held
          · rw [← moved.sessionId_eq]
            exact mem_answering_of_handler
              (List.mem_set (List.getElem?_eq_some_iff.mp hz).1 y) holds
          · obtain ⟨current, found⟩ := (s.sessions.remove z.sessionId).mem_names.mp taken
            rw [s.sessions.find?_remove_self] at found
            cases found
          · exact absurd rfl (written index rfl z hz)
    | closeSession number =>
        obtain rfl | ⟨_, f, -, rfl⟩ := closeSession_cases step <;>
          exact mem_answering_of_handler mem held
    | removal index =>
        obtain ⟨r, -, rfl⟩ := Option.map_eq_some_iff.mp step
        exact mem_answering_of_handler mem held
  · cases action with
    | call kind id participantId =>
        cases step
        exact mem_answering.mpr (.inr ⟨r, mem, rfl⟩)
    | handler index action =>
        obtain ⟨z, sessions, y, -, -, rfl⟩ := handler_cases step
        exact mem_answering.mpr (.inr ⟨r, mem, rfl⟩)
    | closeSession number =>
        obtain rfl | ⟨_, f, -, rfl⟩ := closeSession_cases step
        · exact answers
        · exact mem_answering.mpr (.inr ⟨r, List.mem_append_left _ mem, rfl⟩)
    | removal index =>
        obtain ⟨own, hown, rfl⟩ := Option.map_eq_some_iff.mp step
        obtain rfl | other := eq_or_ne r own
        · obtain ⟨current, found⟩ := (s.sessions.remove r.sessionId).mem_names.mp taken
          rw [s.sessions.find?_remove_self] at found
          cases found
        · refine mem_answering.mpr (.inr ⟨r, ?_, rfl⟩)
          obtain ⟨place, hr⟩ := List.getElem?_of_mem mem
          refine List.mem_eraseIdx_iff_getElem?.mpr ⟨place, ?_, hr⟩
          rintro rfl
          exact other (Option.some.inj (hr.symm.trans hown))

/-- **One step** loses no slot exactly if it leaves the session of a failed acknowledgement to
somebody else.  No other step takes anybody off the list without a removal. -/
theorem NoLeak.step_iff (before : s.NoLeak) (step : s.step action = some t) :
    t.NoLeak ↔ OthersAnswer s action := by
  by_cases failed : ∃ index, action = .handler index (.ack false)
  · obtain ⟨index, rfl⟩ := failed
    obtain ⟨x, sessions, y, hx, moved, rfl⟩ := handler_cases step
    cases moved with
    | ackFails session acking =>
        have same := s.answering_set index
          (rfl : Handler.held { x with phase := .returned x.kind.ackFailure } = none)
        constructor
        · intro after z hz taken
          obtain rfl : x = z := Option.some.inj (hx.symm.trans hz)
          exact same ▸ after.answered _ taken
        · intro others
          refine .of_answered fun sessionId taken => ?_
          obtain rfl | other := eq_or_ne sessionId x.sessionId
          · exact same ▸ others x hx taken
          · refine mem_answering_of_step step ?_ (before.answered sessionId taken) taken
            rintro _ ⟨⟩ z hz rfl
            exact other (congrArg Handler.sessionId (Option.some.inj (hz.symm.trans hx)))
  · have written : ∀ index, action ≠ .handler index (.ack false) := by simpa using failed
    refine iff_of_true (.of_answered fun sessionId taken => ?_) ?_
    · obtain old | new := mem_names_of_step step taken
      · exact mem_answering_of_step step (fun index isAck => absurd isAck (written index))
          (before.answered sessionId old) taken
      · exact new
    · unfold OthersAnswer
      split
      · exact absurd rfl (written _)
      · trivial

theorem noLeak_init : NoLeak sessionTable.init := .of_answered nofun

/-- **A run loses no slot exactly if every handler that cannot write its acknowledgement leaves
its session to somebody else.** -/
theorem noLeak_iff_othersAnswer (actions : List ServiceAction) :
    (∀ taken ∈ sessionTable.transitions sessionTable.init actions, taken.after.NoLeak) ↔
      sessionTable.Meets OthersAnswer sessionTable.init actions :=
  sessionTable.forall_transitions_iff (motive := NoLeak)
    (fun _ _ _ before step => before.step_iff step)
    (fun _ _ _ before others step => (before.step_iff step).mpr others) noLeak_init actions

/-- A client that is gone before its acknowledgement is written, under a number of its own. -/
def vanishing (client : ℕ) : List ServiceAction :=
  [.call .control (some (String.ofList (List.replicate client 's'))) (some "p"),
    .handler client .lookup, .handler client .attach, .handler client (.ack false)]

/-- Twenty of them, and the service is closed to everybody. -/
theorem exhausted_by_vanishing :
    ∃ s ∈ sessionTable.run sessionTable.init ((List.range kMaxSessions).flatMap vanishing),
      (∀ x ∈ s.handlers, x.phase = .returned x.kind.ackFailure) ∧ s.removers = [] ∧
        (getOrCreateSession s.sessions "new" "p").2 = none ∧ ¬ s.NoLeak := by
  have full : ∃ s ∈ sessionTable.run sessionTable.init
      ((List.range kMaxSessions).flatMap vanishing),
      ((∀ x ∈ s.handlers, x.phase = .returned x.kind.ackFailure) ∧ s.removers = []) ∧
        (getOrCreateSession s.sessions "new" "p").2 = none ∧ s.answering = [] := by
    decide +kernel
  obtain ⟨s, reached, ⟨returned, idle⟩, refused, none⟩ := full
  refine ⟨s, reached, returned, idle, refused, fun noLeak => ?_⟩
  exact noLeak.admits (none ▸ by decide) "new" "p" refused

end ServiceState

end Saasy.Service
