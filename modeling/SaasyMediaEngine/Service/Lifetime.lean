import SaasyMediaEngine.Service.SessionTable

/-!
# Handlers and the life of their sessions

A handler keeps a raw pointer to its session and an id to remove it by, and neither
is told when the session goes.

* **Use after removal.**  `RemoveSession` destroys the session whoever else polls it:
  the first of the handlers of a session to be cancelled pulls it from under the
  others, and so does a removal thread if a handler sleeps through the removal.  A
  handler whose call is cancelled, too, is safe as soon as it looks at its call again,
  but not if it has just looked.
* **Removing a successor.**  `RemoveSession` looks the id up when it runs: a handler or
  thread that comes late removes the session that was created under the id since.

`pollsLive_of_unwatched` and `removesOwn_of_freshName` say when neither happens: a
session is only removed once nobody is going to poll it, and an id is only used again
once nobody is going to remove it.

The conditions are about a step and the state before it.  `Unwatched` is asked of every step that
destroys a session: no handler is going to read it again, which is so for one that has not yet
looked at a cancelled call, and not for one that has looked before the cancellation.  `FreshName`
is asked of every step that creates a session: nobody is on the way to remove its id.
-/

namespace Saasy.Service

open Transition

namespace ServiceState

variable {s t : ServiceState} {action : ServiceAction}

/-! ### The removals of a step

Both laws are about removals, so they are stated of what a step removes.  A step removes one id at
most, and each removal is made on behalf of a session. -/

/-- The call of `RemoveSession` a step makes: the session it is made for, and the id. -/
def removal (s : ServiceState) (action : ServiceAction) : Option (ℕ × String) :=
  match action with
  | .handler index .leave =>
      (s.handlers[index]?).bind fun x =>
        match x.phase with
        | .leaving session => some (session, x.sessionId)
        | _ => none
  | .removal index => (s.removers[index]?).map fun r => (r.session, r.sessionId)
  | _ => none

/-- The id under which a step is going to look for a session and may create one. -/
def registers (s : ServiceState) (action : ServiceAction) : Option String :=
  match action with
  | .handler index .lookup =>
      (s.handlers[index]?).bind fun x =>
        if x.kind = .control ∧ x.phase = .entered ∧ s.sessions.find? x.sessionId = none then
          some x.sessionId
        else none
  | _ => none

/-! ### What a step does to the table and to the handlers

How a session comes into the table and out of it, and what a step leaves of the handlers.  Both
invariants use these and not the definition of a step. -/

/-- The life of a session ends in a removal. -/
theorem isLive_of_step (step : s.step action = some t) {session : ℕ}
    (live : s.sessions.isLive session = true)
    (stays : ∀ r ∈ s.removal action, s.sessions.find? r.2 ≠ some session) :
    t.sessions.isLive session = true := by
  cases action with
  | call kind sessionId participantId =>
      cases step
      exact live
  | handler index action =>
      obtain ⟨x, sessions, y, hx, moved, rfl⟩ := handler_cases step
      cases moved with
      | gets _ f | attaches => exact (s.sessions.isLive_modify _).trans live
      | creates data _ _ free => exact s.sessions.isLive_register free live
      | removes held leaving =>
          refine s.sessions.isLive_remove.mpr ⟨live, stays (held, x.sessionId) ?_⟩
          simp [removal, hx, leaving]
      | _ => exact live
  | closeSession number =>
      obtain rfl | ⟨_, f, -, rfl⟩ := closeSession_cases step
      · exact live
      · exact (s.sessions.isLive_modify f).trans live
  | removal index =>
      obtain ⟨r, hr, rfl⟩ := Option.map_eq_some_iff.mp step
      refine s.sessions.isLive_remove.mpr ⟨live, stays (r.session, r.sessionId) ?_⟩
      simp [removal, hr]

/-- A name leads somewhere new only in a step that registers it. -/
theorem find?_of_step (step : s.step action = some t) {sessionId : String} {current : ℕ}
    (found : t.sessions.find? sessionId = some current) :
    s.sessions.find? sessionId = some current ∨ s.registers action = some sessionId := by
  cases action with
  | call kind sessionId participantId =>
      cases step
      exact .inl found
  | handler index action =>
      obtain ⟨x, sessions, y, hx, moved, rfl⟩ := handler_cases step
      cases moved with
      | creates data entered control free =>
          by_cases same : sessionId = x.sessionId
          · exact .inr (by simp [registers, hx, entered, control, free, same])
          · exact .inl ((s.sessions.find?_register_of_ne same).symm.trans found)
      | removes => exact .inl (s.sessions.find?_of_remove found)
      | _ => exact .inl found
  | closeSession number =>
      obtain rfl | ⟨_, f, -, rfl⟩ := closeSession_cases step <;> exact .inl found
  | removal index =>
      obtain ⟨r, -, rfl⟩ := Option.map_eq_some_iff.mp step
      exact .inl (s.sessions.find?_of_remove found)

/-- What a handler is after a step: as before, starting, or after its own step. -/
theorem handlers_of_step (step : s.step action = some t) {z : Handler} (hz : z ∈ t.handlers) :
    z ∈ s.handlers ∨ z.held = none ∨
      ∃ x ∈ s.handlers, ∃ action, x.Moved s.sessions action t.sessions z := by
  cases action with
  | call kind sessionId participantId =>
      cases step
      rcases List.mem_append.mp hz with old | new
      · exact .inl old
      · rw [List.mem_singleton.mp new]
        refine .inr (.inl ?_)
        unfold Handler.held Handler.enter
        dsimp only
        split_ifs <;> rfl
  | handler index action =>
      obtain ⟨x, sessions, y, hx, moved, rfl⟩ := handler_cases step
      rcases List.mem_or_eq_of_mem_set hz with old | rfl
      · exact .inl old
      · exact .inr (.inr ⟨x, List.mem_of_getElem? hx, action, moved⟩)
  | closeSession number =>
      obtain rfl | ⟨_, f, -, rfl⟩ := closeSession_cases step <;> exact .inl hz
  | removal index =>
      obtain ⟨r, -, rfl⟩ := Option.map_eq_some_iff.mp step
      exact .inl hz

/-- A removal thread is there before a step, or is started for a live session. -/
theorem removers_of_step (step : s.step action = some t) {r : Remover} (hr : r ∈ t.removers) :
    r ∈ s.removers ∨ s.sessions.find? r.sessionId = some r.session ∧ s.registers action = none := by
  cases action with
  | call kind sessionId participantId =>
      cases step
      exact .inl hr
  | handler index action =>
      obtain ⟨x, sessions, y, -, -, rfl⟩ := handler_cases step
      exact .inl hr
  | closeSession number =>
      obtain rfl | ⟨sessionId, f, found, rfl⟩ := closeSession_cases step
      · exact .inl hr
      · rcases List.mem_append.mp hr with old | new
        · exact .inl old
        · rw [List.mem_singleton.mp new]
          exact .inr ⟨found, rfl⟩
  | removal index =>
      obtain ⟨r', -, rfl⟩ := Option.map_eq_some_iff.mp step
      exact .inl (List.mem_of_mem_eraseIdx hr)

/-! ### Polling

A handler keeps a pointer to its session in the loop condition, and the table owns the session.  So
the condition of the law looks at every removal, and asks whether some handler has still to look.
-/

/-- The session on which a step evaluates the loop condition of a handler. -/
def polled (s : ServiceState) (action : ServiceAction) : Option ℕ :=
  match action with
  | .handler index .check =>
      (s.handlers[index]?).bind fun x =>
        match x.phase with
        | .checking session => some session
        | _ => none
  | _ => none

/-- No handler polls a session that was erased from the table. -/
def PollsLive (taken : Taken ServiceState ServiceAction) : Prop :=
  ∀ session ∈ taken.before.polled taken.action, taken.before.sessions.isLive session = true

instance (taken : Taken ServiceState ServiceAction) : Decidable (PollsLive taken) :=
  inferInstanceAs (Decidable (∀ session ∈ taken.before.polled taken.action, _))

/-- A step that removes a session does so when no handler is going to look at it any more: each
one that is still in its loop is cancelled, and is not between its two reads. -/
def Unwatched (s : ServiceState) (action : ServiceAction) : Prop :=
  ∀ r ∈ s.removal action, ∀ session ∈ s.sessions.find? r.2, ∀ x ∈ s.handlers,
    x.watching ≠ some session

instance : Decidable (Unwatched s action) :=
  inferInstanceAs (Decidable (∀ r ∈ s.removal action, ∀ session ∈ s.sessions.find? r.2,
    ∀ x ∈ s.handlers, _))

/-- The invariant: who is going to look at a session will find it. -/
def Guarded (s : ServiceState) : Prop :=
  ∀ x ∈ s.handlers, ∀ session, x.watching = some session → s.sessions.isLive session = true

theorem Guarded.step (guarded : s.Guarded) (unwatched : Unwatched s action)
    (step : s.step action = some t) : t.Guarded := by
  -- a session somebody is going to look at survives the step
  have survives : ∀ x ∈ s.handlers, ∀ session, x.watching = some session →
      t.sessions.isLive session = true := by
    intro x hx session watching
    refine isLive_of_step step (guarded x hx session watching) fun r hr found => ?_
    exact unwatched r hr session found x hx watching
  intro z hz session watching
  obtain old | idle | ⟨x, hx, own, moved⟩ := handlers_of_step step hz
  · exact survives z old session watching
  · exact absurd (z.held_of_watching watching) (by simp [idle])
  · obtain before | found := moved.watching watching
    · exact survives x hx session before
    · exact t.sessions.isLive_of_find? found

theorem guarded_init : Guarded sessionTable.init := by
  intro x hx
  cases hx

theorem watching_of_polled {session : ℕ} (polled : s.polled action = some session) :
    ∃ x ∈ s.handlers, x.watching = some session := by
  unfold ServiceState.polled at polled
  split at polled
  · obtain ⟨x, hx, checks⟩ := Option.bind_eq_some_iff.mp polled
    refine ⟨x, List.mem_of_getElem? hx, ?_⟩
    unfold Handler.watching
    split at checks
    next phase => simpa [phase] using checks
    next => cases checks
  · cases polled

/-- **No handler polls a session that is gone, as long as no session is removed while a
handler is going to look at it.** -/
theorem pollsLive_of_unwatched (actions : List ServiceAction)
    (unwatched : sessionTable.Meets Unwatched sessionTable.init actions) :
    ∀ taken ∈ sessionTable.transitions sessionTable.init actions, PollsLive taken := by
  intro taken htaken session polled
  obtain ⟨guarded, -⟩ := sessionTable.transitions_of_meets (motive := Guarded)
    (fun _ _ _ guarded unwatched step => guarded.step unwatched step) guarded_init unwatched
    taken htaken
  obtain ⟨x, hx, watching⟩ := watching_of_polled polled
  exact guarded x hx session watching

/-- A session whose streams are cancelled together is removed unwatched. -/
theorem pollsLive_both_cancelled :
    let actions : List ServiceAction :=
      [.call .control (some "s") (some "p"), .handler 0 .lookup, .handler 0 .attach,
        .handler 0 (.ack true), .call .events (some "s") (some "p"), .handler 1 .lookup,
        .handler 1 .attach, .handler 1 (.ack true), .handler 0 .poll, .handler 0 .check,
        .handler 1 .poll, .handler 1 .check, .handler 0 .cancel, .handler 1 .cancel,
        .handler 0 .poll, .handler 0 .leave, .handler 1 .poll, .handler 1 .leave]
    (∃ s ∈ sessionTable.run sessionTable.init actions, s.sessions.size = 0) ∧
      ∀ taken ∈ sessionTable.transitions sessionTable.init actions, PollsLive taken := by
  intro actions
  refine ⟨by decide +kernel, pollsLive_of_unwatched actions ?_⟩
  show ∀ taken ∈ sessionTable.transitions sessionTable.init actions,
    Unwatched taken.before taken.action
  decide +kernel

/-- The events stream is cancelled alone: its handler removes the session, which the
control handler goes on polling. -/
theorem polls_erased_session :
    let actions : List ServiceAction :=
      [.call .control (some "s") (some "p"), .handler 0 .lookup, .handler 0 .attach,
        .handler 0 (.ack true), .call .events (some "s") (some "p"), .handler 1 .lookup,
        .handler 1 .attach, .handler 1 (.ack true), .handler 1 .cancel, .handler 1 .poll,
        .handler 1 .leave, .handler 0 .poll, .handler 0 .check]
    ∃ taken ∈ sessionTable.transitions sessionTable.init actions, ¬ PollsLive taken := by
  decide +kernel

/-- A cancellation between the two reads comes too late: the control handler was not cancelled
when it looked at its call, and looks at the session after that was removed. -/
example :
    let actions : List ServiceAction :=
      [.call .control (some "s") (some "p"), .handler 0 .lookup, .handler 0 .attach,
        .handler 0 (.ack true), .call .events (some "s") (some "p"), .handler 1 .lookup,
        .handler 1 .attach, .handler 1 (.ack true), .handler 0 .poll, .handler 0 .cancel,
        .handler 1 .cancel, .handler 1 .poll, .handler 1 .leave, .handler 0 .check]
    ∃ taken ∈ sessionTable.transitions sessionTable.init actions, ¬ PollsLive taken := by
  decide +kernel

/-! ### Removing

`RemoveSession` goes by the id.  A handler that leaves its loop late may find a session under the
id that is not the one it was made for. -/

/-- A removal takes the session it is made for out of the table, or none. -/
def RemovesOwn (taken : Taken ServiceState ServiceAction) : Prop :=
  ∀ r ∈ taken.before.removal taken.action, ∀ session ∈ taken.before.sessions.find? r.2,
    session = r.1

instance (taken : Taken ServiceState ServiceAction) : Decidable (RemovesOwn taken) :=
  inferInstanceAs (Decidable (∀ r ∈ taken.before.removal taken.action,
    ∀ session ∈ taken.before.sessions.find? r.2, _))

/-- A step that creates a session under an id does so after the last removal by that id. -/
def FreshName (s : ServiceState) (action : ServiceAction) : Prop :=
  ∀ sessionId ∈ s.registers action,
    (∀ x ∈ s.handlers, x.sessionId = sessionId → x.held = none) ∧
      ∀ r ∈ s.removers, r.sessionId ≠ sessionId

instance : Decidable (FreshName s action) :=
  inferInstanceAs (Decidable (∀ sessionId ∈ s.registers action,
    (∀ x ∈ s.handlers, _ → _) ∧ ∀ r ∈ s.removers, _))

/-- The invariant: an id leads to the session on whose behalf it is going to be removed, or
nowhere.  Whoever removes an id then removes that session, or nothing. -/
structure Own (s : ServiceState) : Prop where
  handlers : ∀ x ∈ s.handlers, ∀ session, x.held = some session →
    ∀ current ∈ s.sessions.find? x.sessionId, current = session
  removers : ∀ r ∈ s.removers, ∀ current ∈ s.sessions.find? r.sessionId, current = r.session

theorem Own.step (own : s.Own) (fresh : FreshName s action) (step : s.step action = some t) :
    t.Own := by
  -- an id somebody holds a session under is not registered in the step
  have kept : ∀ x ∈ s.handlers, ∀ session, x.held = some session →
      ∀ current ∈ t.sessions.find? x.sessionId, current = session := by
    intro x hx session held current found
    obtain before | registered := find?_of_step step found
    · exact own.handlers x hx session held current before
    · exact absurd held (by simp [(fresh _ registered).1 x hx rfl])
  constructor
  · intro z hz session held current found
    obtain old | idle | ⟨x, hx, own, moved⟩ := handlers_of_step step hz
    · exact kept z old session held current found
    · exact absurd held (by simp [idle])
    · rw [moved.sessionId_eq] at found
      obtain before | looked := moved.held held
      · exact kept x hx session before current found
      · exact Option.some.inj (found.symm.trans looked)
  · intro r hr current found
    obtain old | ⟨live, idle⟩ := removers_of_step step hr
    · obtain before | registered := find?_of_step step found
      · exact own.removers r old current before
      · exact absurd rfl ((fresh _ registered).2 r old)
    · obtain before | registered := find?_of_step step found
      · exact Option.some.inj (before.symm.trans live)
      · exact absurd registered (by simp [idle])

theorem own_init : Own sessionTable.init where
  handlers := by
    intro x hx
    cases hx
  removers := by
    intro r hr
    cases hr

/-- The removal a step makes is one that was pending. -/
theorem Own.removesOwn (own : s.Own) {r : ℕ × String} (removal : s.removal action = some r) :
    ∀ session ∈ s.sessions.find? r.2, session = r.1 := by
  unfold ServiceState.removal at removal
  split at removal
  · obtain ⟨x, hx, leaves⟩ := Option.bind_eq_some_iff.mp removal
    split at leaves
    next session phase =>
      obtain rfl := Option.some.inj leaves
      exact own.handlers x (List.mem_of_getElem? hx) session (by simp [Handler.held, phase])
    next => cases leaves
  · obtain ⟨x, hx, rfl⟩ := Option.map_eq_some_iff.mp removal
    exact own.removers x (List.mem_of_getElem? hx)
  · cases removal

/-- **A removal never takes a successor, as long as no id is used again while a removal
by that id is to come.** -/
theorem removesOwn_of_freshName (actions : List ServiceAction)
    (fresh : sessionTable.Meets FreshName sessionTable.init actions) :
    ∀ taken ∈ sessionTable.transitions sessionTable.init actions, RemovesOwn taken := by
  intro taken htaken r removal
  obtain ⟨own, -⟩ := sessionTable.transitions_of_meets (motive := Own)
    (fun _ _ _ own fresh step => own.step fresh step) own_init fresh taken htaken
  exact own.removesOwn removal

/-- An id that is used again after the removal thread and the handler are through. -/
theorem removesOwn_reused_late :
    let actions : List ServiceAction :=
      [.call .control (some "s") (some "p"), .handler 0 .lookup, .handler 0 .attach,
        .handler 0 (.ack true), .closeSession 0, .handler 0 .poll, .handler 0 .check,
        .handler 0 .leave, .removal 0, .call .control (some "s") (some "p"), .handler 1 .lookup,
        .handler 1 .attach, .handler 1 (.ack true), .handler 1 .cancel, .handler 1 .poll,
        .handler 1 .leave]
    (∃ s ∈ sessionTable.run sessionTable.init actions, s.sessions.entries.length = 2) ∧
      ∀ taken ∈ sessionTable.transitions sessionTable.init actions, RemovesOwn taken := by
  intro actions
  refine ⟨by decide +kernel, removesOwn_of_freshName actions ?_⟩
  show ∀ taken ∈ sessionTable.transitions sessionTable.init actions,
    FreshName taken.before taken.action
  decide +kernel

/-- A session is closed, and its handler leaves the loop; the removal thread comes first,
the session is created again, and the old handler removes the new one. -/
theorem removes_successor :
    let actions : List ServiceAction :=
      [.call .control (some "s") (some "p"), .handler 0 .lookup, .handler 0 .attach,
        .handler 0 (.ack true), .closeSession 0, .handler 0 .poll, .handler 0 .check, .removal 0,
        .call .control (some "s") (some "p"), .handler 1 .lookup, .handler 0 .leave]
    ∃ taken ∈ sessionTable.transitions sessionTable.init actions, ¬ RemovesOwn taken := by
  decide +kernel

end ServiceState

end Saasy.Service
