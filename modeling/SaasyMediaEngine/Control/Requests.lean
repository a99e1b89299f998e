import Mathlib.Data.List.AList
import SaasyMediaEngine.Wire.RtpParameters

/-!
# Requests of the engine

The speaking engine asks the orchestrator for the id of a producer: `GetRouterProducerId`
issues a request id, registers a callback under it in `pending_requests_` and queues the
request; a response with that id invokes the callback and takes it out of the map.

Any number of calls may be under way.  They are numbered, and a callback is the number of
its call; invoking it resolves the future that `OnProduce` returned, on which the caller
waits.

The steps are those that the mutex of the map makes atomic: issuing an id, registering, sending,
and invoking.  `Sound` is kept by every step, whatever the ids are.  `Covered`, that no callback is
lost, is kept by every step that replaces none; registering under an id that is in use overwrites
the callback that was there, and the future of that call gets no value.
-/

namespace Saasy.Control

open Wire

structure GetRouterProducerIdRequest where
  transportId : String
  kind : MediaKind
  rtpParameters : RtpParameters
  deriving DecidableEq

/-- The body of a response of the orchestrator: the id that was asked for, an error, or something
else. -/
inductive OrchestratorResponse where
  | getRouterProducerId (producerId : String)
  | error (code message : String)
  | other
  deriving DecidableEq

/-- What the registered callback makes of a response. -/
def OrchestratorResponse.result : OrchestratorResponse → Except String String
  | getRouterProducerId producerId => .ok producerId
  | error code message => .error ("Orchestrator error: " ++ code ++ " - " ++ message)
  | other => .error "Invalid response type"

/-- Where a call of `GetRouterProducerId` is.  Between any two of these the other threads of the
stream may run. -/
inductive CallPhase where
  /-- It has its request id. -/
  | generated
  /-- Its callback was registered. -/
  | registered
  /-- Its request was queued; the caller waits for the future. -/
  | waiting
  deriving DecidableEq

structure Call where
  requestId : String
  request : GetRouterProducerIdRequest
  phase : CallPhase
  deriving DecidableEq

structure Requests where
  requestCounter : UInt64
  calls : List Call
  pendingRequests : AList fun _ : String => ℕ
  /-- The callbacks that were invoked, and what with. -/
  invoked : List (ℕ × Except String String)

/-- `GenerateRequestId`. -/
def generateRequestId (sessionId : String) (requestCounter : UInt64) : String :=
  "engine_" ++ sessionId ++ "_" ++ toString requestCounter.toNat

namespace Requests

def empty : Requests := ⟨0, [], ∅, []⟩

/-- The start of a call. -/
def generate (sessionId : String) (request : GetRouterProducerIdRequest) (r : Requests) :
    Requests :=
  { r with
    requestCounter := r.requestCounter + 1
    calls := r.calls ++ [⟨generateRequestId sessionId r.requestCounter, request, .generated⟩] }

/-- A call registers its callback; a callback that is already there under the id is
replaced. -/
def register (number : ℕ) (call : Call) (r : Requests) : Requests :=
  { r with
    calls := r.calls.modify number ({ · with phase := .registered })
    pendingRequests := r.pendingRequests.insert call.requestId number }

/-- The request of a call was queued. -/
def sent (number : ℕ) (r : Requests) : Requests :=
  { r with calls := r.calls.modify number ({ · with phase := .waiting }) }

/-- A response arrives: the callback under its id is taken out of the map and invoked.  With no
callback there, nothing happens. -/
def respond (requestId : String) (response : OrchestratorResponse) (r : Requests) : Requests :=
  match r.pendingRequests.lookup requestId with
  | some number =>
      { r with
        pendingRequests := r.pendingRequests.erase requestId
        invoked := r.invoked ++ [(number, response.result)] }
  | none => r

/-- Whether the callback of a call was registered, now or before. -/
def Registered (r : Requests) (number : ℕ) : Prop :=
  ∃ call, r.calls[number]? = some call ∧ call.phase ≠ .generated

/-- Whether the callback of a call was invoked. -/
def Invoked (r : Requests) (number : ℕ) : Prop := number ∈ r.invoked.map Prod.fst

/-- Whether the callback of a call is in `pending_requests_`. -/
def Pending (r : Requests) (number : ℕ) : Prop :=
  ∃ requestId, r.pendingRequests.lookup requestId = some number

theorem exists_pending {r : Requests} (nonempty : r.pendingRequests.entries ≠ []) :
    ∃ number, r.Pending number := by
  cases entries : r.pendingRequests.entries with
  | nil => exact absurd entries nonempty
  | cons entry rest =>
      refine ⟨entry.2, entry.1, AList.mem_lookup_iff.mpr ?_⟩
      rw [entries]
      exact List.mem_cons_self

/-- The steps of the requests, with the callback that is replaced in `pending_requests_`, if
there is one. -/
inductive Moved (r : Requests) : Option ℕ → Requests → Prop
  | generates (sessionId : String) (request : GetRouterProducerIdRequest) :
      Moved r none (r.generate sessionId request)
  | registers {number : ℕ} {call : Call} (found : r.calls[number]? = some call)
      (generated : call.phase = .generated) :
      Moved r (r.pendingRequests.lookup call.requestId) (r.register number call)
  | sends {number : ℕ} (registered : r.Registered number) : Moved r none (r.sent number)
  | responds {requestId : String} {number : ℕ} (response : OrchestratorResponse)
      (found : r.pendingRequests.lookup requestId = some number) :
      Moved r none (r.respond requestId response)

variable {r r' : Requests} {number : ℕ} {replaced : Option ℕ}

/-- Calls keep their ids, and what was registered stays so. -/
theorem Moved.calls (moved : r.Moved replaced r') {call : Call}
    (found : r.calls[number]? = some call) :
    ∃ call', r'.calls[number]? = some call' ∧ call'.requestId = call.requestId ∧
      (call.phase ≠ .generated → call'.phase ≠ .generated) := by
  -- a call whose phase is set to another one
  have modified : ∀ (other : ℕ) (phase : CallPhase), phase ≠ .generated →
      ∃ call', (r.calls.modify other ({ · with phase }))[number]? = some call' ∧
        call'.requestId = call.requestId ∧
        (call.phase ≠ .generated → call'.phase ≠ .generated) := by
    intro other phase later
    rw [List.getElem?_modify, found]
    refine ⟨_, rfl, ?_, ?_⟩
    · split_ifs <;> rfl
    · split_ifs
      · exact fun _ => later
      · exact fun registered => registered
  cases moved with
  | generates sessionId request =>
      obtain ⟨bound, -⟩ := List.getElem?_eq_some_iff.mp found
      exact ⟨call, (List.getElem?_append_left bound).trans found, rfl, fun registered => registered⟩
  | @registers other _ _ _ => exact modified other .registered (by decide)
  | @sends other _ => exact modified other .waiting (by decide)
  | responds response hfound =>
      refine ⟨call, ?_, rfl, fun registered => registered⟩
      rw [respond, hfound]
      exact found

theorem Moved.registered (moved : r.Moved replaced r') (registered : r.Registered number) :
    r'.Registered number := by
  obtain ⟨call, found, phase⟩ := registered
  obtain ⟨call', found', -, later⟩ := moved.calls found
  exact ⟨call', found', later phase⟩

/-- What is pending after a step was pending before, or was just registered. -/
theorem Moved.lookup (moved : r.Moved replaced r') {requestId : String}
    (pending : r'.pendingRequests.lookup requestId = some number) :
    r.pendingRequests.lookup requestId = some number ∨
      ¬ r.Registered number ∧ ∃ call, r'.calls[number]? = some call ∧
        call.requestId = requestId ∧ call.phase ≠ .generated := by
  cases moved with
  | generates sessionId request => exact .inl pending
  | @registers number' call found generated =>
      by_cases same : requestId = call.requestId
      · subst same
        obtain rfl : number' = number :=
          Option.some.inj ((AList.lookup_insert r.pendingRequests).symm.trans pending)
        refine .inr ⟨?_, { call with phase := .registered }, ?_, rfl, by simp⟩
        · rintro ⟨call', found', registered⟩
          obtain rfl : call = call' := Option.some.inj (found.symm.trans found')
          exact registered generated
        · simp [register, found]
      · exact .inl ((AList.lookup_insert_ne same).symm.trans pending)
  | sends registered => exact .inl pending
  | @responds requestId' other response hfound =>
      rw [respond, hfound] at pending
      by_cases same : requestId = requestId'
      · subst same
        exact absurd ((AList.lookup_erase _ _).symm.trans pending) (Option.some_ne_none _).symm
      · exact .inl ((AList.lookup_erase_ne same).symm.trans pending)

/-- A callback that is invoked in a step was pending. -/
theorem Moved.invoked (moved : r.Moved replaced r') (invoked : r'.Invoked number) :
    r.Invoked number ∨ r.Pending number := by
  cases moved with
  | @responds requestId other response found =>
      rw [Invoked, respond, found] at invoked
      rw [List.map_append, List.mem_append] at invoked
      obtain before | now := invoked
      · exact .inl before
      · rw [List.map_singleton, List.mem_singleton] at now
        exact .inr ⟨requestId, now ▸ found⟩
  | _ => exact .inl invoked

/-! ### What always holds

A callback is found under the id of its own call, as registering is the only way into the map.  It
is invoked by taking it out of the map, so it is not invoked twice. -/

/-- A callback is pending under the id of its own call, invoked at most once, and not
pending any more once it was invoked. -/
structure Sound (r : Requests) : Prop where
  pending : ∀ requestId number, r.pendingRequests.lookup requestId = some number →
    ∃ call, r.calls[number]? = some call ∧ call.requestId = requestId ∧ call.phase ≠ .generated
  invoked : ∀ number, r.Invoked number → r.Registered number
  apart : ∀ number, r.Invoked number → ¬ r.Pending number
  once : (r.invoked.map Prod.fst).Nodup

theorem sound_empty : empty.Sound where
  pending _ _ found := by simp [empty] at found
  invoked _ invoked := by simp [Invoked, empty] at invoked
  apart _ invoked := by simp [Invoked, empty] at invoked
  once := .nil

theorem Sound.registered_of_pending (sound : r.Sound) (pending : r.Pending number) :
    r.Registered number := by
  obtain ⟨requestId, found⟩ := pending
  obtain ⟨call, hcall, -, phase⟩ := sound.pending requestId number found
  exact ⟨call, hcall, phase⟩

/-- A callback that is invoked is not pending under another id. -/
theorem Sound.not_pending_respond (sound : r.Sound) {requestId : String}
    (response : OrchestratorResponse) (found : r.pendingRequests.lookup requestId = some number) :
    ¬ (r.respond requestId response).Pending number := by
  rintro ⟨other, pending⟩
  rw [respond, found] at pending
  by_cases same : other = requestId
  · subst same
    exact absurd ((AList.lookup_erase _ _).symm.trans pending) (Option.some_ne_none _).symm
  · have before := (AList.lookup_erase_ne same).symm.trans pending
    obtain ⟨call, hcall, hid, -⟩ := sound.pending _ _ found
    obtain ⟨call', hcall', hid', -⟩ := sound.pending _ _ before
    obtain rfl : call = call' := Option.some.inj (hcall.symm.trans hcall')
    exact same (hid'.symm.trans hid)

theorem Sound.moved (sound : r.Sound) (moved : r.Moved replaced r') : r'.Sound := by
  -- what was not invoked before the step is not both after it
  have apart : ∀ number, r.Invoked number → ¬ r'.Pending number := by
    rintro number invoked ⟨requestId, pending⟩
    obtain before | ⟨fresh, -⟩ := moved.lookup pending
    · exact sound.apart number invoked ⟨requestId, before⟩
    · exact fresh (sound.invoked number invoked)
  refine ⟨?_, ?_, ?_, ?_⟩
  · intro requestId number pending
    obtain before | ⟨-, call⟩ := moved.lookup pending
    · obtain ⟨call, found, same, phase⟩ := sound.pending requestId number before
      obtain ⟨call', found', same', later⟩ := moved.calls found
      exact ⟨call', found', same'.trans same, later phase⟩
    · exact call
  · intro number invoked
    obtain before | pending := moved.invoked invoked
    · exact moved.registered (sound.invoked number before)
    · exact moved.registered (sound.registered_of_pending pending)
  · intro number invoked
    cases moved with
    | @responds requestId other response found =>
        rw [Invoked, respond, found, List.map_append, List.mem_append] at invoked
        obtain before | now := invoked
        · exact apart number before
        · rw [List.map_singleton, List.mem_singleton] at now
          exact now ▸ sound.not_pending_respond response found
    | _ => exact apart number invoked
  · cases moved with
    | @responds requestId other response found =>
        have fresh : other ∉ r.invoked.map Prod.fst := fun invoked =>
          sound.apart other invoked ⟨requestId, found⟩
        rw [respond, found, List.map_append, List.map_singleton, ← List.concat_eq_append,
          List.nodup_concat]
        exact ⟨fresh, sound.once⟩
    | _ => exact sound.once

/-! ### Callbacks that are lost

The one way to lose a callback while responses are still read is to register another one under its
id.  What is not lost is pending, or was invoked. -/

/-- The callback of a call was registered and is out of reach: it is not in the map, and was
not invoked. -/
structure Lost (r : Requests) (number : ℕ) : Prop where
  registered : r.Registered number
  notInvoked : ¬ r.Invoked number
  notPending : ¬ r.Pending number

theorem Lost.moved (lost : r.Lost number) (moved : r.Moved replaced r') : r'.Lost number := by
  refine ⟨moved.registered lost.registered, fun invoked => ?_, ?_⟩
  · obtain before | pending := moved.invoked invoked
    · exact lost.notInvoked before
    · exact lost.notPending pending
  · rintro ⟨requestId, pending⟩
    obtain before | ⟨fresh, -⟩ := moved.lookup pending
    · exact lost.notPending ⟨requestId, before⟩
    · exact fresh lost.registered

/-- A callback that is replaced is lost. -/
theorem Sound.lost_of_replaced (sound : r.Sound) (moved : r.Moved (some number) r') :
    r'.Lost number := by
  generalize hreplaced : some number = replaced at moved
  cases moved with
  | @registers other call found generated =>
      have taken : r.pendingRequests.lookup call.requestId = some number := hreplaced.symm
      obtain ⟨call', found', same, registered⟩ := sound.pending _ _ taken
      have pending : r.Pending number := ⟨call.requestId, taken⟩
      refine ⟨(Moved.registers found generated).registered ⟨call', found', registered⟩,
        fun invoked => sound.apart number invoked pending, ?_⟩
      rintro ⟨requestId, now⟩
      by_cases equal : requestId = call.requestId
      · subst equal
        obtain rfl : other = number :=
          Option.some.inj ((AList.lookup_insert r.pendingRequests).symm.trans now)
        obtain rfl : call = call' := Option.some.inj (found.symm.trans found')
        exact registered generated
      · have before := (AList.lookup_insert_ne equal).symm.trans now
        obtain ⟨call'', found'', same', -⟩ := sound.pending _ _ before
        obtain rfl : call' = call'' := Option.some.inj (found'.symm.trans found'')
        exact equal (same'.symm.trans same)
  | _ => cases hreplaced

/-- No callback is lost. -/
def Covered (r : Requests) : Prop := ∀ number, ¬ r.Lost number

theorem covered_empty : empty.Covered := by
  rintro number ⟨⟨call, found, -⟩, -, -⟩
  simp [empty] at found

/-- A callback that is registered in a step is pending after it. -/
theorem Moved.pending_of_registers (moved : r.Moved replaced r')
    (registered : r'.Registered number) : r.Registered number ∨ r'.Pending number := by
  obtain ⟨call, found, phase⟩ := registered
  cases moved with
  | generates sessionId request =>
      obtain old | new := lt_or_ge number r.calls.length
      · exact .inl ⟨call, (List.getElem?_append_left old).symm.trans found, phase⟩
      · have last := (List.getElem?_append_right new).symm.trans found
        rw [List.getElem?_singleton] at last
        split_ifs at last
        cases last
        exact absurd rfl phase
  | @registers other call' hfound generated =>
      by_cases same : other = number
      · subst same
        exact .inr ⟨call'.requestId, AList.lookup_insert r.pendingRequests⟩
      · refine .inl ⟨call, ?_, phase⟩
        simpa [register, List.getElem?_modify, same] using found
  | @sends other registered =>
      by_cases same : other = number
      · exact .inl (same ▸ registered)
      · refine .inl ⟨call, ?_, phase⟩
        simpa [sent, List.getElem?_modify, same] using found
  | responds response hfound =>
      rw [respond, hfound] at found
      exact .inl ⟨call, found, phase⟩

/-- What was pending and was not replaced is pending, or was invoked. -/
theorem Moved.pending_or_invoked (moved : r.Moved none r') (pending : r.Pending number) :
    r'.Pending number ∨ r'.Invoked number := by
  obtain ⟨requestId, found⟩ := pending
  generalize hreplaced : none = replaced at moved
  cases moved with
  | generates sessionId request => exact .inl ⟨requestId, found⟩
  | @registers other call _ _ =>
      have free : r.pendingRequests.lookup call.requestId = none := hreplaced.symm
      have other : requestId ≠ call.requestId := by
        rintro rfl
        exact absurd (free.symm.trans found) (Option.some_ne_none _).symm
      exact .inl ⟨requestId, (AList.lookup_insert_ne other).trans found⟩
  | sends registered => exact .inl ⟨requestId, found⟩
  | @responds answered other response hfound =>
      by_cases same : requestId = answered
      · subst same
        obtain rfl : other = number := Option.some.inj (hfound.symm.trans found)
        refine .inr ?_
        rw [Invoked, respond, hfound, List.map_append]
        exact List.mem_append_right _ (List.mem_singleton_self _)
      · refine .inl ⟨requestId, ?_⟩
        rw [respond, hfound]
        exact (AList.lookup_erase_ne same).trans found

theorem Moved.invoked_mono (moved : r.Moved replaced r') (invoked : r.Invoked number) :
    r'.Invoked number := by
  cases moved with
  | responds response found =>
      rw [Invoked, respond, found, List.map_append]
      exact List.mem_append_left _ invoked
  | _ => exact invoked

/-- **Nothing is lost in a step that replaces no callback.** A callback leaves the map only by
being invoked, or by being replaced. -/
theorem Covered.moved (covered : r.Covered) (moved : r.Moved none r') : r'.Covered := by
  rintro number ⟨registered, notInvoked, notPending⟩
  have before := (moved.pending_of_registers registered).resolve_right notPending
  refine covered number ⟨before, fun invoked => notInvoked (moved.invoked_mono invoked), ?_⟩
  intro pending
  exact (moved.pending_or_invoked pending).elim notPending notInvoked

/-- **A callback that is not lost, and not pending, was invoked exactly once.** -/
theorem Sound.count_eq_one (sound : r.Sound) (covered : r.Covered)
    (registered : r.Registered number) (notPending : ¬ r.Pending number) :
    (r.invoked.map Prod.fst).count number = 1 := by
  have invoked : r.Invoked number := by
    by_contra notInvoked
    exact covered number ⟨registered, notInvoked, notPending⟩
  exact List.count_eq_one_of_mem sound.once invoked

end Requests

end Saasy.Control
