import SaasyMediaEngine.Control.PendingRequests

/-!
# Responses find the requests they answer

A request id is the session's and the value of a counter, so that the ids of one stream are
distinct until the counter has gone round (`Numbered`).  No callback is then replaced in
`pending_requests_`, and what the map holds is exactly what was issued and not answered
(`Matches`).  `AnswersOwn` is what a step owes the callbacks: it invokes one only with a
response that carries the id of its request, and any other response does nothing.

The counter has 64 bits, and an id is made of the session's id and its value.  So "distinct" is a
fact about runs of at most 2^64 calls, and the bound is in the statement.  Nothing keeps the
orchestrator from answering twice, late, or with an id that was never issued; such a response finds
no callback and is dropped, and that it changes nothing else is part of `AnswersOwn`.
-/

namespace Saasy.Control

open Transition Wire

/-! ### The ids

They are made of the counter, which is 64 bits wide; that and nothing else bounds the number of
calls for which they are distinct. -/

/-- The ids of a session are those of its counter. -/
theorem generateRequestId_inj {sessionId : String} {c d : UInt64}
    (same : generateRequestId sessionId c = generateRequestId sessionId d) : c = d := by
  have printed : toString c.toNat = toString d.toNat := (String.append_right_inj _).mp same
  rw [Nat.toString_eq_ofList_toDigits, Nat.toString_eq_ofList_toDigits,
    String.ofList_inj] at printed
  have numbers := congrArg (Nat.ofDigitChars 10 · 0) printed
  simp only [Nat.ofDigitChars_ten_toDigits] at numbers
  exact UInt64.toNat_inj.mp numbers

namespace Requests

variable {r r' : Requests} {number : ℕ} {sessionId : String}

/-- Each call has the id that the counter gave it, so two calls have one id only if they are a
multiple of 2^64 calls apart. -/
structure Numbered (sessionId : String) (r : Requests) : Prop where
  counter : r.requestCounter = UInt64.ofNat r.calls.length
  requestId : ∀ number call, r.calls[number]? = some call →
    call.requestId = generateRequestId sessionId (UInt64.ofNat number)

theorem numbered_empty (sessionId : String) : Numbered sessionId empty where
  counter := rfl
  requestId _ _ found := by simp [empty] at found

theorem Numbered.generate (numbered : Numbered sessionId r) (request : GetRouterProducerIdRequest) :
    Numbered sessionId (r.generate sessionId request) where
  counter := by
    simp [Requests.generate, numbered.counter, UInt64.ofNat_add]
  requestId number call found := by
    obtain old | new := lt_or_ge number r.calls.length
    · exact numbered.requestId number call ((List.getElem?_append_left old).symm.trans found)
    · have last := (List.getElem?_append_right new).symm.trans found
      rw [List.getElem?_singleton] at last
      split_ifs at last with zero
      cases last
      obtain rfl : number = r.calls.length := by omega
      rw [numbered.counter]

/-- Setting the phase of a call keeps its id. -/
theorem Numbered.modify (numbered : Numbered sessionId r) (number : ℕ) (phase : CallPhase)
    (same : r'.requestCounter = r.requestCounter)
    (calls : r'.calls = r.calls.modify number ({ · with phase })) : Numbered sessionId r' where
  counter := by rw [same, numbered.counter, calls, List.length_modify]
  requestId other call found := by
    rw [calls, List.getElem?_modify, Option.map_eq_map, Option.map_eq_some_iff] at found
    obtain ⟨before, found, rfl⟩ := found
    have issued := numbered.requestId other before found
    split_ifs
    · exact issued
    · exact issued

/-- Two calls of a stream have the same id only if the counter has gone round. -/
theorem Numbered.eq_of_requestId (numbered : Numbered sessionId r) (few : r.calls.length ≤ 2 ^ 64)
    {i j : ℕ} {first second : Call} (hi : r.calls[i]? = some first) (hj : r.calls[j]? = some second)
    (same : first.requestId = second.requestId) : i = j := by
  have ilt := (List.getElem?_eq_some_iff.mp hi).1
  have jlt := (List.getElem?_eq_some_iff.mp hj).1
  rw [numbered.requestId i first hi, numbered.requestId j second hj] at same
  have words := congrArg UInt64.toNat (generateRequestId_inj same)
  rwa [UInt64.toNat_ofNat', UInt64.toNat_ofNat', Nat.mod_eq_of_lt (by omega),
    Nat.mod_eq_of_lt (by omega)] at words

/-! ### Exactly what is not answered -/

/-- `pending_requests_` holds the callbacks that were registered and not invoked, each under the
id of its own request, and no callback was invoked twice. -/
structure Matches (r : Requests) : Prop where
  distinct : (r.calls.map Call.requestId).Nodup
  once : (r.invoked.map Prod.fst).Nodup
  pending : ∀ requestId number, r.pendingRequests.lookup requestId = some number ↔
    (∃ call, r.calls[number]? = some call ∧ call.requestId = requestId ∧
      call.phase ≠ .generated) ∧ ¬ r.Invoked number

/-- The ids were given by the counter, and no callback was lost while it has not gone round.  After
that an id may be given again and take the place of a callback that is pending. -/
structure Kept (sessionId : String) (r : Requests) : Prop where
  sound : r.Sound
  numbered : Numbered sessionId r
  covered : r.calls.length ≤ 2 ^ 64 → r.Covered

theorem kept_empty (sessionId : String) : Kept sessionId empty where
  sound := sound_empty
  numbered := numbered_empty sessionId
  covered _ := covered_empty

theorem Kept.matches (kept : Kept sessionId r) (few : r.calls.length ≤ 2 ^ 64) : r.Matches where
  distinct := by
    refine List.nodup_iff_injective_getElem.mpr fun i j same => Fin.ext ?_
    simp only [List.getElem_map] at same
    exact kept.numbered.eq_of_requestId few (List.getElem?_eq_getElem _)
      (List.getElem?_eq_getElem _) same
  once := kept.sound.once
  pending requestId number := by
    constructor
    · intro found
      exact ⟨kept.sound.pending requestId number found,
        fun invoked => kept.sound.apart number invoked ⟨requestId, found⟩⟩
    · rintro ⟨⟨call, hcall, rfl, phase⟩, notInvoked⟩
      have pending : r.Pending number := by
        by_contra notPending
        exact kept.covered few number ⟨⟨call, hcall, phase⟩, notInvoked, notPending⟩
      obtain ⟨requestId, found⟩ := pending
      obtain ⟨call', hcall', same, -⟩ := kept.sound.pending requestId number found
      obtain rfl : call = call' := Option.some.inj (hcall.symm.trans hcall')
      exact same ▸ found

/-- A fresh id is free in the map. -/
theorem Kept.lookup_eq_none (kept : Kept sessionId r) (few : r.calls.length ≤ 2 ^ 64) {call : Call}
    (found : r.calls[number]? = some call) (generated : call.phase = .generated) :
    r.pendingRequests.lookup call.requestId = none := by
  cases taken : r.pendingRequests.lookup call.requestId with
  | none => rfl
  | some other =>
      obtain ⟨call', found', same, registered⟩ := kept.sound.pending _ _ taken
      obtain rfl := kept.numbered.eq_of_requestId few found found' same.symm
      obtain rfl : call = call' := Option.some.inj (found.symm.trans found')
      exact absurd generated registered

theorem calls_respond (requestId : String) (response : OrchestratorResponse) (r : Requests) :
    (r.respond requestId response).calls = r.calls ∧
      (r.respond requestId response).requestCounter = r.requestCounter := by
  unfold respond
  split <;> exact ⟨rfl, rfl⟩

theorem Moved.length_le {replaced : Option ℕ} (moved : r.Moved replaced r') :
    r.calls.length ≤ r'.calls.length := by
  cases moved with
  | generates sessionId request => simp [generate]
  | registers found generated => simp [register]
  | sends registered => simp [sent]
  | responds response found => rw [(calls_respond _ response r).1]

end Requests

namespace ControlStream

variable {E : Engine} {sessionId participantId : String} {s t : ControlStream E}
  {action : StreamAction E}

theorem Moved.numbered (moved : s.Moved sessionId participantId action t)
    (numbered : s.requests.Numbered sessionId) : t.requests.Numbered sessionId := by
  cases moved with
  | @answers requestId response _ =>
      obtain ⟨calls, counter⟩ := Requests.calls_respond requestId response s.requests
      refine ⟨?_, ?_⟩
      · rw [calls, counter]
        exact numbered.counter
      · rw [calls]
        exact numbered.requestId
  | calls request => exact numbered.generate request
  | @registers number call found generated => exact numbered.modify number .registered rfl rfl
  | @sends number call outgoing found registered queued =>
      exact numbered.modify number .waiting rfl rfl
  | _ => exact numbered

/-- **One step** keeps the ids, and loses no callback, whoever takes it. -/
theorem Moved.kept (moved : s.Moved sessionId participantId action t)
    (kept : s.requests.Kept sessionId) : t.requests.Kept sessionId where
  sound := moved.sound kept.sound
  numbered := moved.numbered kept.numbered
  covered := by
    intro few
    obtain same | step := moved.requests
    · rw [same] at few ⊢
      exact kept.covered few
    · have before := step.length_le.trans few
      have free : s.replaced action = none := by
        cases moved with
        | registers found generated =>
            rw [replaced, found]
            exact kept.lookup_eq_none before found generated
        | _ => rfl
      rw [free] at step
      exact (kept.covered before).moved step

theorem kept_of_run {session : E.Session} {actions : List (StreamAction E)}
    (reached : (controlStream E sessionId participantId session).run (started session) actions =
      some s) : s.requests.Kept sessionId :=
  (controlStream E sessionId participantId session).invariant_of_run
    (motive := fun s => s.requests.Kept sessionId)
    (fun _ _ _ kept step => (step_moved step).kept kept) (Requests.kept_empty sessionId) reached

/-- **What a step owes the callbacks**: it invokes one with a response to its own request or
none at all, and a response nobody waits for changes nothing. -/
structure AnswersOwn (taken : Taken (ControlStream E) (StreamAction E)) : Prop where
  own : taken.after.requests.invoked = taken.before.requests.invoked ∨
    ∃ requestId response number call,
      taken.before.incoming = .answering requestId response ∧
      taken.before.requests.calls[number]? = some call ∧ call.requestId = requestId ∧
      call.phase ≠ .generated ∧ ¬ taken.before.requests.Invoked number ∧
      taken.after.requests.invoked =
        taken.before.requests.invoked ++ [(number, response.result)]
  unknown : ∀ requestId response, taken.action = .incoming →
    taken.before.incoming = .answering requestId response →
    (∀ number call, taken.before.requests.calls[number]? = some call →
      call.requestId = requestId → call.phase ≠ .generated →
        taken.before.requests.Invoked number) →
    taken.after = { taken.before with incoming := .checking }

theorem Moved.answersOwn (moved : s.Moved sessionId participantId action t)
    (sound : s.requests.Sound) : AnswersOwn ⟨s, action, t⟩ := by
  cases moved with
  | @answers requestId response phase =>
      cases found : s.requests.pendingRequests.lookup requestId with
      | none =>
          have same : s.requests.respond requestId response = s.requests := by
            rw [Requests.respond, found]
          refine ⟨.inl ?_, fun _ _ _ _ _ => ?_⟩
          · exact congrArg Requests.invoked same
          · show { s with requests := s.requests.respond requestId response, incoming := _ } = _
            rw [same]
      | some number =>
          obtain ⟨call, hcall, own, registered⟩ := sound.pending requestId number found
          have notInvoked : ¬ s.requests.Invoked number :=
            fun invoked => sound.apart number invoked ⟨requestId, found⟩
          refine ⟨.inr ⟨requestId, response, number, call, phase, hcall, own, registered,
            notInvoked, ?_⟩, fun requestId' response' _ phase' answered => ?_⟩
          · show (s.requests.respond requestId response).invoked = _
            rw [Requests.respond, found]
          · -- the callback that is pending is not one that was invoked
            obtain ⟨rfl, rfl⟩ := IncomingPhase.answering.inj (phase.symm.trans phase')
            exact absurd (answered number call hcall own registered) notInvoked
  | checks phase => exact ⟨.inl rfl, fun _ _ _ phase' => by simp [phase] at phase'⟩
  | pushes phase => exact ⟨.inl rfl, fun _ _ _ phase' => by simp [phase] at phase'⟩
  | responds phase => exact ⟨.inl rfl, fun _ _ _ phase' => by simp [phase] at phase'⟩
  | closes phase => exact ⟨.inl rfl, fun _ _ _ phase' => by simp [phase] at phase'⟩
  | removes phase => exact ⟨.inl rfl, fun _ _ _ phase' => by simp [phase] at phase'⟩
  | leaves phase => exact ⟨.inl rfl, fun _ _ _ phase' => by simp [phase] at phase'⟩
  | _ => exact ⟨.inl rfl, fun _ _ isIncoming => by cases isIncoming⟩

end ControlStream

/-- **Responses are matched to their requests**: over any run of at most 2^64 calls the map
holds exactly the requests that are not answered, and no step answers one with the response
to another. -/
theorem matches_of_run [Double.UndefinedCast] (sessionId participantId : String)
    (session : SpeakingEngine.Session)
    (actions : List (StreamAction SpeakingEngine.speakingEngine))
    (s : ControlStream SpeakingEngine.speakingEngine)
    (reached : (controlStream SpeakingEngine.speakingEngine sessionId participantId session).run
      (.started session) actions = some s)
    (few : s.requests.calls.length ≤ 2 ^ 64) :
    s.requests.Matches ∧
      ∀ taken ∈ (controlStream SpeakingEngine.speakingEngine sessionId participantId
        session).transitions (.started session) actions, ControlStream.AnswersOwn taken := by
  refine ⟨(ControlStream.kept_of_run reached).matches few, fun taken mem => ?_⟩
  obtain ⟨sound, step⟩ :=
    (controlStream SpeakingEngine.speakingEngine sessionId participantId
      session).transitions_of_invariant (motive := fun s => s.requests.Sound)
      (fun _ _ _ sound step => (ControlStream.step_moved step).sound sound)
      Requests.sound_empty taken mem
  exact (ControlStream.step_moved step).answersOwn sound

/-- Two calls, answered in the other order, one of them twice, and a response that nobody has
asked for. -/
theorem matches_of_run_crossed :
    letI := Double.x86Cast
    ∃ actions s, (controlStream SpeakingEngine.speakingEngine "session" "participant"
        .created).run (.started .created) actions = some s ∧
      s.requests.invoked.map Prod.fst = [1, 0] ∧ s.requests.Matches := by
  let := Double.x86Cast
  let request : GetRouterProducerIdRequest := ⟨"transport", .audio, ⟨none, [], [], [], none⟩⟩
  let answer (requestId : String) : List (StreamAction SpeakingEngine.speakingEngine) :=
    [.incoming, .read (.response requestId (.getRouterProducerId "producer")), .incoming]
  let actions : List (StreamAction SpeakingEngine.speakingEngine) :=
    [.call request, .call request, .register 1, .register 0] ++ answer "engine_session_1" ++
      answer "engine_session_1" ++ answer "unsolicited" ++ answer "engine_session_0"
  have reached : (controlStream SpeakingEngine.speakingEngine "session" "participant"
      SpeakingEngine.Session.created).run (.started SpeakingEngine.Session.created) actions =
        some _ := rfl
  exact ⟨actions, _, reached, by decide +kernel,
    (matches_of_run _ _ _ actions _ reached (by decide +kernel)).1⟩

end Saasy.Control
