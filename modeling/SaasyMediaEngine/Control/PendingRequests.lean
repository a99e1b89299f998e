import SaasyMediaEngine.Control.ControlStream
import SaasyMediaEngine.Speaking.Commands

/-!
# What becomes of the pending requests when the stream ends

Only the loop of the incoming thread invokes the callbacks in `pending_requests_`, and
nothing empties the map when the loop is left.  A callback that is registered is therefore
out of reach as soon as the loop is left, when it is registered after that, or when another
one is registered under its id (`Stuck`).  Everything else is invoked: `KeepsRequests` says
of a step that it leaves no callback behind, and a run in which every step does so is
exactly one after which every callback was invoked.

The caller of `GetRouterProducerId` waits for its callback on the command thread, which
`CommandProcessor::Stop` joins.

The three ways are one defect seen from three sides: the map is owned by whoever holds its mutex,
but the duty to empty it by nobody.  The condition of `invoked_of_exited_iff` is therefore about
steps, and only about those of the registering side and the one step that leaves the loop; that a
run in which one of them fails leaves a callback behind for ever is `exists_stuck`, so that the
condition can not be weakened.
-/

namespace Saasy.Control

open Transition Wire

variable {E : Engine}

namespace ControlStream

/-- Whether the incoming thread has left its loop. -/
def left (s : ControlStream E) : Bool :=
  match s.incoming with
  | .stopping | .exited => true
  | _ => false

/-- The steps that leave it: `Read` fails, or `running_` is found to be reset. -/
def leavesLoop (s : ControlStream E) : StreamAction E → Bool
  | .readFails => true
  | .incoming =>
      match s.incoming with
      | .checking => !s.outgoing.running
      | _ => false
  | _ => false

/-- The callback that is replaced in `pending_requests_`. -/
def replaced (s : ControlStream E) : StreamAction E → Option ℕ
  | .register number =>
      s.requests.calls[number]?.bind fun call => s.requests.pendingRequests.lookup call.requestId
  | _ => none

/-- The steps that register a callback. -/
def registers : StreamAction E → Bool
  | .register _ => true
  | _ => false

/-- The loop is left only when nothing is pending, and a callback is registered only before
that, and under an id that is free. -/
structure KeepsRequests (s : ControlStream E) (action : StreamAction E) : Prop where
  leaving : s.leavesLoop action = true → s.requests.pendingRequests.entries = []
  inside : registers action = true → s.left = false
  free : s.replaced action = none

instance (s : ControlStream E) (action : StreamAction E) : Decidable (s.KeepsRequests action) :=
  decidable_of_iff
    ((s.leavesLoop action = true → s.requests.pendingRequests.entries = []) ∧
      (registers action = true → s.left = false) ∧ s.replaced action = none)
    ⟨fun ⟨leaving, inside, free⟩ => ⟨leaving, inside, free⟩,
      fun ⟨leaving, inside, free⟩ => ⟨leaving, inside, free⟩⟩

variable {sessionId participantId : String} {s t : ControlStream E} {action : StreamAction E}
  {number : ℕ}

/-! ### What a step does to the requests

The stream touches the map of pending requests in few steps, and in these it does what
`Control.Requests` describes; all others leave it as it is. -/

theorem moved_replaced_register {call : Call} (found : s.requests.calls[number]? = some call)
    (generated : call.phase = .generated) :
    s.requests.Moved (s.replaced (.register number)) (s.requests.register number call) := by
  rw [replaced, found]
  exact .registers found generated

/-- Every step is one of the requests, or leaves them as they are. -/
theorem Moved.requests (moved : s.Moved sessionId participantId action t) :
    t.requests = s.requests ∨ s.requests.Moved (s.replaced action) t.requests := by
  cases moved with
  | @answers requestId response _ =>
      cases found : s.requests.pendingRequests.lookup requestId with
      | none =>
          refine .inl ?_
          show s.requests.respond requestId response = s.requests
          rw [Requests.respond, found]
      | some number => exact .inr (.responds response found)
  | calls request => exact .inr (.generates sessionId request)
  | registers found generated => exact .inr (moved_replaced_register found generated)
  | sends found registered _ =>
      exact .inr (.sends ⟨_, found, by simp [registered]⟩)
  | _ => exact .inl rfl

/-- A step that leaves the loop leaves the requests as they are. -/
theorem Moved.left_iff (moved : s.Moved sessionId participantId action t) :
    t.left = true ↔ s.left = true ∨ s.leavesLoop action = true := by
  cases moved with
  | checks checking =>
      cases running : s.outgoing.running <;> simp [left, leavesLoop, checking, running]
  | pushes phase _ => simp [left, leavesLoop, phase]
  | responds phase _ _ => simp [left, leavesLoop, phase]
  | closes phase _ _ => simp [left, leavesLoop, phase]
  | answers phase => simp [left, leavesLoop, phase]
  | removes phase => simp [left, leavesLoop, phase]
  | leaves phase => simp [left, leavesLoop, phase]
  | readsRequest _ phase => simp [left, leavesLoop, phase]
  | readsResponse _ _ phase => simp [left, leavesLoop, phase]
  | readFails phase => simp [left, leavesLoop, phase]
  | _ => simp [left, leavesLoop]

theorem Moved.requests_of_leavesLoop (moved : s.Moved sessionId participantId action t)
    (leaves : s.leavesLoop action = true) : t.requests = s.requests := by
  cases moved with
  | answers phase => simp [leavesLoop, phase] at leaves
  | calls _ => cases leaves
  | registers _ _ => cases leaves
  | sends _ _ _ => cases leaves
  | _ => rfl

/-- Outside the loop no callback is invoked. -/
theorem Moved.invoked_of_left (moved : s.Moved sessionId participantId action t)
    (left : s.left = true) : t.requests.invoked = s.requests.invoked := by
  cases moved with
  | answers phase => simp [ControlStream.left, phase] at left
  | _ => rfl

theorem Moved.sound (moved : s.Moved sessionId participantId action t)
    (sound : s.requests.Sound) : t.requests.Sound := by
  obtain same | step := moved.requests
  · rw [same]
    exact sound
  · exact sound.moved step

/-! ### Steps that keep all requests

The condition names the two kinds of step by which a callback can be lost: the end of the loop of
the incoming thread, and a registration that comes too late or on top of another one. -/

/-- No callback is lost, and none is pending after the loop of the incoming thread, which is the
only one that could invoke it. -/
structure Answerable (s : ControlStream E) : Prop where
  sound : s.requests.Sound
  covered : s.requests.Covered
  none_left : s.left = true → s.requests.pendingRequests.entries = []

theorem answerable_started (session : E.Session) : Answerable (started session) where
  sound := Requests.sound_empty
  covered := Requests.covered_empty
  none_left := nofun

/-- After the loop, such a step does not change `pending_requests_`. -/
theorem Moved.pendingRequests_of_left (moved : s.Moved sessionId participantId action t)
    (left : s.left = true) (keeps : s.KeepsRequests action) :
    t.requests.pendingRequests = s.requests.pendingRequests := by
  cases moved with
  | answers phase => simp [ControlStream.left, phase] at left
  | registers found generated => simp [keeps.inside rfl] at left
  | _ => rfl

theorem Answerable.moved (answerable : Answerable s) (keeps : s.KeepsRequests action)
    (moved : s.Moved sessionId participantId action t) : Answerable t := by
  refine ⟨moved.sound answerable.sound, ?_, fun left => ?_⟩
  · obtain same | step := moved.requests
    · rw [same]
      exact answerable.covered
    · rw [keeps.free] at step
      exact answerable.covered.moved step
  · obtain before | leaves := moved.left_iff.mp left
    · rw [moved.pendingRequests_of_left before keeps]
      exact answerable.none_left before
    · rw [moved.requests_of_leavesLoop leaves]
      exact keeps.leaving leaves

theorem answerable_of_run {session : E.Session} {actions : List (StreamAction E)}
    (reached : (controlStream E sessionId participantId session).run (started session) actions =
      some s)
    (keeps : (controlStream E sessionId participantId session).Meets KeepsRequests
      (started session) actions) : Answerable s :=
  (controlStream E sessionId participantId session).invariant_of_meets
    (fun _ _ _ answerable keeps step => answerable.moved keeps (step_moved step))
    (answerable_started session) reached keeps

/-! ### Steps that leave a callback behind

For the other direction.  A callback that nobody can invoke any more stays so to the end of the
run, whatever is read and registered later. -/

/-- A callback that can not be invoked any more: it was registered and not invoked, and it is not
in the map, or nobody is left to look there. -/
structure Stuck (s : ControlStream E) (number : ℕ) : Prop where
  registered : s.requests.Registered number
  notInvoked : ¬ s.requests.Invoked number
  unreachable : s.left = true ∨ ¬ s.requests.Pending number

theorem Stuck.moved (stuck : Stuck s number)
    (moved : s.Moved sessionId participantId action t) : Stuck t number := by
  obtain ⟨registered, notInvoked, left | notPending⟩ := stuck
  · refine ⟨?_, ?_, .inl (moved.left_iff.mpr (.inl left))⟩
    · obtain same | step := moved.requests
      · rw [same]
        exact registered
      · exact step.registered registered
    · rw [Requests.Invoked, moved.invoked_of_left left]
      exact notInvoked
  · have lost : t.requests.Lost number := by
      obtain same | step := moved.requests
      · rw [same]
        exact ⟨registered, notInvoked, notPending⟩
      · exact Requests.Lost.moved ⟨registered, notInvoked, notPending⟩ step
    exact ⟨lost.registered, lost.notInvoked, .inr lost.notPending⟩

/-- Leaving the loop with a request pending. -/
theorem exists_stuck_of_leavesLoop (sound : s.requests.Sound)
    (moved : s.Moved sessionId participantId action t) (leaves : s.leavesLoop action = true)
    (pending : s.requests.pendingRequests.entries ≠ []) : ∃ number, Stuck t number := by
  obtain ⟨number, pending⟩ := Requests.exists_pending pending
  have same := moved.requests_of_leavesLoop leaves
  refine ⟨number, ?_, ?_, .inl (moved.left_iff.mpr (.inr leaves))⟩
  · rw [same]
    exact sound.registered_of_pending pending
  · rw [same]
    exact fun invoked => sound.apart number invoked pending

/-- Registering after the loop. -/
theorem stuck_of_registers (sound : s.requests.Sound) {call : Call}
    (found : s.requests.calls[number]? = some call) (generated : call.phase = .generated)
    (left : s.left = true) :
    Stuck { s with requests := s.requests.register number call } number := by
  refine ⟨⟨{ call with phase := .registered }, ?_, nofun⟩, fun invoked => ?_, .inl left⟩
  · simp [Requests.register, found]
  · obtain ⟨call', found', registered⟩ := sound.invoked number invoked
    obtain rfl : call = call' := Option.some.inj (found.symm.trans found')
    exact registered generated

/-- **A step that does not keep the requests leaves a callback behind**, and whoever waits for its
future waits for ever. -/
theorem exists_stuck (sound : s.requests.Sound)
    (moved : s.Moved sessionId participantId action t) (loses : ¬ s.KeepsRequests action) :
    ∃ number, Stuck t number := by
  by_cases leaving : s.leavesLoop action = true → s.requests.pendingRequests.entries = []
  · cases replaces : s.replaced action with
    | some other =>
        have lost : t.requests.Lost other := by
          refine sound.lost_of_replaced ?_
          rw [← replaces]
          cases moved with
          | registers found generated => exact moved_replaced_register found generated
          | _ => cases replaces
        exact ⟨other, lost.registered, lost.notInvoked, .inr lost.notPending⟩
    | none =>
        have late : ¬ (registers action = true → s.left = false) :=
          fun inside => loses ⟨leaving, inside, replaces⟩
        obtain ⟨registering, left⟩ := Classical.not_imp.mp late
        cases moved with
        | registers found generated =>
            exact ⟨_, stuck_of_registers sound found generated (Bool.not_eq_false _ |>.mp left)⟩
        | _ => cases registering
  · obtain ⟨leaves, pending⟩ := Classical.not_imp.mp leaving
    exact exists_stuck_of_leavesLoop sound moved leaves pending

/-- What a run has left behind. -/
theorem exists_stuck_of_run {session : E.Session} {actions : List (StreamAction E)}
    (reached : (controlStream E sessionId participantId session).run (started session) actions =
      some s) :
    ∀ taken ∈ (controlStream E sessionId participantId session).transitions (started session)
      actions, ¬ taken.before.KeepsRequests taken.action → ∃ number, Stuck s number := by
  refine (controlStream E sessionId participantId session).behind_of_run
    (fun taken s => ¬ taken.before.KeepsRequests taken.action → ∃ number, Stuck s number)
    (motive := fun s => s.requests.Sound) ?_ ?_ ?_ Requests.sound_empty reached
  · exact fun _ _ _ sound step => (step_moved step).sound sound
  · exact fun _ _ _ sound step => exists_stuck sound (step_moved step)
  · intro taken s action t behind step loses
    obtain ⟨number, stuck⟩ := behind loses
    exact ⟨number, stuck.moved (step_moved step)⟩

end ControlStream

/-- **Every callback is invoked exactly once exactly when** the incoming thread leaves its
loop with nothing pending, and every callback is registered before that and under an id that
is free. -/
theorem invoked_of_exited_iff [Double.UndefinedCast] (sessionId participantId : String)
    (session : SpeakingEngine.Session)
    (actions : List (StreamAction SpeakingEngine.speakingEngine))
    (s : ControlStream SpeakingEngine.speakingEngine)
    (reached : (controlStream SpeakingEngine.speakingEngine sessionId participantId session).run
      (.started session) actions = some s)
    (exited : s.incoming = .exited) :
    (∀ number, s.requests.Registered number →
        (s.requests.invoked.map Prod.fst).count number = 1) ↔
      (controlStream SpeakingEngine.speakingEngine sessionId participantId session).Meets
        ControlStream.KeepsRequests (.started session) actions := by
  constructor
  · intro invoked taken mem
    by_contra loses
    obtain ⟨number, stuck⟩ := ControlStream.exists_stuck_of_run reached taken mem loses
    refine stuck.notInvoked (List.count_pos_iff.mp ?_)
    rw [invoked number stuck.registered]
    exact Nat.one_pos
  · intro keeps number registered
    have answerable := ControlStream.answerable_of_run reached keeps
    refine answerable.sound.count_eq_one answerable.covered registered ?_
    rintro ⟨requestId, pending⟩
    have mem := AList.mem_lookup_iff.mp pending
    rw [answerable.none_left (by simp [ControlStream.left, exited])] at mem
    exact absurd mem List.not_mem_nil

/-- The orchestrator answers a request and ends the stream. -/
theorem invoked_of_exited_answered :
    letI := Double.x86Cast
    ∃ actions s, (controlStream SpeakingEngine.speakingEngine "session" "participant"
        .created).run (.started .created) actions = some s ∧
      s.incoming = .exited ∧ s.outgoing.writer = .exited ∧ s.requests.invoked.map Prod.fst = [0] ∧
      ∀ number, s.requests.Registered number →
        (s.requests.invoked.map Prod.fst).count number = 1 := by
  let := Double.x86Cast
  let actions : List (StreamAction SpeakingEngine.speakingEngine) :=
    [.incoming, .call ⟨"transport", .audio, ⟨none, [], [], [], none⟩⟩, .register 0, .send 0,
      .outgoing, .outgoing, .outgoing, .outgoing, .outgoing,
      .read (.response "engine_session_0" (.getRouterProducerId "producer")), .incoming,
      .incoming, .readFails, .incoming, .outgoing, .outgoing]
  have reached : (controlStream SpeakingEngine.speakingEngine "session" "participant"
      SpeakingEngine.Session.created).run (.started SpeakingEngine.Session.created) actions =
        some _ := rfl
  refine ⟨actions, _, reached, rfl, rfl, by decide +kernel, ?_⟩
  refine (invoked_of_exited_iff _ _ _ actions _ reached rfl).mpr ?_
  decide +kernel

/-- The stream ends before the orchestrator has answered: both loops exit, and the callback
is never invoked. -/
theorem request_left_hanging :
    letI := Double.x86Cast
    ∃ actions s, (controlStream SpeakingEngine.speakingEngine "session" "participant"
        .created).run (.started .created) actions = some s ∧
      s.incoming = .exited ∧ s.outgoing.writer = .exited ∧ s.requests.invoked = [] ∧
      ¬ ∀ number, s.requests.Registered number →
        (s.requests.invoked.map Prod.fst).count number = 1 := by
  let := Double.x86Cast
  refine ⟨[.incoming, .call ⟨"transport", .audio, ⟨none, [], [], [], none⟩⟩, .register 0, .send 0,
    .outgoing, .outgoing, .outgoing, .outgoing, .outgoing,
    .readFails, .incoming, .outgoing, .outgoing], _, rfl, rfl, rfl, rfl, fun all => ?_⟩
  exact absurd (all 0 ⟨_, rfl, nofun⟩) (by decide)

end Saasy.Control
