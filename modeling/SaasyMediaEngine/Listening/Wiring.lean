import Mathlib.Data.Option.Basic
import SaasyMediaEngine.Transition.Machine

/-!
# Wiring the media stream to the event stream

Each call of `Events` and of `Media` attaches its own stream to the session, looks whether
the other one is there, and if it is, registers a listener with the event stream that calls
the media stream.  `wiring` interleaves any number of such calls of one session; a call that
attaches a stream of a kind that is there already replaces it, and with an event stream go
its listeners.

Both sides register on what they see of the other, and nobody removes a listener.  So a
media stream that is replaced leaves a listener behind, and two calls that see each other's
streams register twice.  `WiresOnce` says of a step that it does neither.

A call is taken apart into the three steps at which it touches the session after it has set its own
stream: it looks for the other stream, it fetches the pointer to the media stream, and it registers
a listener that has captured this pointer.  Between any two of them other calls may run.  A media
stream is known by its number, so that a pointer to an old one can be told from a pointer to the
one that is attached; the listeners are kept only as the pointers they have captured, since what a
listener does to its media stream does not matter here.

`Wired` is the invariant.  Besides the listeners themselves it keeps track of the calls: every call
has its own stream attached, a call past its look has both, and as long as both are attached and
there is no listener some call is still on its way to register one.  The last part is where
existence comes from: once every call has returned nobody is on the way, so the listener is there.

The condition is on steps and on the state before them, and cannot be dropped:
`wiring_not_exact` gives a run for each of its two halves.
-/

namespace Saasy.ListeningEngine

open Transition

/-- Which stream a call attaches: `Events` the event stream, `Media` the media stream. -/
inductive StreamKind where
  | event
  | media
  deriving DecidableEq

/-- Where a call is.  Each of the three steps reads or changes the session, and other calls may run
between any two of them. -/
inductive WiringPhase where
  /-- It has set its stream; at `if (session->streams->Get…Stream())`. -/
  | looking
  /-- The other stream is there; at `media_stream_ptr = session->streams->GetMediaStream()`. -/
  | fetching
  /-- At `GetEventStream()->RegisterEventListener(…)`. -/
  | registering (mediaStreamPtr : Option ℕ)
  /-- After that. -/
  | done
  deriving DecidableEq

structure StreamCall where
  kind : StreamKind
  phase : WiringPhase
  deriving DecidableEq

structure Wiring where
  /-- The pointers that the listeners of the event stream have captured, while there is an
  event stream. -/
  eventListeners : Option (List (Option ℕ))
  /-- The media stream, by its number. -/
  mediaStream : Option ℕ
  /-- How many media streams were created. -/
  mediaStreams : ℕ
  calls : List StreamCall
  deriving DecidableEq

inductive WiringAction where
  /-- A call of `Events` does `SetEventStream`. -/
  | setEventStream
  /-- A call of `Media` does `SetMediaStream`. -/
  | setMediaStream
  /-- A call goes on. -/
  | goOn (call : ℕ)
  deriving DecidableEq

namespace Wiring

def unattached : Wiring := ⟨none, none, 0, []⟩

/-- The listeners of the event stream. -/
def listeners (s : Wiring) : List (Option ℕ) := s.eventListeners.getD []

/-- What a call looks for. -/
def sees (s : Wiring) : StreamKind → Bool
  | .event => s.mediaStream.isSome
  | .media => s.eventListeners.isSome

/-- A call reaches its next step. -/
def reach (i : ℕ) (call : StreamCall) (phase : WiringPhase) (s : Wiring) : Wiring :=
  { s with calls := s.calls.set i { call with phase } }

/-- The next step of a call, after its stream is set. -/
def stepCall (i : ℕ) (call : StreamCall) (s : Wiring) : Option Wiring :=
  match call.phase with
  | .looking => some (s.reach i call (if s.sees call.kind then .fetching else .done))
  | .fetching => some (s.reach i call (.registering s.mediaStream))
  | .registering mediaStreamPtr =>
      s.eventListeners.map fun listeners =>
        { s with eventListeners := some (listeners ++ [mediaStreamPtr]) }.reach i call .done
  | .done => none

/-- One step, if it is enabled: `Events` or `Media` attach a stream, anew if there is one, or a
call goes on. -/
def step (s : Wiring) : WiringAction → Option Wiring
  | .setEventStream =>
      some { s with
        eventListeners := some []
        calls := s.calls ++ [⟨.event, .looking⟩] }
  | .setMediaStream =>
      some { s with
        mediaStream := some s.mediaStreams
        mediaStreams := s.mediaStreams + 1
        calls := s.calls ++ [⟨.media, .looking⟩] }
  | .goOn i => s.calls[i]?.bind fun call => s.stepCall i call

/-- The pointer a call is about to register. -/
def pointer? (s : Wiring) (i : ℕ) : Option (Option ℕ) :=
  s.calls[i]?.bind fun call =>
    match call.phase with
    | .registering mediaStreamPtr => some mediaStreamPtr
    | _ => none

/-- A media stream is attached only while the event stream has no listener, and a listener is
registered only then and for the media stream that is attached. -/
def WiresOnce (s : Wiring) : WiringAction → Prop
  | .setEventStream => True
  | .setMediaStream => s.listeners = []
  | .goOn i => ∀ pointer ∈ s.pointer? i, s.listeners = [] ∧ pointer = s.mediaStream

instance (s : Wiring) (action : WiringAction) : Decidable (s.WiresOnce action) :=
  match action with
  | .setEventStream => .isTrue trivial
  | .setMediaStream => inferInstanceAs (Decidable (s.listeners = []))
  | .goOn i =>
      inferInstanceAs (Decidable (∀ pointer ∈ s.pointer? i,
        s.listeners = [] ∧ pointer = s.mediaStream))

/-! ### What a step can do

A call attaches its stream and goes on from there: it looks for the other stream and is done if
there is none, fetches the media stream, and registers it. -/

/-- The steps of the calls. -/
inductive Moved (s : Wiring) : WiringAction → Wiring → Prop
  | setsEventStream :
      Moved s .setEventStream
        { s with eventListeners := some [], calls := s.calls ++ [⟨.event, .looking⟩] }
  | setsMediaStream :
      Moved s .setMediaStream
        { s with
          mediaStream := some s.mediaStreams
          mediaStreams := s.mediaStreams + 1
          calls := s.calls ++ [⟨.media, .looking⟩] }
  | looks {i : ℕ} {call : StreamCall} (found : s.calls[i]? = some call)
      (looking : call.phase = .looking) :
      Moved s (.goOn i) (s.reach i call (if s.sees call.kind then .fetching else .done))
  | fetches {i : ℕ} {call : StreamCall} (found : s.calls[i]? = some call)
      (fetching : call.phase = .fetching) :
      Moved s (.goOn i) (s.reach i call (.registering s.mediaStream))
  | registers {i : ℕ} {call : StreamCall} {mediaStreamPtr : Option ℕ}
      {listeners : List (Option ℕ)} (found : s.calls[i]? = some call)
      (registering : call.phase = .registering mediaStreamPtr)
      (attached : s.eventListeners = some listeners) :
      Moved s (.goOn i)
        ({ s with eventListeners := some (listeners ++ [mediaStreamPtr]) }.reach i call .done)

variable {s t : Wiring} {action : WiringAction}

theorem step_moved (step : s.step action = some t) : s.Moved action t := by
  cases action with
  | setEventStream =>
      cases step
      exact .setsEventStream
  | setMediaStream =>
      cases step
      exact .setsMediaStream
  | goOn i =>
      obtain ⟨call, found, step⟩ := Option.bind_eq_some_iff.mp step
      unfold stepCall at step
      split at step
      case h_1 looking =>
        cases step
        exact .looks found looking
      case h_2 fetching =>
        cases step
        exact .fetches found fetching
      case h_3 mediaStreamPtr registering =>
        obtain ⟨listeners, attached, rfl⟩ := Option.map_eq_some_iff.mp step
        exact .registers found registering attached
      case h_4 => cases step

/-- A call that goes on is one of the calls, with its new phase. -/
theorem mem_calls_reach {i : ℕ} {call other : StreamCall} {phase : WiringPhase}
    (mem : other ∈ (s.reach i call phase).calls) :
    other ∈ s.calls ∨ other = { call with phase } :=
  List.mem_or_eq_of_mem_set mem

theorem mem_reach {i : ℕ} {call : StreamCall} {phase : WiringPhase}
    (found : s.calls[i]? = some call) : { call with phase } ∈ (s.reach i call phase).calls := by
  obtain ⟨bound, -⟩ := List.getElem?_eq_some_iff.mp found
  exact List.mem_set bound _

/-! ### The invariant

Either there is one listener, for the media stream that is attached, or there is none, and then
some call is not done yet if both streams are attached.  What is said of a call goes by the kind of
its stream, as the stream itself may have been replaced. -/

/-- Whether the stream that a call has set, or one that replaced it, is attached. -/
def owns (s : Wiring) : StreamKind → Bool
  | .event => s.eventListeners.isSome
  | .media => s.mediaStream.isSome

/-- The invariant: at most one listener, for the attached media stream; and while both streams are
attached and there is none, a call is still going to register one.  A call past its look for the
other stream has found it, and a stream that was attached may be replaced but does not go away. -/
structure Wired (s : Wiring) : Prop where
  listeners : s.listeners = [] ∨ s.mediaStream.isSome = true ∧ s.listeners = [s.mediaStream]
  own : ∀ call ∈ s.calls, s.owns call.kind = true
  seen : ∀ call ∈ s.calls, call.phase ≠ .looking → call.phase ≠ .done →
    s.sees call.kind = true
  pending : s.eventListeners.isSome = true → s.mediaStream.isSome = true → s.listeners = [] →
    ∃ call ∈ s.calls, call.phase ≠ .done

theorem wired_unattached : unattached.Wired where
  listeners := .inl rfl
  own _ mem := absurd mem List.not_mem_nil
  seen _ mem := absurd mem List.not_mem_nil
  pending attached := by cases attached

/-- A call goes on without registering.  It may come to an end this way only if it has not found
the other stream, and then whoever attaches that one will look for this one. -/
theorem Wired.reach (wired : s.Wired) {i : ℕ} {call : StreamCall} {phase : WiringPhase}
    (found : s.calls[i]? = some call)
    (seen : phase ≠ .looking → phase ≠ .done → s.sees call.kind = true)
    (pending : s.sees call.kind = true → phase ≠ .done) : (s.reach i call phase).Wired where
  listeners := wired.listeners
  own other mem := by
    obtain old | rfl := mem_calls_reach mem
    · exact wired.own other old
    · exact wired.own call (List.mem_of_getElem? found)
  seen other mem := by
    obtain old | rfl := mem_calls_reach mem
    · exact wired.seen other old
    · exact seen
  pending event media _ := by
    refine ⟨_, mem_reach found, pending ?_⟩
    cases kind : call.kind with
    | event => exact media
    | media => exact event

/-- A call attaches its stream, after which there are no listeners. -/
theorem Wired.attaches (wired : s.Wired) {kind : StreamKind}
    (calls : t.calls = s.calls ++ [⟨kind, .looking⟩]) (listeners : t.listeners = [])
    (owned : t.owns kind = true) (owns : ∀ kind, s.owns kind = true → t.owns kind = true)
    (sees : ∀ kind, s.sees kind = true → t.sees kind = true) : t.Wired where
  listeners := .inl listeners
  own call mem := by
    rw [calls, List.mem_append, List.mem_singleton] at mem
    obtain old | rfl := mem
    · exact owns _ (wired.own call old)
    · exact owned
  seen call mem notLooking notDone := by
    rw [calls, List.mem_append, List.mem_singleton] at mem
    obtain old | rfl := mem
    · exact sees _ (wired.seen call old notLooking notDone)
    · exact absurd rfl notLooking
  pending _ _ _ := by
    refine ⟨⟨kind, .looking⟩, ?_, nofun⟩
    rw [calls]
    exact List.mem_append_right _ List.mem_cons_self

/-- Both streams are there when a call registers. -/
theorem Wired.attached (wired : s.Wired) {i : ℕ} {call : StreamCall}
    (found : s.calls[i]? = some call) (notLooking : call.phase ≠ .looking)
    (notDone : call.phase ≠ .done) : s.mediaStream.isSome = true := by
  have mem := List.mem_of_getElem? found
  have own := wired.own call mem
  have seen := wired.seen call mem notLooking notDone
  cases kind : call.kind with
  | event => rwa [kind] at seen
  | media => rwa [kind] at own

/-- A call registers the only listener. -/
theorem Wired.registers (wired : s.Wired) {i : ℕ} {call : StreamCall}
    (found : s.calls[i]? = some call) (registering : call.phase = .registering s.mediaStream) :
    ({ s with eventListeners := some [s.mediaStream] }.reach i call .done).Wired := by
  have owns : ∀ kind, s.owns kind = true →
      ({ s with eventListeners := some [s.mediaStream] } : Wiring).owns kind = true := by
    intro kind owns
    cases kind with
    | event => rfl
    | media => exact owns
  have sees : ∀ kind, s.sees kind = true →
      ({ s with eventListeners := some [s.mediaStream] } : Wiring).sees kind = true := by
    intro kind sees
    cases kind with
    | event => exact sees
    | media => rfl
  refine ⟨.inr ⟨?_, rfl⟩, fun other mem => ?_, fun other mem notLooking notDone => ?_, nofun⟩
  · exact wired.attached found (by simp [registering]) (by simp [registering])
  · obtain old | rfl := mem_calls_reach mem
    · exact owns _ (wired.own other old)
    · exact owns _ (wired.own call (List.mem_of_getElem? found))
  · obtain old | rfl := mem_calls_reach mem
    · exact sees _ (wired.seen other old notLooking notDone)
    · exact absurd rfl notDone

/-- **What a step preserves** that wires once.  Only attaching and registering touch the listeners,
and the condition has something to say of exactly these two. -/
theorem Wired.moved (wired : s.Wired) (once : s.WiresOnce action) (moved : s.Moved action t) :
    t.Wired := by
  cases moved with
  | setsEventStream =>
      refine wired.attaches rfl rfl rfl ?_ ?_ <;> intro kind holds <;> cases kind
      exacts [rfl, holds, holds, rfl]
  | setsMediaStream =>
      refine wired.attaches rfl once rfl ?_ ?_ <;> intro kind holds <;> cases kind
      exacts [holds, rfl, rfl, holds]
  | looks found looking =>
      refine wired.reach found ?_ ?_
      · split_ifs with sees
        · exact fun _ _ => sees
        · exact fun _ done => absurd rfl done
      · intro sees
        rw [if_pos sees]
        nofun
  | fetches found fetching =>
      refine wired.reach found (fun _ _ => ?_) nofun
      exact wired.seen _ (List.mem_of_getElem? found) (by simp [fetching]) (by simp [fetching])
  | @registers i call mediaStreamPtr listeners found registering attached =>
      obtain ⟨empty, rfl⟩ := once mediaStreamPtr (by simp [pointer?, found, registering])
      obtain rfl : listeners = [] := by simpa [Wiring.listeners, attached] using empty
      exact wired.registers found registering

end Wiring

/-- The calls of `Events` and `Media` of one session, any number of each, from a session with
neither stream.  Setting a stream creates the call that goes on from there. -/
def wiring : Machine Wiring WiringAction where
  init := .unattached
  step := Wiring.step

/-- **The wiring is exact** as long as media streams are attached and listeners registered
only while the event stream has no listener: no listener is for a media stream that was
replaced, and when no call is on its way between setting its stream and registering, the
event stream has one listener, for the media stream. -/
theorem wired_of_meets (actions : List WiringAction) (s : Wiring)
    (reached : wiring.run .unattached actions = some s)
    (once : wiring.Meets Wiring.WiresOnce .unattached actions) :
    (∀ pointer ∈ s.listeners, pointer.isSome = true ∧ pointer = s.mediaStream) ∧
      ((∀ call ∈ s.calls, call.phase = .done) → s.eventListeners.isSome = true →
        s.mediaStream.isSome = true → s.listeners = [s.mediaStream]) := by
  have wired : s.Wired := wiring.invariant_of_meets
    (fun _ _ _ wired once step => wired.moved once (Wiring.step_moved step))
    Wiring.wired_unattached reached once
  refine ⟨fun pointer mem => ?_, fun settled event media => ?_⟩
  · obtain none | ⟨attached, one⟩ := wired.listeners
    · rw [none] at mem
      exact absurd mem List.not_mem_nil
    · rw [one, List.mem_singleton] at mem
      exact ⟨mem ▸ attached, mem⟩
  · refine (wired.listeners.resolve_left fun none => ?_).2
    obtain ⟨call, mem, notDone⟩ := wired.pending event media none
    exact notDone (settled call mem)

/-- Both streams attach, the event stream again after the first time: its new instance gets the
listener that the old one had. -/
theorem wired_of_meets_reconnected :
    let actions := [.setMediaStream, .goOn 0, .setEventStream, .goOn 1, .goOn 1, .goOn 1,
      .setEventStream, .goOn 2, .goOn 2, .goOn 2]
    ∃ s : Wiring, wiring.run .unattached actions = some s ∧
      wiring.Meets Wiring.WiresOnce .unattached actions ∧
      (∀ call ∈ s.calls, call.phase = .done) ∧ s.mediaStream = some 0 ∧
      s.listeners = [s.mediaStream] := by
  intro actions
  refine ⟨_, rfl, by decide, by decide, rfl, ?_⟩
  exact (wired_of_meets actions _ rfl (by decide)).2 (by decide) rfl rfl

/-- A media stream that reconnects leaves a listener behind for the one it replaces, and two
calls that attach at the same time register both. -/
theorem wiring_not_exact :
    (∃ actions s, wiring.run .unattached actions = some s ∧
      (∀ call ∈ s.calls, call.phase = .done) ∧
      s.mediaStream = some 1 ∧ s.eventListeners = some [some 0, some 1]) ∧
    ∃ actions s, wiring.run .unattached actions = some s ∧
      (∀ call ∈ s.calls, call.phase = .done) ∧
      s.mediaStream = some 0 ∧ s.eventListeners = some [some 0, some 0] :=
  ⟨⟨[.setEventStream, .goOn 0, .setMediaStream, .goOn 1, .goOn 1, .goOn 1,
      .setMediaStream, .goOn 2, .goOn 2, .goOn 2], _, rfl, by decide, rfl, rfl⟩,
    ⟨[.setEventStream, .setMediaStream, .goOn 0, .goOn 1, .goOn 0, .goOn 1, .goOn 0, .goOn 1],
      _, rfl, by decide, rfl, rfl⟩⟩

end Saasy.ListeningEngine
