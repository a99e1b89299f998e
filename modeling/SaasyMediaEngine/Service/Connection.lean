import SaasyMediaEngine.Transition.Machine

/-!
# A handler that connects a stream

`Control`, `Events` and `Media` each construct their stream, start its threads, attach it to
the session, and only then write the acknowledgement.  The threads write to the same gRPC
stream, some of them under locks that the handler does not take.

`StreamThreads` is what such a handler needs to know of the threads: which of their steps call
`Write` and which writes are in progress.  `connection` interleaves them with the handler.  The
threads never get in the way of each other; whether the acknowledgement comes first and by
itself is decided by `AfterAck`: that no thread calls `Write` before the handler's has returned.

The window between attaching and acknowledging is there in all three handlers of both engines, so
it is proved once, for any threads that keep the one fact that their own writes do not overlap.
`Kept.step_iff` is the exactness for a step: with the threads quiet so far, a step is orderly
exactly if it is not a call of `Write` that comes before the handler's has returned.
-/

namespace Saasy.Service

open Transition

/-- Where a handler is with its stream: it constructs it, starts its threads, attaches it to the
session, and only then writes the acknowledgement. -/
inductive ConnectPhase where
  | constructed
  | started
  | attached
  /-- In `Write`. -/
  | acking
  | acked (written : Bool)
  deriving DecidableEq

/-- Whether the acknowledgement was handed over. -/
def ConnectPhase.isAcked : ConnectPhase → Bool
  | .acked _ => true
  | _ => false

/-- The threads of a stream, and those that use it once it is attached, with what is asked of any
such machine: by itself it never has two writes in progress. -/
structure StreamThreads where
  State : Type
  Action : Type
  Message : Type
  machine : Machine State Action
  /-- Whether a step can be taken while the handler is there. -/
  allowed : ConnectPhase → Action → Bool
  /-- The messages whose `Write` is in progress. -/
  inWrite : State → List Message
  /-- The message with which a step calls `Write`. -/
  begins : State → Action → Option Message
  idle : inWrite machine.init = []
  inWrite_of_begins : ∀ {s a t m}, machine.step s a = some t → begins s a = some m →
    inWrite s = [] ∧ inWrite t = [m]
  inWrite_of_goesOn : ∀ {s a t}, machine.step s a = some t → begins s a = none →
    (inWrite t).Sublist (inWrite s)

structure Connection (T : StreamThreads) where
  handler : ConnectPhase
  threads : T.State
  /-- What was handed to `Write`, in order: the acknowledgement is `none`. -/
  begun : List (Option T.Message)

inductive ConnectionAction (T : StreamThreads) where
  | start
  | attach
  /-- The handler calls `Write`. -/
  | beginAck
  /-- It returns. -/
  | endAck (written : Bool)
  | thread (action : T.Action)

namespace Connection

variable {T : StreamThreads}

def step (s : Connection T) : ConnectionAction T → Option (Connection T)
  | .start => if s.handler = .constructed then some { s with handler := .started } else none
  | .attach => if s.handler = .started then some { s with handler := .attached } else none
  | .beginAck =>
      if s.handler = .attached then
        some { s with handler := .acking, begun := s.begun ++ [none] }
      else none
  | .endAck written =>
      if s.handler = .acking then some { s with handler := .acked written } else none
  | .thread action =>
      if T.allowed s.handler action then
        (T.machine.step s.threads action).map fun threads =>
          { s with threads, begun := s.begun ++ (T.begins s.threads action).toList.map some }
      else none

/-- The writes in progress. -/
def inWrite (s : Connection T) : List (Option T.Message) :=
  (if s.handler = .acking then [none] else []) ++ (T.inWrite s.threads).map some

/-- **The acknowledgement comes first, and writes never overlap**: gRPC allows one `Write` at a
time on a stream, and the orchestrator waits for the acknowledgement. -/
structure Orderly (s : Connection T) : Prop where
  first : ∀ message ∈ s.begun.head?, message = none
  exclusive : s.inWrite.length ≤ 1

/-- No thread calls `Write` before the handler's has returned. -/
def AfterAck (s : Connection T) : ConnectionAction T → Prop
  | .thread action => ∀ message ∈ T.begins s.threads action, s.handler.isAcked = true
  | _ => True

end Connection

/-- A handler and the threads of the stream it constructs, interleaved from the moment the stream
is started. -/
def connection (T : StreamThreads) : Machine (Connection T) (ConnectionAction T) where
  init := ⟨.constructed, T.machine.init, []⟩
  step := Connection.step

namespace Connection

variable {T : StreamThreads} {s t : Connection T} {action : ConnectionAction T}

/-- The invariant: the threads keep still until the handler is done, so that its write is the first
one and has no other beside it. -/
structure Kept (s : Connection T) : Prop where
  exclusive : (T.inWrite s.threads).length ≤ 1
  still : s.handler.isAcked = false → T.inWrite s.threads = []
  begun : s.begun.head? = if s.handler = .acking ∨ s.handler.isAcked then some none else none

theorem kept_init : Kept (connection T).init where
  exclusive := by
    show (T.inWrite T.machine.init).length ≤ 1
    rw [T.idle]
    exact Nat.zero_le _
  still _ := T.idle
  begun := rfl

theorem Kept.orderly (kept : s.Kept) : s.Orderly := by
  refine ⟨fun message mem => ?_, ?_⟩
  · rw [kept.begun] at mem
    split_ifs at mem
    · exact (Option.some.inj mem).symm
    · cases mem
  · rw [inWrite, List.length_append, List.length_map]
    split_ifs with acking
    · simp [kept.still (congrArg ConnectPhase.isAcked acking)]
    · simpa using kept.exclusive

theorem thread_cases {action : T.Action} (step : s.step (.thread action) = some t) :
    ∃ threads, T.machine.step s.threads action = some threads ∧
      { s with threads, begun := s.begun ++ (T.begins s.threads action).toList.map some } = t :=
  Option.map_eq_some_iff.mp (Option.ite_none_right_eq_some.mp step).2

theorem Kept.step (kept : s.Kept) (after : AfterAck s action) (step : s.step action = some t) :
    t.Kept := by
  cases action with
  | start | attach =>
      obtain ⟨phase, ⟨⟩⟩ := Option.ite_none_right_eq_some.mp step
      have still := kept.still (congrArg ConnectPhase.isAcked phase)
      refine ⟨kept.exclusive, fun _ => still, kept.begun.trans ?_⟩
      simp [phase, ConnectPhase.isAcked]
  | beginAck =>
      obtain ⟨phase, ⟨⟩⟩ := Option.ite_none_right_eq_some.mp step
      have still := kept.still (congrArg ConnectPhase.isAcked phase)
      have none : s.begun = [] := by
        simpa [phase, ConnectPhase.isAcked] using kept.begun
      exact ⟨kept.exclusive, fun _ => still, by simp [none]⟩
  | endAck written =>
      obtain ⟨phase, ⟨⟩⟩ := Option.ite_none_right_eq_some.mp step
      refine ⟨kept.exclusive, nofun, kept.begun.trans ?_⟩
      simp [phase, ConnectPhase.isAcked]
  | thread action =>
      obtain ⟨threads, moved, rfl⟩ := thread_cases step
      cases begins : T.begins s.threads action with
      | none =>
          have sublist := T.inWrite_of_goesOn moved begins
          refine ⟨Nat.le_trans sublist.length_le kept.exclusive, fun waits => ?_, ?_⟩
          · exact List.sublist_nil.mp (kept.still waits ▸ sublist)
          · simpa [begins] using kept.begun
      | some message =>
          have acked := after message begins
          obtain ⟨-, alone⟩ := T.inWrite_of_begins moved begins
          refine ⟨by simp [alone], fun waits => absurd acked (by simp [waits]), ?_⟩
          have head : s.begun.head? = some none := by simpa [acked] using kept.begun
          simp [head, acked]

/-- A `Write` that comes too early comes first, or overlaps. -/
theorem Kept.not_orderly (kept : s.Kept) (early : ¬ AfterAck s action)
    (step : s.step action = some t) : ¬ t.Orderly := by
  cases action with
  | thread action =>
      obtain ⟨threads, moved, rfl⟩ := thread_cases step
      simp only [AfterAck, not_forall] at early
      obtain ⟨message, begins, waits⟩ := early
      obtain ⟨-, alone⟩ := T.inWrite_of_begins moved begins
      intro orderly
      by_cases acking : s.handler = .acking
      · have overlap := orderly.exclusive
        simp [inWrite, acking, alone] at overlap
      · have none : s.begun = [] := by simpa [acking, waits] using kept.begun
        have first := orderly.first (some message) (by simp [none, Option.mem_def.mp begins])
        cases first
  | _ => exact absurd trivial early

/-- **One step** is orderly exactly if no thread calls `Write` too early, that is, before the
acknowledgement or beside it. -/
theorem Kept.step_iff (kept : s.Kept) (step : s.step action = some t) :
    t.Orderly ↔ AfterAck s action := by
  refine ⟨fun orderly => ?_, fun after => (kept.step after step).orderly⟩
  by_contra early
  exact kept.not_orderly early step orderly

/-- A run is orderly exactly if no thread calls `Write` before the handler's has returned. -/
theorem orderly_iff_afterAck (T : StreamThreads) (actions : List (ConnectionAction T)) :
    (∀ taken ∈ (connection T).transitions (connection T).init actions, taken.after.Orderly) ↔
      (connection T).Meets AfterAck (connection T).init actions :=
  (connection T).forall_transitions_iff (motive := Kept) (fun _ _ _ kept step => kept.step_iff step)
    (fun _ _ _ kept after step => kept.step after step) kept_init actions

end Connection

end Saasy.Service
