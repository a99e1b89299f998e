import SaasyMediaEngine.Transition.Program

/-!
# Members of a session that can be null

The constructor of a session can return early, and `Cleanup` releases members again: a
pointer to an audio object of the session is null in a session that is not, or no longer,
complete.  `deref` is `->` on such a pointer.

A null dereference is an error value that names the member, `Except SessionMember`: an operation
that ends in one has crashed, and `Service.HalfBuilt` says which ones do.
-/

namespace Saasy.Control

open Transition

/-- The members of the sessions of both engines that own an audio object, and are null if the
constructor could not create it. -/
inductive SessionMember where
  | adm
  | audioQueue
  | audioTrack
  | audioTrackSink
  | peerConnectionFactory
  deriving DecidableEq, Repr

/-- `member->`: what it points to, or a crash. -/
def deref {α : Type} (member : SessionMember) (pointer : Option α) : Except SessionMember α :=
  match pointer with
  | some value => .ok value
  | none => .error member

@[simp] theorem deref_some {α : Type} (member : SessionMember) (value : α) :
    deref member (some value) = .ok value := rfl

@[simp] theorem deref_none {α : Type} (member : SessionMember) :
    deref member (none : Option α) = .error member := rfl

end Saasy.Control
