import Mathlib.Data.List.Infix
import Mathlib.Order.Basic

/-!
# The outgoing side of a control stream

`outgoing_queue_`, `running_` and `ProcessOutgoingMessages`, which are the same in both
engines.  The outgoing thread takes all of the queue each time it wakes up, and holds
`queue_mutex_` except while it waits and while it writes.

It tests `running_` twice, at the head of its loop and after the wait, and neither time
looks at the queue.  So what becomes of the messages that are queued when the stream is
stopped depends on where the thread is: inside its inner loop it writes them all, and
anywhere else it writes none (`Drains`).

`Advanced` are the steps of that thread and `Moved` those of everybody on these three members, and
both engines' control streams, as well as the condition variable in `Service.Wakeups`, are built on
them.  `Promised` and `Abandoned` are the two invariants: once the stream is stopped, one of them
holds of the messages, and no later step takes it back.
-/

namespace Saasy.Control

universe u

/-- Where `ProcessOutgoingMessages` is.  The lock of the queue is held from `woken` to `draining`,
and given back for each `Write`. -/
inductive WriterPhase (Message : Type u) where
  /-- At `while (running_)`. -/
  | checking
  /-- In `queue_cv_.wait`, which has released the lock. -/
  | waiting
  /-- After the wait, at `if (!running_)`. -/
  | woken
  /-- At `while (!outgoing_queue_.empty())`. -/
  | draining
  /-- In `stream_->Write`, the lock released. -/
  | writing (message : Message)
  | exited
  deriving DecidableEq

structure Outgoing (Message : Type u) where
  running : Bool
  outgoingQueue : List Message
  writer : WriterPhase Message
  /-- What was written to the stream. -/
  written : List Message
  deriving DecidableEq

namespace Outgoing

variable {Message : Type u}

/-- After `Start`. -/
def started : Outgoing Message where
  running := true
  outgoingQueue := []
  writer := .checking
  written := []

/-- Whether the outgoing thread holds `queue_mutex_`. -/
def locked (o : Outgoing Message) : Bool :=
  match o.writer with
  | .woken | .draining => true
  | _ => false

/-- `QueueMessage`, which waits for the lock. -/
def queueMessage (message : Message) (o : Outgoing Message) : Option (Outgoing Message) :=
  if o.locked then none else some { o with outgoingQueue := o.outgoingQueue ++ [message] }

/-- `Stop`. -/
def stop (o : Outgoing Message) : Outgoing Message := { o with running := false }

/-- The next step of the outgoing thread; writes succeed. -/
def advance (o : Outgoing Message) : Option (Outgoing Message) :=
  match o.writer with
  | .checking => some { o with writer := if o.running then .waiting else .exited }
  | .waiting =>
      if o.outgoingQueue.isEmpty ∧ o.running then none else some { o with writer := .woken }
  | .woken => some { o with writer := if o.running then .draining else .exited }
  | .draining =>
      match o.outgoingQueue with
      | [] => some { o with writer := .checking }
      | message :: rest => some { o with outgoingQueue := rest, writer := .writing message }
  | .writing message =>
      some { o with written := o.written ++ [message], writer := .draining }
  | .exited => none

/-! ### What can happen

The queue changes under its mutex, which the outgoing thread gives back for each `Write`.  So a
message may be queued during a `Write`, and not between two of them. -/

/-- The steps of the outgoing thread, each of which is decided by the flag and the queue alone. -/
inductive Advanced (o : Outgoing Message) : Outgoing Message → Prop
  | checks (checking : o.writer = .checking) :
      Advanced o { o with writer := if o.running then .waiting else .exited }
  | wakes (waiting : o.writer = .waiting) : Advanced o { o with writer := .woken }
  | tests (woken : o.writer = .woken) :
      Advanced o { o with writer := if o.running then .draining else .exited }
  | drained (draining : o.writer = .draining) (empty : o.outgoingQueue = []) :
      Advanced o { o with writer := .checking }
  | takes {message : Message} {rest : List Message} (draining : o.writer = .draining)
      (queued : o.outgoingQueue = message :: rest) :
      Advanced o { o with outgoingQueue := rest, writer := .writing message }
  | writes {message : Message} (writing : o.writer = .writing message) :
      Advanced o { o with written := o.written ++ [message], writer := .draining }

/-- The steps of the outgoing side: a message is queued, the stream is stopped, or the outgoing
thread goes on. -/
inductive Moved (o : Outgoing Message) : Outgoing Message → Prop
  | queues {message : Message} {o' : Outgoing Message}
      (queued : o.queueMessage message = some o') : Moved o o'
  | stops : Moved o o.stop
  | advances {o' : Outgoing Message} (advanced : o.advance = some o') : Moved o o'

variable {o o' : Outgoing Message}

theorem eq_of_queueMessage {message : Message} (queued : o.queueMessage message = some o') :
    { o with outgoingQueue := o.outgoingQueue ++ [message] } = o' := by
  unfold queueMessage at queued
  split_ifs at queued
  exact Option.some.inj queued

theorem advanced_of_advance (advanced : o.advance = some o') : o.Advanced o' := by
  unfold advance at advanced
  split at advanced
  case h_1 checking =>
    cases advanced
    exact .checks checking
  case h_2 waiting =>
    split_ifs at advanced
    cases advanced
    exact .wakes waiting
  case h_3 woken =>
    cases advanced
    exact .tests woken
  case h_4 draining =>
    split at advanced
    case h_1 empty =>
      cases advanced
      exact .drained draining empty
    case h_2 message rest queued =>
      cases advanced
      exact .takes draining queued
  case h_5 message writing =>
    cases advanced
    exact .writes writing
  case h_6 => cases advanced

/-! ### Messages are written in the order they were queued

What was written, what is being written and what is queued are one list in this order, and it only
grows at its end. -/

/-- The message that is being written. -/
def inHand (o : Outgoing Message) : List Message :=
  match o.writer with
  | .writing message => [message]
  | _ => []

/-- All messages that were ever queued, in order. -/
def queued (o : Outgoing Message) : List Message := o.written ++ o.inHand ++ o.outgoingQueue

theorem queued_of_queueMessage {message : Message} (queues : o.queueMessage message = some o') :
    o'.queued = o.queued ++ [message] := by
  rw [← eq_of_queueMessage queues]
  exact (List.append_assoc _ _ _).symm

/-- The outgoing thread takes messages from the front of the queue to the end of what was
written. -/
theorem queued_of_advance (advance : o.advance = some o') : o'.queued = o.queued := by
  unfold queued inHand
  cases advanced_of_advance advance with
  | checks checking =>
      simp only [checking]
      split_ifs <;> rfl
  | wakes waiting => simp [waiting]
  | tests woken =>
      simp only [woken]
      split_ifs <;> rfl
  | drained draining _ => simp [draining]
  | takes draining hqueued => simp [draining, hqueued]
  | writes writing => simp [writing]

/-- What was queued stays queued, or was written. -/
theorem Moved.queued_prefix (moved : o.Moved o') : o.queued <+: o'.queued := by
  cases moved with
  | queues queued =>
      rw [queued_of_queueMessage queued]
      exact List.prefix_append _ _
  | stops => exact List.prefix_refl _
  | advances advanced => rw [queued_of_advance advanced]

/-! ### Calling `Write`

A message is in hand from the pop to the return of `Write`, and only the outgoing thread has one;
so at most one write is in progress at any time. -/

/-- The message with which the outgoing thread is about to call `Write`. -/
def begins (o : Outgoing Message) : Option Message :=
  match o.writer with
  | .draining => o.outgoingQueue.head?
  | _ => none

theorem inHand_of_begins {message : Message} (advance : o.advance = some o')
    (begins : o.begins = some message) : o.inHand = [] ∧ o'.inHand = [message] := by
  unfold Outgoing.begins at begins
  unfold inHand
  cases advanced_of_advance advance with
  | takes draining queued => simpa [draining, queued] using begins
  | drained draining empty => simp [draining, empty] at begins
  | checks phase | wakes phase | tests phase | writes phase => simp [phase] at begins

theorem inHand_of_goesOn (advance : o.advance = some o') (goesOn : o.begins = none) :
    o'.inHand = [] := by
  unfold Outgoing.begins at goesOn
  unfold inHand
  cases advanced_of_advance advance with
  | takes draining queued => simp [draining, queued] at goesOn
  | checks phase | tests phase => cases o.running <;> rfl
  | wakes phase | drained phase | writes phase => rfl

/-! ### Stopping

The flag is looked at outside of the inner loop only.  A stop that falls inside of it, or on an
empty queue, loses nothing; after any other one what is queued stays where it is. -/

/-- Whether the outgoing thread is inside its inner loop. -/
def draining (o : Outgoing Message) : Bool :=
  match o.writer with
  | .draining | .writing _ => true
  | _ => false

/-- Stopping now loses nothing: nothing is queued, or the outgoing thread is inside its
inner loop. -/
def Drains (o : Outgoing Message) : Prop := o.outgoingQueue = [] ∨ o.draining = true

instance (o : Outgoing Message) : Decidable o.Drains :=
  inferInstanceAs (Decidable (o.outgoingQueue = [] ∨ o.draining = true))

/-- These messages were written, or are going to be before the thread looks at `running_` again.
This is what stopping the stream can no longer take back. -/
structure Promised (messages : List Message) (o : Outgoing Message) : Prop where
  queued : messages <+: o.queued
  written : o.draining = true ∨ messages <+: o.written

theorem promised_of_drains (drains : o.Drains) : Promised o.queued o := by
  refine ⟨List.prefix_refl _, ?_⟩
  cases inside : o.draining with
  | true => exact .inl rfl
  | false =>
      have empty := drains.resolve_right (Bool.eq_false_iff.mp inside)
      have hand : o.inHand = [] := by
        unfold inHand
        unfold draining at inside
        split
        case h_1 message writing => simp [writing] at inside
        case h_2 => rfl
      simp [queued, hand, empty]

theorem Promised.moved {messages : List Message} (promised : Promised messages o)
    (moved : o.Moved o') : Promised messages o' := by
  refine ⟨promised.queued.trans moved.queued_prefix, ?_⟩
  have written := promised.written
  cases moved with
  | queues queues =>
      rw [← eq_of_queueMessage queues]
      exact written
  | stops => exact written
  | advances advanced =>
      cases advanced_of_advance advanced with
      | checks checking => exact .inr (written.resolve_left (by simp [draining, checking]))
      | wakes waiting => exact .inr (written.resolve_left (by simp [draining, waiting]))
      | tests woken => exact .inr (written.resolve_left (by simp [draining, woken]))
      | drained hdraining empty =>
          have all := promised.queued
          rw [Outgoing.queued, inHand, hdraining, empty, List.append_nil, List.append_nil] at all
          exact .inr all
      | takes _ _ => exact .inl rfl
      | writes _ => exact .inl rfl

/-- The thread has left its inner loop for good: the stream is stopped, and what was written by now
is all that ever will be. -/
structure Abandoned (written : List Message) (o : Outgoing Message) : Prop where
  stopped : o.running = false
  outside : o.draining = false
  same : o.written = written

theorem Abandoned.moved {written : List Message} (abandoned : Abandoned written o)
    (moved : o.Moved o') : Abandoned written o' := by
  obtain ⟨stopped, outside, same⟩ := abandoned
  cases moved with
  | queues queues =>
      rw [← eq_of_queueMessage queues]
      exact ⟨stopped, outside, same⟩
  | stops => exact ⟨rfl, outside, same⟩
  | advances advanced =>
      cases advanced_of_advance advanced with
      | checks _ => exact ⟨stopped, by simp [draining, stopped], same⟩
      | wakes _ => exact ⟨stopped, rfl, same⟩
      | tests _ => exact ⟨stopped, by simp [draining, stopped], same⟩
      | drained hdraining _ => simp [draining, hdraining] at outside
      | takes hdraining _ => simp [draining, hdraining] at outside
      | writes writing => simp [draining, writing] at outside

end Outgoing

end Saasy.Control
