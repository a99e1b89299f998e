import Mathlib.Order.Basic

/-!
# Programs as sequences of atomic steps

A `Program` is what one thread is going to do: look at a shared state, perform operations
on it, put out values, and return a result.  It is a monad, so that a procedure can be
written in `do` notation as in its source, with exceptions through `ExceptT`; and it is
data, so that a machine can take it step by step and interleave it with other threads.
What an operation does to the state is left to that machine.  `exec` is the course of a
program that nothing interrupts.

A program keeps a protocol when an automaton accepts its operations and outputs, whatever
it finds in the state.  `Follows` says that every course of a program does, and how the
automaton and the result are related at its end; `follows_bind` and `Follows.mono` are the
rules for sequence and consequence.

A look at the state hands the whole state to the continuation, and the program keeps of it what it
likes; so a stale value is simply one that was bound some steps ago.  That a program follows a
protocol *whatever it finds* is what makes the notion useful under interleaving: nothing is
assumed of what the others do between two of its steps.
-/

namespace Transition

universe u v w x y

/-- What a thread is going to do: end, look at the state, perform an operation on it, or put
something out.  Each of these is one step, and others may come between two of them. -/
inductive Program (Op : Type u) (σ : Type v) (ω : Type w) (α : Type x) :
    Type (max u v w x) where
  | done (result : α)
  | look (next : σ → Program Op σ ω α)
  | perform (op : Op) (next : Program Op σ ω α)
  | emit (output : ω) (next : Program Op σ ω α)

namespace Program

variable {Op : Type u} {σ : Type v} {ω : Type w} {α β : Type x} {κ : Type y}

/-- One program after the other. -/
def bind : Program Op σ ω α → (α → Program Op σ ω β) → Program Op σ ω β
  | done result, f => f result
  | look next, f => look fun s => (next s).bind f
  | perform op next, f => perform op (next.bind f)
  | emit output next, f => emit output (next.bind f)

instance : Monad (Program Op σ ω) where
  pure := done
  bind := bind

/-- The operation a program is about to perform, if that is what comes next. -/
def next? : Program Op σ ω α → Option Op
  | perform op _ => some op
  | _ => none

/-! ### Uninterrupted execution

What a program does when nobody else takes a step.  A machine that runs programs step by step is
compared with this where a thread is left alone. -/

/-- Where a program ends: the state, what it has put out in the order in which it did, and its
result. -/
structure Ended (σ : Type v) (ω : Type w) (α : Type x) where
  state : σ
  outputs : List ω
  result : α

/-- The course of a program that is alone with the state. -/
def exec (apply : Op → σ → σ) : Program Op σ ω α → σ → Ended σ ω α
  | done result, s => ⟨s, [], result⟩
  | look next, s => (next s).exec apply s
  | perform op next, s => next.exec apply (apply op s)
  | emit output next, s =>
      let ended := next.exec apply s
      { ended with outputs := output :: ended.outputs }

variable {apply : Op → σ → σ}

/-- The second program goes on where the first has ended. -/
theorem exec_bind (p : Program Op σ ω α) (f : α → Program Op σ ω β) (s : σ) :
    (p >>= f).exec apply s =
      let first := p.exec apply s
      let second := (f first.result).exec apply first.state
      { second with outputs := first.outputs ++ second.outputs } := by
  show (p.bind f).exec apply s = _
  induction p generalizing s with
  | done result => rfl
  | look next ih => exact ih s s
  | perform op next ih => exact ih (apply op s)
  | emit output next ih =>
      show { ((next.bind f).exec apply s) with
        outputs := output :: ((next.bind f).exec apply s).outputs } = _
      rw [ih s]
      rfl

/-! ### Protocols

An automaton over operations and outputs says in which order they may come.  `Follows` looks at all
courses of the program, whatever it finds in the state, so what it says holds under any
interleaving. -/

/-- Every course of the program is accepted by the automaton from a given state on, and
`post` holds of the result and of the state the automaton is in then. -/
def Follows (δ : κ → Op ⊕ ω → Option κ) : Program Op σ ω α → κ → (α → κ → Prop) → Prop
  | done result, k, post => post result k
  | look next, k, post => ∀ s, (next s).Follows δ k post
  | perform op next, k, post => ∃ k' ∈ δ k (.inl op), next.Follows δ k' post
  | emit output next, k, post => ∃ k' ∈ δ k (.inr output), next.Follows δ k' post

variable {δ : κ → Op ⊕ ω → Option κ} {k : κ}

/-- **The rule for sequence.** The second program starts where the automaton is when the first has
ended. -/
theorem follows_bind {p : Program Op σ ω α} {f : α → Program Op σ ω β} {post : β → κ → Prop} :
    (p >>= f).Follows δ k post ↔
      p.Follows δ k fun result k' => (f result).Follows δ k' post := by
  show (p.bind f).Follows δ k post ↔ _
  induction p generalizing k with
  | done result => exact Iff.rfl
  | look next ih => exact forall_congr' fun s => ih s
  | perform op next ih => exact exists_congr fun k' => and_congr_right fun _ => ih
  | emit output next ih => exact exists_congr fun k' => and_congr_right fun _ => ih

/-- **The rule of consequence.** A program that follows the automaton may be used where less is
asked of its end. -/
theorem Follows.mono {p : Program Op σ ω α} {post post' : α → κ → Prop}
    (follows : p.Follows δ k post) (weaker : ∀ result k, post result k → post' result k) :
    p.Follows δ k post' := by
  induction p generalizing k with
  | done result => exact weaker result k follows
  | look next ih => exact fun s => ih s (follows s)
  | perform op next ih =>
      obtain ⟨k', hk', rest⟩ := follows
      exact ⟨k', hk', ih rest⟩
  | emit output next ih =>
      obtain ⟨k', hk', rest⟩ := follows
      exact ⟨k', hk', ih rest⟩

/-- **What each step of the protocol keeps is kept by the program.** The automaton is where the
invariant says how far the program is. -/
theorem Follows.exec {p : Program Op σ ω α} {post : α → κ → Prop} {motive : κ → σ → Prop}
    (follows : p.Follows δ k post)
    (ops : ∀ k op k' s, δ k (.inl op) = some k' → motive k s → motive k' (apply op s))
    (outputs : ∀ k output k' s, δ k (.inr output) = some k' → motive k s → motive k' s)
    {s : σ} (start : motive k s) :
    ∃ k', post (p.exec apply s).result k' ∧ motive k' (p.exec apply s).state := by
  induction p generalizing k s with
  | done result => exact ⟨k, follows, start⟩
  | look next ih => exact ih s (follows s) start
  | perform op next ih =>
      obtain ⟨k', hk', rest⟩ := follows
      exact ih rest (ops k op k' s hk' start)
  | emit output next ih =>
      obtain ⟨k', hk', rest⟩ := follows
      exact ih rest (outputs k output k' s hk' start)

end Program

/-! ### Programs that may throw

The exception is the result of the program, and `catchWith` turns it into an output.  The rules are
those above, with a postcondition for each of the two ends. -/

/-- A procedure that may throw, with a text as its exception.  What it has done before it throws
stays done. -/
abbrev Throwing (Op : Type u) (σ : Type v) (ω : Type w) := ExceptT String (Program Op σ ω)

namespace Throwing

variable {Op : Type u} {σ : Type v} {ω : Type w} {α β : Type} {κ : Type y}

/-- Look at the state. -/
def read (f : σ → α) : Throwing Op σ ω α := ExceptT.lift (.look fun s => .done (f s))

/-- Perform an operation. -/
def perform (op : Op) : Throwing Op σ ω Unit := ExceptT.lift (.perform op (.done ()))

/-- Put a value out. -/
def output (value : ω) : Throwing Op σ ω Unit := ExceptT.lift (.emit value (.done ()))

/-- Call a function that may throw. -/
def call (result : Except String α) : Throwing Op σ ω α := ExceptT.mk (pure result)

/-- Throw unless a condition is met. -/
def require (condition : Bool) (message : String) : Throwing Op σ ω Unit :=
  call (if condition then .ok () else .error message)

/-- Throw unless there is a value. -/
def require? (value : Option α) (message : String) : Throwing Op σ ω α :=
  call (value.elim (.error message) .ok)

/-- `try`, with a handler that puts the exception out. -/
def catchWith (body : Throwing Op σ ω Unit) (handler : String → ω) : Program Op σ ω Unit := do
  match ← body.run with
  | .ok () => return ()
  | .error message => .emit (handler message) (.done ())

/-- Every course of the body is accepted by the automaton, up to where it returns or
throws. -/
def Follows (δ : κ → Op ⊕ ω → Option κ) (body : Throwing Op σ ω α) (k : κ)
    (returns : α → κ → Prop) (throws : κ → Prop) : Prop :=
  body.run.Follows δ k fun result k' =>
    match result with
    | .ok a => returns a k'
    | .error _ => throws k'

section Rules

variable {δ : κ → Op ⊕ ω → Option κ} {k : κ} {returns : α → κ → Prop} {throws : κ → Prop}

@[simp] theorem follows_read {f : σ → α} :
    Follows δ (read f : Throwing Op σ ω α) k returns throws ↔ ∀ s, returns (f s) k := Iff.rfl

@[simp] theorem follows_perform {op : Op} {returns : Unit → κ → Prop} :
    Follows δ (perform op : Throwing Op σ ω Unit) k returns throws ↔
      ∃ k' ∈ δ k (.inl op), returns () k' := Iff.rfl

/-- A call may go either way, so the rule asks for both. -/
theorem follows_call {result : Except String α} (ok : ∀ a, returns a k) (error : throws k) :
    Follows δ (call result : Throwing Op σ ω α) k returns throws := by
  cases result with
  | ok a => exact ok a
  | error message => exact error

theorem follows_require {condition : Bool} {message : String} {returns : Unit → κ → Prop}
    (met : returns () k) (unmet : throws k) :
    Follows δ (require condition message : Throwing Op σ ω Unit) k returns throws :=
  follows_call (fun _ => met) unmet

theorem follows_require? {value : Option α} {message : String}
    (there : ∀ a, value = some a → returns a k) (missing : throws k) :
    Follows δ (require? value message : Throwing Op σ ω α) k returns throws := by
  cases value with
  | some a => exact there a rfl
  | none => exact missing

@[simp] theorem follows_bind {body : Throwing Op σ ω α} {next : α → Throwing Op σ ω β}
    {returns : β → κ → Prop} :
    Follows δ (body >>= next) k returns throws ↔
      Follows δ body k (fun a k' => Follows δ (next a) k' returns throws) throws := by
  show Program.Follows δ (body.run >>= _) k _ ↔ Program.Follows δ body.run k _
  rw [Program.follows_bind]
  refine iff_of_eq (congrArg _ (funext fun result => funext fun k' => ?_))
  cases result with
  | ok a => rfl
  | error message => rfl

/-- A body that is caught goes on with the output of the handler when it throws. -/
theorem follows_catchWith {body : Throwing Op σ ω Unit} {handler : String → ω}
    {post : Unit → κ → Prop}
    (follows : Follows δ body k post fun k' =>
      ∀ message, ∃ k'' ∈ δ k' (.inr (handler message)), post () k'') :
    (body.catchWith handler).Follows δ k post := by
  show Program.Follows δ (body.run >>= _) k _
  rw [Program.follows_bind]
  refine Program.Follows.mono follows fun result k' holds => ?_
  cases result with
  | ok _ => exact holds
  | error message => exact holds message

end Rules

section Exec

variable {apply : Op → σ → σ} {s : σ}

/-- The course of a body that is alone with the state. -/
def exec (apply : Op → σ → σ) (body : Throwing Op σ ω α) (s : σ) :
    Program.Ended σ ω (Except String α) :=
  Program.exec apply body.run s

@[simp] theorem exec_read (f : σ → α) :
    exec apply (read f : Throwing Op σ ω α) s = ⟨s, [], .ok (f s)⟩ := rfl

@[simp] theorem exec_perform (op : Op) :
    exec apply (perform op : Throwing Op σ ω Unit) s = ⟨apply op s, [], .ok ()⟩ := rfl

@[simp] theorem exec_output (value : ω) :
    exec apply (output value : Throwing Op σ ω Unit) s = ⟨s, [value], .ok ()⟩ := rfl

@[simp] theorem exec_call (result : Except String α) :
    exec apply (call result : Throwing Op σ ω α) s = ⟨s, [], result⟩ := rfl

@[simp] theorem exec_require (condition : Bool) (message : String) :
    exec apply (require condition message : Throwing Op σ ω Unit) s =
      ⟨s, [], if condition then .ok () else .error message⟩ := rfl

@[simp] theorem exec_require? (value : Option α) (message : String) :
    exec apply (require? value message : Throwing Op σ ω α) s =
      ⟨s, [], value.elim (.error message) .ok⟩ := rfl

/-- What throws first ends the sequence. -/
theorem exec_bind (body : Throwing Op σ ω α) (next : α → Throwing Op σ ω β) :
    exec apply (body >>= next) s =
      match (exec apply body s).result with
      | .ok a =>
          let rest := exec apply (next a) (exec apply body s).state
          { rest with outputs := (exec apply body s).outputs ++ rest.outputs }
      | .error message =>
          ⟨(exec apply body s).state, (exec apply body s).outputs, .error message⟩ := by
  show Program.exec apply (body.run >>= _) s = _
  rw [Program.exec_bind]
  unfold exec
  dsimp only
  generalize Program.exec apply (ExceptT.run body) s = first
  obtain ⟨t, outputs, result⟩ := first
  cases result with
  | ok a => rfl
  | error message =>
      show Program.Ended.mk t (outputs ++ []) _ = _
      rw [List.append_nil]
      rfl

/-! What a sequence that starts with one of the statements goes on with. -/

section Bind

variable (next : α → Throwing Op σ ω β)

theorem exec_read_bind (f : σ → α) : exec apply (read f >>= next) s = exec apply (next (f s)) s :=
  exec_bind _ _

theorem exec_perform_bind (op : Op) (next : Unit → Throwing Op σ ω β) :
    exec apply (perform op >>= next) s = exec apply (next ()) (apply op s) :=
  exec_bind _ _

theorem exec_call_bind (result : Except String α) :
    exec apply (call result >>= next) s =
      match result with
      | .ok a => exec apply (next a) s
      | .error message => ⟨s, [], .error message⟩ := by
  rw [exec_bind]
  cases result <;> rfl

theorem exec_require_bind (condition : Bool) (message : String)
    (next : Unit → Throwing Op σ ω β) :
    exec apply (require condition message >>= next) s =
      if condition then exec apply (next ()) s else ⟨s, [], .error message⟩ := by
  rw [require, exec_call_bind]
  cases condition <;> rfl

theorem exec_require?_bind (value : Option α) (message : String) :
    exec apply (require? value message >>= next) s =
      match value with
      | some a => exec apply (next a) s
      | none => ⟨s, [], .error message⟩ := by
  rw [require?, exec_call_bind]
  cases value <;> rfl

end Bind

/-- A body that is caught puts out what it throws. -/
theorem exec_catchWith (body : Throwing Op σ ω Unit) (handler : String → ω) :
    Program.exec apply (body.catchWith handler) s =
      match (exec apply body s).result with
      | .ok () => { exec apply body s with result := () }
      | .error message =>
          ⟨(exec apply body s).state, (exec apply body s).outputs ++ [handler message], ()⟩ := by
  show Program.exec apply (body.run >>= _) s = _
  rw [Program.exec_bind]
  unfold exec
  dsimp only
  generalize Program.exec apply (ExceptT.run body) s = first
  obtain ⟨t, outputs, result⟩ := first
  cases result with
  | ok a =>
      show Program.Ended.mk t (outputs ++ []) () = _
      rw [List.append_nil]
  | error message => rfl

end Exec

end Throwing

end Transition
