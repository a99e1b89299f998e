import Mathlib.Data.List.Basic
import Mathlib.Order.Basic

/-!
# Partial transition machines and the invariant rules for their runs

A `Machine` is a start state and a partial, labelled step function; `none` says
that the action is not enabled in that state.  Interleavings of threads, runs of
an event handler and histories of a table are all runs of such machines, and the
same three questions come back for each of them: what holds in every state that
is reached, what holds of every transition that is taken, and what holds as long
as each step meets a side condition.  This file answers them once.

* `run` — a finite sequence of actions, `none` as soon as one is not enabled.
* `transitions` — the same run as the list of its steps, which is what a
  statement about *events* (rather than states) talks about.
* `Meets` — every step of the run meets a condition on the state before the step
  and on the action.
* `invariant` — an invariant of the steps is an invariant of the runs.
* `history_invariant` — the same for a relation between the steps taken so far
  and the state they lead to; `history_of_split` for a step in the middle of a run.
* `before_of_stretch` — what the steps of a stretch keep holds up to the step after it.
* `behind_of_run` — what a step leaves behind for the end of the run.
* `pairwise_of_meets` — what a step leaves behind for all the steps after it.
* `transitions_of_meets`, `forall_transitions_iff` — an invariant that only holds
  as long as each step meets a condition, and what it says about the steps.
* `transitions_of_invariant` — the steps of a run, with an invariant around them.

The rules come in two kinds.  Those with `invariant` in their name ask nothing of a run but that it
is one.  Those with `meets` are for systems that go wrong: there `cond` is what the steps of a good
run have in common, and the rule carries an invariant as long as it is met.  With
`forall_transitions_iff` the condition is exact, which needs the converse for one step only: a step
that fails the condition, taken in a state in which the invariant still holds, is a bad one.
-/

namespace Transition

universe u v w

/-- A start state and a partial step function over labelled actions.  What is left open, such as
whose turn it is, is in the action; with the action given, a step is determined. -/
structure Machine (σ : Type u) (α : Type v) where
  init : σ
  step : σ → α → Option σ

/-- One step that was taken: the state before, the action, the state after.  Laws of runs are
stated of these. -/
structure Taken (σ : Type u) (α : Type v) where
  before : σ
  action : α
  after : σ

namespace Machine

variable {σ : Type u} {α : Type v} (M : Machine σ α)

/-- A run: the actions one after the other, undefined once one is not enabled. -/
def run (s : σ) (actions : List α) : Option σ :=
  actions.foldlM M.step s

@[simp] theorem run_nil (s : σ) : M.run s [] = some s := rfl

theorem run_cons (s : σ) (a : α) (rest : List α) :
    M.run s (a :: rest) = (M.step s a).bind fun t => M.run t rest := by
  simp [run]

theorem run_cons_eq_some {s t : σ} {a : α} {rest : List α} :
    M.run s (a :: rest) = some t ↔ ∃ r, M.step s a = some r ∧ M.run r rest = some t := by
  rw [run_cons, Option.bind_eq_some_iff]

theorem run_append (s : σ) (front back : List α) :
    M.run s (front ++ back) = (M.run s front).bind fun t => M.run t back := by
  simp [run, List.foldlM_append]

theorem run_append_eq_some {s t : σ} {front back : List α} :
    M.run s (front ++ back) = some t ↔
      ∃ r, M.run s front = some r ∧ M.run r back = some t := by
  rw [run_append, Option.bind_eq_some_iff]

/-- One more action at the end of a run. -/
theorem run_concat {s t r : σ} {front : List α} {a : α}
    (reached : M.run s front = some t) (step : M.step t a = some r) :
    M.run s (front ++ [a]) = some r := by
  rw [run_append_eq_some]
  exact ⟨t, reached, by rw [run_cons, step]; rfl⟩

/-- The states a machine can reach from its start state, by any actions in any order. -/
def Reachable (s : σ) : Prop := ∃ actions, M.run M.init actions = some s

theorem Reachable.step {M : Machine σ α} {s t : σ} {a : α} (reached : M.Reachable s)
    (step : M.step s a = some t) : M.Reachable t := by
  obtain ⟨actions, run⟩ := reached
  exact ⟨actions ++ [a], M.run_concat run step⟩

/-! ### Invariants

An invariant is proved by what a step preserves.  The rules are stated for a single run, and for
everything that can be reached. -/

/-- The invariant rule for a single run. -/
theorem invariant_of_run {motive : σ → Prop}
    (preserved : ∀ s a t, motive s → M.step s a = some t → motive t)
    {s t : σ} {actions : List α} (start : motive s)
    (reached : M.run s actions = some t) : motive t := by
  induction actions generalizing s with
  | nil =>
      cases reached
      exact start
  | cons a rest ih =>
      obtain ⟨r, hstep, hrun⟩ := M.run_cons_eq_some.mp reached
      exact ih (preserved s a r start hstep) hrun

/-- The invariant rule for the reachable states: what holds at the start and is preserved by every
step holds of all of them. -/
theorem invariant {motive : σ → Prop} (start : motive M.init)
    (preserved : ∀ s a t, motive s → M.step s a = some t → motive t)
    {s : σ} (reached : M.Reachable s) : motive s := by
  obtain ⟨actions, run⟩ := reached
  exact M.invariant_of_run preserved start run

/-! ### Histories

A law may be about the steps of a run and not only about its states: that of two steps the later
one has something to do with the earlier, or that what was written by now is a prefix of what will
be.  The rules here carry a relation between the steps taken so far and the state. -/

/-- The steps a run takes, in order, up to the first action that is not enabled. -/
def transitions : σ → List α → List (Taken σ α)
  | _, [] => []
  | s, a :: rest =>
      match M.step s a with
      | none => []
      | some t => ⟨s, a, t⟩ :: transitions t rest

@[simp] theorem transitions_nil (s : σ) : M.transitions s [] = [] := rfl

theorem transitions_cons {s t : σ} {a : α} (rest : List α) (step : M.step s a = some t) :
    M.transitions s (a :: rest) = ⟨s, a, t⟩ :: M.transitions t rest := by
  simp [transitions, step]

theorem transitions_append {s t : σ} {front : List α} (back : List α)
    (reached : M.run s front = some t) :
    M.transitions s (front ++ back) = M.transitions s front ++ M.transitions t back := by
  induction front generalizing s with
  | nil =>
      cases reached
      rfl
  | cons a rest ih =>
      obtain ⟨r, hstep, hrun⟩ := M.run_cons_eq_some.mp reached
      rw [List.cons_append, M.transitions_cons _ hstep, M.transitions_cons _ hstep, ih hrun]
      rfl

/-- The steps taken are those of the actions. -/
theorem map_action_transitions {s t : σ} {actions : List α}
    (reached : M.run s actions = some t) :
    (M.transitions s actions).map Taken.action = actions := by
  induction actions generalizing s with
  | nil => rfl
  | cons a rest ih =>
      obtain ⟨r, hstep, hrun⟩ := M.run_cons_eq_some.mp reached
      rw [M.transitions_cons _ hstep, List.map_cons, ih hrun]

/-- The first step of a run, and the run after it, which starts where that step has led. -/
theorem transitions_eq_cons {s : σ} {actions : List α} {first : Taken σ α}
    {rest : List (Taken σ α)} (split : M.transitions s actions = first :: rest) :
    first.before = s ∧ M.step s first.action = some first.after ∧
      ∃ later, actions = first.action :: later ∧ rest = M.transitions first.after later := by
  cases actions with
  | nil => cases split
  | cons a later =>
      cases step : M.step s a with
      | none => simp [transitions, step] at split
      | some r =>
          rw [M.transitions_cons later step, List.cons.injEq] at split
          obtain ⟨rfl, rfl⟩ := split
          exact ⟨rfl, step, later, rfl, rfl⟩

/-- The steps taken are steps of actions. -/
theorem action_mem_of_mem_transitions {s : σ} {actions : List α} {t : Taken σ α}
    (mem : t ∈ M.transitions s actions) : t.action ∈ actions := by
  induction actions generalizing s with
  | nil => cases mem
  | cons a rest ih =>
      cases step : M.step s a with
      | none => simp [transitions, step] at mem
      | some r =>
          rw [M.transitions_cons rest step] at mem
          obtain rfl | later := List.mem_cons.mp mem
          · exact List.mem_cons_self
          · exact List.mem_cons_of_mem a (ih later)

/-- **The rule for a stretch of a run.**  What holds in a state, and is kept by the steps
of the stretch that starts there, holds before each of them and before the step that
follows. -/
theorem before_of_stretch {motive : σ → Prop} {s : σ} {actions : List α}
    {stretch rest : List (Taken σ α)} {last : Taken σ α}
    (split : M.transitions s actions = stretch ++ last :: rest) (start : motive s)
    (kept : ∀ t ∈ stretch, motive t.before → M.step t.before t.action = some t.after →
      motive t.after) :
    (∀ t ∈ stretch, motive t.before ∧ M.step t.before t.action = some t.after) ∧
      motive last.before ∧ M.step last.before last.action = some last.after := by
  induction stretch generalizing s actions with
  | nil =>
      obtain ⟨before, step, -⟩ := M.transitions_eq_cons split
      exact ⟨List.forall_mem_nil _, before ▸ start, before ▸ step⟩
  | cons t stretch ih =>
      obtain ⟨before, step, later, -, tail⟩ := M.transitions_eq_cons split
      have here : motive t.before := before ▸ start
      have taken : M.step t.before t.action = some t.after := before ▸ step
      have next := kept t List.mem_cons_self here taken
      obtain ⟨inside, after⟩ := ih tail.symm next fun t mem => kept t (List.mem_cons_of_mem _ mem)
      exact ⟨List.forall_mem_cons.mpr ⟨⟨here, taken⟩, inside⟩, after⟩

/-- A step of a run, and the run after it. -/
theorem after_of_split {s : σ} {actions : List α} {past rest : List (Taken σ α)}
    {t : Taken σ α} (split : M.transitions s actions = past ++ t :: rest) :
    M.step t.before t.action = some t.after ∧
      ∃ later, rest = M.transitions t.after later := by
  induction past generalizing s actions with
  | nil =>
      obtain ⟨before, step, later, -, tail⟩ := M.transitions_eq_cons split
      exact ⟨before ▸ step, later, tail⟩
  | cons first past ih =>
      obtain ⟨-, -, later, -, tail⟩ := M.transitions_eq_cons split
      exact ih tail.symm

/-- **The history rule.**  A relation between the steps taken so far and the
state they lead to, kept by every step, holds of the whole run. -/
theorem history_invariant {motive : List (Taken σ α) → σ → Prop}
    (preserved : ∀ past s a t, motive past s → M.step s a = some t →
      motive (past ++ [⟨s, a, t⟩]) t)
    {past : List (Taken σ α)} {s t : σ} {actions : List α} (start : motive past s)
    (reached : M.run s actions = some t) :
    motive (past ++ M.transitions s actions) t := by
  induction actions generalizing past s with
  | nil =>
      cases reached
      simpa using start
  | cons a rest ih =>
      obtain ⟨r, hstep, hrun⟩ := M.run_cons_eq_some.mp reached
      rw [M.transitions_cons _ hstep]
      simpa using ih (preserved past s a r start hstep) hrun

/-- The history rule for a step in the middle of a run, under a condition on the actions. -/
theorem history_of_split (cond : α → Prop) {motive : List (Taken σ α) → σ → Prop}
    (preserved : ∀ past s a t, motive past s → cond a → M.step s a = some t →
      motive (past ++ [⟨s, a, t⟩]) t)
    {past rest : List (Taken σ α)} {s : σ} {actions : List α} {t : Taken σ α}
    (start : motive [] s) (meets : ∀ a ∈ actions, cond a)
    (split : M.transitions s actions = past ++ t :: rest) :
    motive past t.before ∧ M.step t.before t.action = some t.after := by
  suffices general : ∀ front, motive front s →
      motive (front ++ past) t.before ∧ M.step t.before t.action = some t.after from
    general [] start
  clear start
  induction past generalizing s actions with
  | nil =>
      intro front start
      obtain ⟨rfl, step, -⟩ := M.transitions_eq_cons split
      exact ⟨(List.append_nil front).symm ▸ start, step⟩
  | cons first past ih =>
      intro front start
      obtain ⟨rfl, step, later, rfl, tail⟩ := M.transitions_eq_cons split
      rw [List.forall_mem_cons] at meets
      have next := preserved front first.before first.action first.after start meets.1 step
      simpa using ih meets.2 tail.symm _ next

/-- **What a step leaves behind** for good is there at the end of the run, for each step that the
run has taken. -/
theorem behind_of_run (behind : Taken σ α → σ → Prop) {motive : σ → Prop}
    (preserved : ∀ s a t, motive s → M.step s a = some t → motive t)
    (establishes : ∀ s a t, motive s → M.step s a = some t → behind ⟨s, a, t⟩ t)
    (keeps : ∀ taken s a t, behind taken s → M.step s a = some t → behind taken t)
    {s t : σ} {actions : List α} (start : motive s) (reached : M.run s actions = some t) :
    ∀ taken ∈ M.transitions s actions, behind taken t := by
  have history := M.history_invariant
    (motive := fun past s => motive s ∧ ∀ taken ∈ past, behind taken s)
    ?_ ⟨start, List.forall_mem_nil _⟩ reached
  · exact history.2
  · rintro past s a t ⟨before, left⟩ step
    refine ⟨preserved s a t before step, fun taken mem => ?_⟩
    obtain old | new := List.mem_append.mp mem
    · exact keeps taken s a t (left taken old) step
    · rw [List.mem_singleton.mp new]
      exact establishes s a t before step

/-! ### Runs under a side condition

Where a property only holds of the runs whose steps meet a condition, the invariant has to be
preserved by those steps alone.  If moreover each step is good exactly when it meets the condition,
the runs that are good are known exactly. -/

/-- Every step the run takes meets `cond`, a condition on the state before the step
and on the action. -/
def Meets (cond : σ → α → Prop) (s : σ) (actions : List α) : Prop :=
  ∀ t ∈ M.transitions s actions, cond t.before t.action

instance {cond : σ → α → Prop} [∀ s a, Decidable (cond s a)] {s : σ} {actions : List α} :
    Decidable (M.Meets cond s actions) :=
  inferInstanceAs (Decidable (∀ t ∈ M.transitions s actions, _))

theorem meets_cons {cond : σ → α → Prop} {s t : σ} {a : α} {rest : List α}
    (step : M.step s a = some t) :
    M.Meets cond s (a :: rest) ↔ cond s a ∧ M.Meets cond t rest := by
  simp only [Meets, M.transitions_cons rest step, List.forall_mem_cons]

/-- **The invariant rule, under a side condition.**  What each step that meets
`cond` preserves holds around every step of a run that meets it throughout. -/
theorem transitions_of_meets {cond : σ → α → Prop} {motive : σ → Prop}
    (preserved : ∀ s a t, motive s → cond s a → M.step s a = some t → motive t)
    {s : σ} {actions : List α} (start : motive s) (meets : M.Meets cond s actions) :
    ∀ t ∈ M.transitions s actions,
      motive t.before ∧ cond t.before t.action ∧ M.step t.before t.action = some t.after := by
  induction actions generalizing s with
  | nil => simp
  | cons a rest ih =>
      cases step : M.step s a with
      | none => simp [transitions, step]
      | some r =>
          obtain ⟨hcond, hrest⟩ := (M.meets_cons step).mp meets
          rw [M.transitions_cons rest step, List.forall_mem_cons]
          exact ⟨⟨start, hcond, step⟩, ih (preserved s a r start hcond step) hrest⟩

/-- The same without a condition: an invariant holds around every step of a run. -/
theorem transitions_of_invariant {motive : σ → Prop}
    (preserved : ∀ s a t, motive s → M.step s a = some t → motive t)
    {s : σ} {actions : List α} (start : motive s) :
    ∀ t ∈ M.transitions s actions,
      motive t.before ∧ M.step t.before t.action = some t.after := by
  intro t mem
  have meets : M.Meets (fun _ _ => True) s actions := fun _ _ => trivial
  obtain ⟨before, -, step⟩ := M.transitions_of_meets
    (fun s a t before _ step => preserved s a t before step) start meets t mem
  exact ⟨before, step⟩

/-- The invariant rule under a side condition, for the state a run ends in. -/
theorem invariant_of_meets {cond : σ → α → Prop} {motive : σ → Prop}
    (preserved : ∀ s a t, motive s → cond s a → M.step s a = some t → motive t)
    {s t : σ} {actions : List α} (start : motive s) (reached : M.run s actions = some t)
    (meets : M.Meets cond s actions) : motive t := by
  induction actions generalizing s with
  | nil =>
      cases reached
      exact start
  | cons a rest ih =>
      obtain ⟨r, step, hrun⟩ := M.run_cons_eq_some.mp reached
      obtain ⟨hcond, hrest⟩ := (M.meets_cons step).mp meets
      exact ih (preserved s a r start hcond step) hrun hrest

/-- **The rule for pairs of steps.**  What a step that meets `cond` leaves behind, and
every later step keeps, relates the step to all the later ones. -/
theorem pairwise_of_meets (behind : Taken σ α → σ → Prop) {cond : σ → α → Prop}
    {motive : σ → Prop} {R : Taken σ α → Taken σ α → Prop}
    (preserved : ∀ s a t, motive s → cond s a → M.step s a = some t → motive t)
    (establishes : ∀ s a t, motive s → cond s a → M.step s a = some t → behind ⟨s, a, t⟩ t)
    (keeps : ∀ first s a t, behind first s → M.step s a = some t → behind first t)
    (gives : ∀ first s a t, motive s → behind first s → M.step s a = some t →
      R first ⟨s, a, t⟩)
    {s : σ} {actions : List α} (start : motive s) (meets : M.Meets cond s actions) :
    (M.transitions s actions).Pairwise R := by
  induction actions generalizing s with
  | nil => exact .nil
  | cons a rest ih =>
      cases step : M.step s a with
      | none => simp [transitions, step]
      | some r =>
          obtain ⟨hcond, hrest⟩ := (M.meets_cons step).mp meets
          have after := preserved s a r start hcond step
          rw [M.transitions_cons rest step, List.pairwise_cons]
          refine ⟨fun later hlater => ?_, ih after hrest⟩
          obtain ⟨⟨hmotive, hbehind⟩, -, hstep⟩ := M.transitions_of_meets
            (motive := fun t => motive t ∧ behind ⟨s, a, r⟩ t)
            (fun s' a' t' h hcond' step' =>
              ⟨preserved s' a' t' h.1 hcond' step', keeps _ s' a' t' h.2 step'⟩)
            ⟨after, establishes s a r start hcond step⟩ hrest later hlater
          exact gives _ _ _ _ hmotive hbehind hstep

/-- **The exactness rule.**  As long as `cond` is met an invariant holds under
which a step is good exactly when it meets `cond`: then a run is good throughout
exactly when it meets `cond` throughout. -/
theorem forall_transitions_iff {cond : σ → α → Prop} {motive : σ → Prop}
    {good : Taken σ α → Prop}
    (exact_step : ∀ s a t, motive s → M.step s a = some t → (good ⟨s, a, t⟩ ↔ cond s a))
    (preserved : ∀ s a t, motive s → cond s a → M.step s a = some t → motive t)
    {s : σ} (start : motive s) (actions : List α) :
    (∀ t ∈ M.transitions s actions, good t) ↔ M.Meets cond s actions := by
  induction actions generalizing s with
  | nil => simp [Meets]
  | cons a rest ih =>
      cases step : M.step s a with
      | none => simp [Meets, transitions, step]
      | some r =>
          rw [M.meets_cons step, M.transitions_cons rest step, List.forall_mem_cons,
            exact_step s a r start step]
          refine and_congr_right fun hcond => ?_
          exact ih (preserved s a r start hcond step)

end Machine

end Transition
