import Mathlib.Data.List.Basic

/-!
# Runs of labelled transition systems

A system is a partial step function on states: an action either is not
enabled, or leads to one next state and reports a list of observable events.
A run collects the events of its steps, so that an invariant may relate the
state that was reached to everything that happened before it.
-/

namespace Transition

/-- A deterministic step for every action; the nondeterminism of a system is
the choice of the actions. -/
abbrev Step (σ α ε : Type) := σ → α → Option (σ × List ε)

/-- The runs from `start` whose every action is `allowed` in the state in
which it is taken, with the events they report and the state they reach. -/
inductive Run {σ α ε : Type} (step : Step σ α ε) (allowed : σ → α → Prop)
    (start : σ) : List ε → σ → Prop where
  | refl : Run step allowed start [] start
  | snoc {trace events : List ε} {state next : σ} {action : α} :
      Run step allowed start trace state →
      allowed state action →
      step state action = some (next, events) →
      Run step allowed start (trace ++ events) next

/-- The runs of a system without any restriction on its actions. -/
abbrev AnyRun {σ α ε : Type} (step : Step σ α ε) (start : σ) :
    List ε → σ → Prop :=
  Run step (fun _ _ => True) start

section

variable {σ α ε : Type} {step : Step σ α ε} {allowed : σ → α → Prop}
  {start state : σ} {trace : List ε}

/-- What holds at the start and is preserved by every allowed step holds
after every run. -/
theorem Run.invariant {holds : List ε → σ → Prop}
    (run : Run step allowed start trace state)
    (initial : holds [] start)
    (preserved : ∀ {trace events state next action},
      holds trace state → allowed state action →
      step state action = some (next, events) →
      holds (trace ++ events) next) :
    holds trace state := by
  induction run with
  | refl => exact initial
  | snoc _ permitted stepped induction =>
      exact preserved induction permitted stepped

/-- An invariant of the states alone. -/
theorem Run.state_invariant {holds : σ → Prop}
    (run : Run step allowed start trace state)
    (initial : holds start)
    (preserved : ∀ {events state next action},
      holds state → allowed state action →
      step state action = some (next, events) → holds next) :
    holds state := by
  induction run with
  | refl => exact initial
  | snoc _ permitted stepped induction =>
      exact preserved induction permitted stepped

theorem Run.mono {weaker : σ → α → Prop}
    (run : Run step allowed start trace state)
    (implies : ∀ state action, allowed state action → weaker state action) :
    Run step weaker start trace state := by
  induction run with
  | refl => exact .refl
  | snoc _ permitted stepped induction =>
      exact .snoc induction (implies _ _ permitted) stepped

theorem Run.any (run : Run step allowed start trace state) :
    AnyRun step start trace state :=
  run.mono (fun _ _ _ => trivial)

/-- A run goes on with an action. -/
theorem Run.act {next : σ} {events : List ε}
    (run : Run step allowed start trace state) (action : α)
    (permitted : allowed state action)
    (stepped : step state action = some (next, events)) :
    Run step allowed start (trace ++ events) next :=
  run.snoc permitted stepped

/-- A run goes on with a run from the state that it has reached. -/
theorem Run.trans {final : σ} {later : List ε}
    (run : Run step allowed start trace state)
    (next : Run step allowed state later final) :
    Run step allowed start (trace ++ later) final := by
  induction next with
  | refl => simpa using run
  | snoc _ permitted stepped induction =>
      rw [← List.append_assoc]
      exact induction.snoc permitted stepped

/-- Execute a list of actions, refusing an action that is not allowed. -/
def exec (step : Step σ α ε) (allowed : σ → α → Prop)
    [∀ state action, Decidable (allowed state action)] :
    σ → List α → Option (σ × List ε)
  | state, [] => some (state, [])
  | state, action :: actions =>
      if allowed state action then
        match step state action with
        | none => none
        | some (next, events) =>
            (exec step allowed next actions).map
              (fun result => (result.1, events ++ result.2))
      else none

theorem Run.exec_append [∀ state action, Decidable (allowed state action)]
    {actions : List α} {final : σ} {later : List ε}
    (run : Run step allowed start trace state)
    (result : exec step allowed state actions = some (final, later)) :
    Run step allowed start (trace ++ later) final := by
  induction actions generalizing trace state later with
  | nil =>
      simp only [exec, Option.some.injEq, Prod.mk.injEq] at result
      obtain ⟨rfl, rfl⟩ := result
      simpa using run
  | cons action actions induction =>
      simp only [exec] at result
      split at result
      · rename_i permitted
        split at result
        · cases result
        · rename_i next events stepped
          obtain ⟨⟨last, rest⟩, tail, equality⟩ :=
            Option.map_eq_some_iff.mp result
          simp only [Prod.mk.injEq] at equality
          obtain ⟨rfl, rfl⟩ := equality
          have extended := induction (run.snoc permitted stepped) tail
          simpa [List.append_assoc] using extended
      · cases result

/-- A successful execution is a run. -/
theorem Run.of_exec [∀ state action, Decidable (allowed state action)]
    {actions : List α}
    (result : exec step allowed start actions = some (state, trace)) :
    Run step allowed start trace state := by
  have run : Run step allowed start ([] ++ trace) state :=
    Run.exec_append .refl result
  simpa using run

/-- A successful execution is a run; only the events have to be compared. -/
theorem Run.exists_of_exec [∀ state action, Decidable (allowed state action)]
    {actions : List α}
    (result : (exec step allowed start actions).map Prod.snd = some trace) :
    ∃ state, Run step allowed start trace state := by
  obtain ⟨⟨state, events⟩, executed, rfl⟩ := Option.map_eq_some_iff.mp result
  exact ⟨state, .of_exec executed⟩

/-- A successful execution is a run; only what is needed of its events and
of its last state has to be evaluated. -/
theorem Run.exists_both_of_exec
    [∀ state action, Decidable (allowed state action)]
    {good : List ε → σ → Prop} [∀ trace state, Decidable (good trace state)]
    (actions : List α)
    (result : (exec step allowed start actions).any
      (fun reached => decide (good reached.2 reached.1)) = true) :
    ∃ trace state, Run step allowed start trace state ∧ good trace state := by
  cases executed : exec step allowed start actions with
  | none =>
      rw [executed] at result
      cases result
  | some reached =>
      rw [executed] at result
      exact ⟨reached.2, reached.1, .of_exec executed,
        of_decide_eq_true result⟩

/-- A successful execution is a run; only what is needed of its last state
has to be evaluated. -/
theorem Run.exists_state_of_exec
    [∀ state action, Decidable (allowed state action)]
    {good : σ → Prop} [DecidablePred good] (actions : List α)
    (result : (exec step allowed start actions).any
      (fun reached => decide (good reached.1)) = true) :
    ∃ trace state, Run step allowed start trace state ∧ good state :=
  exists_both_of_exec actions result

end

/-- Every event of a trace is good after the events that precede it. -/
def EachEvent {ε : Type} (good : List ε → ε → Prop) :
    List ε → List ε → Prop
  | _, [] => True
  | before, event :: events =>
      good before event ∧ EachEvent good (before ++ [event]) events

section

variable {ε : Type} {good : List ε → ε → Prop}

@[simp] theorem eachEvent_nil (before : List ε) :
    EachEvent good before [] := trivial

@[simp] theorem eachEvent_cons (before : List ε) (event : ε)
    (events : List ε) :
    EachEvent good before (event :: events) ↔
      good before event ∧ EachEvent good (before ++ [event]) events :=
  Iff.rfl

theorem eachEvent_append (before first second : List ε) :
    EachEvent good before (first ++ second) ↔
      EachEvent good before first ∧
        EachEvent good (before ++ first) second := by
  induction first generalizing before with
  | nil => simp
  | cons event events induction =>
      simp [induction, and_assoc]

/-- An event of a trace is good after the events before it. -/
theorem eachEvent_mem {before events : List ε} {event : ε}
    (all : EachEvent good before events) (member : event ∈ events) :
    ∃ earlier later, events = earlier ++ event :: later ∧
      good (before ++ earlier) event := by
  obtain ⟨earlier, later, rfl⟩ := List.append_of_mem member
  have rest := ((eachEvent_append before earlier _).mp all).2
  exact ⟨earlier, later, rfl, rest.1⟩

theorem eachEvent_imp {weaker : List ε → ε → Prop} {before events : List ε}
    (implies : ∀ before event, good before event → weaker before event)
    (all : EachEvent good before events) :
    EachEvent weaker before events := by
  induction events generalizing before with
  | nil => trivial
  | cons event events induction =>
      exact ⟨implies before event all.1, induction all.2⟩

theorem eachEvent_of_forall {before events : List ε}
    (all : ∀ before, ∀ event ∈ events, good before event) :
    EachEvent good before events := by
  induction events generalizing before with
  | nil => trivial
  | cons event events induction =>
      refine ⟨all before event List.mem_cons_self, induction ?_⟩
      intro before later member
      exact all before later (List.mem_cons_of_mem _ member)

theorem eachEvent_map {ζ : Type} {image : ζ → ε} {events : List ζ}
    (before : List ζ) :
    EachEvent good (before.map image) (events.map image) ↔
      EachEvent (fun earlier event => good (earlier.map image) (image event))
        before events := by
  induction events generalizing before with
  | nil => exact Iff.rfl
  | cons event events induction =>
      rw [List.map_cons, eachEvent_cons, eachEvent_cons, ← induction]
      simp

/-- Events that are good from the start remain good if more events before
them cannot harm. -/
theorem eachEvent_of_mono {before events : List ε}
    (mono : ∀ before later event, good before event →
      good (before ++ later) event)
    (all : ∀ event ∈ events, good before event) :
    EachEvent good before events := by
  induction events generalizing before with
  | nil => trivial
  | cons event events induction =>
      refine ⟨all event List.mem_cons_self, induction ?_⟩
      intro later member
      exact mono before [event] later
        (all later (List.mem_cons_of_mem _ member))

instance eachEvent_decidable
    [∀ before event, Decidable (good before event)] :
    ∀ before events, Decidable (EachEvent good before events)
  | _, [] => .isTrue trivial
  | before, event :: events =>
      have := eachEvent_decidable (before ++ [event]) events
      inferInstanceAs (Decidable (good before event ∧
        EachEvent good (before ++ [event]) events))

end

end Transition
