import Mathlib.Logic.Basic

/-! Deterministic labelled transition systems. A label carries everything the
environment decides, so one label has at most one successor; a label without a
successor is not enabled. Conditional runs restrict the labels a run may take
in each of its states. -/

set_option autoImplicit false

namespace CarrotRpc.Library

structure TransitionSystem (State Label : Type) where
  initial : State
  step : State → Label → Option State

namespace TransitionSystem

variable {State Label : Type} (system : TransitionSystem State Label)

/-- States of the runs whose every step is allowed in the state it starts from. -/
inductive ReachableVia (allowed : State → Label → Prop) : State → Prop where
  | initial : ReachableVia allowed system.initial
  | step {state next : State} {label : Label} :
      ReachableVia allowed state → allowed state label →
      system.step state label = some next → ReachableVia allowed next

/-- States of arbitrary runs. -/
def Reachable : State → Prop :=
  system.ReachableVia fun _ _ => True

/-- A predicate that holds initially and that allowed steps preserve holds in
every state of a conditional run. -/
theorem ReachableVia.invariant {allowed : State → Label → Prop} {Inv : State → Prop}
    (start : Inv system.initial)
    (preserved : ∀ state label next, Inv state → allowed state label →
      system.step state label = some next → Inv next)
    {state : State} (reached : system.ReachableVia allowed state) : Inv state := by
  induction reached with
  | initial => exact start
  | step _ permitted stepped ih => exact preserved _ _ _ ih permitted stepped

/-- The step case may also use any invariant that is already established. -/
theorem ReachableVia.invariant_with {allowed : State → Label → Prop}
    {Known Inv : State → Prop}
    (known : ∀ state, system.ReachableVia allowed state → Known state)
    (start : Inv system.initial)
    (preserved : ∀ state label next, Known state → Inv state → allowed state label →
      system.step state label = some next → Inv next)
    {state : State} (reached : system.ReachableVia allowed state) : Inv state := by
  induction reached with
  | initial => exact start
  | step before permitted stepped ih =>
      exact preserved _ _ _ (known _ before) ih permitted stepped

/-- The looser condition need only follow where the stricter one leads, and may use what
holds of its runs so far. -/
theorem ReachableVia.weaken_with {strict loose : State → Label → Prop}
    (weaker : ∀ state label next, system.ReachableVia strict state →
      system.ReachableVia loose state → strict state label →
      system.step state label = some next → loose state label)
    {state : State} (reached : system.ReachableVia strict state) :
    system.ReachableVia loose state := by
  induction reached with
  | initial => exact .initial
  | step before permitted stepped ih =>
      exact .step ih (weaker _ _ _ before ih permitted stepped) stepped

theorem ReachableVia.weaken {strict loose : State → Label → Prop}
    (weaker : ∀ state label, strict state label → loose state label)
    {state : State} (reached : system.ReachableVia strict state) :
    system.ReachableVia loose state :=
  reached.weaken_with system fun state label _ _ _ permitted _ => weaker state label permitted

theorem ReachableVia.reachable {allowed : State → Label → Prop} {state : State}
    (reached : system.ReachableVia allowed state) : system.Reachable state :=
  reached.weaken system fun _ _ _ => trivial

section Execution

variable (allowed : State → Label → Prop) [∀ state label, Decidable (allowed state label)]

/-- Execute a list of labels, checking the condition before every step. -/
def runVia : List Label → State → Option State
  | [], state => some state
  | label :: labels, state =>
      if allowed state label then (system.step state label).bind (runVia labels) else none

/-- The condition is met before every step of the list that can be executed. -/
def Along (allowed : State → Label → Prop) : List Label → State → Prop
  | [], _ => True
  | label :: labels, state =>
      allowed state label ∧ ∀ next, system.step state label = some next → Along allowed labels next

/-- Execute a list of labels. -/
def run : List Label → State → Option State :=
  system.runVia fun _ _ => True

variable {allowed}

/-- What is checked of every step may imply a condition that cannot be checked. -/
theorem ReachableVia.append {loose : State → Label → Prop} {labels : List Label}
    {state final : State}
    (implied : ∀ label ∈ labels, ∀ state, allowed state label → loose state label)
    (reached : system.ReachableVia loose state)
    (executed : system.runVia allowed labels state = some final) :
    system.ReachableVia loose final := by
  induction labels generalizing state with
  | nil =>
      simp only [runVia, Option.some.injEq] at executed
      exact executed ▸ reached
  | cons label labels ih =>
      simp only [runVia] at executed
      split at executed
      · next permitted =>
          cases stepped : system.step state label with
          | none => simp [stepped] at executed
          | some next =>
              rw [stepped] at executed
              have extended := ReachableVia.step reached
                (implied label List.mem_cons_self state permitted) stepped
              exact ih (fun label member => implied label (List.mem_cons_of_mem _ member)) extended
                executed
      · cases executed

/-- What is computed of the final state of an executed list holds of a state that a
run reaches. -/
theorem exists_reachableVia_of_implied {Observation : Type} {observe : State → Observation}
    {value : Observation} {loose : State → Label → Prop} {labels : List Label}
    (implied : ∀ label ∈ labels, ∀ state, allowed state label → loose state label)
    (observed : (system.runVia allowed labels system.initial).map observe = some value) :
    ∃ state, system.ReachableVia loose state ∧ observe state = value := by
  obtain ⟨state, executed, same⟩ := Option.map_eq_some_iff.mp observed
  exact ⟨state, .append system implied .initial executed, same⟩

theorem exists_reachableVia_of_run {Observation : Type} {observe : State → Observation}
    {value : Observation} {labels : List Label}
    (observed : (system.runVia allowed labels system.initial).map observe = some value) :
    ∃ state, system.ReachableVia allowed state ∧ observe state = value :=
  system.exists_reachableVia_of_implied (fun _ _ _ => id) observed

omit [∀ state label, Decidable (allowed state label)] in
theorem exists_reachable_of_run {Observation : Type} {observe : State → Observation}
    {value : Observation} {labels : List Label}
    (observed : (system.run labels system.initial).map observe = some value) :
    ∃ state, system.Reachable state ∧ observe state = value :=
  system.exists_reachableVia_of_run observed

end Execution

section Recording

variable {Record : Type} (blank : Record) (note : State → Label → Record → Record)

/-- The system with a record of its run, which no step looks at. -/
def recording : TransitionSystem (State × Record) Label where
  initial := (system.initial, blank)
  step config label :=
    (system.step config.1 label).map fun next => (next, note config.1 label config.2)

variable {system blank note}

/-- The record leaves out no run. -/
theorem exists_recording {state : State} (reached : system.Reachable state) :
    ∃ record, (system.recording blank note).Reachable (state, record) := by
  induction reached with
  | initial => exact ⟨blank, .initial⟩
  | @step before after label _ _ stepped ih =>
      obtain ⟨record, recorded⟩ := ih
      have extended : (system.recording blank note).step (before, record) label =
          some (after, note before label record) := by
        simp only [recording, stepped, Option.map_some]
      exact ⟨_, .step recorded trivial extended⟩

theorem reachable_of_recording {allowed : State → Label → Prop} {config : State × Record}
    (reached : (system.recording blank note).ReachableVia (fun config => allowed config.1)
      config) : system.ReachableVia allowed config.1 := by
  induction reached with
  | initial => exact .initial
  | @step before after label _ permitted stepped ih =>
      obtain ⟨next, moved, rfl⟩ := Option.map_eq_some_iff.mp stepped
      exact .step ih permitted moved

/-- An invariant that ties the state to the record of the run. -/
theorem recording_invariant {allowed : State → Label → Prop} {Inv : State → Record → Prop}
    (start : Inv system.initial blank)
    (preserved : ∀ state record label next, system.ReachableVia allowed state →
      Inv state record → allowed state label → system.step state label = some next →
      Inv next (note state label record))
    {config : State × Record}
    (reached : (system.recording blank note).ReachableVia (fun config => allowed config.1)
      config) : Inv config.1 config.2 := by
  let Known := fun config : State × Record => system.ReachableVia allowed config.1
  let Both := fun config : State × Record => Inv config.1 config.2
  have known : ∀ config, (system.recording blank note).ReachableVia
      (fun config => allowed config.1) config → Known config := fun _ => reachable_of_recording
  have begun : Both (system.recording blank note).initial := start
  refine reached.invariant_with (system.recording blank note) known begun ?_
  intro config label next reachable holds permitted stepped
  obtain ⟨after, moved, rfl⟩ := Option.map_eq_some_iff.mp stepped
  exact preserved config.1 config.2 label after reachable holds permitted moved

end Recording

end TransitionSystem

end CarrotRpc.Library
