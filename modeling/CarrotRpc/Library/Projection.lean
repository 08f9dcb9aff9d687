import CarrotRpc.Library.TransitionSystem

/-! What a part of a system sees of its runs. A step is an event of the part, or it leaves
the view of the part as it is; where equal views and equal events lead to equal views,
runs with the same events end in the same view. -/

set_option autoImplicit false

namespace CarrotRpc.Library

structure Projection (State Label View Event : Type) where
  view : State → View
  event : Label → Option Event

namespace Projection

variable {State Label View Event : Type} {system : TransitionSystem State Label}

/-- The part is there in some states and from then on, and only its events touch it. -/
structure Local (system : TransitionSystem State Label)
    (projection : Projection State Label View Event) (present : State → Prop) : Prop where
  stays : ∀ state label next, system.Reachable state → present state →
    system.step state label = some next → present next
  frame : ∀ state label next, system.Reachable state → present state →
    projection.event label = none → system.step state label = some next →
    projection.view next = projection.view state

/-- One event does the same to two parts with the same view. -/
def Agree (system : TransitionSystem State Label)
    (first second : Projection State Label View Event) (here there : State → Prop) : Prop :=
  ∀ state other label move event next after, system.Reachable state → system.Reachable other →
    here state → there other → first.view state = second.view other →
    first.event label = some event → second.event move = some event →
    system.step state label = some next → system.step other move = some after →
    first.view next = second.view after

theorem run_cons {label : Label} {labels : List Label} {state final : State} :
    system.run (label :: labels) state = some final ↔
      ∃ next, system.step state label = some next ∧ system.run labels next = some final := by
  simp only [TransitionSystem.run, TransitionSystem.runVia, if_true, Option.bind_eq_some_iff]

theorem run_append {before after : List Label} {state final : State}
    (ran : system.run (before ++ after) state = some final) :
    ∃ middle, system.run before state = some middle ∧ system.run after middle = some final := by
  induction before generalizing state with
  | nil => exact ⟨state, rfl, ran⟩
  | cons label labels ih =>
      obtain ⟨next, stepped, rest⟩ := run_cons.mp ran
      obtain ⟨middle, reached, last⟩ := ih rest
      exact ⟨middle, run_cons.mpr ⟨next, stepped, reached⟩, last⟩

variable {first second : Projection State Label View Event} {here there : State → Prop}

/-- A run without events of the part. -/
theorem Local.silent (isLocal : Local system first here) {labels : List Label}
    {state final : State} (reached : system.Reachable state) (present : here state)
    (silent : ∀ label ∈ labels, first.event label = none)
    (ran : system.run labels state = some final) :
    system.Reachable final ∧ here final ∧ first.view final = first.view state := by
  induction labels generalizing state with
  | nil =>
      cases ran
      exact ⟨reached, present, rfl⟩
  | cons label labels ih =>
      obtain ⟨next, stepped, rest⟩ := run_cons.mp ran
      have same := isLocal.frame state label next reached present
        (silent label List.mem_cons_self) stepped
      obtain ⟨reachedThen, presentThen, view⟩ := ih (.step reached trivial stepped)
        (isLocal.stays state label next reached present stepped)
        (fun label member => silent label (List.mem_cons_of_mem _ member)) rest
      exact ⟨reachedThen, presentThen, view.trans same⟩

/-- Two parts with the same view that go through the same events keep the same view,
whatever else happens in the two runs. -/
theorem views_of_history (firstLocal : Local system first here)
    (secondLocal : Local system second there) (agree : Agree system first second here there)
    {labels moves : List Label} {state other final last : State}
    (reached : system.Reachable state) (otherReached : system.Reachable other)
    (present : here state) (otherPresent : there other)
    (same : first.view state = second.view other)
    (ran : system.run labels state = some final) (moved : system.run moves other = some last)
    (history : labels.filterMap first.event = moves.filterMap second.event) :
    first.view final = second.view last := by
  induction labels generalizing state other moves with
  | nil =>
      cases ran
      have silent := List.filterMap_eq_nil_iff.mp history.symm
      exact same.trans (secondLocal.silent otherReached otherPresent silent moved).2.2.symm
  | cons label labels ih =>
      obtain ⟨next, stepped, rest⟩ := run_cons.mp ran
      have nextReached : system.Reachable next := .step reached trivial stepped
      have nextPresent := firstLocal.stays state label next reached present stepped
      cases happens : first.event label with
      | none =>
          have framed := firstLocal.frame state label next reached present happens stepped
          rw [List.filterMap_cons_none happens] at history
          exact ih nextReached otherReached nextPresent otherPresent (framed.trans same) rest moved
            history
      | some event =>
          rw [List.filterMap_cons_some happens] at history
          obtain ⟨before, move, after, rfl, silent, told, later⟩ :=
            List.filterMap_eq_cons_iff.mp history.symm
          obtain ⟨middle, waited, onward⟩ := run_append moved
          obtain ⟨middleReached, middlePresent, kept⟩ :=
            secondLocal.silent otherReached otherPresent silent waited
          obtain ⟨then', advanced, remainder⟩ := run_cons.mp onward
          have equal := agree state middle label move event next then' reached middleReached present
            middlePresent (same.trans kept.symm) happens told stepped advanced
          exact ih nextReached (.step middleReached trivial advanced) nextPresent
            (secondLocal.stays middle move then' middleReached middlePresent advanced) equal rest
            remainder later.symm

end Projection

end CarrotRpc.Library
