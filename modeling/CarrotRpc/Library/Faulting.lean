import Mathlib.Data.List.Forall2

/-! Computations over a state that may end in a fault. The state a fault is found
in is kept. Specifications have one postcondition for results and one for faults. -/

set_option autoImplicit false

namespace CarrotRpc.Library

def Faulting (State Fault Value : Type) : Type := State → State × Except Fault Value

namespace Faulting

variable {State Part Fault Value Result : Type}

instance : Monad (Faulting State Fault) where
  pure value state := (state, .ok value)
  bind first next state :=
    match first state with
    | (state, .ok value) => next value state
    | (state, .error fault) => (state, .error fault)

def fail (fault : Fault) : Faulting State Fault Value := fun state => (state, .error fault)

def ensure (condition : Bool) (fault : Fault) : Faulting State Fault Unit :=
  if condition then pure () else fail fault

/-- Act on a part of the state. -/
def zoom (get : State → Part) (set : State → Part → State) (inner : Faulting Part Fault Value) :
    Faulting State Fault Value :=
  fun state => (set state (inner (get state)).1, (inner (get state)).2)

/-- The same computation, with other faults. -/
def relabel {Other : Type} (change : Fault → Other) (action : Faulting State Fault Value) :
    Faulting State Other Value :=
  fun state => ((action state).1, (action state).2.mapError change)

/-- One computation after the other, with the values of all of them. -/
def each {Turn : Type} (action : Turn → Faulting State Fault Value) :
    List Turn → Faulting State Fault (List Value)
  | [] => pure []
  | turn :: turns => do
      let value ← action turn
      let values ← each action turns
      pure (value :: values)

theorem pure_apply (value : Value) (state : State) :
    (pure value : Faulting State Fault Value) state = (state, .ok value) := rfl

theorem apply_eq {action : Faulting State Fault Value} {state : State}
    {result : Except Fault Value} (ended : (action state).2 = result) :
    action state = ((action state).1, result) := Prod.ext rfl ended

theorem bind_of_ok {first : Faulting State Fault Value} {state next : State} {value : Value}
    (rest : Value → Faulting State Fault Result) (ended : first state = (next, .ok value)) :
    (first >>= rest) state = rest value next := by
  simp only [bind, ended]

theorem bind_of_error {first : Faulting State Fault Value} {state next : State} {fault : Fault}
    (rest : Value → Faulting State Fault Result) (ended : first state = (next, .error fault)) :
    (first >>= rest) state = (next, .error fault) := by
  simp only [bind, ended]

theorem bind_eq_ok {first : Faulting State Fault Value} {rest : Value → Faulting State Fault Result}
    {state final : State} {result : Result} (ended : (first >>= rest) state = (final, .ok result)) :
    ∃ value next, first state = (next, .ok value) ∧ rest value next = (final, .ok result) := by
  rcases run : first state with ⟨next, fault | value⟩
  · rw [bind_of_error rest run] at ended
    cases ended
  · rw [bind_of_ok rest run] at ended
    exact ⟨value, next, rfl, ended⟩

theorem bind_assoc {Last : Type} (first : Faulting State Fault Value)
    (second : Value → Faulting State Fault Result) (third : Result → Faulting State Fault Last) :
    (first >>= second) >>= third = first >>= fun value => second value >>= third := by
  funext state
  rcases run : first state with ⟨next, fault | value⟩
  · rw [bind_of_error _ run, bind_of_error _ (bind_of_error _ run)]
  · rw [bind_of_ok _ run]
    rcases after : second value next with ⟨last, fault | result⟩
    · rw [bind_of_error _ after, bind_of_error _ ((bind_of_ok _ run).trans after)]
    · rw [bind_of_ok _ after, bind_of_ok _ ((bind_of_ok _ run).trans after)]

theorem pure_bind (value : Value) (rest : Value → Faulting State Fault Result) :
    pure value >>= rest = rest value := rfl

theorem bind_pure (first : Faulting State Fault Value) : (first >>= fun value => pure value) = first := by
  funext state
  rcases run : first state with ⟨next, fault | value⟩
  · rw [bind_of_error _ run]
  · rw [bind_of_ok _ run, pure_apply]

theorem fst_bind_pure (first : Faulting State Fault Value) (change : Value → Result) (state : State) :
    ((first >>= fun value => pure (change value)) state).1 = (first state).1 := by
  rcases run : first state with ⟨next, fault | value⟩
  · rw [bind_of_error _ run]
  · rw [bind_of_ok _ run, pure_apply]

theorem snd_bind_pure_eq_error_iff (first : Faulting State Fault Value) (change : Value → Result)
    (state : State) (fault : Fault) :
    ((first >>= fun value => pure (change value)) state).2 = .error fault ↔
      (first state).2 = .error fault := by
  rcases run : first state with ⟨next, other | value⟩
  · rw [bind_of_error _ run]
    simp only [Except.error.injEq]
  · rw [bind_of_ok _ run, pure_apply]
    simp only [reduceCtorEq]

/-- Acting on a part step by step is acting on it once. -/
theorem zoom_bind {get : State → Part} {set : State → Part → State}
    (get_set : ∀ state part, get (set state part) = part)
    (set_set : ∀ state part other, set (set state part) other = set state other)
    (first : Faulting Part Fault Value) (rest : Value → Faulting Part Fault Result) :
    (zoom get set (first >>= rest) : Faulting State Fault Result) =
      zoom get set first >>= fun value => zoom get set (rest value) := by
  funext state
  rcases run : first (get state) with ⟨next, fault | value⟩
  · have ended : zoom get set first state = (set state next, .error fault) := by
      simp only [zoom, run]
    rw [bind_of_error _ ended, zoom, bind_of_error _ run]
  · have ended : zoom get set first state = (set state next, .ok value) := by
      simp only [zoom, run]
    rw [bind_of_ok _ ended, zoom, bind_of_ok _ run, zoom, get_set, set_set]

theorem ensure_true (fault : Fault) (state : State) :
    (ensure true fault : Faulting State Fault Unit) state = (state, .ok ()) := rfl

theorem ensure_false (fault : Fault) (state : State) :
    (ensure false fault : Faulting State Fault Unit) state = (state, .error fault) := rfl

theorem relabel_of_ok {Other : Type} (change : Fault → Other)
    {action : Faulting State Fault Value} {state next : State} {value : Value}
    (ended : action state = (next, .ok value)) :
    relabel change action state = (next, .ok value) := by
  simp only [relabel, ended, Except.mapError]

theorem relabel_of_error {Other : Type} (change : Fault → Other)
    {action : Faulting State Fault Value} {state next : State} {fault : Fault}
    (ended : action state = (next, .error fault)) :
    relabel change action state = (next, .error (change fault)) := by
  simp only [relabel, ended, Except.mapError]

/-- From states with `pre`, results come with `post` and faults with `err`. -/
def Spec (pre : State → Prop) (action : Faulting State Fault Value)
    (post : Value → State → Prop) (err : Fault → State → Prop) : Prop :=
  ∀ state, pre state →
    match action state with
    | (state, .ok value) => post value state
    | (state, .error fault) => err fault state

section Rules

variable {pre : State → Prop} {action : Faulting State Fault Value}
  {post : Value → State → Prop} {err : Fault → State → Prop}

theorem Spec.ok (spec : Spec pre action post err) {state next : State} {value : Value}
    (holds : pre state) (ended : action state = (next, .ok value)) : post value next := by
  have result := spec state holds
  rw [ended] at result
  exact result

theorem Spec.error (spec : Spec pre action post err) {state next : State} {fault : Fault}
    (holds : pre state) (ended : action state = (next, .error fault)) : err fault next := by
  have result := spec state holds
  rw [ended] at result
  exact result

theorem Spec.bind {middle : Value → State → Prop} {rest : Value → Faulting State Fault Result}
    {post : Result → State → Prop} (first : Spec pre action middle err)
    (second : ∀ value, Spec (middle value) (rest value) post err) :
    Spec pre (action >>= rest) post err := by
  intro state holds
  rcases ended : action state with ⟨next, fault | value⟩
  · rw [bind_of_error rest ended]
    exact first.error holds ended
  · rw [bind_of_ok rest ended]
    exact second value next (first.ok holds ended)

end Rules

/-- When every computation deals with the first of some items, together they deal with
all of them. -/
theorem each_of_step {Item Turn : Type} {action : Turn → Faulting State Fault Value}
    (facing : List Item → State → Prop) {usable : Turn → Prop} {value : Item → Value}
    (step : ∀ item items turn state, usable turn → facing (item :: items) state →
      ∃ next, action turn state = (next, .ok (value item)) ∧ facing items next)
    {items : List Item} {turns : List Turn} {state : State}
    (enough : turns.length = items.length) (each_usable : ∀ turn ∈ turns, usable turn)
    (start : facing items state) :
    ∃ next, each action turns state = (next, .ok (items.map value)) ∧ facing [] next := by
  induction items generalizing turns state with
  | nil =>
      obtain rfl : turns = [] := List.length_eq_zero_iff.mp enough
      exact ⟨state, rfl, start⟩
  | cons item items ih =>
      cases turns with
      | nil => cases enough
      | cons turn turns =>
          obtain ⟨middle, ran, faced⟩ :=
            step item items turn state (each_usable turn List.mem_cons_self) start
          obtain ⟨next, others, ended⟩ := ih (Nat.succ.inj enough)
            (fun other member => each_usable other (List.mem_cons_of_mem _ member)) faced
          refine ⟨next, ?_, ended⟩
          rw [each, bind_of_ok _ ran, bind_of_ok _ others]
          rfl

/-- The values up to the first fault, and that fault. -/
def trace {Turn : Type} (action : Turn → Faulting State Fault Value) :
    List Turn → State → List Value × Option Fault
  | [], _ => ([], none)
  | turn :: turns, state =>
      match action turn state with
      | (state, .ok value) => ((trace action turns state).map (value :: ·) id)
      | (_, .error fault) => ([], some fault)

/-- The same of items whose results depend on nothing else. -/
def results {Item : Type} (result : Item → Except Fault Value) : List Item → List Value × Option Fault
  | [] => ([], none)
  | item :: items =>
      match result item with
      | .ok value => ((results result items).map (value :: ·) id)
      | .error fault => ([], some fault)

theorem trace_of_step {Item Turn : Type} {action : Turn → Faulting State Fault Value}
    (facing : List Item → State → Prop) {usable : Item → Turn → Prop}
    {result : Item → Except Fault Value}
    (step : ∀ item items turn state, usable item turn → facing (item :: items) state →
      ∃ next, action turn state = (next, result item) ∧ facing items next)
    {items : List Item} {turns : List Turn} {state : State}
    (paired : List.Forall₂ usable items turns) (start : facing items state) :
    trace action turns state = results result items := by
  induction paired generalizing state with
  | nil => rfl
  | @cons item turn items turns used _ ih =>
      obtain ⟨next, ran, faced⟩ := step item items turn state used start
      rw [trace, results, ran]
      cases result item with
      | error fault => rfl
      | ok value => simp only [ih faced]

/-- Whatever the computation comes to, `Inv` still holds. -/
def Keeps (Inv : State → Prop) (action : Faulting State Fault Value) : Prop :=
  Spec Inv action (fun _ => Inv) (fun _ => Inv)

section Keeping

variable {Inv : State → Prop}

theorem Keeps.state {action : Faulting State Fault Value} (keeps : Keeps Inv action)
    {state : State} (holds : Inv state) : Inv (action state).1 := by
  rcases ended : action state with ⟨next, fault | value⟩
  · exact Spec.error keeps holds ended
  · exact Spec.ok keeps holds ended

theorem Keeps.of_state {action : Faulting State Fault Value}
    (keeps : ∀ state, Inv state → Inv (action state).1) : Keeps Inv action := by
  intro state holds
  have kept := keeps state holds
  rcases ended : action state with ⟨next, fault | value⟩
  · rw [ended] at kept
    exact kept
  · rw [ended] at kept
    exact kept

theorem Keeps.pure {value : Value} :
    Keeps Inv (Pure.pure value : Faulting State Fault Value) := fun _ holds => holds

theorem Keeps.fail {fault : Fault} :
    Keeps Inv (Faulting.fail fault : Faulting State Fault Value) := fun _ holds => holds

theorem Keeps.ensure {condition : Bool} {fault : Fault} :
    Keeps Inv (Faulting.ensure condition fault : Faulting State Fault Unit) := by
  cases condition with
  | true => exact Keeps.pure
  | false => exact Keeps.fail

theorem Keeps.bind {first : Faulting State Fault Value}
    {rest : Value → Faulting State Fault Result} (keeps : Keeps Inv first)
    (others : ∀ value, Keeps Inv (rest value)) : Keeps Inv (first >>= rest) :=
  Spec.bind keeps others

theorem Keeps.relabel {Other : Type} {change : Fault → Other}
    {action : Faulting State Fault Value} (keeps : Keeps Inv action) :
    Keeps Inv (relabel change action) :=
  .of_state fun _ holds => keeps.state holds

theorem Keeps.zoom {get : State → Part} {set : State → Part → State}
    {PartInv : Part → Prop} {inner : Faulting Part Fault Value}
    (reads : ∀ state, Inv state → PartInv (get state))
    (writes : ∀ state part, Inv state → PartInv part → Inv (set state part))
    (keeps : Keeps PartInv inner) : Keeps Inv (zoom get set inner) :=
  .of_state fun state holds => writes state _ holds (keeps.state (reads state holds))

end Keeping

/-- Every fault the computation may end in is one of these. -/
def RaisesOnly (allowed : Fault → Prop) (action : Faulting State Fault Value) : Prop :=
  Spec (fun _ => True) action (fun _ _ => True) (fun fault _ => allowed fault)

section Raising

variable {allowed : Fault → Prop} {action : Faulting State Fault Value}

theorem RaisesOnly.fault {state next : State} {fault : Fault} (raises : RaisesOnly allowed action)
    (ended : action state = (next, .error fault)) : allowed fault :=
  Spec.error raises trivial ended

theorem RaisesOnly.of_fault
    (raises : ∀ {state next : State} {fault}, action state = (next, .error fault) → allowed fault) :
    RaisesOnly allowed action := by
  intro state _
  rcases ended : action state with ⟨next, fault | value⟩
  · exact raises ended
  · trivial

theorem RaisesOnly.pure {value : Value} :
    RaisesOnly allowed (Pure.pure value : Faulting State Fault Value) := fun _ _ => trivial

theorem RaisesOnly.fail {fault : Fault} (holds : allowed fault) :
    RaisesOnly allowed (Faulting.fail fault : Faulting State Fault Value) := fun _ _ => holds

theorem RaisesOnly.ensure {condition : Bool} {fault : Fault}
    (holds : condition = false → allowed fault) :
    RaisesOnly allowed (Faulting.ensure condition fault : Faulting State Fault Unit) := by
  cases condition with
  | true => exact RaisesOnly.pure
  | false => exact RaisesOnly.fail (holds rfl)

theorem RaisesOnly.bind {rest : Value → Faulting State Fault Result}
    (raises : RaisesOnly allowed action) (others : ∀ value, RaisesOnly allowed (rest value)) :
    RaisesOnly allowed (action >>= rest) :=
  Spec.bind raises others

theorem RaisesOnly.zoom {get : State → Part} {set : State → Part → State}
    {inner : Faulting Part Fault Value} (raises : RaisesOnly allowed inner) :
    RaisesOnly allowed (zoom get set inner) :=
  .of_fault fun ended => raises.fault (apply_eq (congrArg Prod.snd ended))

end Raising

end Faulting

end CarrotRpc.Library
