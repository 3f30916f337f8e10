import Mathlib.Data.List.Basic

/-!
# Runs of a machine

A machine is a total step function from a state and an input to the next state. A run is the
list of inputs it is given. `Heeds` says that every input of a run is acceptable in the state it
is given to, and `Heeds.invariant` is the induction over runs: what one acceptable step keeps, a
run keeps.
-/

namespace KeelS2.Lib

variable {State Input : Type*} (step : State → Input → State)

/-- The state a run ends in. -/
def run (start : State) (inputs : List Input) : State :=
  inputs.foldl step start

@[simp] theorem run_nil (start : State) : run step start [] = start := rfl

@[simp] theorem run_cons (start : State) (input : Input) (inputs : List Input) :
    run step start (input :: inputs) = run step (step start input) inputs := rfl

theorem run_append (start : State) (first second : List Input) :
    run step start (first ++ second) = run step (run step start first) second :=
  List.foldl_append

/-- Every input of the run is acceptable where it comes. -/
def Heeds (acceptable : State → Input → Prop) : State → List Input → Prop
  | _, [] => True
  | start, input :: inputs =>
    acceptable start input ∧ Heeds acceptable (step start input) inputs

variable {step} {acceptable : State → Input → Prop}

instance decidableHeeds [∀ state input, Decidable (acceptable state input)] :
    ∀ start inputs, Decidable (Heeds step acceptable start inputs)
  | _, [] => .isTrue trivial
  | start, input :: inputs =>
    have := decidableHeeds (step start input) inputs
    inferInstanceAs (Decidable (acceptable start input ∧
      Heeds step acceptable (step start input) inputs))

@[simp] theorem heeds_nil (start : State) : Heeds step acceptable start [] := trivial

@[simp] theorem heeds_cons {start : State} {input : Input} {inputs : List Input} :
    Heeds step acceptable start (input :: inputs) ↔
      acceptable start input ∧ Heeds step acceptable (step start input) inputs := Iff.rfl

theorem heeds_append {start : State} {first second : List Input} :
    Heeds step acceptable start (first ++ second) ↔
      Heeds step acceptable start first ∧
        Heeds step acceptable (run step start first) second := by
  induction first generalizing start with
  | nil => simp [Heeds]
  | cons input inputs ih =>
    rw [List.cons_append, heeds_cons, heeds_cons, ih, run_cons, and_assoc]

theorem Heeds.and {further : State → Input → Prop} {start : State} {inputs : List Input}
    (hfirst : Heeds step acceptable start inputs) (hsecond : Heeds step further start inputs) :
    Heeds step (fun state input => acceptable state input ∧ further state input) start inputs := by
  induction inputs generalizing start with
  | nil => trivial
  | cons input inputs ih =>
    exact ⟨⟨hfirst.1, hsecond.1⟩, ih hfirst.2 hsecond.2⟩

theorem heeds_trivial (start : State) (inputs : List Input) :
    Heeds step (fun _ _ => True) start inputs := by
  induction inputs generalizing start with
  | nil => trivial
  | cons input inputs ih => exact ⟨trivial, ih _⟩

theorem Heeds.invariant {Inv : State → Prop}
    (hstep : ∀ state input, Inv state → acceptable state input → Inv (step state input))
    {start : State} (hstart : Inv start) {inputs : List Input}
    (hheeds : Heeds step acceptable start inputs) : Inv (run step start inputs) := by
  induction inputs generalizing start with
  | nil => exact hstart
  | cons input inputs ih =>
    rw [run_cons]
    exact ih (hstep start input hstart hheeds.1) hheeds.2

theorem Heeds.conclude {Inv : State → Prop} {further : State → Input → Prop}
    (hstep : ∀ state input, Inv state → acceptable state input → Inv (step state input))
    (hfurther : ∀ state input, Inv state → acceptable state input → further state input)
    {start : State} (hstart : Inv start) {inputs : List Input}
    (hheeds : Heeds step acceptable start inputs) : Heeds step further start inputs := by
  induction inputs generalizing start with
  | nil => trivial
  | cons input inputs ih =>
    exact ⟨hfurther start input hstart hheeds.1, ih (hstep start input hstart hheeds.1) hheeds.2⟩

theorem run_invariant {Inv : State → Prop}
    (hstep : ∀ state input, Inv state → Inv (step state input))
    {start : State} (hstart : Inv start) (inputs : List Input) :
    Inv (run step start inputs) :=
  Heeds.invariant (fun state input hstate _ => hstep state input hstate) hstart
    (heeds_trivial start inputs)

end KeelS2.Lib
