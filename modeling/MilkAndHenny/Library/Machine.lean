import Mathlib.Data.List.Basic

/-! Machines that answer one input after another, and what holds throughout a run. -/

namespace MilkAndHenny.Library

variable {σ ι : Type} (next : ι → σ → σ) {other : ι → σ → Prop} {inputs : List ι} {state : σ}

def runFrom (state : σ) (inputs : List ι) : σ := inputs.foldl (fun state input => next input state) state

/-- A property of every state of the run, the first and the last included. -/
def Throughout (holds : σ → Prop) (state : σ) : List ι → Prop
  | [] => holds state
  | input :: inputs => holds state ∧ Throughout holds (next input state) inputs

/-- A condition that every input meets in the state that it finds. -/
def EachStep (meets : ι → σ → Prop) (state : σ) : List ι → Prop
  | [] => True
  | input :: inputs => meets input state ∧ EachStep meets (next input state) inputs

variable {next} {holds : σ → Prop} {meets : ι → σ → Prop}

instance EachStep.decidable [∀ input state, Decidable (meets input state)] :
    (state : σ) → (inputs : List ι) → Decidable (EachStep next meets state inputs)
  | _, [] => .isTrue trivial
  | state, input :: inputs =>
    have := EachStep.decidable (next input state) inputs
    inferInstanceAs (Decidable (meets input state ∧ EachStep next meets (next input state) inputs))

theorem Throughout.first {state : σ} {inputs : List ι} (throughout : Throughout next holds state inputs) : holds state := by
  cases inputs with
  | nil => exact throughout
  | cons => exact throughout.1

theorem Throughout.last {state : σ} {inputs : List ι} (throughout : Throughout next holds state inputs) :
    holds (runFrom next state inputs) := by
  induction inputs generalizing state with
  | nil => exact throughout
  | cons input inputs ih => exact ih throughout.2

/-- Where one step within the invariant keeps the property exactly under its condition, a run
that starts with both keeps the property exactly when each of its steps meets the condition. -/
theorem throughout_iff_within {invariant : σ → Prop} {allowed : ι → σ → Prop}
    (step : ∀ {state input}, invariant state → holds state → allowed input state →
      invariant (next input state) ∧ (holds (next input state) ↔ meets input state))
    {state : σ} {inputs : List ι} (within : invariant state) (start : holds state)
    (allows : EachStep next allowed state inputs) :
    Throughout next holds state inputs ↔ EachStep next meets state inputs := by
  induction inputs generalizing state with
  | nil => exact ⟨fun _ => trivial, fun _ => start⟩
  | cons input inputs ih =>
    obtain ⟨inside, first⟩ := step within start allows.1
    constructor
    · intro throughout
      have kept : holds (next input state) := throughout.2.first
      exact ⟨first.mp kept, (ih inside kept allows.2).mp throughout.2⟩
    · intro meets
      have kept := first.mpr meets.1
      exact ⟨start, (ih inside kept allows.2).mpr meets.2⟩

theorem EachStep.last {state : σ} {inputs : List ι} {input : ι} (each : EachStep next meets state (inputs ++ [input])) :
    meets input (runFrom next state inputs) := by
  induction inputs generalizing state with
  | nil => exact each.1
  | cons first inputs ih => exact ih each.2

theorem runFrom_append {inputs others : List ι} :
    runFrom next state (inputs ++ others) = runFrom next (runFrom next state inputs) others := List.foldl_append

theorem EachStep.imp (implies : ∀ input state, meets input state → other input state)
    (each : EachStep next meets state inputs) : EachStep next other state inputs := by
  induction inputs generalizing state with
  | nil => trivial
  | cons input inputs ih => exact ⟨implies input state each.1, ih each.2⟩

theorem EachStep.and (each : EachStep next meets state inputs) (others : EachStep next other state inputs) :
    EachStep next (fun input state => meets input state ∧ other input state) state inputs := by
  induction inputs generalizing state with
  | nil => trivial
  | cons input inputs ih => exact ⟨⟨each.1, others.1⟩, ih each.2 others.2⟩

theorem EachStep.append {state : σ} {inputs others : List ι} :
    EachStep next meets state (inputs ++ others) ↔
      EachStep next meets state inputs ∧ EachStep next meets (runFrom next state inputs) others := by
  induction inputs generalizing state with
  | nil => exact (iff_of_eq (true_and _)).symm
  | cons input inputs ih => exact (and_congr_right fun _ => ih).trans and_assoc.symm

theorem EachStep.shows {invariant : σ → Prop} {shows : ι → σ → Prop}
    (step : ∀ {state input}, invariant state → meets input state → invariant (next input state) ∧ shows input state)
    {state : σ} {inputs : List ι} (start : invariant state) (each : EachStep next meets state inputs) :
    Throughout next invariant state inputs ∧ EachStep next shows state inputs := by
  induction inputs generalizing state with
  | nil => exact ⟨start, trivial⟩
  | cons input inputs ih =>
    obtain ⟨kept, shown⟩ := step start each.1
    obtain ⟨throughout, others⟩ := ih kept each.2
    exact ⟨⟨start, throughout⟩, shown, others⟩

theorem Throughout.imp {other : σ → Prop} (implies : ∀ state, holds state → other state)
    (throughout : Throughout next holds state inputs) : Throughout next other state inputs := by
  induction inputs generalizing state with
  | nil => exact implies state throughout
  | cons input inputs ih => exact ⟨implies state throughout.1, ih throughout.2⟩

theorem Throughout.append {state : σ} {inputs others : List ι} :
    Throughout next holds state (inputs ++ others) ↔
      Throughout next holds state inputs ∧ Throughout next holds (runFrom next state inputs) others := by
  induction inputs generalizing state with
  | nil => exact ⟨fun throughout => ⟨throughout.first, throughout⟩, And.right⟩
  | cons input inputs ih => exact (and_congr_right fun _ => ih).trans and_assoc.symm

theorem EachStep.always {allowed : ι → Prop} {state : σ} {inputs : List ι} (allows : ∀ input ∈ inputs, allowed input) :
    EachStep next (fun input _ => allowed input) state inputs := by
  induction inputs generalizing state with
  | nil => trivial
  | cons input inputs ih =>
    exact ⟨allows input (List.mem_cons_self ..), ih fun other mem => allows other (List.mem_cons_of_mem input mem)⟩

theorem EachStep.iff_within (inside : σ → Prop)
    (step : ∀ {state input}, inside state → (meets input state ↔ other input state) ∧ (other input state → inside (next input state)))
    (start : inside state) : EachStep next meets state inputs ↔ EachStep next other state inputs := by
  induction inputs generalizing state with
  | nil => rfl
  | cons input inputs ih =>
    obtain ⟨same, stays⟩ := @step state input start
    exact ⟨fun each => ⟨same.mp each.1, (ih (stays (same.mp each.1))).mp each.2⟩,
      fun each => ⟨same.mpr each.1, (ih (stays each.1)).mpr each.2⟩⟩

/-- Where one step keeps the property exactly under its condition, a run that starts
with the property keeps it exactly when each of its steps meets the condition. -/
theorem throughout_iff {allowed : ι → Prop}
    (step : ∀ {state input}, holds state → allowed input → (holds (next input state) ↔ meets input state))
    {state : σ} {inputs : List ι} (start : holds state) (allows : ∀ input ∈ inputs, allowed input) :
    Throughout next holds state inputs ↔ EachStep next meets state inputs :=
  @throughout_iff_within σ ι next holds meets (fun _ => True) (fun input _ => allowed input)
    (fun _ kept allowed => ⟨trivial, step kept allowed⟩) state inputs trivial start (EachStep.always allows)

theorem runFrom_through {τ : Type} {wider : ι → τ → τ} {sees : τ → σ}
    (follows : ∀ input state, sees (wider input state) = next input (sees state))
    (state : τ) (inputs : List ι) : sees (runFrom wider state inputs) = runFrom next (sees state) inputs := by
  induction inputs generalizing state with
  | nil => rfl
  | cons input inputs ih =>
    have rest := ih (wider input state)
    rw [follows] at rest
    exact rest

theorem EachStep.through {τ : Type} {wider : ι → τ → τ} {sees : τ → σ}
    (follows : ∀ input state, sees (wider input state) = next input (sees state))
    {state : τ} {inputs : List ι} (each : EachStep next meets (sees state) inputs) :
    EachStep wider (fun input state => meets input (sees state)) state inputs := by
  induction inputs generalizing state with
  | nil => trivial
  | cons input inputs ih =>
    refine ⟨each.1, ih ?_⟩
    rw [follows]
    exact each.2

end MilkAndHenny.Library
