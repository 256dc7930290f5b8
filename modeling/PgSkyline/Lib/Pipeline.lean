import Mathlib.Data.List.Basic

/-!
# Pipelines

The stages of a pipeline run one after the other, and each of them takes its input to one
of several outputs.  The output of the stages below is the input of those above.
-/

namespace Pipeline

universe u v

variable {N : Type u} {A : Type v}

/-- The stages take the input to the output. -/
def InTurn (step : N → A → A → Prop) : List N → A → A → Prop
  | [], input, out => out = input
  | stage :: above, input, out =>
      ∃ between, step stage input between ∧ InTurn step above between out

variable {step : N → A → A → Prop} {below above stages : List N} {input out : A}

theorem inTurn_append_iff :
    InTurn step (below ++ above) input out ↔
      ∃ between, InTurn step below input between ∧ InTurn step above between out := by
  induction below generalizing input with
  | nil => simp [InTurn]
  | cons stage below ih =>
      simp only [List.cons_append, InTurn, ih]
      constructor
      · rintro ⟨first, step, between, inTurn, rest⟩
        exact ⟨between, ⟨first, step, inTurn⟩, rest⟩
      · rintro ⟨between, ⟨first, step, inTurn⟩, rest⟩
        exact ⟨first, step, between, inTurn, rest⟩

@[simp]
theorem inTurn_singleton_iff {stage : N} :
    InTurn step [stage] input out ↔ step stage input out := by
  simp [InTurn]

/-- With more outputs of each stage there are more of the pipeline. -/
theorem InTurn.mono {step' : N → A → A → Prop}
    (more : ∀ stage input out, step stage input out → step' stage input out)
    (inTurn : InTurn step stages input out) : InTurn step' stages input out := by
  induction stages generalizing input with
  | nil => exact inTurn
  | cons stage above ih =>
      rcases inTurn with ⟨between, here, rest⟩
      exact ⟨between, more stage input between here, ih rest⟩

/-! ## Preconditions and postconditions -/

/-- Every output for an input with the precondition has the postcondition. -/
def Establishes (step : N → A → A → Prop) (pre post : A → Prop) (stages : List N) : Prop :=
  ∀ input out, pre input → InTurn step stages input out → post out

variable {pre post : A → Prop}

theorem Establishes.append {mid : A → Prop} (first : Establishes step pre mid below)
    (second : Establishes step mid post above) : Establishes step pre post (below ++ above) := by
  intro input out holds inTurn
  rcases inTurn_append_iff.mp inTurn with ⟨between, belowInTurn, rest⟩
  exact second between out (first input between holds belowInTurn) rest

/-- What every stage keeps the pipeline keeps. -/
theorem establishes_of_keeps
    (keeps : ∀ stage ∈ stages, ∀ input out, step stage input out → pre input → pre out) :
    Establishes step pre pre stages := by
  induction stages with
  | nil =>
      rintro input out holds rfl
      exact holds
  | cons stage above ih =>
      rintro input out holds ⟨between, here, inTurn⟩
      exact ih (fun other mem => keeps other (List.mem_cons_of_mem stage mem)) between out
        (keeps stage List.mem_cons_self input between here holds) inTurn

end Pipeline
