import TracerConfig.Source

/-!
# Steps in changing surroundings

Between two things that are done the surroundings may become any others: variables get set or
cleared, files come and go. So a run is a list of steps, each with the surroundings that it meets.

Main definitions:
* `Step`: something done in surroundings.
* `Step.lastMet`: the surroundings of the last step of a kind, with `lastMet_concat`.
-/

namespace TracerConfig

/-- Something done, and the surroundings it was done in. -/
structure Step (α : Type) where
  surroundings : Surroundings
  action : α

namespace Step

variable {α : Type}

/-- The surroundings of the last step that did something of a kind, or others if there is no such
step. -/
def lastMet (kind : α → Bool) (otherwise : Surroundings) (steps : List (Step α)) : Surroundings :=
  ((steps.filter fun x => kind x.action).map (·.surroundings)).getLastD otherwise

theorem lastMet_concat (kind : α → Bool) (otherwise : Surroundings) (steps : List (Step α))
    (x : Step α) :
    lastMet kind otherwise (steps ++ [x]) =
      if kind x.action then x.surroundings else lastMet kind otherwise steps := by
  by_cases h : kind x.action <;> simp [lastMet, h]

/-- Without such a step it is the others. -/
theorem lastMet_of_forall {kind : α → Bool} {steps : List (Step α)}
    (h : ∀ x ∈ steps, kind x.action = false) (otherwise : Surroundings) :
    lastMet kind otherwise steps = otherwise := by
  have hnil : (steps.filter fun x => kind x.action) = [] := by simpa using h
  rw [lastMet, hnil]
  rfl

/-- Kinds that agree on the steps find the same one. -/
theorem lastMet_congr {kind kind' : α → Bool} {steps : List (Step α)}
    (h : ∀ x ∈ steps, kind x.action = kind' x.action) (otherwise : Surroundings) :
    lastMet kind otherwise steps = lastMet kind' otherwise steps := by
  rw [lastMet, List.filter_congr h, lastMet]

end Step

end TracerConfig
