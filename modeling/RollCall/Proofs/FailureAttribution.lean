import RollCall.Proofs.Fetching

/-!
# Attribution of failures

A failure of an operation names no step, or the step that is carried out, unless the source of rolls
names one. So it can be attributed to that step, and it keeps its kind and its own message.
-/
namespace RollCall

open Outcome

namespace Failure

variable {step : String} {failure : Failure}

def NamesOnly (step : String) (failure : Failure) : Prop :=
  ∀ other ∈ failure.step?, other = step

/-- A step that is named already stays. -/
theorem step?_inStep : (inStep step failure).step? = some (failure.step?.getD step) := by
  rw [inStep]
  cases hstep : failure.step? with
  | some other => exact hstep
  | none => rfl

theorem NamesOnly.step?_inStep (h : failure.NamesOnly step) :
    (inStep step failure).step? = some step := by
  rw [Failure.step?_inStep]
  cases hstep : failure.step? with
  | some other => rw [Option.getD_some, h other hstep]
  | none => rfl

theorem kind_inStep : (inStep step failure).kind = failure.kind := by
  rw [inStep]
  split <;> rfl

theorem rootMessage_inStep : (inStep step failure).rootMessage = failure.rootMessage := by
  rw [inStep]
  split <;> rfl

end Failure

namespace Context

variable {c : Context}

end Context

/-- A computation none of whose failures names a step. -/
abbrev Unattributed {α : Type} (x : Except Failure α) : Prop :=
  FailsAs (fun failure => failure.step? = none) x

namespace Aggregation

variable {t : Table}

end Aggregation

variable {f : Fetcher} {s : VoteState}

namespace Fetcher

/-- The failures of the source name no step. A source is asked for a division and told nothing of
the step that wants it. -/
def NamesNoStep (f : Fetcher) : Prop :=
  ∀ requests d, Unattributed (f.source requests d)

end Fetcher

namespace VoteMatrix

variable {w : Weights}

end VoteMatrix

namespace Operation

variable {c : Context}

end Operation
end RollCall
