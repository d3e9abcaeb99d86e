import RollCall.Operation.Basic

/-!
# Pipelines

A pipeline is a list of steps, which are carried out in order, and the ids of the artifacts to
return. A step takes the artifacts of earlier steps as inputs.
-/
namespace RollCall

structure Step where
  id : String
  /-- The ids of the inputs, in the order in which the operation takes them. -/
  inputs : List String
  operation : Operation

structure Pipeline where
  steps : List Step
  returns : List String

def Pipeline.step? (p : Pipeline) (id : String) : Option Step :=
  p.steps.find? fun s => s.id = id

end RollCall
