import RollCall.Pipeline.Basic

/-!
# Checking pipelines

What can be said about a pipeline before it is run. Five rules look for repeated ids, inputs that no
earlier step defines, wrong numbers of inputs, returned ids that no step has, and steps that nobody
uses. `check` refuses a pipeline in which one of the first four rules finds an error.
-/
namespace RollCall

inductive Finding
  | repeatedId (step : String)
  | unknownInput (step input : String)
  /-- The input is defined by this step or a later one only. -/
  | laterInput (step input : String)
  | inputCount (op step : String) (takes : Arity) (count : Nat)
  | unknownReturn (id : String)
  | nothingReturned
  | unusedStep (step : String)
deriving DecidableEq

namespace Finding

def rule : Finding → String
  | repeatedId _ => "unique_ids"
  | unknownInput .. | laterInput .. => "inputs_defined"
  | inputCount .. => "input_arity"
  | unknownReturn _ | nothingReturned => "return_ids"
  | unusedStep _ => "unused_step"

/-- Whether the finding keeps the pipeline from being run; otherwise it is a warning. -/
def isError : Finding → Bool
  | nothingReturned | unusedStep _ => false
  | _ => true

def message : Finding → String
  | repeatedId step => s!"step id '{step}' is defined more than once"
  | unknownInput step input => s!"step '{step}' references unknown input '{input}'"
  | laterInput step input => s!"step '{step}' references '{input}', which is not defined before it"
  | inputCount op step takes count => s!"{op} step '{step}' takes {takes.describe}, got {count}"
  | unknownReturn id => s!"return id '{id}' is not a step"
  | nothingReturned => "pipeline returns nothing"
  | unusedStep step => s!"step '{step}' is never used or returned"

def step? : Finding → Option String
  | repeatedId step | unknownInput step _ | laterInput step _ | inputCount _ step _ _
  | unusedStep step => some step
  | unknownReturn id => some id
  | nothingReturned => none

def toJson (f : Finding) : Json :=
  .obj ([("rule", .str f.rule), ("severity", .str (if f.isError then "error" else "warning")),
    ("message", .str f.message)] ++ (f.step?.map fun s => ("step_id", .str s)).toList)

def line (f : Finding) : String :=
  let severity := if f.isError then "ERROR" else "WARN"
  match f.step? with
  | some step => s!"[{severity}] {f.rule} ({step}): {f.message}"
  | none => s!"[{severity}] {f.rule}: {f.message}"

end Finding

namespace Lint

/-- The steps with an id that an earlier one has; `seen` are the ids before. -/
def repeatedIds (seen : List String) : List Step → List Finding
  | [] => []
  | s :: steps =>
    if s.id ∈ seen then .repeatedId s.id :: repeatedIds seen steps
    else repeatedIds (s.id :: seen) steps

/-- What is wrong with an input of the step at position `index`. -/
def inputFinding (p : Pipeline) (index : Nat) (s : Step) (input : String) : Option Finding :=
  match p.steps.findIdx? fun other => other.id = input with
  | none => some (.unknownInput s.id input)
  | some position => if index ≤ position then some (.laterInput s.id input) else none

def inputsDefined (p : Pipeline) : List Finding :=
  p.steps.zipIdx.flatMap fun (s, i) => s.inputs.filterMap (inputFinding p i s)

def inputCounts (p : Pipeline) : List Finding :=
  (p.steps.filter fun s => !s.operation.arity.accepts s.inputs.length).map fun s =>
    .inputCount s.operation.name s.id s.operation.arity s.inputs.length

def returnIds (p : Pipeline) : List Finding :=
  (p.returns.filter fun id => (p.step? id).isNone).map .unknownReturn ++
    if p.returns.isEmpty then [.nothingReturned] else []

def unusedSteps (p : Pipeline) : List Finding :=
  let used := p.steps.flatMap Step.inputs ++ p.returns
  (p.steps.filter fun s => s.id ∉ used).map fun s => .unusedStep s.id

def findings (p : Pipeline) : List Finding :=
  repeatedIds [] p.steps ++ inputsDefined p ++ inputCounts p ++ returnIds p ++ unusedSteps p

/-- The findings if there is no error among them. -/
def check (p : Pipeline) : Except Failure (List Finding) :=
  match (findings p).filter Finding.isError with
  | [] => .ok (findings p)
  | first :: rest =>
    .error (.malformedStep (first.step?.getD "")
      (.rejected ((first :: rest).map Finding.message)))

end Lint
end RollCall
