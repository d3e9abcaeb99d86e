import RollCall.Json.Reader
import RollCall.Operation.Reading
import RollCall.Pipeline.Basic

/-!
# Reading pipelines

A pipeline is read from a document with its steps and the ids to return. The ids to return are read
before the steps.
-/
namespace RollCall

namespace Step

/-- The id of a step: a text that is not blank, or a number. -/
def idOf? (fields : List (String × Json)) : Option String :=
  match Json.lookup "id" fields with
  | some (.str id) => if (Text.trim id).isEmpty then none else some id
  | some (.int n) => some (Json.int n).compact
  | some (.float x) => some (Json.float x).compact
  | _ => none

/-- The ids of the inputs: none, one, or a list of them. -/
def inputsOf : Json → Except StepFault (List String)
  | .null => .ok []
  | .str id => .ok [id]
  | .arr items =>
    items.mapM fun item =>
      match item with
      | .str id => .ok id
      | item => .error (.inputNotText item)
  | v => .error (.inputsNotIds v)

/-- The inputs of a step, under either of two names. -/
def inputs? (fields : List (String × Json)) : Except StepFault (List String) :=
  match Json.lookup "inputs" fields, Json.lookup "input" fields with
  | some _, some _ => .error .bothInputs
  | some v, none | none, some v => inputsOf v
  | none, none => .ok []

def ofFields (id : String) (fields : List (String × Json)) : Except StepFault Step := do
  let inputs ← inputs? fields
  return ⟨id, inputs, ← Operation.ofFields fields⟩

/-- The step at a position of a document. One without an id is known by its position. -/
def ofJson (index : Nat) (v : Json) : Except Failure Step :=
  let place := s!"#{index}"
  match v with
  | .obj fields =>
    match idOf? fields with
    | some id => (ofFields id fields).mapError (.malformedStep id)
    | none => .error (.malformedStep place .noId)
  | _ => .error (.malformedStep place .notObject)

end Step

namespace Pipeline

def returnsOf : Option Json → Except DocumentFault (List String)
  | some (.arr items) =>
    items.mapM fun item =>
      match item with
      | .str id => .ok id
      | item => .error (.returnNotText item)
  | some (.str id) => .ok [id]
  | some v => .error (.returnNotList v)
  | none => .error .noReturn

def partsOf : Json → Except DocumentFault (List Json × List String)
  | .obj fields =>
    match Json.lookup "steps" fields with
    | some (.arr steps) => do
      return (steps, ← returnsOf (Json.lookup "return" fields <|> Json.lookup "returns" fields))
    | _ => .error .stepsNotList
  | _ => .error .notObject

def ofJson (v : Json) : Except Failure Pipeline := do
  let (steps, returns) ← (partsOf v).mapError .malformedDocument
  return ⟨← steps.zipIdx.mapM fun (step, i) => Step.ofJson i step, returns⟩

def ofText [Library] (s : String) : Except Failure Pipeline :=
  match Json.read? s with
  | some v => ofJson v
  | none => .error (.malformedDocument (.notJson (Library.syntaxFault s)))

end Pipeline
end RollCall
