import RollCall.Fields
import RollCall.Parliament
import RollCall.Votes.Fetch

/-!
# Events

What is noted while a pipeline runs. The written form of some events also tells the run they belong
to and the time that has passed; this is their `Stamp`.
-/
namespace RollCall

inductive Event
  | runStarted (steps : Nat)
  | runCompleted (returned : List String)
  | runFailed (step : Option String) (message : String)
  | stepStarted (step op : String)
  /-- The kind of artifact a step has made, and the number of rows if it is a table. -/
  | stepCompleted (step artifact : String) (rows : Option Nat)
  | stepFailed (step message : String)
  | fetch (e : FetchEvent)
deriving DecidableEq

/-- The run an event belongs to, and the milliseconds that have passed. -/
structure Stamp where
  run : String := ""
  elapsed : Nat := 0
deriving DecidableEq

namespace Event

def name : Event → String
  | runStarted _ => "RunStarted"
  | runCompleted _ => "RunCompleted"
  | runFailed .. => "RunFailed"
  | stepStarted .. => "StepStarted"
  | stepCompleted .. => "StepCompleted"
  | stepFailed .. => "StepFailed"
  | fetch (.fetched ..) => "VotesFetched"
  | fetch (.cacheHit _) => "VoteCacheHit"
  | fetch (.retrying ..) => "FetchRetrying"

def divisionFields (d : Division) : List (String × Json) :=
  [("division_id", .int d.id), ("chamber", .str d.chamber.name)]

def valueOrNull (v : Option Json) : Json :=
  v.getD .null

/-- The fields of an event; those of the stamp are left out if there is none. -/
def fields (stamp : Option Stamp) (e : Event) : List (String × Json) :=
  let run := (stamp.map fun s => ("run_id", Json.str s.run)).toList
  let elapsed := (stamp.map fun s => ("duration_ms", Json.int s.elapsed)).toList
  match e with
  | runStarted steps => run ++ [("step_count", .int steps)]
  | runCompleted returned => run ++ [("returned", .arr (returned.map .str))] ++ elapsed
  | runFailed step message =>
    run ++ [("step", valueOrNull (step.map .str)), ("error", .str message)]
  | stepStarted step op => [("step_id", .str step), ("op", .str op)]
  | stepCompleted step artifact rows =>
    [("step_id", .str step), ("artifact", .str artifact),
      ("rows", valueOrNull (rows.map Json.ofNat))] ++ elapsed
  | stepFailed step message => [("step_id", .str step), ("error", .str message)]
  | fetch (.fetched d members) => divisionFields d ++ [("members", .int members)]
  | fetch (.cacheHit d) => divisionFields d
  | fetch (.retrying d attempt) => divisionFields d ++ [("attempt", .int attempt)]

def toJson (stamp : Option Stamp) (e : Event) : Json :=
  .obj [(e.name, .obj (e.fields stamp))]

open Reading

def runField : Field String := .needed "run_id" [] text
def elapsedField : Field Nat := .needed "duration_ms" [] (natural "u64")
def stepCountField : Field Nat := .needed "step_count" [] (natural "usize")
def returnedField : Field (List String) := .needed "returned" [] (list text)
def stepField : Field (Option String) := .spare "step" [] (orNull text)
def errorField : Field String := .needed "error" [] text
def stepIdField : Field String := .needed "step_id" [] text
def opField : Field String := .needed "op" [] text
def artifactField : Field String := .needed "artifact" [] text
def rowsField : Field (Option Nat) := .spare "rows" [] (orNull (natural "usize"))
def divisionField : Field Nat := .needed "division_id" [] (natural "u64")
def chamberField : Field Chamber :=
  .needed "chamber" [] (variant false [("commons", .commons), ("lords", .lords)])
def membersField : Field Nat := .needed "members" [] (natural "usize")
def attemptField : Field Nat := .needed "attempt" [] (natural "usize")

/-- The fields of a kind of event, and how the event is made of them. -/
structure Form where
  name : String
  known : List (Field Unit)
  read : List (String × Json) → Except FieldFault (Stamp × Event)

def divisionOf (fields : List (String × Json)) : Except FieldFault Division :=
  return ⟨← divisionField.get fields, ← chamberField.get fields⟩

def forms : List Form :=
  [{ name := "RunStarted", known := [runField.check, stepCountField.check]
     read := fun fs => return (⟨← runField.get fs, 0⟩, runStarted (← stepCountField.get fs)) },
   { name := "RunCompleted", known := [runField.check, returnedField.check, elapsedField.check]
     read := fun fs =>
      return (⟨← runField.get fs, ← elapsedField.get fs⟩, runCompleted (← returnedField.get fs)) },
   { name := "RunFailed", known := [runField.check, stepField.check, errorField.check]
     read := fun fs =>
      return (⟨← runField.get fs, 0⟩,
        runFailed (← stepField.getD fs none) (← errorField.get fs)) },
   { name := "StepStarted", known := [stepIdField.check, opField.check]
     read := fun fs => return ({}, stepStarted (← stepIdField.get fs) (← opField.get fs)) },
   { name := "StepCompleted"
     known := [stepIdField.check, artifactField.check, rowsField.check, elapsedField.check]
     read := fun fs =>
      return (⟨"", ← elapsedField.get fs⟩,
        stepCompleted (← stepIdField.get fs) (← artifactField.get fs) (← rowsField.getD fs none)) },
   { name := "StepFailed", known := [stepIdField.check, errorField.check]
     read := fun fs => return ({}, stepFailed (← stepIdField.get fs) (← errorField.get fs)) },
   { name := "VotesFetched"
     known := [divisionField.check, chamberField.check, membersField.check]
     read := fun fs =>
      return ({}, fetch (.fetched (← divisionOf fs) (← membersField.get fs))) },
   { name := "VoteCacheHit", known := [divisionField.check, chamberField.check]
     read := fun fs => return ({}, fetch (.cacheHit (← divisionOf fs))) },
   { name := "FetchRetrying"
     known := [divisionField.check, chamberField.check, attemptField.check]
     read := fun fs =>
      return ({}, fetch (.retrying (← divisionOf fs) (← attemptField.get fs))) }]

def Form.ofJson (f : Form) : Json → Except FieldFault (Stamp × Event)
  | .obj fields => do
    Field.scan f.known fields
    f.read fields
  | v => .error (.wrongType v "struct variant")

def formOf (name : String) : Except FieldFault Form :=
  match forms.find? fun f => f.name = name with
  | some f => .ok f
  | none => .error (.unknownVariant name (forms.map Form.name))

def ofJson : Json → Except FieldFault (Stamp × Event)
  | .obj [(name, v)] => do (← formOf name).ofJson v
  | .str name => do
    let _ ← formOf name
    .error .bareVariant
  | .obj fields => .error (.wrongValue (.obj fields) "map with a single key")
  | v => .error (.wrongType v "string or map")

end Event
end RollCall
