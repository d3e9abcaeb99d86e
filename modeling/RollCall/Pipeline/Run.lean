import RollCall.Operation.Execution
import RollCall.Pipeline.Event
import RollCall.Pipeline.Lint

/-!
# Running pipelines

The steps of a pipeline are carried out in order. Their artifacts are kept under their ids, a later
one in the place of an earlier one, and the first failure ends the run. Every run notes its start,
the start and end of its steps, and its own end, unless the program breaks off because a delay
between two attempts cannot be found.
-/
namespace RollCall

/-- Artifacts by the ids of their steps, the latest first. -/
abbrev Environment := List (String × Artifact)

def Environment.find? (env : Environment) (id : String) : Option Artifact :=
  (List.find? (fun entry => entry.1 = id) env).map Prod.snd

structure Running (α : Type) where
  result : Except Failure α
  state : VoteState
  events : List Event

/-- What is seen of a run: its events up to the one in whose place the program breaks off, and a
result if it does not. -/
structure Observed (α : Type) where
  result : Option (Except Failure α)
  events : List Event

structure Runner where
  store : TableStore
  fetcher : Fetcher
  /-- Whether pipelines are checked before they are run. -/
  checks : Bool := true

namespace Runner

variable [Library]

def inputTable (env : Environment) (id : String) : Except StepFault Table :=
  match env.find? id with
  | some (.table t) => .ok t
  | some (.result _) => .error (.inputNotTable id)
  | none => .error (.unknownInput id)

def inputs (env : Environment) (s : Step) : Except StepFault (List Table) :=
  if s.operation.arity.accepts s.inputs.length then s.inputs.mapM (inputTable env)
  else .error (.arity s.operation.name s.operation.arity s.inputs.length)

def stepEnd (s : Step) : Except Failure Artifact → Event
  | .ok a => .stepCompleted s.id a.kind (a.table?.map Table.rowCount)
  | .error failure => .stepFailed s.id failure.message

/-- Carry out a step. Its failures are attributed to it. -/
def runStep (r : Runner) (env : Environment) (s : Step) (state : VoteState) : Running Artifact :=
  let ran : Fetching Artifact :=
    match inputs env s with
    | .error fault => ⟨.error (.malformedStep s.id fault), state, []⟩
    | .ok tables =>
      let ran := s.operation.run ⟨s.id, tables, r.store, r.fetcher⟩ state
      { ran with result := ran.result.mapError (.inStep s.id) }
  ⟨ran.result, ran.state,
    .stepStarted s.id s.operation.name :: ran.events.map .fetch ++ [stepEnd s ran.result]⟩

def runSteps (r : Runner) : List Step → Environment → VoteState → Running Environment
  | [], env, state => ⟨.ok env, state, []⟩
  | s :: steps, env, state =>
    let ran := r.runStep env s state
    match ran.result with
    | .error failure => ⟨.error failure, ran.state, ran.events⟩
    | .ok a =>
      let rest := r.runSteps steps ((s.id, a) :: env) ran.state
      { rest with events := ran.events ++ rest.events }

def returned (env : Environment) (id : String) : Except Failure (String × Artifact) :=
  match env.find? id with
  | some a => .ok (id, a)
  | none => .error (.malformedStep id (.unknownReturn id))

def execute (r : Runner) (p : Pipeline) (state : VoteState) :
    Running (List (String × Artifact)) :=
  match if r.checks then (Lint.check p).map fun _ => () else .ok () with
  | .error failure => ⟨.error failure, state, []⟩
  | .ok () =>
    let ran := r.runSteps p.steps [] state
    { ran with result := ran.result.bind fun env => p.returns.mapM (returned env) }

def runEnd (p : Pipeline) : Except Failure (List (String × Artifact)) → Event
  | .ok _ => .runCompleted p.returns
  | .error failure => .runFailed failure.step? failure.message

def run (r : Runner) (p : Pipeline) (state : VoteState) : Running (List (String × Artifact)) :=
  let ran := r.execute p state
  { ran with events := .runStarted p.steps.length :: ran.events ++ [runEnd p ran.result] }

/-- Whether the program breaks off in the place of an event. The delay before an attempt is found
before the failure of the last one is told. -/
def breaksOff (checked : Bool) (r : Runner) : Event → Bool
  | .fetch (.retrying _ attempt) => (r.fetcher.backoff.delay? checked (attempt - 1)).isNone
  | _ => false

/-- A run as it is seen, with arithmetic `checked` or not. -/
def observe (checked : Bool) (r : Runner) (p : Pipeline) (state : VoteState) :
    Observed (List (String × Artifact)) :=
  let ran := r.run p state
  { result := if ran.events.any (r.breaksOff checked) then none else some ran.result
    events := ran.events.takeWhile fun e => !r.breaksOff checked e }

def document (artifacts : List (String × Artifact)) : Json :=
  .obj (artifacts.foldl (fun fields (id, a) => Json.insert id a.toJson fields) [])

end Runner
end RollCall
