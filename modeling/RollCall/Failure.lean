import RollCall.Aggregation.Aggregator
import RollCall.Condition.Clause
import RollCall.Expression.Operator
import RollCall.Fields
import RollCall.Join
import RollCall.Statistics.Basic
import RollCall.Transform.Basic
import RollCall.Votes.Division

/-!
# Failures

What can go wrong when a pipeline is read and run. A failure is of one kind and may be attributed to
a step; `inStep` never attributes a failure twice, and neither its kind nor its own message depends
on the attribution. Whether it may pass on a further attempt is to be asked of its root. `report` is
what a caller is told.
-/
namespace RollCall

inductive Arity
  | none
  | one
  | atLeast (n : Nat)
deriving DecidableEq

namespace Arity

def accepts : Arity → Nat → Bool
  | none, n => n == 0
  | one, n => n == 1
  | atLeast least, n => least ≤ n

def describe : Arity → String
  | none => "no inputs"
  | one => "exactly one input"
  | atLeast n => s!"at least {n} inputs"

end Arity

inductive StepFault
  | notObject
  | noId
  | bothInputs
  | inputNotText (found : Json)
  | inputsNotIds (found : Json)
  | field (fault : FieldFault)
  | noDivision
  | badDivision (found : Json)
  | badHouse (number : Nat)
  | noChamber
  | word (fault : WordFault)
  | badWeight (vote : Vote) (found : Json)
  | lacksField (test name : String)
  | manyPredictors
  | unknownTest (name : String)
  | noInput
  | unknownTable (name : String)
  | arity (op : String) (takes : Arity) (count : Nat)
  | unknownInput (id : String)
  | inputNotTable (id : String)
  | unknownReturn (id : String)
  /-- The lint found errors. -/
  | rejected (messages : List String)
  /-- A fault known by its wording only. -/
  | stated (text : String)

def StepFault.message : StepFault → String
  | notObject => "step must be an object"
  | noId => "step needs a non-empty 'id'"
  | bothInputs => "give either 'inputs' or 'input', not both"
  | inputNotText found => s!"input ids must be strings, got {found.compact}"
  | inputsNotIds found => s!"inputs must be an id or a list of ids, got {found.compact}"
  | field fault => fault.message
  | noDivision => "division_votes needs at least one division id"
  | badDivision found => s!"invalid division id {found.compact}"
  | badHouse number => s!"house must be 1 (Commons) or 2 (Lords), got {number}"
  | noChamber => "division_votes needs 'house' or 'chamber'"
  | word fault => fault.message
  | badWeight vote found => s!"weight for {vote.name} must be a number, got {found.compact}"
  | lacksField test name => s!"{test} needs '{name}'"
  | manyPredictors => "correlation needs a single 'x' column"
  | unknownTest name => s!"unknown test '{name}'"
  | noInput => "missing input"
  | unknownTable name => s!"unknown table '{name}'"
  | arity op takes count => s!"{op} takes {takes.describe}, got {count}"
  | unknownInput id => s!"unknown input '{id}'"
  | inputNotTable id => s!"input '{id}' is a statistical result, not a table"
  | unknownReturn id => s!"return id '{id}' is not a step"
  | rejected messages => "; ".intercalate messages
  | stated text => text

inductive DocumentFault
  | notJson (reason : String)
  | notObject
  | stepsNotList
  | returnNotText (found : Json)
  | returnNotList (found : Json)
  | noReturn
  | tablesNotObject
  | tableNotRows (name : String)
  | badTable (name : String) (fault : TableFault)
  /-- A fault known by its wording only. -/
  | stated (text : String)

def DocumentFault.message : DocumentFault → String
  | notJson reason => s!"invalid JSON: {reason}"
  | notObject => "pipeline must be a JSON object"
  | stepsNotList => "'steps' must be a list of step objects"
  | returnNotText found => s!"return ids must be strings, got {found.compact}"
  | returnNotList found => s!"'return' must be a list of step ids, got {found.compact}"
  | noReturn => "missing 'return' list"
  | tablesNotObject => "registry must be an object of named row arrays"
  | tableNotRows name => s!"registry entry '{name}' is not an array of rows"
  | badTable name fault => s!"registry entry '{name}': {fault.message}"
  | stated text => text

inductive OtherFault
  | table (fault : TableFault)
  | word (fault : WordFault)
  | rollColumns (division : Nat)
  | setting (name value : String)
  /-- A fault known by its wording only. -/
  | stated (text : String)

def OtherFault.message : OtherFault → String
  | table fault => fault.message
  | word fault => fault.message
  | rollColumns division => s!"vote roll for division {division} lacks member_id/vote"
  | setting name value => s!"{name} must be a non-negative integer, got '{value}'"
  | stated text => text

inductive Failure
  | malformedStep (step : String) (fault : StepFault)
  | malformedDocument (fault : DocumentFault)
  /-- A failure that is attributed to a step. -/
  | attributed (step : String) (cause : Failure)
  | expression (fault : ExpressionFault)
  | condition (fault : ConditionFault)
  | join (fault : JoinFault)
  | aggregation (fault : AggregationFault)
  | transform (fault : TransformFault)
  | test (fault : TestFault)
  | fetch (fault : FetchFault)
  | io (text : String)
  | other (fault : OtherFault)

structure Report where
  kind : String
  step : Option String
  message : String
deriving DecidableEq

namespace Report

def toJson (r : Report) : Json :=
  .obj ([("kind", .str r.kind)] ++ (r.step.map fun s => ("step", .str s)).toList ++
    [("message", .str r.message)])

end Report

namespace Failure

def message : Failure → String
  | malformedStep step fault => s!"Malformed pipeline at step '{step}': {fault.message}"
  | malformedDocument fault => s!"Malformed pipeline document: {fault.message}"
  | attributed step cause => s!"Step '{step}' failed: {message cause}"
  | expression fault => s!"Expression error: {fault.message}"
  | condition fault => s!"Condition error: {fault.message}"
  | join fault => s!"Join error: {fault.message}"
  | aggregation fault => s!"Aggregation error: {fault.message}"
  | transform fault => s!"Transform error: {fault.message}"
  | test fault => s!"Statistical test error: {fault.message}"
  | fetch fault => fault.message
  | io text => s!"IO error: {text}"
  | other fault => fault.message

def kind : Failure → String
  | malformedStep .. | malformedDocument _ => "MalformedPipelineError"
  | attributed _ cause => kind cause
  | expression _ => "ExpressionError"
  | condition _ => "ConditionError"
  | join _ => "JoinError"
  | aggregation _ => "AggregationError"
  | transform _ => "TransformError"
  | test _ => "StatTestError"
  | fetch _ => "FetchError"
  | io _ | other _ => "InternalError"

def step? : Failure → Option String
  | malformedStep step _ | attributed step _ => some step
  | _ => none

def root : Failure → Failure
  | attributed _ cause => root cause
  | failure => failure

/-- Attribute a failure to a step unless it is attributed to one already. -/
def inStep (step : String) (failure : Failure) : Failure :=
  if failure.step?.isSome then failure else attributed step failure

/-- Whether this very failure may pass on a further attempt. -/
def isRetryable : Failure → Bool
  | fetch fault => fault.cause.isRetryable
  | _ => false

/-- The message of the innermost failure, without the name of a malformed step. -/
def rootMessage (failure : Failure) : String :=
  match failure.root with
  | malformedStep _ fault => fault.message
  | failure => failure.message

def report (failure : Failure) : Report :=
  ⟨failure.kind, failure.step?, failure.rootMessage⟩

end Failure
end RollCall
