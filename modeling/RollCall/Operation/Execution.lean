import RollCall.Artifact
import RollCall.Condition.Basic
import RollCall.Operation.Basic
import RollCall.TableStore
import RollCall.Transform.Periods
import RollCall.Transform.Rescaling

/-!
# Carrying out operations

Every operation makes an artifact of the tables it is given, or fails. Only `division_votes` fetches
anything, so the others leave what the fetcher remembers as it is.
-/
namespace RollCall

structure Context where
  /-- The step that is carried out. -/
  step : String
  inputs : List Table
  store : TableStore
  fetcher : Fetcher

namespace Context

def input (c : Context) : Except Failure Table :=
  match c.inputs with
  | t :: _ => .ok t
  | [] => .error (.malformedStep c.step .noInput)

def table (c : Context) (name : String) : Except Failure Table :=
  match c.store.get? name with
  | some t => .ok t
  | none => .error (.malformedStep c.step (.unknownTable name))

end Context

namespace Operation

def place (t : Table) (c : Column) : Except Failure Table :=
  (t.withColumn c).mapError fun fault => .other (.table fault)

/-- Whether a cell is a text that mentions one of some phrases, all taken in lower case. -/
def mentionsAny (phrases : List String) (c : Cell) : Bool :=
  Clause.textual (fun s =>
    let text := Text.lowercase s
    phrases.any (Text.contains text)) c

def runSource (c : Context) (p : SourceParameters) : Except Failure Table := do
  let t ← c.table p.table
  if p.phrases.isEmpty then return t
  else
    match t.column? p.phraseColumn with
    | none => .error (.condition (.noPhraseColumn p.phraseColumn p.table))
    | some column =>
      return t.filterMask (column.cells.map (mentionsAny (p.phrases.map Text.lowercase)))

def runFilter [Library] (c : Context) (condition : Json) : Except Failure Table := do
  let t ← c.input
  let condition ← (Condition.ofJson condition).mapError .condition
  return t.filterMask (← (condition.mask t).mapError .condition)

def assign (t : Table) (name : String) (node : Json) : Except Failure Table := do
  let e ← (Expression.ofJson node).mapError .expression
  place t (.ofCells name (← (e.evalColumn t).mapError .expression))

def runMutate (c : Context) (assignments : List (String × Json)) : Except Failure Table := do
  if assignments.isEmpty then .error (.expression .nothingAssigned)
  else assignments.foldlM (fun t (name, node) => assign t name node) (← c.input)

def runAggregate (c : Context) (p : AggregateParameters) : Except Failure Table := do
  Aggregation.aggregate (← c.input) p

def runJoin (c : Context) (p : JoinParameters) : Except Failure Table :=
  (Join.joinAll p.on p.kind p.suffixes c.inputs).mapError .join

def runTest [Library] (c : Context) (test : Test) : Except Failure TestResult := do
  (test.run (← c.input)).mapError .test

/-- Every target is rescaled in the input before any is replaced. -/
def runRescale (c : Context) (p : RescaleParameters) : Except Failure Table := do
  let t ← c.input
  let rescaling ← (Rescaling.ofWord t p.method p.denominator).mapError .transform
  let targets := p.columns.getD (Rescaling.defaultTargets t p.denominator)
  let columns ← (targets.mapM (Rescaling.column t rescaling)).mapError .transform
  columns.foldlM place t

def runPeriod (c : Context) (p : PeriodParameters) : Except Failure Table := do
  let t ← c.input
  match t.column? p.dateColumn with
  | none => .error (.transform (.unknownDateColumn p.dateColumn))
  | some column =>
    let labels ← (Transform.periodLabels p.dateColumn p.frequency column.cells).mapError .transform
    place t ⟨p.output, .categorical, labels⟩

def lookupColumn (t : Table) (owner name : String) : Except Failure Column :=
  match t.column? name with
  | some column => .ok column
  | none => .error (.join (.noColumn name owner))

abbrev Flags := List (Key × Int64)

namespace Flags

/-- The flag of a key. One that was not seen has none, which is zero. -/
def get (flags : Flags) (k : Key) : Int64 :=
  ((flags.find? fun entry => entry.1 = k).map Prod.snd).getD 0

/-- The flags with that of a key raised to a number, unless it is as high already. -/
def raise (flags : Flags) (k : Key) (n : Int64) : Flags :=
  (k, max (flags.get k) n) :: flags.filter fun entry => entry.1 ≠ k

/-- The flags after one more interest. The interest of a missing member is passed over. -/
def note (phrase : String) (flags : Flags) (member text : Cell) : Flags :=
  if member.key = .null then flags
  else flags.raise member.key (if Clause.textual (Clause.mentions phrase) text then 1 else 0)

def ofInterests (phrase : String) (interests : List (Cell × Cell)) : Flags :=
  interests.foldl (fun flags (member, text) => flags.note phrase member text) []

end Flags

def runInterest (c : Context) (p : InterestParameters) : Except Failure Table := do
  let t ← c.input
  let interests ← c.table p.table
  let members ← lookupColumn interests p.table p.memberColumn
  let texts ← lookupColumn interests p.table p.textColumn
  let keys ← lookupColumn t "input" p.on
  let flags := Flags.ofInterests (Text.lowercase p.phrase) (members.cells.zip texts.cells)
  place t ⟨p.output, .numeric, keys.cells.map fun k => .int (flags.get k.key)⟩

def unfetched (s : VoteState) (result : Except Failure Artifact) : Fetching Artifact :=
  ⟨result, s, []⟩

def run [Library] (c : Context) (s : VoteState) : Operation → Fetching Artifact
  | source p => unfetched s ((runSource c p).map .table)
  | filter condition => unfetched s ((runFilter c condition).map .table)
  | mutate assignments => unfetched s ((runMutate c assignments).map .table)
  | aggregate p => unfetched s ((runAggregate c p).map .table)
  | join p => unfetched s ((runJoin c p).map .table)
  | divisionVotes p =>
    let built := VoteMatrix.build c.fetcher p.divisions p.chamber p.weights p.namesPrefix s
    ⟨built.result.map .table, built.state, built.events⟩
  | test t => unfetched s ((runTest c t).map .result)
  | rescale p => unfetched s ((runRescale c p).map .table)
  | period p => unfetched s ((runPeriod c p).map .table)
  | interestFlag p => unfetched s ((runInterest c p).map .table)

end Operation
end RollCall
