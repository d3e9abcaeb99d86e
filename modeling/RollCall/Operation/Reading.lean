import RollCall.Operation.Basic
import RollCall.Text.Integer

/-!
# Reading operations

The fields of a step give the name of its operation, under `op`, and the parameters. Fields that the
operation does not have are ignored.
-/
namespace RollCall.Operation

open Reading

def words : List String :=
  ["source", "filter", "mutate", "aggregate", "join", "division_votes", "stat_test", "standardise",
   "standardize", "timebin", "interest_flag"]

def tableField : Field String := .needed "table" [] text
def phrasesField : Field (List String) := .spare "phrase_filter" [] (list text)
def phraseColumnField : Field String := .spare "phrase_column" [] text

def readSource (fields : List (String × Json)) : Except FieldFault SourceParameters := do
  Field.scan [tableField.check, phrasesField.check, phraseColumnField.check] fields
  return {
    table := ← tableField.get fields
    phrases := ← phrasesField.getD fields []
    phraseColumn := ← phraseColumnField.getD fields "text" }

def conditionField : Field Json := .needed "conditions" ["condition"] any

def readFilter (fields : List (String × Json)) : Except FieldFault Json := do
  Field.scan [conditionField.check] fields
  conditionField.get fields

def assignmentsField : Field (List (String × Json)) := .needed "cols" ["columns"] object

def readMutate (fields : List (String × Json)) : Except FieldFault (List (String × Json)) := do
  Field.scan [assignmentsField.check] fields
  assignmentsField.get fields

def groupField : Field Names := .spare "group" ["group_by"] names
def metricsField : Field (List (String × Json)) := .spare "metrics" [] object
def metricField : Field (Option Json) := .spare "metric" [] (orNull any)
def functionField : Field (Option String) := .spare "fn" [] (orNull text)
def nameField : Field (Option String) := .spare "as" [] (orNull text)

def readAggregate (fields : List (String × Json)) : Except FieldFault AggregateParameters := do
  Field.scan [groupField.check, metricsField.check, metricField.check, functionField.check,
    nameField.check] fields
  return {
    group := (← groupField.getD fields (.many [])).toList
    metrics := ← metricsField.getD fields []
    metric := ← metricField.getD fields none
    function := ← functionField.getD fields none
    name := ← nameField.getD fields none }

def onField : Field Names := .needed "on" [] names
def kindField : Field JoinKind := .spare "how" [] (variant true JoinKind.named)
def suffixesField : Field (String × String) := .spare "suffixes" [] textPair

def readJoin (fields : List (String × Json)) : Except FieldFault JoinParameters := do
  Field.scan [onField.check, kindField.check, suffixesField.check] fields
  return {
    on := (← onField.get fields).toList
    kind := ← kindField.getD fields .inner
    suffixes := ← suffixesField.getD fields ("_x", "_y") }

def divisionsField : Field Json := .needed "division_ids" ["division_id"] any
def houseField : Field (Option Nat) := .spare "house" [] (orNull (natural "u64"))
def chamberField : Field (Option String) := .spare "chamber" [] (orNull text)
def weightsField : Field (List (String × Json)) := .needed "weights" ["mapping"] object
def prefixField : Field (Option String) := .spare "prefix" [] (orNull text)

/-- The number of a division, given as a natural number or as its text. -/
def divisionOf (v : Json) : Except StepFault Nat :=
  let number :=
    match v with
    | .int _ => v.toNat?
    | .str s => Text.toNatBelow? 0x10000000000000000 (Text.trim s)
    | _ => none
  match number with
  | some n => .ok n
  | none => .error (.badDivision v)

def divisionsOf (v : Json) : Except StepFault (List Nat) :=
  match v with
  | .arr [] => .error .noDivision
  | .arr items => items.mapM divisionOf
  | v => return [← divisionOf v]

/-- The chamber of a house number or, failing that, of a name. -/
def chamberOf (house : Option Nat) (word : Option String) : Except StepFault Chamber :=
  match house, word with
  | some n, _ =>
    match Chamber.ofHouseNumber? n with
    | some c => .ok c
    | none => .error (.badHouse n)
  | none, some word => (Chamber.ofWord word).mapError .word
  | none, none => .error .noChamber

def weightsOf : List (String × Json) → Weights → Except StepFault Weights
  | [], w => .ok w
  | (word, v) :: rest, w => do
    let vote ← (Vote.ofWord word).mapError .word
    if v.isNumber then weightsOf rest (w.set vote (.ofJson v))
    else .error (.badWeight vote v)

def readVotes (fields : List (String × Json)) : Except StepFault VotesParameters := do
  let scanned := do
    Field.scan [divisionsField.check, houseField.check, chamberField.check, weightsField.check,
      prefixField.check] fields
    return (← divisionsField.get fields, ← houseField.getD fields none,
      ← chamberField.getD fields none, ← weightsField.get fields, ← prefixField.getD fields none)
  let (ids, house, word, weights, namesPrefix) ← scanned.mapError .field
  return {
    divisions := ← divisionsOf ids
    chamber := ← chamberOf house word
    weights := ← weightsOf weights {}
    namesPrefix := namesPrefix.getD "division_" }

def testField : Field String := .needed "test" ["kind"] text
def valueField : Field (Option String) := .spare "value" [] (orNull text)
def sampleField : Field (Option String) := .spare "group" [] (orNull text)
def xField : Field (Option Names) := .spare "x" [] (orNull names)
def yField : Field (Option String) := .spare "y" [] (orNull text)
def controlsField : Field (Option Names) := .spare "controls" [] (orNull names)

/-- The value of a field that the test of a name needs. -/
def demand (test name : String) : Option String → Except StepFault String
  | some s => .ok s
  | none => .error (.lacksField test name)

def namesOf (ns : Option Names) : List String :=
  (ns.map Names.toList).getD []

def readTest (fields : List (String × Json)) : Except StepFault Test := do
  let scanned := do
    Field.scan [testField.check, valueField.check, sampleField.check, xField.check, yField.check,
      controlsField.check] fields
    return (← testField.get fields, ← valueField.getD fields none, ← sampleField.getD fields none,
      ← xField.getD fields none, ← yField.getD fields none, ← controlsField.getD fields none)
  let (word, value, group, x, y, controls) ← scanned.mapError .field
  let word := Text.asciiLower (Text.trim word)
  match word with
  | "ttest" | "t_test" => return .ttest (← demand word "value" value) (← demand word "group" group)
  | "correlation" =>
    match x with
    | some (.one x) => return .correlation x (← demand word "y" y)
    | _ => .error .manyPredictors
  | "ols" => return .ols (← demand word "y" y) (namesOf x) (namesOf controls)
  | word => .error (.unknownTest word)

def methodField : Field String := .needed "method" [] text
def targetsField : Field (Option (List String)) := .spare "cols" ["columns"] (orNull (list text))
def denominatorField : Field (Option String) :=
  .spare "denominator" ["denominator_col"] (orNull text)

def readRescale (fields : List (String × Json)) : Except FieldFault RescaleParameters := do
  Field.scan [methodField.check, targetsField.check, denominatorField.check] fields
  return {
    method := ← methodField.get fields
    columns := ← targetsField.getD fields none
    denominator := ← denominatorField.getD fields none }

def dateColumnField : Field String := .spare "date_col" [] text
def frequencyField : Field Frequency := .spare "freq" [] (variant true Frequency.named)
def periodField : Field String := .spare "as" [] text

def readPeriod (fields : List (String × Json)) : Except FieldFault PeriodParameters := do
  Field.scan [dateColumnField.check, frequencyField.check, periodField.check] fields
  return {
    dateColumn := ← dateColumnField.getD fields "date"
    frequency := ← frequencyField.getD fields .month
    output := ← periodField.getD fields "_period" }

def phraseField : Field String := .needed "phrase" [] text
def flagField : Field String := .needed "as" [] text
def interestsField : Field String := .spare "table" [] text
def memberColumnField : Field String := .spare "member_column" [] text
def textColumnField : Field String := .spare "text_column" [] text
def memberField : Field String := .spare "on" [] text

def readInterest (fields : List (String × Json)) : Except FieldFault InterestParameters := do
  Field.scan [phraseField.check, flagField.check, interestsField.check, memberColumnField.check,
    textColumnField.check, memberField.check] fields
  return {
    phrase := ← phraseField.get fields
    output := ← flagField.get fields
    table := ← interestsField.getD fields "member_interests"
    memberColumn := ← memberColumnField.getD fields "m_id"
    textColumn := ← textColumnField.getD fields "interest"
    on := ← memberField.getD fields "member_id" }

def nameOf (fields : List (String × Json)) : Except FieldFault String :=
  match Json.lookup "op" fields with
  | none => .error (.missing "op")
  | some (.str name) => if name ∈ words then .ok name else .error (.unknownVariant name words)
  | some v => .error (.wrongType v "variant identifier")

def ofFields (fields : List (String × Json)) : Except StepFault Operation := do
  match ← (nameOf fields).mapError .field with
  | "source" => return source (← (readSource fields).mapError .field)
  | "filter" => return filter (← (readFilter fields).mapError .field)
  | "mutate" => return mutate (← (readMutate fields).mapError .field)
  | "aggregate" => return aggregate (← (readAggregate fields).mapError .field)
  | "join" => return join (← (readJoin fields).mapError .field)
  | "division_votes" => return divisionVotes (← readVotes fields)
  | "stat_test" => return test (← readTest fields)
  | "timebin" => return period (← (readPeriod fields).mapError .field)
  | "interest_flag" => return interestFlag (← (readInterest fields).mapError .field)
  | _ => return rescale (← (readRescale fields).mapError .field)

end RollCall.Operation
