import RollCall.Condition.Clause

/-!
# Conditions

A condition is a clause or joins conditions by `and`, `or` and `not`. `ofJson` reads one from a
document and `mask` says for every row of a table whether the row satisfies it.
-/
namespace RollCall

inductive Condition
  | all (conditions : List Condition)
  | any (conditions : List Condition)
  | not (condition : Condition)
  | clause (c : Clause)

namespace Condition

/-- The first of two fields that is there. -/
def field? (first second : String) (fields : List (String × Json)) : Option Json :=
  Json.lookup first fields <|> Json.lookup second fields

/-- The clause of a node whose operator is `word`. Its fields may stand in `args`. -/
def clauseOf (word : String) (fields : List (String × Json)) : Except ConditionFault Clause := do
  let comparison ← Comparison.ofWord word
  let fields :=
    match Json.lookup "args" fields with
    | some (.obj inner) => inner
    | _ => fields
  match field? "column" "lhs" fields with
  | some (.str column) =>
    let literal ←
      match field? "value" "pattern" fields <|> Json.lookup "rhs" fields with
      | some v => .ok v
      | none =>
        if comparison.takesValue then .error (.noValue word column) else .ok .null
    if comparison = .among ∧ !literal.isArray then .error (.valuesNotList column)
    else return ⟨column, comparison, literal⟩
  | _ => .error (.noColumn word)

mutual

/-- The condition a JSON node stands for; a list of nodes stands for all of them together. -/
def ofJson : Json → Except ConditionFault Condition
  | .arr nodes => return .all (← ofNodes nodes)
  | .obj fields =>
    match field? "op" "operator" fields with
    | some (.str word) =>
      match Text.asciiLower word with
      | "and" =>
        match h : Json.lookup "args" fields with
        | some (.arr nodes) => do
          have := Json.sizeOf_lookup_lt h
          return .all (← ofNodes nodes)
        | _ => .error (.childrenNotList word)
      | "or" =>
        match h : Json.lookup "args" fields with
        | some (.arr nodes) => do
          have := Json.sizeOf_lookup_lt h
          return .any (← ofNodes nodes)
        | _ => .error (.childrenNotList word)
      | "not" =>
        match h : Json.lookup "args" fields with
        | some (.arr [node]) => do
          have := Json.sizeOf_lookup_lt h
          return .not (← ofJson node)
        | some (.arr _) => .error .manyChildren
        | some node => do
          have := Json.sizeOf_lookup_lt h
          return .not (← ofJson node)
        | none => .error .noChild
      | _ => do return .clause (← clauseOf word fields)
    | _ => .error (.noOperator (.obj fields))
  | node => .error (.notNode node)
termination_by node => sizeOf node
decreasing_by
  all_goals
    simp at * <;>
    omega

/-- The conditions of a list of nodes, up to the first that cannot be read. -/
def ofNodes : List Json → Except ConditionFault (List Condition)
  | [] => .ok []
  | node :: nodes => return (← ofJson node) :: (← ofNodes nodes)
termination_by nodes => sizeOf nodes

end

variable [Library]

mutual

def mask (t : Table) : Condition → Except ConditionFault (List Bool)
  | .all cs => maskAll t (List.replicate t.rowCount true) cs
  | .any cs => maskAny t (List.replicate t.rowCount false) cs
  | .not c => return (← mask t c).map (!·)
  | .clause c => c.mask t

/-- The rows of `rows` that satisfy every condition. -/
def maskAll (t : Table) (rows : List Bool) : List Condition → Except ConditionFault (List Bool)
  | [] => .ok rows
  | c :: cs => do maskAll t (rows.zipWith (· && ·) (← mask t c)) cs

/-- The rows of `rows` and those that satisfy some condition. -/
def maskAny (t : Table) (rows : List Bool) : List Condition → Except ConditionFault (List Bool)
  | [] => .ok rows
  | c :: cs => do maskAny t (rows.zipWith (· || ·) (← mask t c)) cs

end

end Condition
end RollCall
