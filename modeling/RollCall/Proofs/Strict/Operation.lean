import RollCall.Proofs.EditedTables
import RollCall.Proofs.Fetching
import RollCall.Proofs.Strict.Aggregation
import RollCall.Proofs.Strict.Join
import RollCall.Proofs.Strict.Statistics

/-!
# Reading by position in operations

Given well-formed tables every operation makes a well-formed table or fails, and it never reads
outside a list. Rescaling, labelling periods, flagging interests and weighing votes go along whole
columns and read nothing by position.
-/
namespace RollCall

def Artifact.WellFormed : Artifact → Prop
  | .table t => t.WellFormed
  | .result _ => True

structure Context.WellFormed (c : Context) : Prop where
  inputs : ∀ t ∈ c.inputs, t.WellFormed
  store : c.store.WellFormed

namespace Context

variable {c : Context} {t : Table}

theorem WellFormed.offers (hc : c.WellFormed) (h : c.Offers t) : t.WellFormed := by
  obtain h | ⟨name, h⟩ := h
  · exact hc.inputs t h
  · exact hc.store (name, t) h

end Context

/-- Every roll read from a payload is well formed. -/
theorem Fetcher.gives_wellFormed (f : Fetcher) : f.Gives fun _ t => t.WellFormed := by
  intro requests d i t h
  obtain ⟨payload, roll, -, rfl⟩ := exists_of_request h
  exact roll.toTable_wellFormed

/-- An operation on well-formed tables makes a well-formed artifact or fails. -/
theorem Operation.wellFormed_of_run [Library] {c : Context} (hc : c.WellFormed) {s : VoteState}
    {op : Operation} {a : Artifact} (h : (op.run c s).result = .ok a) : a.WellFormed := by
  cases a with
  | result _ => trivial
  | table t =>
    cases makes_of_run h with
    | edit _ ht =>
      obtain ⟨u, hu, hedited⟩ := ht
      exact hedited.wellFormed (hc.offers hu)
    | aggregate _ ht => exact Aggregation.wellFormed_of_aggregate ht
    | join ht => exact Join.wellFormed_of_joinAll hc.inputs ht
    | divisionVotes ht =>
      obtain ⟨_, -, hcolumns⟩ := VoteMatrix.exists_of_build ht
      exact Table.wellFormed_of_ofColumns hcolumns

namespace Strict

def runSource (c : Context) (p : SourceParameters) : Reading Failure Table := do
  let t ← plain (c.table p.table)
  if p.phrases.isEmpty then return t
  else
    match t.column? p.phraseColumn with
    | none => plain (.error (.condition (.noPhraseColumn p.phraseColumn p.table)))
    | some column =>
      found (filterMask t
        (column.cells.map (Operation.mentionsAny (p.phrases.map Text.lowercase))))

def runFilter [Library] (c : Context) (condition : Json) : Reading Failure Table := do
  let t ← plain c.input
  let condition ← plain ((Condition.ofJson condition).mapError .condition)
  let mask ← plain ((condition.mask t).mapError .condition)
  found (filterMask t mask)

def assign (t : Table) (name : String) (node : Json) : Reading Failure Table := do
  let e ← plain ((Expression.ofJson node).mapError .expression)
  let cells ← (evalColumn t e).adapt .expression
  plain (Operation.place t (.ofCells name cells))

def runMutate (c : Context) (assignments : List (String × Json)) : Reading Failure Table := do
  if assignments.isEmpty then plain (.error (.expression .nothingAssigned))
  else
    let t ← plain c.input
    assignments.foldlM (fun t (name, node) => assign t name node) t

def runAggregate (c : Context) (p : AggregateParameters) : Reading Failure Table := do
  let t ← plain c.input
  aggregate t p

def runJoin (c : Context) (p : JoinParameters) : Reading Failure Table :=
  (joinAll p.on p.kind p.suffixes c.inputs).adapt .join

def runTest [Library] (c : Context) (test : Test) : Reading Failure TestResult := do
  let t ← plain c.input
  (testTable t test).adapt .test

/-- The outcome of a reading that fetched nothing, if it is not stuck. -/
def unfetched (s : VoteState) (result : Reading Failure Artifact) : Option (Fetching Artifact) :=
  result.run.map (Operation.unfetched s)

def run [Library] (c : Context) (s : VoteState) : Operation → Option (Fetching Artifact)
  | .source p => unfetched s (.table <$> runSource c p)
  | .filter condition => unfetched s (.table <$> runFilter c condition)
  | .mutate assignments => unfetched s (.table <$> runMutate c assignments)
  | .aggregate p => unfetched s (.table <$> runAggregate c p)
  | .join p => unfetched s (.table <$> runJoin c p)
  | .test test => unfetched s (.result <$> runTest c test)
  | op => some (op.run c s)

variable {c : Context} {t : Table}

private theorem meets_runSource (hc : c.WellFormed) (p : SourceParameters) :
    Meets (runSource c p) (Operation.runSource c p) := by
  refine (Meets.plain _).bind fun t ht => ?_
  have hwell := hc.offers (Context.offers_of_table ht)
  split
  · exact Meets.pure t
  · cases hcolumn : t.column? p.phraseColumn with
    | none => exact Meets.plain _
    | some column =>
      have hmask := filterMask_eq hwell
        (column.cells.map (Operation.mentionsAny (p.phrases.map Text.lowercase)))
        (by rw [List.length_map, hwell.length_of_column? hcolumn])
      dsimp only
      rw [hmask]
      exact Meets.pure _

private theorem meets_runFilter [Library] (hc : c.WellFormed) (condition : Json) :
    Meets (runFilter c condition) (Operation.runFilter c condition) := by
  refine (Meets.plain _).bind fun t ht => ?_
  refine (Meets.plain _).bind fun condition _ => ?_
  refine (Meets.plain _).bind fun mask hmask => ?_
  have hwell := hc.offers (Context.offers_of_input ht)
  have hlength := Condition.length_mask hwell condition (Outcome.mapError_eq_ok.mp hmask)
  rw [filterMask_eq hwell mask hlength]
  exact Meets.pure _

private theorem meets_assign (ht : t.WellFormed) (name : String) (node : Json) :
    Meets (assign t name node) (Operation.assign t name node) := by
  refine (Meets.plain _).bind fun e _ => ?_
  exact (meets_evalColumn ht e).adapt.bind fun cells _ => Meets.plain _

private theorem meets_runMutate (hc : c.WellFormed) (assignments : List (String × Json)) :
    Meets (runMutate c assignments) (Operation.runMutate c assignments) := by
  rw [runMutate, Operation.runMutate]
  split
  · exact Meets.plain _
  · refine (Meets.plain _).bind fun t ht => ?_
    exact Meets.foldlM (fun a _ u hu => meets_assign hu a.1 a.2)
      (fun _ _ _ _ hassign hu => (Table.Edited.refl.assign hassign).wellFormed hu)
      (hc.offers (Context.offers_of_input ht))

private theorem meets_runAggregate (hc : c.WellFormed) (p : AggregateParameters) :
    Meets (runAggregate c p) (Operation.runAggregate c p) :=
  (Meets.plain _).bind fun _ ht => meets_aggregate (hc.offers (Context.offers_of_input ht)) p

private theorem meets_runJoin (hc : c.WellFormed) (p : JoinParameters) :
    Meets (runJoin c p) (Operation.runJoin c p) :=
  (meets_joinAll hc.inputs).adapt

private theorem meets_runTest [Library] (hc : c.WellFormed) (test : Test) :
    Meets (runTest c test) (Operation.runTest c test) :=
  (Meets.plain _).bind fun _ ht =>
    (meets_testTable (hc.offers (Context.offers_of_input ht)) test).adapt

private theorem unfetched_eq {s : VoteState} {x : Reading Failure Artifact}
    {r : Except Failure Artifact}
    (h : Meets x r) : unfetched s x = some (Operation.unfetched s r) := by
  rw [unfetched, h]
  rfl

/-- No operation on well-formed tables reads outside a list. -/
theorem run_eq [Library] (hc : c.WellFormed) (s : VoteState) (op : Operation) :
    run c s op = some (op.run c s) := by
  cases op with
  | source p => exact unfetched_eq (meets_runSource hc p).map
  | filter condition => exact unfetched_eq (meets_runFilter hc condition).map
  | mutate assignments => exact unfetched_eq (meets_runMutate hc assignments).map
  | aggregate p => exact unfetched_eq (meets_runAggregate hc p).map
  | join p => exact unfetched_eq (meets_runJoin hc p).map
  | test test => exact unfetched_eq (meets_runTest hc test).map
  | _ => rfl

end Strict
end RollCall
