import RollCall.Operation.Reading
import RollCall.Proofs.GroupedTables
import RollCall.Proofs.KindsInJoins
import RollCall.Proofs.Strict.Operation

/-!
# Kinds in operations

Every operation declares the kind of a column in one of four ways: it infers it, keeps that of the
column whose cells it copies, fixes it, or, in a join, keeps that of the left column. The first
three fit whatever the cells are, provided that votes weigh numbers, as all votes that are read do.
-/
namespace RollCall

/-! ### Weights -/

/-- Every weight may stand in a numeric column. -/
def Weights.AreNumeric (w : Weights) : Prop :=
  ∀ v, ColumnKind.numeric.admits (w.weight v)

private theorem Weights.AreNumeric.set {w : Weights} (hw : w.AreNumeric) {c : Cell}
    (hc : ColumnKind.numeric.admits c) (v : Vote) : (w.set v c).AreNumeric := by
  intro v'
  rw [weight_set]
  split
  · exact hc
  · exact hw v'

private theorem Cell.admits_ofJson {v : Json} (h : v.isNumber) :
    ColumnKind.numeric.admits (ofJson v) := by
  cases v with
  | int n =>
    rw [ofJson]
    cases Checked.ofInt? n <;> rfl
  | float x => rfl
  | _ => cases h

namespace Operation

/-- Whether the votes an operation weighs, if any, weigh numbers. -/
def WeighsNumbers : Operation → Prop
  | divisionVotes p => p.weights.AreNumeric
  | _ => True

private theorem areNumeric_of_weightsOf {entries : List (String × Json)} {w w' : Weights}
    (hw : w.AreNumeric) (h : weightsOf entries w = .ok w') : w'.AreNumeric := by
  induction entries generalizing w with
  | nil =>
    cases h
    exact hw
  | cons entry entries ih =>
    obtain ⟨word, v⟩ := entry
    rw [weightsOf, Outcome.bind_eq_ok] at h
    obtain ⟨vote, -, h⟩ := h
    split at h
    · next hnumber => exact ih (hw.set (Cell.admits_ofJson hnumber) vote) h
    · cases h

private theorem areNumeric_of_readVotes {fields : List (String × Json)} {p : VotesParameters}
    (h : readVotes fields = .ok p) : p.weights.AreNumeric := by
  simp only [readVotes, Outcome.bind_eq_ok, Outcome.pure_eq_ok] at h
  obtain ⟨⟨ids, house, word, weights, namesPrefix⟩, -, divisions, -, chamber, -, w, hw, rfl⟩ := h
  have hnone : Weights.AreNumeric {} := by
    intro v
    cases v <;> rfl
  exact areNumeric_of_weightsOf hnone hw

theorem weighsNumbers_of_ofFields {fields : List (String × Json)} {op : Operation}
    (h : ofFields fields = .ok op) : op.WeighsNumbers := by
  rw [ofFields, Outcome.bind_eq_ok] at h
  obtain ⟨name, -, h⟩ := h
  split at h <;> simp only [Outcome.bind_eq_ok, Outcome.pure_eq_ok] at h
  all_goals
    obtain ⟨p, hp, rfl⟩ := h
    first
      | exact areNumeric_of_readVotes hp
      | trivial

end Operation

/-! ### What operations make -/

namespace VoteMatrix

variable {w : Weights}

private theorem exists_of_mem_scores {division : Nat} {roll : Table} {found : List (Int64 × Cell)}
    (h : scores w division roll = .ok found) : ∀ entry ∈ found, ∃ v, entry.2 = w.weight v := by
  rw [scores] at h
  split at h
  · rw [Outcome.bind_eq_ok] at h
    obtain ⟨rows, hrows, hfound⟩ := h
    cases hfound
    intro entry hentry
    obtain ⟨row, hrow, hid⟩ := List.mem_filterMap.mp hentry
    obtain ⟨⟨member, vote⟩, -, hscore⟩ := Outcome.exists_of_mem_mapM hrows hrow
    cases hid
    dsimp only [score?] at hscore
    split at hscore
    · split at hscore
      · next v _ =>
        cases hscore
        exact ⟨v, rfl⟩
      · cases hscore
    · cases hscore
  · cases h

private theorem exists_of_mem_gather {f : Fetcher} {chamber : Chamber} {ids : List Nat}
    {s : VoteState} {divisions : List (Nat × List (Int64 × Cell))}
    (h : (gather f w chamber ids s).result = .ok divisions) :
    ∀ d ∈ divisions, ∀ entry ∈ d.2, ∃ v, entry.2 = w.weight v := by
  induction ids generalizing s divisions with
  | nil =>
    cases h
    exact List.forall_mem_nil _
  | cons id ids ih =>
    rw [gather] at h
    dsimp only at h
    split at h
    · cases h
    · next found hfound =>
      obtain ⟨t, -, hscores⟩ := Outcome.dotBind_eq_ok.mp hfound
      obtain ⟨rest, hrest, rfl⟩ := Outcome.map_eq_ok.mp h
      exact List.forall_mem_cons.mpr ⟨exists_of_mem_scores hscores, ih hrest⟩

private theorem weightOf_eq_zero_or_mem (found : List (Int64 × Cell)) (m : Int64) :
    weightOf found m = .int 0 ∨ (m, weightOf found m) ∈ found := by
  rw [weightOf]
  cases hfind : (found.reverse.find? fun entry => entry.1 = m).map Prod.snd with
  | none => exact .inl rfl
  | some c => exact .inr (List.mem_reverse.mp (mem_of_lookup hfind))

/-- A matrix of numbers has numeric columns. -/
theorem holdsKinds_of_build {f : Fetcher} {ids : List Nat} {chamber : Chamber}
    {namesPrefix : String} {s : VoteState} {t : Table} (hw : w.AreNumeric)
    (h : (build f ids chamber w namesPrefix s).result = .ok t) : t.HoldsKinds := by
  obtain ⟨divisions, hgather, hcolumns⟩ := exists_of_build h
  rw [Table.HoldsKinds, (Table.ofColumns_eq_ok.mp hcolumns).2.1]
  intro c hc
  rcases List.mem_cons.mp hc with rfl | hc
  · intro cell hcell
    obtain ⟨m, -, rfl⟩ := List.mem_map.mp hcell
    rfl
  · obtain ⟨⟨id, found⟩, hfound, rfl⟩ := List.mem_map.mp hc
    intro cell hcell
    obtain ⟨m, -, rfl⟩ := List.mem_map.mp hcell
    obtain hzero | hmem := weightOf_eq_zero_or_mem found m
    · rw [hzero]
      rfl
    · obtain ⟨v, hv⟩ := exists_of_mem_gather hgather _ hfound _ hmem
      rw [show weightOf found m = w.weight v from hv]
      exact hw v

end VoteMatrix

/-- Every column of an aggregation is one of the table or an inferred one. -/
theorem Aggregation.holdsKinds_of_aggregate {t u : Table} {p : AggregateParameters}
    (ht : t.HoldsKinds) (h : aggregate t p = .ok u) : u.HoldsKinds := by
  simp only [aggregate, Outcome.bind_eq_ok, Outcome.mapError_eq_ok] at h
  obtain ⟨columns, hcolumns, ms, -, h⟩ := h
  rw [Table.HoldsKinds, (Table.ofColumns_eq_ok.mp (columns_of_summary h)).2.1, summaryColumns,
    List.forall_mem_append, List.forall_mem_map, List.forall_mem_map]
  refine ⟨fun c hc cell hcell => ?_, fun m _ => Column.holdsKind_ofCells m.name _⟩
  obtain ⟨g, -, rfl⟩ := List.mem_map.mp hcell
  have hkind := ht c (mem_of_groupColumns hcolumns c hc)
  cases hhead : g.2.head? with
  | none => simp [representative, hhead]
  | some r => simpa [representative, hhead] using hkind.at r

structure Context.HoldsKinds (c : Context) : Prop where
  inputs : ∀ t ∈ c.inputs, t.HoldsKinds
  store : ∀ entry ∈ c.store.tables, entry.2.HoldsKinds

namespace Context

variable {c : Context} {t : Table}

private theorem HoldsKinds.offers (hc : c.HoldsKinds) (h : c.Offers t) : t.HoldsKinds := by
  obtain h | ⟨name, h⟩ := h
  · exact hc.inputs t h
  · exact hc.store (name, t) h

end Context

namespace Operation

variable {c : Context} {t : Table}

/-- The inputs of a join fit each other; other operations ask nothing of the kind. -/
def InputsFit (op : Operation) (inputs : List Table) : Prop :=
  match op with
  | join p => Join.InputsFit p.on p.kind inputs
  | _ => True

private theorem inputsFit_of_ne_join {op : Operation} (hop : ∀ p, op ≠ join p)
    (inputs : List Table) :
    op.InputsFit inputs := by
  cases op with
  | join p => exact absurd rfl (hop p)
  | _ => trivial

/-- What an operation makes of tables that hold what their kinds say is such a table again, but for
a join whose inputs do not fit. -/
theorem holdsKinds_run_iff [Library] (hwell : c.WellFormed) (hc : c.HoldsKinds) {s : VoteState}
    {op : Operation} (hweighs : op.WeighsNumbers) (h : (op.run c s).result = .ok (.table t)) :
    t.HoldsKinds ↔ op.InputsFit c.inputs := by
  cases makes_of_run h with
  | edit hop ht =>
    obtain ⟨u, hu, hedited⟩ := ht
    exact iff_of_true (hedited.holdsKinds (hc.offers hu)) (inputsFit_of_ne_join hop c.inputs)
  | aggregate hu ht =>
    exact iff_of_true (Aggregation.holdsKinds_of_aggregate (hc.offers hu) ht) trivial
  | join ht => exact Join.holdsKinds_joinAll_iff hwell.inputs hc.inputs ht
  | divisionVotes ht => exact iff_of_true (VoteMatrix.holdsKinds_of_build hweighs ht) trivial

/-- Only a test makes something else than a table. -/
theorem inputsFit_of_result [Library] {s : VoteState} {op : Operation} {result : TestResult}
    (h : (op.run c s).result = .ok (.result result)) : op.InputsFit c.inputs := by
  cases op with
  | join p =>
    obtain ⟨u, -, heq⟩ := Outcome.map_eq_ok.mp h
    cases heq
  | _ => trivial

end Operation
end RollCall
