import RollCall.Operation.Execution
import RollCall.Proofs.ColumnKinds
import RollCall.Proofs.Entries

/-!
# Edited tables

Most operations edit one of the tables they may read: they keep some of its rows or put in columns,
each of which holds what its kind says. The others aggregate a table, join tables or count votes. A
property of the tables of a run is therefore one that edits keep and that these three give.
-/
namespace RollCall

/-- A table made of another one by keeping rows and putting in columns that hold what their kinds
say. -/
inductive Table.Edited (t : Table) : Table → Prop where
  | refl : t.Edited t
  | filterMask {u : Table} (h : t.Edited u) (mask : List Bool) : t.Edited (u.filterMask mask)
  | withColumn {u v : Table} {c : Column} (h : t.Edited u) (hc : c.HoldsKind)
      (hv : u.withColumn c = .ok v) : t.Edited v

namespace Table.Edited

variable {t u v : Table} {c : Column}

theorem wellFormed (h : t.Edited u) (ht : t.WellFormed) : u.WellFormed := by
  induction h with
  | refl => exact ht
  | filterMask _ mask ih => exact ih.filterMask mask
  | withColumn _ _ hv ih => exact ih.withColumn hv

theorem holdsKinds (h : t.Edited u) (ht : t.HoldsKinds) : u.HoldsKinds := by
  induction h with
  | refl => exact ht
  | filterMask _ mask ih => exact ih.filterMask mask
  | withColumn _ hc hv ih => exact ih.withColumn hc hv

theorem place (h : t.Edited u) (hc : c.HoldsKind) (hv : Operation.place u c = .ok v) :
    t.Edited v :=
  h.withColumn hc (Outcome.mapError_eq_ok.mp hv)

theorem assign (h : t.Edited u) {name : String} {node : Json}
    (hv : Operation.assign u name node = .ok v) : t.Edited v := by
  simp only [Operation.assign, Outcome.bind_eq_ok] at hv
  obtain ⟨_, -, cells, -, hv⟩ := hv
  exact h.place (Column.holdsKind_ofCells name cells) hv

end Table.Edited

/-- Rescaled cells are doubles or missing. -/
theorem Rescaling.holdsKind_of_column {t : Table} {r : Rescaling} {name : String} {c : Column}
    (h : column t r name = .ok c) : c.HoldsKind := by
  have hfinite : ∀ x, ColumnKind.numeric.admits (finiteCell x) := by
    intro x
    rw [finiteCell]
    split <;> rfl
  have hcell : ∀ x, ColumnKind.numeric.admits (cellOf x) := by
    intro x
    cases x with
    | none => rfl
    | some x => exact hfinite x
  have hquotient : ∀ x d, ColumnKind.numeric.admits (quotient x d) := by
    intro x d
    unfold quotient
    split
    · split
      · rfl
      · exact hfinite _
    · rfl
  rw [column] at h
  split at h
  · cases h
  · obtain ⟨xs, -, hc⟩ := Outcome.bind_eq_ok.mp h
    cases hc
    intro cell hcell'
    cases r with
    | zscore =>
      obtain ⟨x, -, rfl⟩ := List.mem_map.mp hcell'
      exact hcell _
    | range =>
      obtain ⟨x, -, rfl⟩ := List.mem_map.mp hcell'
      exact hcell _
    | ratio denominator =>
      obtain ⟨i, hi, rfl⟩ := List.mem_iff_getElem.mp hcell'
      simp only [Rescaling.apply, List.getElem_zipWith]
      exact hquotient _ _

variable {c : Context} {t : Table}

/-- A table that an operation may read. -/
def Context.Offers (c : Context) (t : Table) : Prop :=
  t ∈ c.inputs ∨ ∃ name, (name, t) ∈ c.store.tables

theorem Context.offers_of_input (h : c.input = .ok t) : c.Offers t := by
  rw [input] at h
  split at h
  · next first rest hinputs =>
    cases h
    exact .inl (hinputs ▸ List.mem_cons_self)
  · cases h

theorem Context.mem_tables_of_table {name : String} (h : c.table name = .ok t) :
    (name, t) ∈ c.store.tables := by
  rw [table] at h
  split at h
  · next u hu =>
    cases h
    exact mem_of_lookup hu
  · cases h

theorem Context.offers_of_table {name : String} (h : c.table name = .ok t) : c.Offers t :=
  .inr ⟨name, mem_tables_of_table h⟩

namespace Operation

/-! ### What the operations that edit make -/

private theorem edited_of_runSource {p : SourceParameters} (h : runSource c p = .ok t) :
    ∃ u, c.Offers u ∧ u.Edited t := by
  rw [runSource, Outcome.bind_eq_ok] at h
  obtain ⟨u, hu, h⟩ := h
  refine ⟨u, Context.offers_of_table hu, ?_⟩
  split at h
  · exact Outcome.pure_eq_ok.mp h ▸ .refl
  · split at h
    · cases h
    · exact Outcome.pure_eq_ok.mp h ▸ Table.Edited.refl.filterMask _

private theorem edited_of_runFilter [Library] {condition : Json}
    (h : runFilter c condition = .ok t) :
    ∃ u, c.Offers u ∧ u.Edited t := by
  simp only [runFilter, Outcome.bind_eq_ok, Outcome.pure_eq_ok] at h
  obtain ⟨u, hu, _, -, mask, -, rfl⟩ := h
  exact ⟨u, Context.offers_of_input hu, Table.Edited.refl.filterMask mask⟩

private theorem edited_of_runMutate {assignments : List (String × Json)}
    (h : runMutate c assignments = .ok t) : ∃ u, c.Offers u ∧ u.Edited t := by
  rw [runMutate] at h
  split at h
  · cases h
  · rw [Outcome.bind_eq_ok] at h
    obtain ⟨u, hu, h⟩ := h
    refine ⟨u, Context.offers_of_input hu, ?_⟩
    exact Outcome.foldlM_keeps (fun _ _ _ _ hassign hedited => hedited.assign hassign) h .refl

private theorem edited_of_runRescale {p : RescaleParameters} (h : runRescale c p = .ok t) :
    ∃ u, c.Offers u ∧ u.Edited t := by
  simp only [runRescale, Outcome.bind_eq_ok, Outcome.mapError_eq_ok] at h
  obtain ⟨u, hu, rescaling, -, columns, hcolumns, h⟩ := h
  refine ⟨u, Context.offers_of_input hu, ?_⟩
  refine Outcome.foldlM_keeps (fun column hcolumn _ _ hplace hedited => ?_) h .refl
  obtain ⟨name, -, hname⟩ := Outcome.exists_of_mem_mapM hcolumns hcolumn
  exact hedited.place (Rescaling.holdsKind_of_column hname) hplace

private theorem edited_of_runPeriod {p : PeriodParameters} (h : runPeriod c p = .ok t) :
    ∃ u, c.Offers u ∧ u.Edited t := by
  rw [runPeriod, Outcome.bind_eq_ok] at h
  obtain ⟨u, hu, h⟩ := h
  refine ⟨u, Context.offers_of_input hu, ?_⟩
  split at h
  · cases h
  · rw [Outcome.bind_eq_ok] at h
    obtain ⟨labels, -, h⟩ := h
    exact Table.Edited.refl.place (Column.holdsKind_categorical p.output labels) h

private theorem edited_of_runInterest {p : InterestParameters} (h : runInterest c p = .ok t) :
    ∃ u, c.Offers u ∧ u.Edited t := by
  simp only [runInterest, Outcome.bind_eq_ok] at h
  obtain ⟨u, hu, _, -, _, -, _, -, _, -, h⟩ := h
  refine ⟨u, Context.offers_of_input hu, Table.Edited.refl.place (fun cell hcell => ?_) h⟩
  obtain ⟨key, -, rfl⟩ := List.mem_map.mp hcell
  rfl

/-- How an operation makes a table. -/
inductive Makes (c : Context) (s : VoteState) (t : Table) : Operation → Prop where
  | edit {op : Operation} (hop : ∀ p, op ≠ join p) (ht : ∃ u, c.Offers u ∧ u.Edited t) :
      Makes c s t op
  | aggregate {p : AggregateParameters} {u : Table} (hu : c.Offers u)
      (ht : Aggregation.aggregate u p = .ok t) : Makes c s t (aggregate p)
  | join {p : JoinParameters} (ht : Join.joinAll p.on p.kind p.suffixes c.inputs = .ok t) :
      Makes c s t (join p)
  | divisionVotes {p : VotesParameters}
      (ht : (VoteMatrix.build c.fetcher p.divisions p.chamber p.weights p.namesPrefix s).result =
        .ok t) : Makes c s t (divisionVotes p)

theorem makes_of_run [Library] {s : VoteState} {op : Operation}
    (h : (op.run c s).result = .ok (.table t)) : Makes c s t op := by
  have htable : ∀ {x : Except Failure Table}, x.map Artifact.table = .ok (.table t) →
      x = .ok t := by
    intro x hmap
    obtain ⟨u, hu, heq⟩ := Outcome.map_eq_ok.mp hmap
    cases heq
    exact hu
  cases op with
  | source p => exact .edit (by simp) (edited_of_runSource (htable h))
  | filter condition => exact .edit (by simp) (edited_of_runFilter (htable h))
  | mutate assignments => exact .edit (by simp) (edited_of_runMutate (htable h))
  | aggregate p =>
    obtain ⟨u, hu, ht⟩ := Outcome.bind_eq_ok.mp (htable h)
    exact .aggregate (Context.offers_of_input hu) ht
  | join p => exact .join (Outcome.mapError_eq_ok.mp (htable h))
  | divisionVotes p => exact .divisionVotes (htable h)
  | test test =>
    obtain ⟨result, -, heq⟩ := Outcome.map_eq_ok.mp h
    cases heq
  | rescale p => exact .edit (by simp) (edited_of_runRescale (htable h))
  | period p => exact .edit (by simp) (edited_of_runPeriod (htable h))
  | interestFlag p => exact .edit (by simp) (edited_of_runInterest (htable h))

end Operation
end RollCall
