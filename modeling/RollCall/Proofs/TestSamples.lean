import RollCall.Proofs.CompleteRows
import RollCall.Proofs.FloatComparison
import RollCall.Proofs.GroupedRows
import RollCall.Proofs.NearestDoubles

/-!
# The samples of a t-test

Welch's test finds its groups while it leaves out rows. The samples it ends with are the usable rows
by their keys, and no other row leaves a trace: not a group, not a label, not an order.
-/
namespace RollCall

/-- A double that is no number is not finite. -/
theorem Binary64.isFinite_of_isNaN {x : Float} (h : x.isNaN = true) : isFinite x = false := by
  rw [isNaN_iff, value?] at h
  rw [isFinite]
  cases hparts : parts x with
  | nan | infinite => rfl
  | finite =>
    rw [hparts] at h
    cases h

namespace Cell

/-- A truth value or a finite number. -/
def isMeasure : Cell → Bool
  | .bool _ | .int _ => true
  | .float x => Binary64.isFinite x
  | .null | .text _ => false

/-- The number a truth value or a number counts as. -/
def measure : Cell → Float
  | .bool b => if b then 1.0 else 0.0
  | c => c.toFloat?.getD Binary64.nan

end Cell

namespace Statistics

/-- A cell that is no text is read, and gives a number if it is a measure. -/
theorem number?_eq (name : String) {c : Cell} (h : c.toText? = none) :
    number? name c = .ok (if c.isMeasure then some c.measure else none) := by
  cases c with
  | text s => cases h
  | null | bool => rfl
  | int n =>
    have hlow := n.le_toInt
    have hhigh := n.toInt_lt
    rw [number?_eq_filter name rfl rfl, Binary64.isFinite_ofInt (by omega)]
    rfl
  | float x =>
    cases hnan : x.isNaN with
    | true =>
      have hgap : isGap (.float x) = true := isGap_eq_true_iff.mpr (.inl hnan)
      rw [number?_of_gap name hgap, Cell.isMeasure, Binary64.isFinite_of_isNaN hnan,
        if_neg Bool.false_ne_true]
    | false => exact number?_eq_filter name hnan rfl

/-- What a row says for a test: a value and the group it is of. -/
structure Observation where
  value : Cell
  group : Cell
deriving DecidableEq, Inhabited

namespace Observation

def isUsable (o : Observation) : Bool :=
  !o.group.isMissing && o.value.isMeasure

def key (o : Observation) : Key :=
  o.group.key

def number (o : Observation) : Float :=
  o.value.measure

end Observation

def observation (t : Table) (value group : String) (row : Nat) : Observation :=
  ⟨t.cellAt row value, t.cellAt row group⟩

def usable (t : Table) (value group : String) : List Observation :=
  ((List.range t.rowCount).map (observation t value group)).filter Observation.isUsable

def under (os : List Observation) (k : Key) : List Observation :=
  os.filter fun o => o.key = k

/-- A table with both columns, in which no row of a group has a text for its value. -/
structure IsTestable (t : Table) (value group : String) : Prop where
  wellFormed : t.WellFormed
  value_mem : value ∈ t.names
  group_mem : group ∈ t.names
  value_not_text : ∀ row < t.rowCount, (t.cellAt row group).isMissing = false →
    (t.cellAt row value).toText? = none

variable {t u : Table} {value group : String} {os : List Observation} {o : Nat → Observation}
  {n : Nat} {k k₁ k₂ : Key} {r : TestResult}

/-- The groups that a list of observations is sorted into, one after the other. -/
def tally (os : List Observation) : List Sample :=
  os.foldl (fun found o => addTo o.group o.number found) []

/-- Only usable rows get into the groups. -/
theorem samples_eq (h : IsTestable t value group) :
    samples value ((List.range t.rowCount).map fun row => t.cellAt row value)
        ((List.range t.rowCount).map fun row => t.cellAt row group) =
      .ok (tally (usable t value group)) := by
  rw [samples, List.zip_map', List.foldlM_map, tally, usable, List.foldl_filter, List.foldl_map]
  refine Outcome.foldlM_eq_ok_foldl fun row hrow found => ?_
  dsimp only
  by_cases hmissing : (t.cellAt row group).isMissing = true
  · rw [if_pos hmissing]
    simp [observation, Observation.isUsable, hmissing]
  · rw [if_neg hmissing]
    rw [Bool.not_eq_true] at hmissing
    rw [number?_eq value (h.value_not_text row (List.mem_range.mp hrow) hmissing)]
    cases hmeasure : (t.cellAt row value).isMeasure <;>
      simp [observation, Observation.isUsable, Observation.number, hmissing, hmeasure]

/-- The sample of a key, labelled by the first of its observations. -/
def Sample.of (k : Key) (os : List Observation) : Sample where
  key := k
  label := (os.head?.map (·.group.display)).getD ""
  values := os.map Observation.number

/-- The sample of a group of rows, given what every row says. -/
def sampleAt (o : Nat → Observation) (g : List Key × List Nat) : Sample :=
  .of (g.1.headD .null) (g.2.map o)

theorem compareList_singleton (k l : Key) : Key.compareList [k] [l] = Key.compare k l := by
  rw [Key.compareList, Key.compareList, Ordering.then_eq]

/-- The next observation goes to the sample that its row goes to. -/
theorem addTo_sampleAt {groups : Grouping} (hkeys : ∀ g ∈ groups, ∃ k, g.1 = [k])
    (hrows : ∀ g ∈ groups, g.2 ≠ []) :
    addTo (o n).group (o n).number (groups.map (sampleAt o)) =
      (Grouping.add [(o n).key] n groups).map (sampleAt o) := by
  induction groups with
  | nil => rfl
  | cons g groups ih =>
    obtain ⟨ks, rows⟩ := g
    obtain ⟨⟨k, hk⟩, hotherKeys⟩ := List.forall_mem_cons.mp hkeys
    obtain ⟨hne, hotherRows⟩ := List.forall_mem_cons.mp hrows
    obtain rfl : ks = [k] := hk
    have hsample : (sampleAt o ([k], rows)).key = k := rfl
    rw [List.map_cons, addTo, Grouping.add, hsample, compareList_singleton, Observation.key]
    cases Key.compare (o n).group.key k with
    | lt => rfl
    | gt => exact congrArg (_ :: ·) (ih hotherKeys hotherRows)
    | eq =>
      -- The sample that is there has a first observation, and keeps the label it has from it.
      obtain ⟨first, rest, rfl⟩ := List.exists_cons_of_ne_nil hne
      simp [sampleAt, Sample.of]

open Grouping (Collects) in
/-- Observations are sorted as their rows are grouped. -/
theorem tally_map_range (o : Nat → Observation) (n : Nat) :
    tally ((List.range n).map o) =
      (Grouping.ofKeys ((List.range n).map fun i => [(o i).key])).map (sampleAt o) := by
  induction n with
  | zero => rfl
  | succ n ih =>
    have hcollects := Grouping.collects_ofKeys (fun i => [(o i).key]) n
    have hkeys : ∀ g ∈ Grouping.ofKeys ((List.range n).map fun i => [(o i).key]),
        ∃ k, g.1 = [k] := by
      intro g hg
      obtain ⟨i, -, hkey⟩ := (hcollects.mem_keys_iff g.1).mp (List.mem_map_of_mem hg)
      exact ⟨(o i).key, hkey.symm⟩
    rw [Grouping.ofKeys_map_range_succ, List.range_succ, List.map_append, tally,
      List.foldl_append, ← tally, ih]
    exact addTo_sampleAt hkeys fun g hg => hcollects.ne_nil hg

/-- The groups found are the keys of the observations in their order, each with the sample of the
observations under it. -/
theorem exists_tally (os : List Observation) :
    ∃ ks : List Key, Grouping.Rising (ks.map fun k => [k]) ∧
      (∀ k, k ∈ ks ↔ ∃ o ∈ os, o.key = k) ∧ tally os = ks.map fun k => .of k (under os k) := by
  obtain ⟨n, o, rfl⟩ : ∃ n, ∃ o : Nat → Observation, os = (List.range n).map o :=
    ⟨os.length, fun i => os.getD i default, (map_getD_range os default).symm⟩
  have hcollects := Grouping.collects_ofKeys (fun i => [(o i).key]) n
  -- The rows are grouped by one column, so that every key of the grouping has one part.
  obtain ⟨ks, hks⟩ : ∃ ks : List Key, ks.map (fun k => [k]) =
      (Grouping.ofKeys ((List.range n).map fun i => [(o i).key])).keys := by
    rw [← Set.mem_range, Set.range_list_map]
    intro l hl
    obtain ⟨i, -, hkey⟩ := (hcollects.mem_keys_iff l).mp hl
    exact ⟨_, hkey⟩
  refine ⟨ks, hks ▸ hcollects.rising, fun k => ?_, ?_⟩
  · have hmem := hcollects.mem_keys_iff [k]
    rw [← hks] at hmem
    simpa using hmem
  · rw [tally_map_range, hcollects.eq_map, ← hks, List.map_map, List.map_map]
    refine List.map_congr_left fun k _ => ?_
    simp [sampleAt, under, List.filter_map, Function.comp_def]

/-- The observations have two keys and no others, given in their order. -/
structure HasKeys (os : List Observation) (k₁ k₂ : Key) : Prop where
  lt : Key.compare k₁ k₂ = .lt
  exists_iff : ∀ k, (∃ o ∈ os, o.key = k) ↔ k = k₁ ∨ k = k₂

/-- There are two samples, of at least two observations each. -/
structure Splits (os : List Observation) (k₁ k₂ : Key) : Prop extends HasKeys os k₁ k₂ where
  two_le_first : 2 ≤ (under os k₁).length
  two_le_second : 2 ≤ (under os k₂).length

/-- What the test says of two samples. Each is labelled by the group cell of its first row. -/
inductive Compares [Library] (os : List Observation) (k₁ k₂ : Key) : TestResult → Prop
  | intro {first second : Observation} {statistic freedom p : Float}
    (hfirst : (under os k₁).head? = some first) (hsecond : (under os k₂).head? = some second)
    (hwelch : welch ((under os k₁).map Observation.number) ((under os k₂).map Observation.number) =
      .ok (statistic, freedom))
    (hp : twoSided statistic freedom = .ok p) :
    Compares os k₁ k₂ (.ttest statistic p (under os k₁).length (under os k₂).length
      first.group.display second.group.display)

theorem rising_pair_iff :
    Grouping.Rising ([k₁, k₂].map fun k => [k]) ↔ Key.compare k₁ k₂ = .lt := by
  rw [Grouping.Rising, List.map_cons, List.map_cons, List.map_nil, List.pairwise_pair,
    compareList_singleton]

private theorem HasKeys.tally_eq (h : HasKeys os k₁ k₂) :
    tally os = [.of k₁ (under os k₁), .of k₂ (under os k₂)] := by
  obtain ⟨ks, hrising, hmem, htally⟩ := exists_tally os
  have hkeys : (ks.map fun k => [k]) = [k₁, k₂].map fun k => [k] := by
    refine hrising.ext (rising_pair_iff.mpr h.lt) fun l => ?_
    have hpair : ∀ k, k ∈ ks ↔ k ∈ [k₁, k₂] := fun k => by
      rw [hmem, h.exists_iff, List.mem_pair]
    simp only [List.mem_map, hpair]
  obtain rfl : ks = [k₁, k₂] := List.map_injective_iff.mpr List.singleton_injective hkeys
  exact htally

private theorem exists_hasKeys {a b : Sample} (h : tally os = [a, b]) :
    ∃ k₁ k₂, HasKeys os k₁ k₂ ∧ a = .of k₁ (under os k₁) ∧ b = .of k₂ (under os k₂) := by
  obtain ⟨ks, hrising, hmem, htally⟩ := exists_tally os
  rw [h] at htally
  obtain ⟨k₁, k₂, rfl⟩ : ∃ k₁ k₂, ks = [k₁, k₂] := by
    have hlength := congrArg List.length htally
    rw [List.length_map] at hlength
    exact List.length_eq_two.mp hlength.symm
  simp only [List.map_cons, List.map_nil, List.cons.injEq, and_true] at htally
  obtain ⟨rfl, rfl⟩ := htally
  refine ⟨k₁, k₂, ⟨rising_pair_iff.mp hrising, fun k => ?_⟩, rfl, rfl⟩
  rw [← hmem, List.mem_pair]

private theorem Splits.length_add (h : Splits os k₁ k₂) :
    (under os k₁).length + (under os k₂).length = os.length := by
  have hne : [k₁] ≠ [k₂] :=
    Grouping.ne_of_compareList ((compareList_singleton k₁ k₂).trans h.lt)
  have hkeys : ∀ o ∈ os, o.key ∈ [k₁, k₂] := fun o ho =>
    List.mem_pair.mpr ((h.exists_iff o.key).mp ⟨o, ho, rfl⟩)
  simpa [under] using sum_length_filter Observation.key (by simpa using hne) hkeys

private theorem Sample.label_of {first : Observation} (h : os.head? = some first) :
    (of k os).label = first.group.display := by
  rw [of, h]
  rfl

private theorem Sample.length_values_of : (of k os).values.length = os.length :=
  List.length_map _

private theorem exists_first (h : 2 ≤ os.length) : ∃ first, os.head? = some first := by
  obtain ⟨first, rest, rfl⟩ := List.exists_cons_of_length_pos (Nat.zero_lt_of_lt h)
  exact ⟨first, rfl⟩

private theorem ttest_eq_ok_iff [Library] (h : IsTestable t value group) :
    ttest t value group = .ok r ↔ ∃ k₁ k₂, Splits (usable t value group) k₁ k₂ ∧
      Compares (usable t value group) k₁ k₂ r := by
  rw [ttest, cells_eq h.wellFormed h.value_mem, cells_eq h.wellFormed h.group_mem]
  change ((samples value _ _).bind _) = _ ↔ _
  rw [samples_eq h, Except.bind]
  constructor
  · intro hr
    split at hr
    · next a b hpair =>
      obtain ⟨k₁, k₂, hkeys, rfl, rfl⟩ := exists_hasKeys hpair
      simp only [Sample.length_values_of] at hr
      split at hr
      · cases hr
      · next hmany =>
        simp only [Bool.or_eq_true, decide_eq_true_eq, not_or, not_lt] at hmany
        simp only [Outcome.bind_eq_ok, Outcome.pure_eq_ok] at hr
        obtain ⟨⟨statistic, freedom⟩, hwelch, p, hp, rfl⟩ := hr
        obtain ⟨first, hfirst⟩ := exists_first hmany.1
        obtain ⟨second, hsecond⟩ := exists_first hmany.2
        rw [Sample.label_of hfirst, Sample.label_of hsecond]
        exact ⟨k₁, k₂, ⟨hkeys, hmany.1, hmany.2⟩, .intro hfirst hsecond hwelch hp⟩
    · cases hr
  · rintro ⟨k₁, k₂, hsplits, hfirst, hsecond, hwelch, hp⟩
    have hmany := And.intro hsplits.two_le_first hsplits.two_le_second
    rw [hsplits.tally_eq]
    simp only [Sample.length_values_of, Sample.label_of hfirst, Sample.label_of hsecond]
    rw [if_neg (by simpa only [Bool.or_eq_true, decide_eq_true_eq, not_or, not_lt] using hmany)]
    simp only [Outcome.bind_eq_ok, Outcome.pure_eq_ok]
    exact ⟨_, hwelch, _, hp, rfl⟩

private theorem ttest_congr [Library] (ht : IsTestable t value group)
    (hu : IsTestable u value group) (h : usable u value group = usable t value group) :
    ttest u value group = ttest t value group := by
  simp only [ttest, cells_eq ht.wellFormed ht.value_mem, cells_eq ht.wellFormed ht.group_mem,
    cells_eq hu.wellFormed hu.value_mem, cells_eq hu.wellFormed hu.group_mem]
  change (samples value _ _).bind _ = (samples value _ _).bind _
  rw [samples_eq ht, samples_eq hu, h]

variable {rows : List Nat}

private theorem observation_takeRows (t : Table) (value group : String) {j : Nat}
    (hj : j < rows.length) :
    observation (t.takeRows rows) value group j = observation t value group (rows.getD j 0) := by
  rw [observation, observation, t.cellAt_takeRows rows hj, t.cellAt_takeRows rows hj,
    List.getD_eq_getElem _ _ hj]

private theorem usable_takeRows (t : Table) (value group : String) (rows : List Nat) :
    usable (t.takeRows rows) value group =
      (rows.map (observation t value group)).filter Observation.isUsable := by
  conv_rhs => rw [← map_getD_range rows 0, List.map_map]
  refine congrArg (List.filter _) (List.map_congr_left fun j hj => ?_)
  exact observation_takeRows t value group (List.mem_range.mp hj)

/-- A table is another one from which unusable rows have been deleted. -/
def OmitsUnusable (value group : String) (t u : Table) : Prop :=
  ∃ rows, rows.Sublist (List.range t.rowCount) ∧
    (∀ row < t.rowCount, (observation t value group row).isUsable → row ∈ rows) ∧
    u = t.takeRows rows

private theorem OmitsUnusable.usable_eq (h : OmitsUnusable value group t u) :
    usable u value group = usable t value group := by
  obtain ⟨rows, hrows, hkept, rfl⟩ := h
  rw [usable_takeRows, usable, List.filter_map, List.filter_map]
  refine congrArg _ (filter_of_sublist hrows List.nodup_range fun row hrow => ?_)
  exact hkept row (List.mem_range.mp hrow)

private theorem IsTestable.omit (ht : IsTestable t value group)
    (h : OmitsUnusable value group t u) :
    IsTestable u value group := by
  obtain ⟨rows, hrows, -, rfl⟩ := h
  refine ⟨ht.wellFormed.takeRows rows, ?_, ?_, fun j hj hgroup => ?_⟩
  · rw [Table.names_takeRows]
    exact ht.value_mem
  · rw [Table.names_takeRows]
    exact ht.group_mem
  · have hj : j < rows.length := hj
    have hrow := List.mem_range.mp (hrows.subset (List.getElem_mem hj))
    rw [t.cellAt_takeRows rows hj] at hgroup ⊢
    exact ht.value_not_text _ hrow hgroup

/-- The test splits the usable rows into two samples. It succeeds exactly if they have two keys with
at least two rows each and the samples can be compared. Its result is then about the samples in the
order of their keys, which together are the usable rows. It depends on nothing but these, so that
other rows may be deleted and inserted. -/
theorem ttest_splits_usable [Library] (h : IsTestable t value group) :
    (∀ r, ttest t value group = .ok r ↔ ∃ k₁ k₂, Splits (usable t value group) k₁ k₂ ∧
      Compares (usable t value group) k₁ k₂ r) ∧
    ((¬∃ k₁ k₂, Splits (usable t value group) k₁ k₂) →
      ∃ fault, ttest t value group = .error fault) ∧
    (∀ k₁ k₂, Splits (usable t value group) k₁ k₂ →
      (under (usable t value group) k₁).length + (under (usable t value group) k₂).length =
        (usable t value group).length) ∧
    (∀ u, IsTestable u value group → usable u value group = usable t value group →
      ttest u value group = ttest t value group) ∧
    (∀ u, OmitsUnusable value group t u → ttest u value group = ttest t value group) ∧
    ∀ u, IsTestable u value group → OmitsUnusable value group u t →
      ttest u value group = ttest t value group := by
  refine ⟨fun r => ttest_eq_ok_iff h, fun hnone => ?_, fun k₁ k₂ hsplits => hsplits.length_add,
    fun u hu => ttest_congr h hu, fun u homits => ttest_congr h (h.omit homits) homits.usable_eq,
    fun u hu homits => ttest_congr h hu homits.usable_eq.symm⟩
  cases hr : ttest t value group with
  | ok r =>
    obtain ⟨k₁, k₂, hsplits, -⟩ := (ttest_eq_ok_iff h).mp hr
    exact absurd ⟨k₁, k₂, hsplits⟩ hnone
  | error fault => exact ⟨fault, rfl⟩

/-- Turnouts of wards by their seats. The first ward with two seats counts, the second has no
turnout, the only ward with three seats an infinite one, and the last ward no number of seats. -/
def wards : Table :=
  ⟨[⟨"seats", .numeric, [.int 2, .int 2, .int 1, .float 1.0, .int 3, .float 2.0, .null]⟩,
    ⟨"turnout", .numeric, [.int 3, .null, .int 1, .bool true, .float Binary64.infinity, .int 5,
      .text "none"]⟩], 7⟩

private theorem isTestable_wards : IsTestable wards "turnout" "seats" where
  wellFormed := ⟨by decide, by decide⟩
  value_mem := by decide
  group_mem := by decide
  value_not_text := by decide +kernel

theorem under_wards :
    under (usable wards "turnout" "seats") (.int 1) = [⟨.int 1, .int 1⟩, ⟨.bool true, .float 1.0⟩] ∧
      under (usable wards "turnout" "seats") (.int 2) =
        [⟨.int 3, .int 2⟩, ⟨.int 5, .float 2.0⟩] := by
  decide +kernel

private theorem splits_wards : Splits (usable wards "turnout" "seats") (.int 1) (.int 2) where
  lt := rfl
  exists_iff k := by
    have hkeys : (usable wards "turnout" "seats").map Observation.key =
        [.int 2, .int 1, .int 1, .int 2] := by decide +kernel
    rw [← List.mem_map, hkeys]
    simp only [List.mem_cons, List.not_mem_nil]
    tauto
  two_le_first := by rw [under_wards.1]; exact le_rfl
  two_le_second := by rw [under_wards.2]; exact le_rfl

private theorem compares_wards : Compares (usable wards "turnout" "seats") (.int 1) (.int 2)
    (.ttest (-3.0) (tails (-3.0) 1.0) 2 2 "1" "2") := by
  obtain ⟨hones, htwos⟩ := under_wards
  have hwelch : welch ((under (usable wards "turnout" "seats") (.int 1)).map Observation.number)
      ((under (usable wards "turnout" "seats") (.int 2)).map Observation.number) =
        .ok (-3.0, 1.0) := by
    rw [hones, htwos, welch, if_neg (by decide +kernel)]
    exact congrArg Except.ok (by decide +kernel)
  have hp : twoSided (-3.0) 1.0 = .ok (tails (-3.0) 1.0) := by
    rw [twoSided, if_neg (by decide +kernel), if_pos (by decide +kernel)]
  have hcompares :=
    Compares.intro (congrArg List.head? hones) (congrArg List.head? htwos) hwelch hp
  rw [hones, htwos] at hcompares
  exact hcompares

theorem ttest_splits_usable_sample :
    ttest wards "turnout" "seats" = .ok (.ttest (-3.0) (tails (-3.0) 1.0) 2 2 "1" "2") ∧
      ttest (wards.takeRows [0, 2, 3, 5]) "turnout" "seats" =
        .ok (.ttest (-3.0) (tails (-3.0) 1.0) 2 2 "1" "2") := by
  obtain ⟨hok, -, -, -, homit, -⟩ := ttest_splits_usable isTestable_wards
  have hwards := (hok _).mpr ⟨_, _, splits_wards, compares_wards⟩
  have homits : OmitsUnusable "turnout" "seats" wards (wards.takeRows [0, 2, 3, 5]) :=
    ⟨[0, 2, 3, 5], by decide, by decide +kernel, rfl⟩
  exact ⟨hwards, (homit _ homits).trans hwards⟩

end Statistics
end RollCall
