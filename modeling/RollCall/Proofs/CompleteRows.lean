import Mathlib.Data.List.GetD
import Mathlib.Data.List.TakeWhile
import Mathlib.Data.List.Zip
import RollCall.Library.Standard
import RollCall.Proofs.Filtering
import RollCall.Proofs.Strict.Statistics

/-!
# Complete rows

A test is made of the rows without a gap, a missing or infinite cell, in the columns it uses. It
reads a row column after column and stops at the first gap, so a text in a row that is left out
makes it fail if it stands before the gap.
-/
namespace RollCall

open Float.Model Float.Model.UnpackedFloat in
/-- Products of doubles do not depend on the order of the factors. -/
theorem Binary64.mul_comm (x y : Float) : x * y = y * x := by
  have hsign : ∀ s t : Sign, s * t = t * s := by
    intro s t
    cases s <;> cases t <;> rfl
  have hmul : ∀ u v : UnpackedFloat, u.mul Format.binary64 v = v.mul Format.binary64 u := by
    intro u v
    cases u <;> cases v <;> dsimp only [UnpackedFloat.mul] <;>
      simp only [hsign, Nat.mul_comm, Int.add_comm]
  have hproduct : ∀ z w : Float,
      z * w = .ofModel (.pack (z.toModel.unpack.mul Format.binary64 w.toModel.unpack)) :=
    fun _ _ => rfl
  rw [hproduct, hproduct, hmul]

namespace Statistics

/-- A missing or infinite cell. -/
def isGap (c : Cell) : Bool :=
  c.isMissing || c.toFloat?.any fun x => !Binary64.isFinite x

/-- A text stands before the first gap. -/
def TextLeads (cs : List Cell) : Prop :=
  ∃ c ∈ cs.takeWhile fun c => !isGap c, c.toText? ≠ none

instance (cs : List Cell) : Decidable (TextLeads cs) :=
  inferInstanceAs (Decidable (∃ c ∈ _, _ ≠ _))

/-- The rows without a gap in the given columns. -/
def completePart (t : Table) (names : List String) : Table :=
  t.takeRows ((List.range t.rowCount).filter fun i => names.all fun n => !isGap (t.cellAt i n))

/-- No row has both a text and a gap in the given columns. -/
def TextsComplete (t : Table) (names : List String) : Prop :=
  ∀ i < t.rowCount, (∃ n ∈ names, (t.cellAt i n).toText? ≠ none) →
    ∀ n ∈ names, isGap (t.cellAt i n) = false

instance (t : Table) (names : List String) : Decidable (TextsComplete t names) :=
  inferInstanceAs (Decidable (∀ i < _, (∃ n ∈ names, _ ≠ none) → ∀ n ∈ names, _ = false))

variable {c : Cell} {cs : List Cell} {row : List (String × Cell)} {t : Table}
  {names : List String}

theorem isGap_eq_true_iff : isGap c = true ↔
    c.isMissing = true ∨ ∃ x, c.toFloat? = some x ∧ Binary64.isFinite x = false := by
  rw [isGap, Bool.or_eq_true, Option.any_eq_true]
  simp

theorem number?_eq_filter (name : String) {x : Float} (hmissing : c.isMissing = false)
    (hx : c.toFloat? = some x) :
    number? name c = .ok (if Binary64.isFinite x then some x else none) := by
  rw [number?.eq_def, hmissing, if_neg Bool.false_ne_true]
  cases c with
  | null | bool | text => cases hx
  | int | float => exact congrArg (fun o => Except.ok (Option.filter Binary64.isFinite o)) hx

theorem number?_of_gap (name : String) (h : isGap c = true) : number? name c = .ok none := by
  cases hmissing : c.isMissing with
  | true => rw [number?.eq_def, hmissing, if_pos rfl]
  | false =>
    obtain ⟨x, hx, hinfinite⟩ := (isGap_eq_true_iff.mp h).resolve_left (by simp [hmissing])
    rw [number?_eq_filter name hmissing hx, hinfinite, if_neg Bool.false_ne_true]

private theorem number?_of_text (name : String) (h : c.toText? ≠ none) :
    ∃ e, number? name c = .error e := by
  cases c with
  | text s => exact ⟨_, rfl⟩
  | null | bool | int | float => exact absurd rfl h

/-- The number of a cell does not depend on its column. -/
theorem exists_number? (hgap : isGap c = false) (htext : c.toText? = none) :
    ∃ x, ∀ name, number? name c = .ok (some x) := by
  have hnot := mt isGap_eq_true_iff.mpr (ne_true_of_eq_false hgap)
  rw [not_or, Bool.not_eq_true] at hnot
  obtain ⟨hmissing, hnot⟩ := hnot
  have hfinite : ∀ {x}, c.toFloat? = some x → ∀ name, number? name c = .ok (some x) := by
    intro x hx name
    rw [number?_eq_filter name hmissing hx, if_pos]
    by_contra hinfinite
    exact hnot ⟨x, hx, by simpa using hinfinite⟩
  cases c with
  | null => cases hmissing
  | text s => cases htext
  | bool b => exact ⟨if b then 1.0 else 0.0, fun _ => rfl⟩
  | int n => exact ⟨_, hfinite rfl⟩
  | float x => exact ⟨_, hfinite rfl⟩

theorem textLeads_cons : TextLeads (c :: cs) ↔
    isGap c = false ∧ (c.toText? ≠ none ∨ TextLeads cs) := by
  rw [TextLeads, TextLeads, List.takeWhile_cons]
  cases isGap c <;> simp

private theorem rowNumbers_of_textLeads (h : TextLeads (row.map Prod.snd)) :
    ∃ e, rowNumbers row = .error e := by
  induction row with
  | nil => simp [TextLeads] at h
  | cons entry row ih =>
    obtain ⟨name, c⟩ := entry
    rw [List.map_cons, textLeads_cons] at h
    obtain ⟨hgap, h⟩ := h
    rw [rowNumbers]
    by_cases htext : c.toText? = none
    · obtain ⟨e, he⟩ := ih (h.resolve_left (not_not_intro htext))
      obtain ⟨x, hx⟩ := exists_number? hgap htext
      rw [hx, he]
      exact ⟨e, rfl⟩
    · obtain ⟨e, he⟩ := number?_of_text name htext
      rw [he]
      exact ⟨e, rfl⟩

/-- A row that no text leads is read, and left out if it has a gap. -/
theorem rowNumbers_of_not_textLeads (h : ¬TextLeads (row.map Prod.snd)) :
    ∃ xs, rowNumbers row = .ok xs ∧ (xs = none ↔ ∃ entry ∈ row, isGap entry.2 = true) := by
  induction row with
  | nil => exact ⟨some [], rfl, by simp⟩
  | cons entry row ih =>
    obtain ⟨name, c⟩ := entry
    rw [List.map_cons, textLeads_cons] at h
    rw [rowNumbers]
    cases hgap : isGap c with
    | true =>
      rw [number?_of_gap name hgap]
      exact ⟨none, rfl, by simp [hgap]⟩
    | false =>
      simp only [hgap, true_and, not_or, not_not] at h
      obtain ⟨x, hx⟩ := exists_number? hgap h.1
      obtain ⟨xs, hxs, hnone⟩ := ih h.2
      rw [hx, hxs]
      exact ⟨xs.map (x :: ·), rfl, by simp [hnone, hgap]⟩

/-- The numbers of a row in the given columns, unless it has a gap there. -/
def numbersAt (t : Table) (names : List String) (i : Nat) :
    Except TestFault (Option (List Float)) :=
  rowNumbers (names.map fun name => (name, t.cellAt i name))

theorem cells_eq (ht : t.WellFormed) {name : String} (hname : name ∈ t.names) :
    cells t name = .ok ((List.range t.rowCount).map fun i => t.cellAt i name) := by
  obtain ⟨c, hc⟩ := Option.isSome_iff_exists.mp (Table.column?_isSome_iff.mpr hname)
  rw [cells, hc]
  exact congrArg Except.ok (ht.cells_eq hc)

/-- A table is read row by row. -/
theorem completeRows_eq (ht : t.WellFormed) (hnames : ∀ name ∈ names, name ∈ t.names) :
    completeRows t names =
      ((List.range t.rowCount).mapM (numbersAt t names)).map (List.filterMap id) := by
  have hcolumns : names.mapM (cells t) =
      .ok (names.map fun name => (List.range t.rowCount).map fun i => t.cellAt i name) := by
    rw [Outcome.mapM_congr fun name hname => cells_eq ht (hnames name hname)]
    exact List.mapM_pure
  have hrows : rowsOf t.rowCount
      (names.map fun name => (List.range t.rowCount).map fun i => t.cellAt i name) =
      (List.range t.rowCount).map fun i => names.map (t.cellAt i) := by
    rw [rowsOf_eq (by simp)]
    refine List.map_congr_left fun i hi => ?_
    rw [List.map_map]
    refine List.map_congr_left fun name _ => ?_
    simp [List.mem_range.mp hi]
  rw [completeRows, hcolumns]
  change ((rowsOf t.rowCount _).mapM fun row => rowNumbers (names.zip row)).map _ = _
  rw [hrows, List.mapM_map]
  refine congrArg (Except.map _) (Outcome.mapM_congr fun i _ => ?_)
  rw [Function.comp_apply, numbersAt, List.map_prod_left_eq_zip]

private theorem completeRows_takeRows (ht : t.WellFormed) (hnames : ∀ name ∈ names, name ∈ t.names)
    (rows : List Nat) :
    completeRows (t.takeRows rows) names =
      (rows.mapM (numbersAt t names)).map (List.filterMap id) := by
  rw [completeRows_eq (ht.takeRows rows) (by rwa [Table.names_takeRows])]
  conv_rhs => rw [← map_getD_range rows 0, List.mapM_map]
  refine congrArg (Except.map _) (Outcome.mapM_congr fun j hj => ?_)
  have hj : j < rows.length := List.mem_range.mp hj
  rw [Function.comp_apply, numbersAt, numbersAt, List.getD_eq_getElem _ _ hj]
  refine congrArg rowNumbers (List.map_congr_left fun name _ => ?_)
  rw [t.cellAt_takeRows rows hj]

theorem map_snd_row (t : Table) (names : List String) (i : Nat) :
    (names.map fun name => (name, t.cellAt i name)).map Prod.snd = names.map (t.cellAt i) := by
  rw [List.map_map]
  rfl

private theorem numbersAt_of_textLeads {i : Nat} (h : TextLeads (names.map (t.cellAt i))) :
    ∃ e, numbersAt t names i = .error e :=
  rowNumbers_of_textLeads (by rwa [map_snd_row])

theorem not_textLeads_of_numbersAt {i : Nat} {ns : Option (List Float)}
    (h : numbersAt t names i = .ok ns) : ¬TextLeads (names.map (t.cellAt i)) := by
  intro htext
  obtain ⟨e, he⟩ := numbersAt_of_textLeads htext
  rw [he] at h
  cases h

theorem exists_numbersAt {i : Nat} (h : ¬TextLeads (names.map (t.cellAt i))) :
    ∃ xs, numbersAt t names i = .ok xs ∧
      (xs = none ↔ ∃ name ∈ names, isGap (t.cellAt i name) = true) := by
  obtain ⟨xs, hxs, hnone⟩ := rowNumbers_of_not_textLeads (by rwa [map_snd_row])
  exact ⟨xs, hxs, by simpa using hnone⟩

/-- The rows of a table are read exactly if no text leads one of them. -/
theorem exists_completeRows_iff (ht : t.WellFormed) (hnames : ∀ name ∈ names, name ∈ t.names) :
    (∃ rows, completeRows t names = .ok rows) ↔
      ∀ i < t.rowCount, ¬TextLeads (names.map (t.cellAt i)) := by
  have hmapM : (∃ rows, completeRows t names = .ok rows) ↔
      ∃ rows, (List.range t.rowCount).mapM (numbersAt t names) = .ok rows := by
    simp only [completeRows_eq ht hnames, Outcome.map_eq_ok]
    rw [exists_comm]
    simp
  rw [hmapM, Outcome.exists_mapM_eq_ok]
  simp only [List.mem_range]
  refine forall₂_congr fun i _ => ?_
  constructor
  · rintro ⟨xs, hxs⟩
    exact not_textLeads_of_numbersAt hxs
  · intro htext
    obtain ⟨xs, hxs, -⟩ := exists_numbersAt htext
    exact ⟨xs, hxs⟩

/-- Where no text leads a row with a gap, the rows with gaps may be left out beforehand. -/
theorem completeRows_completePart (ht : t.WellFormed) (hnames : ∀ name ∈ names, name ∈ t.names)
    (h : ∀ i < t.rowCount, TextLeads (names.map (t.cellAt i)) →
      ∀ name ∈ names, isGap (t.cellAt i name) = false) :
    completeRows (completePart t names) names = completeRows t names := by
  rw [completePart, completeRows_takeRows ht hnames, completeRows_eq ht hnames]
  refine Outcome.mapM_filter fun i hi hgap => ?_
  simp only [List.all_eq_false, Bool.not_eq_true', Bool.not_eq_false] at hgap
  have htext : ¬TextLeads (names.map (t.cellAt i)) := by
    intro htext
    obtain ⟨name, hname, hgap⟩ := hgap
    rw [h i (List.mem_range.mp hi) htext name hname] at hgap
    cases hgap
  obtain ⟨xs, hxs, hnone⟩ := exists_numbersAt htext
  rw [hxs, hnone.mpr hgap]

/-- Leaving out the rows with gaps beforehand changes the outcome only if it makes the rest readable
while a text leads a row left out. -/
theorem sameOutcome_completePart_iff (ht : t.WellFormed)
    (hnames : ∀ name ∈ names, name ∈ t.names) :
    (completeRows t names).toOption = (completeRows (completePart t names) names).toOption ↔
      (completeRows (completePart t names) names).toOption = none ∨
        ∀ i < t.rowCount, TextLeads (names.map (t.cellAt i)) →
          ∀ name ∈ names, isGap (t.cellAt i name) = false := by
  constructor
  · intro hsame
    cases hpart : completeRows (completePart t names) names with
    | error e => exact .inl rfl
    | ok rows =>
      rw [hpart] at hsame
      cases hread : completeRows t names with
      | error e =>
        rw [hread] at hsame
        cases hsame
      | ok rows' =>
        have hno := (exists_completeRows_iff ht hnames).mp ⟨rows', hread⟩
        exact .inr fun i hi htext => absurd htext (hno i hi)
  · rintro (hnone | hno)
    · cases hread : completeRows t names with
      | error e => exact hnone.symm
      | ok rows =>
        have hno := (exists_completeRows_iff ht hnames).mp ⟨rows, hread⟩
        rw [completeRows_completePart ht hnames fun i hi htext => absurd htext (hno i hi), hread]
    · rw [completeRows_completePart ht hnames hno]

/-- Where rows with texts have no gaps, a text leads a row exactly if the row has one. -/
theorem TextsComplete.textLeads_iff (h : TextsComplete t names) {i : Nat} (hi : i < t.rowCount) :
    TextLeads (names.map (t.cellAt i)) ↔ ∃ name ∈ names, (t.cellAt i name).toText? ≠ none := by
  constructor
  · rintro ⟨c, hc, htext⟩
    obtain ⟨name, hname, rfl⟩ := List.mem_map.mp ((List.takeWhile_sublist _).subset hc)
    exact ⟨name, hname, htext⟩
  · rintro ⟨name, hname, htext⟩
    have hcomplete := h i hi ⟨name, hname, htext⟩
    refine ⟨_, ?_, htext⟩
    rw [List.takeWhile_eq_self_iff.mpr (by simpa using hcomplete)]
    exact List.mem_map_of_mem hname

theorem TextsComplete.mono {names' : List String} (h : TextsComplete t names)
    (hsub : names' ⊆ names) : TextsComplete t names' :=
  fun i hi ⟨name, hname, htext⟩ name' hname' =>
    h i hi ⟨name, hsub hname, htext⟩ name' (hsub hname')

/-- Whether rows are read does not depend on the order of the columns. -/
theorem TextsComplete.exists_completeRows_perm {names' : List String} (h : TextsComplete t names)
    (ht : t.WellFormed) (hnames : ∀ name ∈ names, name ∈ t.names) (hperm : names.Perm names') :
    (∃ rows, completeRows t names = .ok rows) ↔ ∃ rows, completeRows t names' = .ok rows := by
  rw [exists_completeRows_iff ht hnames,
    exists_completeRows_iff ht fun name hname => hnames name (hperm.mem_iff.mpr hname)]
  refine forall₂_congr fun i hi => not_congr ?_
  rw [h.textLeads_iff hi, (h.mono hperm.symm.subset).textLeads_iff hi]
  simp only [hperm.mem_iff]

/-- With the columns the other way round, the sums of squares change places. -/
theorem deviations_swap (xs ys : List Float) :
    deviations ys xs = Prod.map id Prod.swap (deviations xs ys) := by
  rw [deviations, ← List.zip_swap, List.foldl_map, deviations]
  change List.foldl _ (Prod.map id Prod.swap (0.0, 0.0, 0.0)) _ = _
  refine List.foldl_hom (Prod.map id Prod.swap) ?_
  rintro ⟨sxy, sxx, syy⟩ ⟨x, y⟩
  simp only [Prod.map_apply, Prod.swap_prod_mk, id, Binary64.mul_comm]

private theorem correlationOf_comm [Library] {xs ys : List Float} (h : xs.length = ys.length) :
    correlationOf xs ys = correlationOf ys xs := by
  rw [correlationOf, correlationOf, deviations_swap xs ys, h]
  simp only [Prod.map_fst, Prod.map_snd, Prod.fst_swap, Prod.snd_swap, id, Bool.or_comm,
    Binary64.mul_comm]

/-- A row that is read both ways gives the same numbers both ways. -/
theorem numbersAt_swap {x y : String} {i : Nat} {ns ms : Option (List Float)}
    (hns : numbersAt t [x, y] i = .ok ns) (hms : numbersAt t [y, x] i = .ok ms) :
    ms = ns.map List.reverse := by
  have hread := not_textLeads_of_numbersAt hns
  by_cases hgap : ∃ name ∈ [x, y], isGap (t.cellAt i name) = true
  · obtain ⟨_, h, hnone⟩ := exists_numbersAt hread
    rw [hns, Except.ok.injEq] at h
    obtain ⟨_, hSwap, hnoneSwap⟩ := exists_numbersAt (not_textLeads_of_numbersAt hms)
    rw [hms, Except.ok.injEq] at hSwap
    rw [h, hnone.mpr hgap, hSwap, hnoneSwap.mpr (by simpa [or_comm] using hgap)]
    rfl
  · simp only [List.mem_cons, List.not_mem_nil, or_false, exists_eq_or_imp, exists_eq_left, not_or,
      Bool.not_eq_true] at hgap
    obtain ⟨hx, hy⟩ := hgap
    simp only [List.map_cons, List.map_nil, textLeads_cons, hx, hy, true_and, not_or,
      not_not] at hread
    obtain ⟨a, ha⟩ := exists_number? hx hread.1
    obtain ⟨b, hb⟩ := exists_number? hy hread.2.1
    simp only [numbersAt, List.map_cons, List.map_nil, rowNumbers, ha, hb] at hns hms
    cases hns
    cases hms
    rfl

/-- Complete rows that are read both ways have the same numbers both ways. -/
theorem completeRows_swap (ht : t.WellFormed) {x y : String} (hx : x ∈ t.names) (hy : y ∈ t.names)
    {rows rows' : List (List Float)} (h : completeRows t [x, y] = .ok rows)
    (hSwap : completeRows t [y, x] = .ok rows') : rows' = rows.map List.reverse := by
  rw [completeRows_eq ht (by simp [hx, hy]), Outcome.map_eq_ok] at h hSwap
  obtain ⟨found, hfound, rfl⟩ := h
  obtain ⟨found', hfound', rfl⟩ := hSwap
  have hreversed : (List.range t.rowCount).mapM (numbersAt t [y, x]) =
      .ok (found.map (Option.map List.reverse)) := by
    refine Outcome.mapM_eq_ok_map (fun i hi ns hns => ?_) hfound
    obtain ⟨ms, hms⟩ := Outcome.exists_ok_of_mapM hfound' i hi
    rw [hms, numbersAt_swap hns hms]
  rw [hreversed, Except.ok.injEq] at hfound'
  rw [← hfound', List.filterMap_map, List.map_filterMap]
  rfl

/-- Two columns that are read both ways correlate the same both ways. -/
theorem correlation_swap [Library] (ht : t.WellFormed) {x y : String} (hx : x ∈ t.names)
    (hy : y ∈ t.names) {rows rows' : List (List Float)} (h : completeRows t [x, y] = .ok rows)
    (hSwap : completeRows t [y, x] = .ok rows') : correlation t x y = correlation t y x := by
  have hlength := length_of_mem_completeRows ht h
  have hpair : ∀ row ∈ rows, row.reverse[0]? = row[1]? ∧ row.reverse[1]? = row[0]? := by
    intro row hrow
    obtain ⟨a, b, rfl⟩ := List.length_eq_two.mp (hlength row hrow)
    exact ⟨rfl, rfl⟩
  have hfirst : columnOf (rows.map List.reverse) 0 = columnOf rows 1 := by
    rw [columnOf, List.map_map]
    exact List.map_congr_left fun row hrow => by rw [Function.comp_apply, (hpair row hrow).1]
  have hsecond : columnOf (rows.map List.reverse) 1 = columnOf rows 0 := by
    rw [columnOf, List.map_map]
    exact List.map_congr_left fun row hrow => by rw [Function.comp_apply, (hpair row hrow).2]
  rw [correlation, h, correlation, hSwap, completeRows_swap ht hx hy h hSwap]
  change correlationOf _ _ = correlationOf _ _
  rw [hfirst, hsecond]
  exact correlationOf_comm (by simp [columnOf])

private theorem TextsComplete.correlation_comm [Library] (h : TextsComplete t names)
    (ht : t.WellFormed)
    (hnames : ∀ name ∈ names, name ∈ t.names) {x y : String} (hx : x ∈ names) (hy : y ∈ names) :
    (correlation t x y).toOption = (correlation t y x).toOption := by
  have hxt := hnames x hx
  have hyt := hnames y hy
  have hpair : TextsComplete t [x, y] := h.mono (by simp [hx, hy])
  have hboth := hpair.exists_completeRows_perm ht (by simp [hxt, hyt]) (List.Perm.swap y x [])
  cases hread : completeRows t [x, y] with
  | ok rows =>
    obtain ⟨rows', hreadSwap⟩ := hboth.mp ⟨rows, hread⟩
    rw [correlation_swap ht hxt hyt hread hreadSwap]
  | error e =>
    cases hreadSwap : completeRows t [y, x] with
    | ok rows' =>
      obtain ⟨rows, hrows⟩ := hboth.mpr ⟨rows', hreadSwap⟩
      rw [hrows] at hread
      cases hread
    | error e' =>
      rw [correlation, correlation, hread, hreadSwap]
      rfl

/-- Leaving out the rows with gaps beforehand changes what a test sees exactly if it makes the rest
readable while a text leads a row left out. Where rows with texts have no gaps, it changes nothing,
the order of the columns decides nothing, and two columns correlate the same both ways. -/
theorem sees_complete_rows [Library] (ht : t.WellFormed) (hnames : ∀ name ∈ names, name ∈ t.names) :
    ((completeRows t names).toOption = (completeRows (completePart t names) names).toOption ↔
        (completeRows (completePart t names) names).toOption = none ∨
          ∀ i < t.rowCount, TextLeads (names.map (t.cellAt i)) →
            ∀ name ∈ names, isGap (t.cellAt i name) = false) ∧
      (TextsComplete t names →
        completeRows (completePart t names) names = completeRows t names ∧
          (∀ names', names.Perm names' →
            ((∃ rows, completeRows t names = .ok rows) ↔
              ∃ rows, completeRows t names' = .ok rows)) ∧
          ∀ x ∈ names, ∀ y ∈ names,
            (correlation t x y).toOption = (correlation t y x).toOption) := by
  refine ⟨sameOutcome_completePart_iff ht hnames, fun h => ⟨?_, ?_, ?_⟩⟩
  · exact completeRows_completePart ht hnames
      fun i hi htext => h i hi ((h.textLeads_iff hi).mp htext)
  · exact fun _ hperm => h.exists_completeRows_perm ht hnames hperm
  · exact fun x hx y hy => h.correlation_comm ht hnames hx hy

/-- A text beside a missing cell fails a test, or does not, by the order of its columns. -/
theorem correlation_order :
    let t : Table := ⟨[.ofCells "x" [.text "a", .int 1, .int 2, .int 3],
      .ofCells "y" [.null, .int 1, .int 2, .int 3]], 4⟩
    (completeRows t ["x", "y"]).toOption = none ∧
      (completeRows (completePart t ["x", "y"]) ["x", "y"]).toOption =
        some [[1.0, 1.0], [2.0, 2.0], [3.0, 3.0]] ∧
      (correlation t "x" "y").toOption = none ∧
      (correlation t "y" "x").toOption.isSome := by
  intro t
  have hfour : (correlation t "y" "x").toOption.isSome := by decide +kernel
  exact ⟨rfl, rfl, rfl, hfour⟩

theorem sees_complete_rows_sample :
    let t : Table := ⟨[.ofCells "x" [.int 1, .null, .int 3, .bool true],
      .ofCells "y" [.int 2, .int 3, .float 0.5, .int 4]], 4⟩
    completeRows (completePart t ["x", "y"]) ["x", "y"] =
        .ok [[1.0, 2.0], [3.0, 0.5], [1.0, 4.0]] ∧
      (completeRows t ["x", "y"]).toOption =
        (completeRows (completePart t ["x", "y"]) ["x", "y"]).toOption ∧
      (∃ rows, completeRows t ["y", "x"] = .ok rows) ∧
      (correlation t "x" "y").toOption = (correlation t "y" "x").toOption := by
  intro t
  have ht : t.WellFormed := ⟨by decide, by decide⟩
  have htexts : TextsComplete t ["x", "y"] := by decide
  have hread : completeRows t ["x", "y"] = .ok [[1.0, 2.0], [3.0, 0.5], [1.0, 4.0]] := rfl
  obtain ⟨hoption, hcomplete⟩ := @sees_complete_rows t ["x", "y"] _ ht (by decide)
  obtain ⟨hpart, hperm, hswap⟩ := hcomplete htexts
  exact ⟨hpart.trans hread, hoption.mpr (.inr (by decide)), (hperm _ (.swap _ _ _)).mp ⟨_, hread⟩,
    hswap "x" (by decide) "y" (by decide)⟩

end Statistics
end RollCall
