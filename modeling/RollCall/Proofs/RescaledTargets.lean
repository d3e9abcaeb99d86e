import RollCall.Proofs.EditedTables
import RollCall.Proofs.PlacedColumns

/-!
# Rescaled targets

Every target is rescaled as it stands in the input, so the targets do not see one another: their
order and their repeats do not matter, and the denominator may be one of them. A rescaled cell is
missing or a finite double.
-/
namespace RollCall

open Float.Model Float.Model.UnpackedFloat in
/-- A quotient by no number is no number. -/
theorem Binary64.isFinite_div_of_isNaN {x y : Float} (h : y.isNaN = true) :
    isFinite (x / y) = false := by
  have hquotient : x / y =
      .ofModel (.pack (x.toModel.unpack.div Format.binary64 y.toModel.unpack)) := rfl
  have hy : y.toModel.unpack = .notANumber := by
    have hnan : y.toModel.unpack.isNaN = true := h
    revert hnan
    cases y.toModel.unpack with
    | notANumber => exact fun _ => rfl
    | _ => exact fun hnan => Bool.noConfusion hnan
  have hdiv : ∀ u : UnpackedFloat, u.div Format.binary64 .notANumber = .notANumber := by
    intro u
    cases u <;> rfl
  rw [hquotient, hy, hdiv]
  rfl

namespace Cell

def number (c : Cell) : Option Float :=
  if c.isMissing then none else c.toFloat?

/-- Zero, or no number at all. -/
def DividesNothing : Cell → Prop
  | .int n => n = 0
  | .float x => x == 0.0 ∨ x.isNaN
  | _ => True

/-- A missing cell or a finite double. -/
def IsFiniteOrNull (c : Cell) : Prop :=
  c = .null ∨ ∃ x, c = .float x ∧ Binary64.isFinite x

end Cell

/-- Every cell that is not missing is a number. -/
def Column.HoldsNumbers (c : Column) : Prop :=
  ∀ cell ∈ c.cells, cell.isMissing ∨ cell.isNumeric

instance (c : Column) : Decidable c.HoldsNumbers :=
  inferInstanceAs (Decidable (∀ cell ∈ c.cells, _ ∨ _))

def Column.rescaled (r : Rescaling) (c : Column) : Column :=
  ⟨c.name, .numeric, r.apply (c.cells.map Cell.number)⟩

@[simp] theorem Column.name_rescaled (r : Rescaling) (c : Column) : (c.rescaled r).name = c.name :=
  rfl

/-- The column, rescaled if it is one of the targets. -/
def Column.rescaledAmong (r : Rescaling) (targets : List String) (c : Column) : Column :=
  if c.name ∈ targets then c.rescaled r else c

@[simp] theorem Column.name_rescaledAmong (r : Rescaling) (targets : List String) (c : Column) :
    (c.rescaledAmong r targets).name = c.name := by
  rw [rescaledAmong]
  split <;> rfl

/-- The table with the columns of some names rescaled, each as it stands. -/
def Table.rescaled (t : Table) (r : Rescaling) (targets : List String) : Table :=
  ⟨t.columns.map (Column.rescaledAmong r targets), t.rowCount⟩

namespace Rescaling

variable {t : Table} {r : Rescaling} {xs : List (Option Float)} {name word : String}
  {denominator : Option String} {cell : Cell} {i n : Nat}

/-! ### Rescaled cells -/

/-- There is a denominator for each of `n` rows. -/
def Fits (n : Nat) : Rescaling → Prop
  | ratio ds => ds.length = n
  | _ => True

/-- A rescaling by the numbers of the column itself acts on each cell alike. -/
theorem apply_cases (r : Rescaling) (xs : List (Option Float)) :
    (∃ f : Float → Float, r.apply xs = xs.map fun x => cellOf (x.map f)) ∨
      ∃ ds, r = ratio ds ∧ r.apply xs = xs.zipWith quotient ds := by
  cases r with
  | zscore => exact .inl ⟨_, rfl⟩
  | range => exact .inl ⟨_, rfl⟩
  | ratio ds => exact .inr ⟨ds, rfl, rfl⟩

private theorem length_apply (h : r.Fits xs.length) : (r.apply xs).length = xs.length := by
  rcases r.apply_cases xs with ⟨f, happly⟩ | ⟨ds, rfl, happly⟩
  · rw [happly, List.length_map]
  · rw [happly, List.length_zipWith, show ds.length = xs.length from h, Nat.min_self]

theorem isFiniteOrNull_finiteCell (x : Float) : (finiteCell x).IsFiniteOrNull := by
  rw [finiteCell]
  split
  · next h => exact .inr ⟨x, rfl, h⟩
  · exact .inl rfl

private theorem isFiniteOrNull_quotient (x : Option Float) (d : Cell) :
    (quotient x d).IsFiniteOrNull := by
  unfold quotient
  split
  · split
    · exact .inl rfl
    · exact isFiniteOrNull_finiteCell _
  · exact .inl rfl

private theorem isFiniteOrNull_of_mem_apply (h : cell ∈ r.apply xs) : cell.IsFiniteOrNull := by
  rcases r.apply_cases xs with ⟨f, happly⟩ | ⟨ds, -, happly⟩
  · obtain ⟨x, -, rfl⟩ := List.mem_map.mp (happly ▸ h)
    cases x with
    | none => exact .inl rfl
    | some x => exact isFiniteOrNull_finiteCell (f x)
  · obtain ⟨i, hi, rfl⟩ := List.mem_iff_getElem.mp (happly ▸ h)
    rw [List.getElem_zipWith]
    exact isFiniteOrNull_quotient _ _

/-- No number is made of none. -/
theorem getElem?_apply_of_none (hfits : r.Fits xs.length) (h : xs[i]? = some none) :
    (r.apply xs)[i]? = some .null := by
  rcases r.apply_cases xs with ⟨f, happly⟩ | ⟨ds, rfl, happly⟩
  · rw [happly, List.getElem?_map, h]
    rfl
  · have hi : i < ds.length := by
      rw [show ds.length = xs.length from hfits]
      exact (List.getElem?_eq_some_iff.mp h).1
    rw [happly, List.getElem?_zipWith, h, List.getElem?_eq_getElem hi]
    rfl

private theorem quotient_of_dividesNothing (x : Option Float) (h : cell.DividesNothing) :
    quotient x cell = .null := by
  cases x with
  | none => rfl
  | some x =>
    cases cell with
    | null | bool | text => rfl
    | int n =>
      obtain rfl : n = 0 := h
      rfl
    | float d =>
      change (if d == 0.0 then Cell.null else finiteCell (x / d)) = .null
      rcases h with h | h
      · rw [if_pos h]
      · rw [finiteCell, Binary64.isFinite_div_of_isNaN h]
        split <;> rfl

/-! ### Rescaled columns -/

private theorem number?_eq_ok_iff {x : Option Float} :
    number? name cell = .ok x ↔ (cell.isMissing ∨ cell.isNumeric) ∧ x = cell.number := by
  cases cell with
  | null => simp [number?, Cell.isMissing, Cell.number, eq_comm (a := x)]
  | bool b => simp [number?, Cell.isMissing, Cell.isNumeric, Cell.toFloat?]
  | text s => simp [number?, Cell.isMissing, Cell.isNumeric, Cell.toFloat?]
  | int n =>
    simp [number?, Cell.isMissing, Cell.isNumeric, Cell.toFloat?, Cell.number, eq_comm (a := x)]
  | float y =>
    rw [number?, Cell.number]
    split
    · simp [Cell.isNumeric, eq_comm (a := x)]
    · simp [Cell.isNumeric, Cell.toFloat?, eq_comm (a := x)]

theorem column_eq_ok_iff {d : Column} :
    column t r name = .ok d ↔
      ∃ c, t.column? name = some c ∧ c.HoldsNumbers ∧ d = c.rescaled r := by
  rw [column]
  cases hcolumn : t.column? name with
  | none => simp
  | some c =>
    have hname : c.name = name := Table.name_of_column? hcolumn
    have hnumbers : ∀ xs, c.cells.mapM (number? name) = .ok xs ↔
        c.HoldsNumbers ∧ xs = c.cells.map Cell.number := by
      intro xs
      rw [Outcome.mapM_eq_ok, Column.HoldsNumbers]
      simp only [number?_eq_ok_iff]
      rw [List.forall₂_and_left, eq_comm (a := xs), ← List.forall₂_eq_eq_eq,
        List.forall₂_map_left_iff]
      simp only [eq_comm]
    simp only [Outcome.bind_eq_ok, Outcome.pure_eq_ok, hnumbers, Column.rescaled,
      Option.some.injEq]
    constructor
    · rintro ⟨xs, ⟨hholds, rfl⟩, rfl⟩
      exact ⟨c, rfl, hholds, by rw [hname]⟩
    · rintro ⟨c', rfl, hholds, rfl⟩
      exact ⟨_, ⟨hholds, rfl⟩, by rw [hname]⟩

/-- A word that asks for a denominator. -/
def Divides (word : String) : Prop :=
  Text.asciiLower (Text.trim word) ∈ ["divide_by", "divide_by_total_possible"]

instance (word : String) : Decidable (Divides word) :=
  inferInstanceAs (Decidable (_ ∈ _))

theorem ofWord_cases (h : ofWord t word denominator = .ok r) :
    (r = zscore ∨ r = range) ∧ ¬Divides word ∨
      ∃ name c, denominator = some name ∧ t.column? name = some c ∧ r = ratio c.cells := by
  unfold ofWord at h
  split at h
  case h_1 hword =>
    cases h
    exact .inl ⟨.inl rfl, by simp [Divides, hword]⟩
  case h_2 hword =>
    cases h
    exact .inl ⟨.inr rfl, by simp [Divides, hword]⟩
  case h_5 => cases h
  -- Both words for a quotient are left.
  all_goals
    split at h
    · cases h
    · next name =>
      split at h
      · next c hc =>
        cases h
        exact .inr ⟨name, c, rfl, hc, rfl⟩
      · cases h

theorem fits_of_ofWord (ht : t.WellFormed) (h : ofWord t word denominator = .ok r) :
    r.Fits t.rowCount := by
  rcases ofWord_cases h with ⟨rfl | rfl, -⟩ | ⟨name, c, -, hc, rfl⟩
  · trivial
  · trivial
  · exact ht.length_of_column? hc

end Rescaling

namespace Table

variable {t : Table} {c : Column} {r : Rescaling} {targets others : List String} {name : String}

@[simp] theorem names_rescaled (t : Table) (r : Rescaling) (targets : List String) :
    (t.rescaled r targets).names = t.names := by
  simp [names, rescaled, Function.comp_def]

private theorem rescaled_nil (t : Table) (r : Rescaling) : t.rescaled r [] = t := by
  have hsame : Column.rescaledAmong r [] = id := by
    funext c
    simp [Column.rescaledAmong]
  simp [rescaled, hsame]

/-- Only which names there are among the targets matters. -/
theorem rescaled_congr (h : ∀ name, name ∈ others ↔ name ∈ targets) :
    t.rescaled r others = t.rescaled r targets := by
  have hsame : Column.rescaledAmong r others = Column.rescaledAmong r targets := by
    funext c
    simp only [Column.rescaledAmong, h]
  rw [rescaled, rescaled, hsame]

theorem length_rescaled (hfits : r.Fits t.rowCount) (hc : c.length = t.rowCount) :
    (c.rescaled r).length = t.rowCount := by
  have hlength : (c.cells.map Cell.number).length = t.rowCount := by rwa [List.length_map]
  rw [Column.length, Column.rescaled, Rescaling.length_apply (hlength ▸ hfits), hlength]

private theorem getElem?_rescaled_of_missing {i : Nat} {cell : Cell} (hfits : r.Fits c.length)
    (hcell : c.cells[i]? = some cell) (h : cell.isMissing) :
    (c.rescaled r).cells[i]? = some .null := by
  refine Rescaling.getElem?_apply_of_none (by rwa [List.length_map]) ?_
  rw [List.getElem?_map, hcell, Option.map_some, Cell.number, if_pos h]

private theorem getElem?_rescaled_of_dividesNothing {i : Nat} {cell : Cell} {ds : List Cell}
    (hfits : ds.length = c.length) (hcell : ds[i]? = some cell) (h : cell.DividesNothing) :
    (c.rescaled (.ratio ds)).cells[i]? = some .null := by
  have hi : i < (c.cells.map Cell.number).length := by
    rw [List.length_map, ← Column.length, ← hfits]
    exact (List.getElem?_eq_some_iff.mp hcell).1
  change ((c.cells.map Cell.number).zipWith Rescaling.quotient ds)[i]? = _
  rw [List.getElem?_zipWith, hcell, List.getElem?_eq_getElem hi]
  exact congrArg some (Rescaling.quotient_of_dividesNothing _ h)

private theorem column?_rescaled (t : Table) (r : Rescaling) (targets : List String)
    (name : String) :
    (t.rescaled r targets).column? name =
      (t.column? name).map (Column.rescaledAmong r targets) := by
  have hname : ((fun c : Column => decide (c.name = name)) ∘ Column.rescaledAmong r targets) =
      fun c => decide (c.name = name) := by
    funext c
    rw [Function.comp_apply, Column.name_rescaledAmong]
  rw [column?, column?, rescaled, List.find?_map, hname]

/-- One more target is rescaled as it stands in the input, whether or not it was rescaled before. -/
theorem withColumn_rescaled (ht : t.WellFormed) (hfits : r.Fits t.rowCount)
    (hc : t.column? name = some c) :
    (t.rescaled r targets).withColumn (c.rescaled r) = .ok (t.rescaled r (name :: targets)) := by
  obtain rfl := name_of_column? hc
  have hmem := mem_of_column? hc
  have hlength : (c.rescaled r).length = t.rowCount :=
    length_rescaled hfits (ht.length_eq c hmem)
  have hname : (c.rescaled r).name ∈ (t.rescaled r targets).names := by
    rw [names_rescaled, Column.name_rescaled]
    exact List.mem_map_of_mem hmem
  have hnodup : (t.rescaled r targets).names.Nodup := by
    rw [names_rescaled]
    exact ht.nodup
  refine withColumn_eq_ok_iff.mpr ⟨.inl hlength, ?_⟩
  rw [place_of_mem hnodup hname, hlength, rescaled, rescaled, List.map_map]
  refine congrArg (Table.mk · t.rowCount) (List.map_congr_left fun d hd => ?_)
  rw [Function.comp_apply, Column.name_rescaledAmong, Column.name_rescaled]
  by_cases h : d.name = c.name
  · obtain rfl : d = c := Option.some.inj ((ht.column?_eq hd).symm.trans (h ▸ hc))
    rw [if_pos rfl, Column.rescaledAmong, if_pos List.mem_cons_self]
  · rw [if_neg h]
    simp only [Column.rescaledAmong, List.mem_cons, h, false_or]

end Table

namespace Operation

variable {c : Context} {t u : Table} {r : Rescaling} {p : RescaleParameters}
  {targets : List String} {columns : List Column}

private theorem foldlM_place_rescaled (ht : t.WellFormed) (hfits : r.Fits t.rowCount)
    (h : targets.mapM (Rescaling.column t r) = .ok columns) (done : List String) :
    columns.foldlM place (t.rescaled r done) = .ok (t.rescaled r (targets ++ done)) := by
  have hall := Outcome.mapM_eq_ok.mp h
  clear h
  induction hall generalizing done with
  | nil => rfl
  | @cons name d targets columns hd _ ih =>
    obtain ⟨c, hc, -, rfl⟩ := Rescaling.column_eq_ok_iff.mp hd
    rw [List.foldlM_cons, place, Table.withColumn_rescaled ht hfits hc]
    refine (ih (name :: done)).trans (congrArg Except.ok (Table.rescaled_congr fun other => ?_))
    simp only [List.mem_append, List.mem_cons, List.cons_append]
    exact or_left_comm

def targetsOf (t : Table) (p : RescaleParameters) : List String :=
  p.columns.getD (Rescaling.defaultTargets t p.denominator)

theorem runRescale_eq_ok_iff (hinput : c.input = .ok t) (ht : t.WellFormed) :
    runRescale c p = .ok u ↔
      ∃ r, Rescaling.ofWord t p.method p.denominator = .ok r ∧
        (∀ name ∈ targetsOf t p, ∃ d, t.column? name = some d ∧ d.HoldsNumbers) ∧
        u = t.rescaled r (targetsOf t p) := by
  have hcolumns : ∀ r, (∃ columns, (targetsOf t p).mapM (Rescaling.column t r) = .ok columns) ↔
      ∀ name ∈ targetsOf t p, ∃ d, t.column? name = some d ∧ d.HoldsNumbers := by
    intro r
    rw [Outcome.exists_mapM_eq_ok]
    refine forall₂_congr fun name _ => ?_
    simp only [Rescaling.column_eq_ok_iff]
    rw [exists_comm]
    simp
  rw [runRescale, hinput]
  simp only [Outcome.bind_eq_ok, Outcome.mapError_eq_ok, Except.ok.injEq, exists_eq_left']
  refine exists_congr fun r => and_congr_right fun hr => ?_
  rw [← hcolumns r, ← exists_and_right]
  refine exists_congr fun columns => and_congr_right fun h => ?_
  have hplace := foldlM_place_rescaled ht (Rescaling.fits_of_ofWord ht hr) h []
  rw [Table.rescaled_nil, List.append_nil] at hplace
  rw [hplace, Except.ok.injEq, targetsOf, eq_comm]

/-- Every target has its own cells of the input rescaled, which gives doubles that are finite or
nothing at all, and the rest of the table stays as it is. The targets may be given in any order and
several times, and the denominator may be one of them. -/
theorem rescales_targets (hinput : c.input = .ok t) (ht : t.WellFormed)
    (h : runRescale c p = .ok u) :
    u.names = t.names ∧ u.rowCount = t.rowCount ∧
    (∀ name, name ∉ targetsOf t p → u.column? name = t.column? name) ∧
    (∃ r, Rescaling.ofWord t p.method p.denominator = .ok r ∧
      ∀ name ∈ targetsOf t p, ∃ old new, t.column? name = some old ∧
        u.column? name = some new ∧ new = old.rescaled r ∧ new.kind = .numeric ∧
        new.length = t.rowCount ∧ (∀ cell ∈ new.cells, cell.IsFiniteOrNull) ∧
        (∀ (i : Nat) (cell : Cell), old.cells[i]? = some cell → cell.isMissing →
          new.cells[i]? = some .null) ∧
        (Rescaling.Divides p.method → ∃ denominator ds, p.denominator = some denominator ∧
          t.column? denominator = some ds ∧
          ∀ (i : Nat) (cell : Cell), ds.cells[i]? = some cell → cell.DividesNothing →
            new.cells[i]? = some .null)) ∧
    ∀ others : List String, (∀ name, name ∈ others ↔ name ∈ targetsOf t p) →
      runRescale c { p with columns := some others } = .ok u := by
  obtain ⟨r, hr, htargets, rfl⟩ := (runRescale_eq_ok_iff hinput ht).mp h
  have hfits := Rescaling.fits_of_ofWord ht hr
  refine ⟨Table.names_rescaled t r _, rfl, fun name hname => ?_,
    ⟨r, hr, fun name hname => ?_⟩, fun others hothers => ?_⟩
  · rw [Table.column?_rescaled]
    cases hcolumn : t.column? name with
    | none => rfl
    | some d =>
      rw [Option.map_some, Column.rescaledAmong, Table.name_of_column? hcolumn, if_neg hname]
  · obtain ⟨old, hold, -⟩ := htargets name hname
    have hlength : old.length = t.rowCount := ht.length_of_column? hold
    refine ⟨old, old.rescaled r, hold, ?_, rfl, rfl, Table.length_rescaled hfits hlength,
      fun cell => Rescaling.isFiniteOrNull_of_mem_apply,
      fun i cell => Table.getElem?_rescaled_of_missing (hlength ▸ hfits), fun hdivides => ?_⟩
    · rw [Table.column?_rescaled, hold, Option.map_some, Column.rescaledAmong,
        Table.name_of_column? hold, if_pos hname]
    · rcases Rescaling.ofWord_cases hr with ⟨-, hnot⟩ | ⟨denominator, ds, hname, hds, rfl⟩
      · exact absurd hdivides hnot
      · refine ⟨denominator, ds, hname, hds, fun i cell => ?_⟩
        exact Table.getElem?_rescaled_of_dividesNothing (hfits.trans hlength.symm)
  · refine (runRescale_eq_ok_iff hinput ht).mpr ⟨r, hr, fun name hname => ?_, ?_⟩
    · exact htargets name ((hothers name).mp hname)
    · exact (Table.rescaled_congr hothers).symm

/-- Scores of three members, with what they could have scored. -/
def scores : Table :=
  ⟨[⟨"name", .text, [.text "a", .text "b", .text "c"]⟩,
    ⟨"score", .numeric, [.int 2, .int 4, .null]⟩,
    ⟨"possible", .numeric, [.int 4, .float 0.0, .int 12]⟩], 3⟩

def shares : Table :=
  ⟨[⟨"name", .text, [.text "a", .text "b", .text "c"]⟩,
    ⟨"score", .numeric, [.float 0.5, .null, .null]⟩,
    ⟨"possible", .numeric, [.float 1.0, .null, .float 1.0]⟩], 3⟩

def rescaledScores (first second : Float) : Table :=
  ⟨[⟨"name", .text, [.text "a", .text "b", .text "c"]⟩,
    ⟨"score", .numeric, [.float first, .float second, .null]⟩,
    ⟨"possible", .numeric, [.int 4, .float 0.0, .int 12]⟩], 3⟩

theorem rescales_targets_sample :
    let c : Context :=
      ⟨"shares", [scores], {}, { source := fun _ d => .error (.fetch ⟨d, .unreachable⟩) }⟩
    let p : RescaleParameters :=
      ⟨"Divide_by", some ["possible", "score", "possible"], some "possible"⟩
    scores.WellFormed ∧ runRescale c p = .ok shares ∧
    shares.column? "name" = scores.column? "name" ∧
    (∃ new, shares.column? "score" = some new ∧ new.cells[1]? = some .null ∧
      new.cells[2]? = some .null) ∧
    runRescale c { p with columns := some ["score", "possible"] } = .ok shares ∧
    runRescale c ⟨"ZScore", some ["score"], none⟩ = .ok (rescaledScores (-1.0) 1.0) ∧
    runRescale c ⟨" minmax", some ["score"], none⟩ = .ok (rescaledScores 0.0 1.0) := by
  intro c p
  have hscores : scores.WellFormed := ⟨by decide, by decide⟩
  have hzscore : Text.asciiLower (Text.trim "ZScore") = "zscore" := by decide +kernel
  have hminmax : Text.asciiLower (Text.trim " minmax") = "minmax" := by decide +kernel
  have hscore : ∀ name ∈ ["score"], ∃ d, scores.column? name = some d ∧ d.HoldsNumbers :=
    List.forall_mem_singleton.mpr ⟨_, rfl, by decide +kernel⟩
  have hword : Text.asciiLower (Text.trim "Divide_by") = "divide_by" := by decide +kernel
  have h : runRescale c p = .ok shares := by
    refine (runRescale_eq_ok_iff rfl hscores).mpr
      ⟨.ratio [.int 4, .float 0.0, .int 12], ?_, ?_, by decide +kernel⟩
    · rw [Rescaling.ofWord.eq_def, hword]
      rfl
    · intro name hname
      obtain rfl | rfl | rfl : name = "possible" ∨ name = "score" ∨ name = "possible" := by
        simpa only [targetsOf, p, Option.getD_some, List.mem_cons, List.not_mem_nil, or_false]
          using hname
      · exact ⟨_, rfl, by decide +kernel⟩
      · exact ⟨_, rfl, by decide +kernel⟩
      · exact ⟨_, rfl, by decide +kernel⟩
  obtain ⟨-, -, hrest, ⟨r, -, hnew⟩, hothers⟩ := rescales_targets (c := c) (p := p) rfl hscores h
  obtain ⟨old, new, hold, hcolumn, -, -, -, -, hmissing, hzero⟩ := hnew "score" (by decide)
  obtain rfl : _ = old := Option.some.inj hold
  obtain ⟨denominator, ds, hname, hds, hzero⟩ := hzero (by decide +kernel)
  obtain rfl : _ = denominator := Option.some.inj hname
  obtain rfl : _ = ds := Option.some.inj hds
  refine ⟨hscores, h, hrest "name" (by decide), ⟨new, hcolumn, ?_, ?_⟩, hothers _ fun name => ?_,
    ?_, ?_⟩
  · exact hzero 1 (.float 0.0) rfl (.inl rfl)
  · exact hmissing 2 .null rfl rfl
  · simp only [targetsOf, p, Option.getD_some, List.mem_cons, List.not_mem_nil, or_false]
    tauto
  · refine (runRescale_eq_ok_iff rfl hscores).mpr ⟨.zscore, ?_, hscore, by decide +kernel⟩
    rw [Rescaling.ofWord.eq_def, hzscore]
    rfl
  · refine (runRescale_eq_ok_iff rfl hscores).mpr ⟨.range, ?_, hscore, by decide +kernel⟩
    rw [Rescaling.ofWord.eq_def, hminmax]
    rfl

end Operation
end RollCall
