import Mathlib.Order.Bounds.Basic
import RollCall.Proofs.FloatComparison
import RollCall.Proofs.NearestDoubles
import RollCall.Proofs.WholeDoubles
import RollCall.Transform.Rescaling

/-!
# Numbers of a rescaled column

The range of a column goes from the least to the greatest of its numbers, by their exact values. The
least becomes zero in it, the greatest becomes one, and equal numbers all become missing, since
nothing is divided by zero. A score counts deviations from the mean, without any rounding where
column, mean and deviation are integers.
-/
namespace RollCall

namespace Binary64

open Float.Model Float.Model.UnpackedFloat

variable {x y : Float}

def zero (s : Sign) : Float :=
  .ofModel (.pack (.zero s))

private theorem value?_zero (s : Sign) : value? (zero s) = some (.ofRat 0) := by
  obtain ⟨negative, hparts⟩ : ∃ negative, parts (zero s) = .finite negative 0 (-1074) := by
    cases s
    · exact ⟨true, by decide +kernel⟩
    · exact ⟨false, by decide +kernel⟩
  rw [value?, hparts, Parts.value?]
  simp

private theorem unpack_zero (s : Sign) : (zero s).toModel.unpack = .zero s := by
  cases s <;> rfl

theorem isFinite_iff : isFinite x = true ↔ ∃ q, value? x = some (.ofRat q) := by
  rw [isFinite, value?]
  cases parts x with
  | nan => simp [Parts.value?]
  | infinite negative => cases negative <;> simp [Parts.value?, Extended.ofRat]
  | finite negative m q => simp [Parts.value?]

private theorem exists_value (h : x.isNaN = false) : ∃ v, value? x = some v := by
  rw [← Option.isSome_iff_exists, Option.isSome_iff_ne_none, ne_eq, ← isNaN_iff, h]
  exact Bool.false_ne_true

/-- A finite number that is taken apart is a zero or has a mantissa. -/
private theorem unpack_of_isFinite (h : isFinite x = true) :
    (∃ s, x.toModel.unpack = .zero s) ∨ ∃ s m e hm, x.toModel.unpack = .finite s m e hm := by
  obtain ⟨q, hq⟩ := isFinite_iff.mp h
  obtain ⟨hnumber, -, hrank⟩ := unpackedRank_of_value hq
  obtain ⟨hle, hvalue⟩ := value?_eq_some.mp hq
  cases hunpack : x.toModel.unpack with
  | notANumber => exact absurd hunpack hnumber
  | zero s => exact .inl ⟨s, rfl⟩
  | finite s m e hm => exact .inr ⟨s, m, e, hm, rfl⟩
  | infinity s =>
    rw [hunpack, unpackedRank_infinity] at hrank
    rw [← hrank] at hvalue
    cases s
    · exact absurd hvalue (bot_lt_ofRat q).ne
    · exact absurd hvalue (ofRat_lt_top q).ne'

/-- Nothing is left of a finite number without itself. -/
theorem exists_sub_self (h : isFinite x = true) : ∃ s, x - x = zero s := by
  have hsub : x - x = .ofModel (.pack
      (x.toModel.unpack.sub Format.binary64 x.toModel.unpack)) := rfl
  rw [hsub]
  rcases unpack_of_isFinite h with ⟨s, hs⟩ | ⟨s, m, e, hm, hfinite⟩
  · rw [hs]
    cases s <;> exact ⟨_, rfl⟩
  · rw [hfinite]
    refine ⟨.positive, ?_⟩
    dsimp only [UnpackedFloat.sub]
    rw [sub_self]
    rfl

/-- Nothing finite comes of a division by nothing. -/
theorem isFinite_div_zero (x : Float) (s : Sign) : isFinite (x / zero s) = false := by
  have hdiv : x / zero s = .ofModel (.pack
      (x.toModel.unpack.div Format.binary64 (zero s).toModel.unpack)) := rfl
  have hinfinite : ∀ s : Sign, isFinite (.ofModel (.pack (.infinity s))) = false := by
    intro s
    cases s <;> decide +kernel
  have hnan : isFinite (.ofModel (.pack .notANumber)) = false := by decide +kernel
  rw [hdiv, unpack_zero]
  cases x.toModel.unpack with
  | notANumber | zero s' => exact hnan
  | infinity s' | finite s' m e hm => exact hinfinite _

/-- Nothing divided by a number above zero is nothing. -/
theorem exists_zero_div (s : Sign) (h : 0.0 < y) : ∃ s', zero s / y = zero s' := by
  have hdiv : zero s / y = .ofModel (.pack
      ((zero s).toModel.unpack.div Format.binary64 y.toModel.unpack)) := rfl
  have hzero : (0.0 : Float).toModel.unpack = .zero .positive := rfl
  rw [lt_iff_compare, hzero] at h
  rw [hdiv, unpack_zero]
  cases hy : y.toModel.unpack with
  | notANumber => rw [hy] at h; cases h
  | zero s' => rw [hy] at h; cases h
  | infinity s' => exact ⟨_, rfl⟩
  | finite s' m e hm => exact ⟨_, rfl⟩

/-- A number above zero goes into itself once, unless it is infinite. -/
theorem div_self_of_isFinite (hfinite : isFinite x = true) (h : 0.0 < x) : x / x = ofInt 1 := by
  have hzero : (0.0 : Float).toModel.unpack = .zero .positive := rfl
  rcases unpack_of_isFinite hfinite with ⟨s, hs⟩ | ⟨s, m, e, hm, hx⟩
  · rw [lt_iff_compare, hzero, hs] at h
    cases h
  · exact div_self_eq hx

end Binary64

namespace Rescaling

open Binary64

variable {xs : List Float} {x y c : Float} {v : Extended}

def values (xs : List Float) : Set Extended :=
  {v | ∃ x ∈ xs, value? x = some v}

/-- A number is replaced by each that beats it. Its place in the order `g` of values then never
rises, and ends with the lowest of all. -/
private theorem exists_foldl {β : Type} [LinearOrder β] (g : Extended → β)
    {beats : Float → Float → Prop} [DecidableRel beats]
    (hbeats : ∀ {x y v w}, value? x = some v → value? y = some w → (beats x y ↔ g v < g w))
    (hxs : ∀ x ∈ xs, x.isNaN = false) (hy : value? y = some v) :
    let best := xs.foldl (fun y x => if beats x y then x else y) y
    (best = y ∨ best ∈ xs) ∧ ∃ w, value? best = some w ∧ g w ≤ g v ∧
      ∀ u ∈ values xs, g w ≤ g u := by
  induction xs generalizing y v with
  | nil => exact ⟨.inl rfl, v, hy, le_rfl, fun u ⟨x, hx, _⟩ => absurd hx List.not_mem_nil⟩
  | cons x xs ih =>
    obtain ⟨hx, hxs⟩ := List.forall_mem_cons.mp hxs
    obtain ⟨u, hu⟩ := exists_value hx
    rw [List.foldl_cons]
    have hvalues : ∀ {w}, g w ≤ g u → (∀ u' ∈ values xs, g w ≤ g u') →
        ∀ u' ∈ values (x :: xs), g w ≤ g u' := by
      rintro w hle hrest u' ⟨x', hx', hu'⟩
      rcases List.mem_cons.mp hx' with rfl | hx'
      · cases hu.symm.trans hu'
        exact hle
      · exact hrest u' ⟨x', hx', hu'⟩
    split
    · next hless =>
      obtain ⟨hbest, w, hw, hle, hrest⟩ := ih hxs hu
      refine ⟨?_, w, hw, hle.trans ((hbeats hu hy).mp hless).le, hvalues hle hrest⟩
      rcases hbest with hbest | hbest
      · exact .inr (List.mem_cons.mpr (.inl hbest))
      · exact .inr (List.mem_cons_of_mem x hbest)
    · next hless =>
      obtain ⟨hbest, w, hw, hle, hrest⟩ := ih hxs hy
      rw [hbeats hu hy, not_lt] at hless
      exact ⟨hbest.imp_right (List.mem_cons_of_mem x), w, hw, hle, hvalues (hle.trans hless) hrest⟩

private theorem value?_infinity : value? infinity = some ⊤ := by
  have hparts : parts infinity = .infinite false := by decide +kernel
  rw [value?, hparts]
  rfl

private theorem value?_neg_infinity : value? (-infinity) = some ⊥ := by
  have hparts : parts (-infinity) = .infinite true := by decide +kernel
  rw [value?, hparts]
  rfl

private theorem exists_value_mem (hxs : xs ≠ []) (hnan : ∀ x ∈ xs, x.isNaN = false) :
    ∃ u, u ∈ values xs := by
  obtain ⟨x, xs, rfl⟩ := List.exists_cons_of_ne_nil hxs
  obtain ⟨u, hu⟩ := exists_value (hnan x List.mem_cons_self)
  exact ⟨u, x, List.mem_cons_self, hu⟩

/-- One end of the range is the least of the numbers. -/
theorem isLeast_least (hxs : xs ≠ []) (hnan : ∀ x ∈ xs, x.isNaN = false) :
    (least xs = infinity ∨ least xs ∈ xs) ∧
      ∃ w, value? (least xs) = some w ∧ IsLeast (values xs) w := by
  obtain ⟨hbest, w, hw, -, hle⟩ := exists_foldl (fun v => v)
    (fun hx hy => Binary64.lt_iff hx hy) hnan value?_infinity
  refine ⟨hbest, w, hw, ?_, hle⟩
  rcases hbest with hbest | hbest
  · obtain ⟨u, hu⟩ := exists_value_mem hxs hnan
    have htop : w = ⊤ := by
      rw [hbest, value?_infinity] at hw
      exact (Option.some.inj hw).symm
    have hule := hle u hu
    rw [htop, top_le_iff] at hule
    rw [htop, ← hule]
    exact hu
  · exact ⟨_, hbest, hw⟩

/-- The other end of the range is the greatest of the numbers. -/
theorem isGreatest_greatest (hxs : xs ≠ []) (hnan : ∀ x ∈ xs, x.isNaN = false) :
    (greatest xs = -infinity ∨ greatest xs ∈ xs) ∧
      ∃ w, value? (greatest xs) = some w ∧ IsGreatest (values xs) w := by
  obtain ⟨hbest, w, hw, -, hle⟩ := exists_foldl OrderDual.toDual
    (fun hx hy => (Binary64.lt_iff hy hx).trans OrderDual.toDual_lt_toDual.symm) hnan
    value?_neg_infinity
  refine ⟨hbest, w, hw, ?_, hle⟩
  rcases hbest with hbest | hbest
  · obtain ⟨u, hu⟩ := exists_value_mem hxs hnan
    have hbot : w = ⊥ := by
      rw [hbest, value?_neg_infinity] at hw
      exact (Option.some.inj hw).symm
    have hule := OrderDual.toDual_le_toDual.mp (hle u hu)
    rw [hbot, le_bot_iff] at hule
    rw [hbot, ← hule]
    exact hu
  · exact ⟨_, hbest, hw⟩

variable {ys : List (Option Float)} {i : Nat}

private theorem cellOf_div_zero (f : Float → Float) (x : Option Float)
    (s : Float.Model.UnpackedFloat.Sign) :
    cellOf (x.map fun x => f x / zero s) = .null := by
  cases x with
  | none => rfl
  | some x =>
    rw [cellOf, Option.map_some, Option.map_some, finiteCell, isFinite_div_zero]
    rfl

/-- Numbers without a deviation become missing. -/
theorem zscore_of_no_deviation {s : Float.Model.UnpackedFloat.Sign}
    (h : (meanAndDeviation (ys.filterMap id)).2 = zero s) :
    ∀ cell ∈ zscore.apply ys, cell = .null := by
  intro cell hcell
  obtain ⟨x, -, rfl⟩ := List.mem_map.mp hcell
  exact (congrArg (fun d => cellOf (x.map fun x => (x - _) / d)) h).trans (cellOf_div_zero _ x s)

/-- The least number becomes zero if there is a range at all. -/
theorem range_of_least (hfinite : isFinite (least (ys.filterMap id)) = true)
    (hrange : 0.0 < greatest (ys.filterMap id) - least (ys.filterMap id))
    (hi : ys[i]? = some (some (least (ys.filterMap id)))) :
    ∃ s, (range.apply ys)[i]? = some (.float (zero s)) := by
  obtain ⟨s, hsub⟩ := exists_sub_self hfinite
  obtain ⟨s', hdiv⟩ := exists_zero_div s hrange
  have hzero : finiteCell (zero s') = .float (zero s') :=
    if_pos (isFinite_iff.mpr ⟨0, value?_zero s'⟩)
  refine ⟨s', ?_⟩
  rw [apply, List.getElem?_map, hi, Option.map_some, cellOf, Option.map_some, Option.map_some, hsub,
    hdiv, hzero]
  rfl

/-- The greatest number becomes one if the range is finite as well. -/
theorem range_of_greatest
    (hfinite : isFinite (greatest (ys.filterMap id) - least (ys.filterMap id)) = true)
    (hrange : 0.0 < greatest (ys.filterMap id) - least (ys.filterMap id))
    (hi : ys[i]? = some (some (greatest (ys.filterMap id)))) :
    (range.apply ys)[i]? = some (.float (ofInt 1)) := by
  have hone : finiteCell (ofInt 1) = .float (ofInt 1) := if_pos (isFinite_ofInt (by decide))
  rw [apply, List.getElem?_map, hi, Option.map_some, cellOf, Option.map_some, Option.map_some,
    div_self_of_isFinite hfinite hrange, hone]
  rfl

/-- Equal numbers become missing. -/
theorem range_of_equal (hfinite : isFinite c = true) (h : ∀ x ∈ ys.filterMap id, x = c) :
    ∀ cell ∈ range.apply ys, cell = .null := by
  intro cell hcell
  obtain ⟨x, hx, rfl⟩ := List.mem_map.mp hcell
  cases x with
  | none => rfl
  | some x =>
    have hmem : x ∈ ys.filterMap id := List.mem_filterMap.mpr ⟨some x, hx, rfl⟩
    obtain rfl := h x hmem
    obtain ⟨q, hq⟩ := isFinite_iff.mp hfinite
    have hnan : ∀ y ∈ ys.filterMap id, y.isNaN = false := by
      intro y hy
      rw [h y hy, ← Bool.not_eq_true, isNaN_iff, hq]
      exact Option.some_ne_none _
    have hne := List.ne_nil_of_mem hmem
    have hvalue : ∀ w ∈ values (ys.filterMap id), w = .ofRat q := by
      rintro w ⟨y, hy, hw⟩
      rw [h y hy, hq] at hw
      exact (Option.some.inj hw).symm
    have hleast : least (ys.filterMap id) = x := by
      obtain ⟨hbest | hbest, w, hw, hw', -⟩ := isLeast_least hne hnan
      · rw [hbest, value?_infinity] at hw
        cases hw
        exact absurd (hvalue _ hw') (ofRat_lt_top q).ne'
      · exact h _ hbest
    have hgreatest : greatest (ys.filterMap id) = x := by
      obtain ⟨hbest | hbest, w, hw, hw', -⟩ := isGreatest_greatest hne hnan
      · rw [hbest, value?_neg_infinity] at hw
        cases hw
        exact absurd (hvalue _ hw') (bot_lt_ofRat q).ne
      · exact h _ hbest
    obtain ⟨s, hsub⟩ := exists_sub_self hfinite
    rw [hleast, hgreatest, hsub, cellOf_div_zero]

section Integers

variable {ns : List Int} {n mean deviation z : Int}

def squares (ns : List Int) (mean : Int) : List Int :=
  ns.map fun n => (n - mean) * (n - mean)

private theorem natAbs_le_sum (hn : n ∈ ns) : n.natAbs ≤ (ns.map Int.natAbs).sum :=
  List.le_sum_of_mem (List.mem_map_of_mem hn)

private theorem natAbs_sum_le (ns : List Int) : ns.sum.natAbs ≤ (ns.map Int.natAbs).sum := by
  induction ns with
  | nil => exact le_rfl
  | cons n ns ih =>
    rw [List.map_cons, List.sum_cons, List.sum_cons]
    omega

private theorem natAbs_squares (ns : List Int) (mean : Int) :
    (((squares ns mean).map Int.natAbs).sum : Int) = (squares ns mean).sum := by
  induction ns with
  | nil => rfl
  | cons n ns ih =>
    have hn : 0 ≤ (n - mean) * (n - mean) := mul_self_nonneg _
    rw [squares] at ih ⊢
    rw [List.map_cons, List.map_cons, List.sum_cons, List.sum_cons]
    omega

private theorem natAbs_factor_lt {k : Nat} (hk : 0 < k) (h : (n * k).natAbs < 2 ^ 53) :
    n.natAbs < 2 ^ 53 := by
  rw [Int.natAbs_mul, Int.natAbs_natCast] at h
  exact (Nat.le_mul_of_pos_right _ hk).trans_lt h

/-- Integers whose mean and deviation are integers too, and small enough for doubles. -/
structure IntegralDeviation (ns : List Int) (mean deviation : Int) : Prop where
  ne_nil : ns ≠ []
  length_lt : ns.length < 2 ^ 53
  sum_lt : (ns.map Int.natAbs).sum < 2 ^ 53
  squares_lt : (squares ns mean).sum < 2 ^ 53
  sum_eq : ns.sum = mean * ns.length
  squares_eq : (squares ns mean).sum = deviation * deviation * ns.length
  nonneg : 0 ≤ deviation

example : IntegralDeviation [2, 4, 4, 4, 5, 5, 7, 9] 5 2 := by
  constructor <;> decide

namespace IntegralDeviation

variable (h : IntegralDeviation ns mean deviation)
include h

private theorem length_pos : 0 < ns.length :=
  List.length_pos_of_ne_nil h.ne_nil

private theorem natAbs_lt (hn : n ∈ ns) : n.natAbs < 2 ^ 53 :=
  (natAbs_le_sum hn).trans_lt h.sum_lt

private theorem natAbs_sum_lt : (mean * ns.length).natAbs < 2 ^ 53 := by
  rw [← h.sum_eq]
  exact (natAbs_sum_le ns).trans_lt h.sum_lt

private theorem natAbs_mean_lt : mean.natAbs < 2 ^ 53 :=
  natAbs_factor_lt h.length_pos h.natAbs_sum_lt

private theorem sum_natAbs_squares_lt : ((squares ns mean).map Int.natAbs).sum < 2 ^ 53 := by
  have hsquares := natAbs_squares ns mean
  have hlt := h.squares_lt
  omega

private theorem natAbs_square_lt (hn : n ∈ ns) : ((n - mean) * (n - mean)).natAbs < 2 ^ 53 :=
  (natAbs_le_sum (List.mem_map_of_mem hn)).trans_lt h.sum_natAbs_squares_lt

private theorem natAbs_difference_lt (hn : n ∈ ns) : (n - mean).natAbs < 2 ^ 53 := by
  have hsquare := h.natAbs_square_lt hn
  rw [Int.natAbs_mul] at hsquare
  exact (Nat.le_mul_self _).trans_lt hsquare

private theorem natAbs_squares_lt : (deviation * deviation * ns.length).natAbs < 2 ^ 53 := by
  rw [← h.squares_eq]
  exact (natAbs_sum_le _).trans_lt h.sum_natAbs_squares_lt

private theorem sub_mean (hn : n ∈ ns) : ofInt n - ofInt mean = ofInt (n - mean) :=
  ofInt_sub (h.natAbs_lt hn) h.natAbs_mean_lt (h.natAbs_difference_lt hn)

private theorem map_squares :
    (ns.map ofInt).map (fun x => (x - ofInt mean) * (x - ofInt mean)) =
      (squares ns mean).map ofInt := by
  rw [squares, List.map_map, List.map_map]
  refine List.map_congr_left fun n hn => ?_
  have hdifference := h.natAbs_difference_lt hn
  dsimp only [Function.comp_apply]
  rw [h.sub_mean hn, ofInt_mul Iff.rfl hdifference hdifference (h.natAbs_square_lt hn)]

/-- Integers that have an integral mean and deviation are given just these. -/
theorem meanAndDeviation_eq :
    meanAndDeviation (ns.map ofInt) = (ofInt mean, ofInt deviation) := by
  have hlength : (0 : Int) < ns.length := Int.natCast_pos.mpr h.length_pos
  have hlengthlt : (ns.length : Int).natAbs < 2 ^ 53 := h.length_lt
  have hsquares := natAbs_factor_lt h.length_pos h.natAbs_squares_lt
  have hne : squares ns mean ≠ [] := List.map_eq_nil_iff.not.mpr h.ne_nil
  have hmean : sum (ns.map ofInt) / Float.ofNat (ns.map ofInt).length = ofInt mean := by
    rw [List.length_map, ofNat_eq_ofInt h.length_lt, sum_ofInt h.ne_nil h.sum_lt, h.sum_eq,
      ofInt_div hlength hlengthlt h.natAbs_sum_lt]
  rw [meanAndDeviation, hmean, h.map_squares, List.length_map, ofNat_eq_ofInt h.length_lt,
    sum_ofInt hne h.sum_natAbs_squares_lt, h.squares_eq,
    ofInt_div hlength hlengthlt h.natAbs_squares_lt, sqrt_ofInt h.nonneg hsquares]

/-- A number `z` deviations away from the mean becomes `z`. -/
theorem zscore_eq (hys : ys.filterMap id = ns.map ofInt) (hpos : 0 < deviation) (hn : n ∈ ns)
    (hz : n - mean = z * deviation) (hi : ys[i]? = some (some (ofInt n))) :
    (zscore.apply ys)[i]? = some (.float (ofInt z)) := by
  have hdifference := h.natAbs_difference_lt hn
  rw [hz] at hdifference
  have hdeviation := natAbs_factor_lt h.length_pos h.natAbs_squares_lt
  rw [Int.natAbs_mul] at hdeviation
  have hzlt : z.natAbs < 2 ^ 64 := by
    rw [Int.natAbs_mul] at hdifference
    have := Nat.le_mul_of_pos_right z.natAbs (Int.natAbs_pos.mpr hpos.ne')
    omega
  have hquotient : (ofInt n - ofInt mean) / ofInt deviation = ofInt z := by
    rw [h.sub_mean hn, hz,
      ofInt_div hpos ((Nat.le_mul_self _).trans_lt hdeviation) hdifference]
  have hcell : finiteCell (ofInt z) = .float (ofInt z) := if_pos (isFinite_ofInt hzlt)
  rw [apply, hys, h.meanAndDeviation_eq]
  dsimp only
  rw [List.getElem?_map, hi, Option.map_some, cellOf, Option.map_some, Option.map_some, hquotient,
    hcell]
  rfl

end IntegralDeviation

end Integers

end Rescaling
end RollCall
