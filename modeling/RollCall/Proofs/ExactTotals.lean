import RollCall.Aggregation.Aggregator
import RollCall.Proofs.ExactArithmetic

/-!
# Exact totals

The total of integers and truth values is kept as a 64-bit integer from row to row. It is exact as
long as no running total leaves the range, and a double from then on, though later rows may bring it
back. Every running total, in any order of the rows, lies between the sum of the negative numbers
and that of the positive ones. So a group has one exact total in all orders exactly if these two
sums are in range.
-/
namespace RollCall

open Checked (Fits)

/-- The running totals of integers are 64-bit integers. -/
def Checked.TotalsFit (ns : List Int) : Prop :=
  ∀ before, before <+: ns → Fits before.sum

private theorem Checked.fits_of_between {l n u : Int} (hl : Fits l) (hu : Fits u) (hln : l ≤ n)
    (hnu : n ≤ u) : Fits n :=
  ⟨hl.1.trans hln, hnu.trans_lt hu.2⟩

/-- A sum lies between those of the negative and of the positive numbers, and so does zero. -/
theorem sum_envelope (ns : List Int) :
    ((ns.filter (· < 0)).sum ≤ ns.sum ∧ ns.sum ≤ (ns.filter (0 < ·)).sum) ∧
      (ns.filter (· < 0)).sum ≤ 0 ∧ 0 ≤ (ns.filter (0 < ·)).sum := by
  induction ns with
  | nil => simp
  | cons n ns ih =>
    rcases lt_trichotomy n 0 with hn | rfl | hn
    · simp [hn, hn.not_gt]
      omega
    · simpa using ih
    · simp [hn, hn.not_gt]
      omega

/-- Every running total lies between the sums of the negative and of the positive numbers. -/
theorem sum_prefix_envelope {before ns : List Int} (h : before <+: ns) :
    (ns.filter (· < 0)).sum ≤ before.sum ∧ before.sum ≤ (ns.filter (0 < ·)).sum := by
  obtain ⟨after, rfl⟩ := h
  rw [List.filter_append, List.filter_append, List.sum_append, List.sum_append]
  have hbefore := sum_envelope before
  have hafter := sum_envelope after
  omega

namespace Cell

def wholes (cells : List Cell) : List Int :=
  cells.filterMap whole?

/-- The cells that are there are integers and truth values. -/
def AreWhole (cells : List Cell) : Prop :=
  ∀ c ∈ cells, c.isMissing = true ∨ c.whole?.isSome = true

instance (cells : List Cell) : Decidable (AreWhole cells) :=
  inferInstanceAs (Decidable (∀ c ∈ cells, _ ∨ _))

theorem AreWhole.perm {cells cells' : List Cell} (h : AreWhole cells) (hperm : cells.Perm cells') :
    AreWhole cells' :=
  fun c hc => h c (hperm.mem_iff.mpr hc)

private theorem whole?_of_isMissing {c : Cell} (h : c.isMissing = true) : c.whole? = none := by
  cases c with
  | null | float => rfl
  | bool | int | text => cases h

private theorem wholes_present (cells : List Cell) :
    wholes (cells.filter fun c => !c.isMissing) = wholes cells := by
  rw [wholes, wholes, List.filterMap_filter]
  refine List.filterMap_congr fun c _ => ?_
  cases h : c.isMissing with
  | true => exact (whole?_of_isMissing h).symm
  | false => rfl

private theorem wholes_filter (p : Int → Bool) (cells : List Cell) :
    wholes (cells.filter fun c => c.whole?.any p) = (wholes cells).filter p := by
  rw [wholes, wholes, List.filterMap_filter, List.filter_filterMap]
  refine List.filterMap_congr fun c _ => ?_
  cases c.whole? with
  | none => rfl
  | some n => simp [Option.filter]

end Cell

namespace Aggregator

variable {cells cells' : List Cell}

private theorem integer?_of_whole {c : Cell} {n : Int} (h : c.whole? = some n) :
    ∃ x, integer? c = some x ∧ x.toInt = n := by
  obtain ⟨x, hx, rfl | ⟨b, rfl, rfl⟩⟩ := Cell.whole?_eq_some h
  · exact ⟨x, rfl, hx⟩
  · exact ⟨_, rfl, hx⟩

/-- A running total goes on exactly as long as it fits. -/
theorem foldlM_add?_eq_some (h : ∀ c ∈ cells, c.whole?.isSome = true) (a v : Int64) :
    cells.foldlM (fun sum c => (integer? c).bind (Checked.add? sum)) a = some v ↔
      a.toInt + (Cell.wholes cells).sum = v.toInt ∧
        ∀ before, before <+: Cell.wholes cells → Fits (a.toInt + before.sum) := by
  induction cells generalizing a with
  | nil => simp [Cell.wholes, Checked.fits_toInt, Int64.toInt_inj]
  | cons c cells ih =>
    obtain ⟨hc, hrest⟩ := List.forall_mem_cons.mp h
    obtain ⟨n, hn⟩ := Option.isSome_iff_exists.mp hc
    obtain ⟨x, hx, rfl⟩ := integer?_of_whole hn
    have hwholes : Cell.wholes (c :: cells) = x.toInt :: Cell.wholes cells :=
      List.filterMap_cons_some hn
    rw [List.foldlM_cons, hx, Option.bind_some, hwholes, List.sum_cons]
    simp only [List.prefix_cons_iff]
    cases hsum : Checked.add? a x with
    | some b =>
      have hb : a.toInt + x.toInt = b.toInt := Checked.ofInt?_eq_some_iff.mp hsum
      rw [Option.bind_eq_bind, Option.bind_some, ih hrest, ← hb, Int.add_assoc]
      refine and_congr_right fun _ => ?_
      constructor
      · rintro hfits before (rfl | ⟨before, rfl, hbefore⟩)
        · simpa using Checked.fits_toInt a
        · rw [List.sum_cons, ← Int.add_assoc]
          exact hfits before hbefore
      · intro hfits before hbefore
        have hcons := hfits (x.toInt :: before) (.inr ⟨before, rfl, hbefore⟩)
        rwa [List.sum_cons, ← Int.add_assoc] at hcons
    | none =>
      have hover : ¬Fits (a.toInt + x.toInt) := Checked.ofInt?_eq_none_iff_not_fits.mp hsum
      refine iff_of_false (fun h => nomatch h) fun ⟨_, hfits⟩ => hover ?_
      simpa using hfits [x.toInt] (.inr ⟨[], rfl, List.nil_prefix⟩)

/-- A total of integers is exact if all running totals fit, and else it is a double. -/
theorem apply_sum_eq_int_iff (h : Cell.AreWhole cells) (v : Int64) :
    sum.apply cells = .int v ↔
      (Cell.wholes cells).sum = v.toInt ∧ Checked.TotalsFit (Cell.wholes cells) := by
  have hpresent : ∀ c ∈ cells.filter fun c => !c.isMissing, c.whole?.isSome = true := by
    intro c hc
    obtain ⟨hmem, hc⟩ := List.mem_filter.mp hc
    exact (h c hmem).resolve_left (by simpa using hc)
  have hexact := foldlM_add?_eq_some hpresent 0 v
  simp only [Cell.wholes_present, Int64.toInt_zero, Int.zero_add] at hexact
  rw [Checked.TotalsFit, ← hexact, apply, total, exactSum?]
  split <;> simp_all

private theorem apply_sum_int_or_float (cells : List Cell) :
    (∃ v, sum.apply cells = .int v) ∨ ∃ x, sum.apply cells = .float x := by
  rw [apply, total]
  split
  · exact .inl ⟨_, rfl⟩
  · exact .inr ⟨_, rfl⟩

/-- The numbers of one sign may come first. -/
theorem fits_sum_filter (h : Cell.AreWhole cells) {v : Int64}
    (hall : ∀ cells', cells.Perm cells' → sum.apply cells' = .int v) (p : Int → Bool) :
    Fits ((Cell.wholes cells).filter p).sum := by
  have hperm := (List.filter_append_perm (fun c => c.whole?.any p) cells).symm
  obtain ⟨-, hfits⟩ := (apply_sum_eq_int_iff (h.perm hperm) v).mp (hall _ hperm)
  refine hfits _ ?_
  rw [← Cell.wholes_filter, Cell.wholes, Cell.wholes, List.filterMap_append]
  exact List.prefix_append _ _

private theorem totalsFit_of_perm (hperm : cells.Perm cells')
    (hnegative : Fits ((Cell.wholes cells).filter (· < 0)).sum)
    (hpositive : Fits ((Cell.wholes cells).filter (0 < ·)).sum) :
    Checked.TotalsFit (Cell.wholes cells') := by
  intro before hbefore
  have hwholes : (Cell.wholes cells).Perm (Cell.wholes cells') := hperm.filterMap Cell.whole?
  rw [(hwholes.filter _).sum_eq] at hnegative hpositive
  obtain ⟨hlower, hupper⟩ := sum_prefix_envelope hbefore
  exact Checked.fits_of_between hnegative hpositive hlower hupper

/-- The total of integers and truth values is the integer that they sum up to exactly if all running
totals fit, and else a double. So two orders never give different integers, and all orders give one
integer exactly if the negative numbers on their own and the positive ones on their own have a sum
that fits. -/
theorem apply_sum_exact (h : Cell.AreWhole cells) :
    (∀ v : Int64, sum.apply cells = .int v ↔
      (Cell.wholes cells).sum = v.toInt ∧ Checked.TotalsFit (Cell.wholes cells)) ∧
      ((∃ v, sum.apply cells = .int v) ∨ ∃ x, sum.apply cells = .float x) ∧
      (∀ cells' v v', cells.Perm cells' → sum.apply cells = .int v → sum.apply cells' = .int v' →
        v = v') ∧
      ((∃ v, ∀ cells', cells.Perm cells' → sum.apply cells' = .int v) ↔
        Fits ((Cell.wholes cells).filter (· < 0)).sum ∧
          Fits ((Cell.wholes cells).filter (0 < ·)).sum) := by
  have hsum : ∀ {cells'}, cells.Perm cells' →
      (Cell.wholes cells').sum = (Cell.wholes cells).sum :=
    fun hperm => (hperm.filterMap Cell.whole?).sum_eq.symm
  refine ⟨apply_sum_eq_int_iff h, apply_sum_int_or_float cells,
    fun cells' v v' hperm hv hv' => ?_, fun ⟨v, hall⟩ => ?_, fun ⟨hnegative, hpositive⟩ => ?_⟩
  · obtain ⟨hv, -⟩ := (apply_sum_eq_int_iff h v).mp hv
    obtain ⟨hv', -⟩ := (apply_sum_eq_int_iff (h.perm hperm) v').mp hv'
    rw [hsum hperm, hv] at hv'
    exact Int64.toInt_inj.mp hv'
  · exact ⟨fits_sum_filter h hall _, fits_sum_filter h hall _⟩
  · have hfits := totalsFit_of_perm (.refl cells) hnegative hpositive _ (List.prefix_refl _)
    refine ⟨Int64.ofInt (Cell.wholes cells).sum, fun cells' hperm => ?_⟩
    refine (apply_sum_eq_int_iff (h.perm hperm) _).mpr
      ⟨?_, totalsFit_of_perm hperm hnegative hpositive⟩
    rw [hsum hperm, Int64.toInt_ofInt_of_le hfits.1 hfits.2]

/-- A total that fits is rounded where a running total does not, and exact in another order. -/
theorem apply_sum_exact_reordered :
    (∃ x, sum.apply [.int 0x7fffffffffffffff, .int 1, .int (-1)] = .float x) ∧
      (Cell.wholes [.int 0x7fffffffffffffff, .int 1, .int (-1)]).sum = 0x7fffffffffffffff ∧
      sum.apply [.int 0x7fffffffffffffff, .int (-1), .int 1] = .int 0x7fffffffffffffff :=
  ⟨⟨_, rfl⟩, by decide, by decide⟩

theorem apply_sum_exact_sample :
    sum.apply [.int 0x7ffffffffffffffe, .null, .bool true, .int (-3)] =
      .int 0x7ffffffffffffffc ∧
      ∃ v, ∀ cells', List.Perm [.int 0x7ffffffffffffffe, .null, .bool true, .int (-3)] cells' →
        sum.apply cells' = .int v := by
  obtain ⟨hexact, -, -, horders⟩ :=
    @apply_sum_exact [.int 0x7ffffffffffffffe, .null, .bool true, .int (-3)] (by decide)
  have hall := horders.mpr (by decide)
  obtain ⟨v, hv⟩ := hall
  obtain ⟨hsum, -⟩ := (hexact v).mp (hv _ (.refl _))
  obtain rfl : (0x7ffffffffffffffc : Int64) = v := Int64.toInt_inj.mp (hsum ▸ by decide)
  exact ⟨hv _ (.refl _), _, hv⟩

end Aggregator
end RollCall
