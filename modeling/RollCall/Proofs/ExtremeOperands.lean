import RollCall.Expression.Operator
import RollCall.Proofs.ExtremeCells

/-!
# Extreme operands

The operators `min` and `max` pick an operand as a group picks its extreme cell. They pass over
missing operands, except that a NaN is picked if it comes before all numbers. The operand picked is
beaten by no other one as a double. A number beyond it is overlooked only where rounding makes the
two equal.
-/
namespace RollCall

open Binary64

namespace Cell

/-- The cell as an operand of arithmetic, truth values being `0` and `1`. -/
def asNumber : Cell → Cell
  | .bool b => .int (if b then 1 else 0)
  | c => c

/-- The number of a cell lies on this side of that of another one. -/
def IsBeyond (side : Ordering) (a b : Cell) : Prop :=
  ∃ v w, a.value? = some v ∧ b.value? = some w ∧ cmp v w = side

/-- Two numbers are equal once they are rounded, and rounding changes one of them. -/
def FallsTogether (a b : Cell) : Prop :=
  a.rounded.value? = b.rounded.value? ∧ ¬(a.IsExact ∧ b.IsExact)

variable {a b c : Cell} {side : Ordering}

@[simp] theorem isMissing_asNumber (c : Cell) : c.asNumber.isMissing = c.isMissing := by
  cases c <;> rfl

/-- A present cell that is no text stands for a number. -/
theorem exists_value?_asNumber (hc : c.isMissing = false) (htext : c.toText? = none) :
    ∃ v v', c.asNumber.value? = some v ∧ c.asNumber.rounded.value? = some v' := by
  have hpresent : c.asNumber.isMissing = false := (isMissing_asNumber c).trans hc
  refine (exists_value?_or hpresent).resolve_right fun ⟨hnone, _⟩ => ?_
  cases c with
  | null => cases hc
  | text s => cases htext
  | bool | int | float => cases hnone

/-- As numbers are compared as doubles, one beyond another may be overlooked where rounding makes
the two equal. -/
theorem fallsTogether_of_isBeyond (hside : side = .lt ∨ side = .gt)
    (ha : ∃ v v', a.value? = some v ∧ a.rounded.value? = some v')
    (hb : ∃ v v', b.value? = some v ∧ b.rounded.value? = some v')
    (hloose : a.looseCompare b ≠ some side) (h : a.IsBeyond side b) : a.FallsTogether b := by
  obtain ⟨-, v', -, hv'⟩ := ha
  obtain ⟨-, w', -, hw'⟩ := hb
  obtain ⟨v, w, hv, hw, hbeyond⟩ := h
  rw [looseCompare_of_value hv' hw', Ne, Option.some_inj] at hloose
  have hne : v ≠ w := by
    rintro rfl
    rw [cmp_self_eq_eq] at hbeyond
    subst hbeyond
    simp at hside
  have heq : v' = w' := by
    obtain rfl | rfl := hside
    · rw [cmp_eq_lt_iff] at hbeyond hloose
      exact le_antisymm (le_of_rounded hv hw hv' hw' hbeyond.le) (not_lt.mp hloose)
    · rw [cmp_eq_gt_iff] at hbeyond hloose
      exact le_antisymm (not_lt.mp hloose) (le_of_rounded hw hv hw' hv' hbeyond.le)
  refine ⟨by rw [hv', hw', heq], fun ⟨haexact, hbexact⟩ => hne ?_⟩
  rw [IsExact, hv', hv, Option.some_inj] at haexact
  rw [IsExact, hw', hw, Option.some_inj] at hbexact
  rw [← haexact, ← hbexact, heq]

end Cell

namespace Aggregator

variable {beats : Ordering → Bool} {cells : List Cell} {c : Cell}

private theorem any_looseCompare_of_isMissing (x : Cell)
    (h : x.isMissing = true ∨ c.isMissing = true) :
    (x.looseCompare c).any beats = false := by
  cases hcompare : x.looseCompare c with
  | none => rfl
  | some o =>
    obtain ⟨hx, hc⟩ := Cell.isMissing_of_looseCompare hcompare
    simp [hx, hc] at h

/-- A missing cell is never beaten, and beats no other. -/
theorem isMissing_best (beats : Ordering → Bool) (c : Cell) (cells : List Cell) :
    (best beats (c :: cells)).isMissing = c.isMissing := by
  rw [best]
  induction cells generalizing c with
  | nil => rfl
  | cons x cells ih =>
    rw [List.foldl_cons, ih]
    split
    · next hbeats =>
      obtain ⟨o, ho, -⟩ := (Option.any_eq_true _ _).mp hbeats
      obtain ⟨hx, hc⟩ := Cell.isMissing_of_looseCompare ho
      rw [hx, hc]
    · rfl

/-- Once a cell is there, missing ones change nothing. -/
theorem best_filter_present (beats : Ordering → Bool) (hc : c.isMissing = false) :
    best beats ((c :: cells).filter fun d => !d.isMissing) = best beats (c :: cells) := by
  rw [List.filter_cons_of_pos (by simpa using hc), best, best]
  induction cells generalizing c with
  | nil => rfl
  | cons x cells ih =>
    rw [List.foldl_cons]
    cases hx : x.isMissing with
    | true =>
      rw [List.filter_cons_of_neg (by simpa using hx), any_looseCompare_of_isMissing x (.inl hx),
        if_neg Bool.false_ne_true, ih hc]
    | false =>
      rw [List.filter_cons_of_pos (by simpa using hx), List.foldl_cons]
      split
      · exact ih hx
      · exact ih hc

end Aggregator

namespace Number

private theorem toFloat?_toCell (n : Number) : n.toCell.toFloat? = some n.toFloat := by
  cases n <;> rfl

private theorem isNaN_of_isMissing {n : Number} (h : n.toCell.isMissing = true) :
    n.toFloat.isNaN = true := by
  cases n with
  | int n => cases h
  | float x => exact h

/-- A number that is there has a value as a double. -/
theorem exists_rounded {n : Number} (h : n.toCell.isMissing = false) :
    ∃ v, n.toCell.rounded.value? = some v ∧ Binary64.value? n.toFloat = some v := by
  obtain ⟨-, v, -, hv⟩ | ⟨hnone, -⟩ := Cell.exists_value?_or h
  · obtain ⟨x, hx, hvalue, -⟩ := Cell.exists_toFloat? hv
    rw [toFloat?_toCell] at hx
    obtain rfl := Option.some.inj hx
    exact ⟨v, hv, hvalue⟩
  · rw [toFloat?_toCell] at hnone
    cases hnone

/-- Numbers are compared as cells are, and none with one that is missing. -/
theorem looseCompare_toCell (m n : Number) :
    (m.toCell.looseCompare n.toCell = some .lt ↔ m.toFloat < n.toFloat) ∧
      (m.toCell.looseCompare n.toCell = some .gt ↔ n.toFloat < m.toFloat) := by
  by_cases hmissing : m.toCell.isMissing = true ∨ n.toCell.isMissing = true
  · have hnone : ∀ o, m.toCell.looseCompare n.toCell ≠ some o := by
      intro o ho
      obtain ⟨hm, hn⟩ := Cell.isMissing_of_looseCompare ho
      simp [hm, hn] at hmissing
    have hnan := hmissing.imp isNaN_of_isMissing isNaN_of_isMissing
    exact ⟨iff_of_false (hnone _) (not_lt_of_isNaN hnan),
      iff_of_false (hnone _) (not_lt_of_isNaN hnan.symm)⟩
  · rw [not_or, Bool.not_eq_true, Bool.not_eq_true] at hmissing
    obtain ⟨v, hv, hvalue⟩ := exists_rounded hmissing.1
    obtain ⟨w, hw, hvalue'⟩ := exists_rounded hmissing.2
    rw [Cell.looseCompare_of_value hv hw, lt_iff hvalue hvalue', lt_iff hvalue' hvalue,
      Option.some_inj, Option.some_inj, cmp_eq_lt_iff, cmp_eq_gt_iff]
    exact ⟨Iff.rfl, Iff.rfl⟩

end Number

namespace Operator

/-- The side of the other operands on which the operand picked lies. -/
def side? : Operator → Option Ordering
  | min => some .lt
  | max => some .gt
  | _ => none

variable {op : Operator} {side : Ordering} {operands operands' : List Cell}

/-- The numbers among operands are picked from as the cells of a group are. -/
theorem pick_eq_best {better : Number → Number → Number}
    (hbetter : ∀ m n, better m n =
      if n.toCell.looseCompare m.toCell = some side then n else m) (ns : List Number) :
    pick better ns = Aggregator.best (· == side) (ns.map Number.toCell) := by
  cases ns with
  | nil => rfl
  | cons n rest =>
    rw [pick, List.map_cons, Aggregator.best, List.foldl_map]
    refine (List.foldl_hom Number.toCell fun m n => ?_).symm
    rw [hbetter, apply_ite Number.toCell]
    cases n.toCell.looseCompare m.toCell <;> simp

private theorem exists_number? (op : Operator) {c : Cell} (hc : c ≠ .null)
    (htext : c.toText? = none) :
    ∃ n, op.number? c = .ok (some n) ∧ n.toCell = c.asNumber := by
  cases c with
  | null => exact absurd rfl hc
  | text s => cases htext
  | bool b => exact ⟨.int (if b then 1 else 0), rfl, rfl⟩
  | int n => exact ⟨.int n, rfl, rfl⟩
  | float x => exact ⟨.float x, rfl, rfl⟩

/-- Operands other than texts are read as numbers, the empty ones left out. -/
theorem exists_mapM_number? (op : Operator) (htext : ∀ c ∈ operands, c.toText? = none) :
    ∃ ns, operands.mapM op.number? = .ok ns ∧
      (ns.filterMap id).map Number.toCell =
        (operands.filter fun c => c ≠ .null).map Cell.asNumber := by
  induction operands with
  | nil => exact ⟨[], rfl, rfl⟩
  | cons c operands ih =>
    obtain ⟨hc, hrest⟩ := List.forall_mem_cons.mp htext
    obtain ⟨ns, hns, hcells⟩ := ih hrest
    by_cases hnull : c = .null
    · refine ⟨none :: ns, ?_, ?_⟩
      · rw [List.mapM_cons, hns, hnull]
        rfl
      · rw [List.filterMap_cons_none rfl, List.filter_cons_of_neg (by simpa using hnull), hcells]
    · obtain ⟨n, hn, hcell⟩ := exists_number? op hnull hc
      refine ⟨some n :: ns, ?_, ?_⟩
      · rw [List.mapM_cons, hn, hns]
        rfl
      · rw [List.filterMap_cons_some (id_eq (some n)),
          List.filter_cons_of_pos (by simpa using hnull), List.map_cons, List.map_cons, hcell,
          hcells]

private theorem min_eq_ite (m n : Number) :
    m.min n = if n.toCell.looseCompare m.toCell = some .lt then n else m := by
  simp only [Number.min, (n.looseCompare_toCell m).1]

private theorem max_eq_ite (m n : Number) :
    m.max n = if n.toCell.looseCompare m.toCell = some .gt then n else m := by
  simp only [Number.max, (n.looseCompare_toCell m).2]

/-- What is picked is the best of the operands that are not empty. -/
theorem apply_eq_best (hside : op.side? = some side) (hoperands : operands ≠ [])
    (htext : ∀ c ∈ operands, c.toText? = none) :
    op.apply operands = .ok (Aggregator.best (· == side)
      ((operands.filter fun c => c ≠ .null).map Cell.asNumber)) := by
  obtain ⟨ns, hns, hcells⟩ := exists_mapM_number? op htext
  have hcount : 1 ≤ operands.length := List.length_pos_iff.mpr hoperands
  rw [← hcells]
  cases op with
  | min =>
    obtain rfl := Option.some.inj hside
    rw [← pick_eq_best min_eq_ite]
    simp [apply, allows, hcount, hns]
  | max =>
    obtain rfl := Option.some.inj hside
    rw [← pick_eq_best max_eq_ite]
    simp [apply, allows, hcount, hns]
  | _ => cases hside

/-- The first operand that is not empty is a number and not a NaN, if there is one. -/
def NumberFirst (operands : List Cell) : Prop :=
  ∀ c, operands.find? (fun c => c ≠ .null) = some c → c.isMissing = false

instance (operands : List Cell) : Decidable (NumberFirst operands) :=
  decidable_of_iff ((operands.find? fun c => c ≠ .null).all fun c => !c.isMissing) <| by
    rw [NumberFirst]
    cases operands.find? fun c => c ≠ .null <;> simp

private theorem filter_present_asNumber (operands : List Cell) :
    ((operands.filter fun c => c ≠ .null).map Cell.asNumber).filter (fun c => !c.isMissing) =
      (operands.filter fun c => !c.isMissing).map Cell.asNumber := by
  rw [List.filter_map, List.filter_filter]
  refine congrArg (List.map Cell.asNumber) (List.filter_congr fun c _ => ?_)
  rw [Function.comp_apply, Cell.isMissing_asNumber]
  cases c <;> simp [Cell.isMissing]

/-- After a number in front, only the operands that are there count. -/
theorem NumberFirst.apply_eq (hfirst : NumberFirst operands) (hside : op.side? = some side)
    (hoperands : operands ≠ []) (htext : ∀ c ∈ operands, c.toText? = none) :
    op.apply operands = .ok (Aggregator.best (· == side)
      ((operands.filter fun c => !c.isMissing).map Cell.asNumber)) := by
  rw [apply_eq_best hside hoperands htext, ← filter_present_asNumber]
  rw [NumberFirst, ← List.head?_filter] at hfirst
  cases hfilter : operands.filter fun c => c ≠ .null with
  | nil => rfl
  | cons c rest =>
    have hc : c.asNumber.isMissing = false := by
      rw [Cell.isMissing_asNumber]
      exact hfirst c (congrArg List.head? hfilter)
    rw [List.map_cons, Aggregator.best_filter_present _ hc]

private theorem isMissing_of_not_numberFirst (hfirst : ¬NumberFirst operands)
    (hside : op.side? = some side) (htext : ∀ c ∈ operands, c.toText? = none) {c : Cell}
    (hc : op.apply operands = .ok c) : c.isMissing = true := by
  have hoperands : operands ≠ [] := by
    rintro rfl
    exact hfirst (by decide)
  rw [apply_eq_best hside hoperands htext] at hc
  obtain rfl := Except.ok.inj hc
  simp only [NumberFirst, not_forall, Bool.not_eq_false] at hfirst
  obtain ⟨d, hd, hmissing⟩ := hfirst
  rw [← List.head?_filter] at hd
  obtain ⟨rest, hrest⟩ := List.head?_eq_some_iff.mp hd
  rw [hrest, List.map_cons, Aggregator.isMissing_best, Cell.isMissing_asNumber, hmissing]

private theorem side_eq_lt_or_gt (hside : op.side? = some side) : side = .lt ∨ side = .gt := by
  cases op with
  | min => exact .inl (Option.some.inj hside).symm
  | max => exact .inr (Option.some.inj hside).symm
  | _ => cases hside

/-- What is picked among operands that are there is one of them, and no other is beyond it. -/
theorem exists_extreme (hside : side = .lt ∨ side = .gt) (htext : ∀ c ∈ operands, c.toText? = none)
    {d : Cell} (hd : d ∈ operands) (hpresent : d.isMissing = false) :
    ∃ c ∈ operands, c.isMissing = false ∧
      Aggregator.best (· == side) ((operands.filter fun c => !c.isMissing).map Cell.asNumber) =
        c.asNumber ∧
      ∀ e ∈ operands, e.isMissing = false → e.asNumber.IsBeyond side c.asNumber →
        e.asNumber.FallsTogether c.asNumber := by
  have hcells : (operands.filter fun c => !c.isMissing).map Cell.asNumber ≠ [] := by
    refine List.ne_nil_of_mem (List.mem_map_of_mem (List.mem_filter.mpr ⟨hd, ?_⟩))
    simpa using hpresent
  obtain ⟨hmem, hbest⟩ := @Aggregator.isUnbeaten_best side (· == side) _ hside (by simp) hcells
  obtain ⟨c, hc, hceq⟩ := List.mem_map.mp hmem
  obtain ⟨hc, hcpresent⟩ := List.mem_filter.mp hc
  rw [Bool.not_eq_true'] at hcpresent
  refine ⟨c, hc, hcpresent, hceq.symm, fun e he hepresent hbeyond => ?_⟩
  refine Cell.fallsTogether_of_isBeyond hside (Cell.exists_value?_asNumber hepresent (htext e he))
    (Cell.exists_value?_asNumber hcpresent (htext c hc)) ?_ hbeyond
  rw [hceq]
  exact hbest _ (List.mem_map_of_mem (List.mem_filter.mpr ⟨he, by simpa using hepresent⟩))

private theorem isMissing_best_present (side : Ordering) (operands : List Cell) :
    (Aggregator.best (· == side)
      ((operands.filter fun c => !c.isMissing).map Cell.asNumber)).isMissing = true ↔
      ∀ d ∈ operands, d.isMissing = true := by
  cases hfilter : operands.filter fun c => !c.isMissing with
  | nil =>
    refine iff_of_true rfl fun d hd => ?_
    simpa using List.filter_eq_nil_iff.mp hfilter d hd
  | cons d rest =>
    have hmem : d ∈ operands.filter fun c => !c.isMissing := hfilter ▸ List.mem_cons_self
    obtain ⟨hd, hpresent⟩ := List.mem_filter.mp hmem
    rw [Bool.not_eq_true'] at hpresent
    rw [List.map_cons, Aggregator.isMissing_best, Cell.isMissing_asNumber, hpresent]
    exact iff_of_false Bool.false_ne_true fun hall => by simp [hall d hd] at hpresent

private theorem toText?_of_same_present (htext : ∀ c ∈ operands, c.toText? = none)
    (hsame : operands'.filter (fun d => !d.isMissing) = operands.filter fun d => !d.isMissing) :
    ∀ c ∈ operands', c.toText? = none := by
  intro c hc
  cases hpresent : c.isMissing with
  | true =>
    cases c with
    | null | float => rfl
    | bool | int | text => cases hpresent
  | false =>
    have hmem : c ∈ operands'.filter fun d => !d.isMissing :=
      List.mem_filter.mpr ⟨hc, by simpa using hpresent⟩
    rw [hsame] at hmem
    exact htext c (List.mem_filter.mp hmem).1

/-- The operators `min` and `max` give a value exactly if an operand has one, unless a NaN stands
before all numbers: then they give that. The value is that of an operand, and a number beyond it
falls together with it as a double. Where a number comes first, missing operands may be added, moved
or left out. -/
theorem apply_extreme (hside : op.side? = some side) (hoperands : operands ≠ [])
    (htext : ∀ c ∈ operands, c.toText? = none) :
    ∃ c, op.apply operands = .ok c ∧
      (NumberFirst operands → (c.isMissing = true ↔ ∀ d ∈ operands, d.isMissing = true)) ∧
      (¬NumberFirst operands → c.isMissing = true) ∧
      (c.isMissing = false → ∃ d ∈ operands, d.isMissing = false ∧ c = d.asNumber ∧
        ∀ e ∈ operands, e.isMissing = false → e.asNumber.IsBeyond side c →
          e.asNumber.FallsTogether c) ∧
      (NumberFirst operands → ∀ operands' ≠ [], NumberFirst operands' →
        operands'.filter (fun d => !d.isMissing) = operands.filter (fun d => !d.isMissing) →
        op.apply operands' = .ok c) := by
  by_cases hfirst : NumberFirst operands
  · refine ⟨_, hfirst.apply_eq hside hoperands htext, fun _ => isMissing_best_present side operands,
      fun hnot => absurd hfirst hnot, fun hc => ?_,
      fun _ operands' hoperands' hfirst' hsame => ?_⟩
    · have hsome := mt (isMissing_best_present side operands).mpr (ne_true_of_eq_false hc)
      simp only [not_forall, Bool.not_eq_true] at hsome
      obtain ⟨d, hd, hpresent⟩ := hsome
      obtain ⟨e, he, hepresent, heq, hbeyond⟩ :=
        exists_extreme (side_eq_lt_or_gt hside) htext hd hpresent
      rw [heq]
      exact ⟨e, he, hepresent, rfl, hbeyond⟩
    · rw [← hsame]
      exact hfirst'.apply_eq hside hoperands' (toText?_of_same_present htext hsame)
  · have happly := apply_eq_best hside hoperands htext
    have hmissing := isMissing_of_not_numberFirst hfirst hside htext happly
    exact ⟨_, happly, fun h => absurd h hfirst, fun _ => hmissing,
      fun hc => absurd hmissing (ne_true_of_eq_false hc), fun h => absurd h hfirst⟩

/-- A NaN in front is the least operand, and of two integers above `2^53` the greater may be. -/
theorem apply_extreme_overlooks :
    (∃ c, min.apply [.float Binary64.nan, .int 1] = .ok c ∧ c.isMissing = true) ∧
      min.apply [.int 1, .float Binary64.nan] = .ok (.int 1) ∧
      min.apply [.int 9007199254740993, .int 9007199254740992] = .ok (.int 9007199254740993) :=
  ⟨⟨_, rfl, by decide⟩, rfl, rfl⟩

theorem apply_extreme_sample :
    ∃ c, min.apply [.null, .int 2, .bool true] = .ok c ∧ c.isMissing = false ∧
      min.apply [.int 2, .float Binary64.nan, .bool true, .null] = .ok c := by
  obtain ⟨c, hc, hmissing, -, -, hsame⟩ :=
    @apply_extreme min .lt [.null, .int 2, .bool true] rfl (by decide) (by decide)
  have hpresent : c.isMissing = false := by
    rw [← Bool.not_eq_true, hmissing (by decide)]
    decide
  exact ⟨c, hc, hpresent, hsame (by decide) _ (by decide) (by decide) (by decide)⟩

end Operator
end RollCall
