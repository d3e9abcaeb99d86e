import RollCall.Aggregation.Aggregator
import RollCall.Proofs.Lists
import RollCall.Proofs.LooseComparison

/-!
# Extreme cells

The least or greatest cell of a group is one that no other cell beats, whatever the order of the
cells. Two cells may both be unbeaten, because one is a number and the other a text or because
rounding makes them equal. If all unbeaten cells have one key, then so has the extreme in any order.
-/
namespace RollCall

namespace Cell

variable {a b c : Cell}

theorem isMissing_of_looseCompare {o : Ordering} (h : a.looseCompare b = some o) :
    a.isMissing = false ∧ b.isMissing = false := by
  rw [looseCompare.eq_def] at h
  cases ha : a.isMissing <;> cases hb : b.isMissing <;> simp [ha, hb] at h ⊢

theorem rank_keyOfFloat {x : Float} (h : x.isNaN = false) : (keyOfFloat x).rank = 1 := by
  rw [keyOfFloat, h]
  cases (Binary64.integer? x).bind Checked.ofInt? <;> rfl

private theorem rank_of_number {x : Float} (h : c.toFloat? = some x) (hc : c.isMissing = false) :
    c.key.rank = 1 := by
  cases c with
  | int n => rfl
  | float y => exact rank_keyOfFloat hc
  | null | bool | text => cases h

theorem isNumeric_iff_rank (hc : c.isMissing = false) : c.isNumeric = true ↔ c.key.rank = 1 := by
  cases c with
  | null => cases hc
  | int n => exact iff_of_true rfl rfl
  | float x => exact iff_of_true rfl (rank_keyOfFloat hc)
  | bool | text => exact iff_of_false Bool.false_ne_true (by simp [key, Key.rank])

theorem isBool_iff_rank (hc : c.isMissing = false) : c.isBool = true ↔ c.key.rank = 0 := by
  cases c with
  | null => cases hc
  | bool b => exact iff_of_true rfl rfl
  | float x => exact iff_of_false Bool.false_ne_true (by simp [key, rank_keyOfFloat hc])
  | int | text => exact iff_of_false Bool.false_ne_true (by simp [key, Key.rank])

private theorem isSome_looseCompare_of_none (ha : a.isMissing = false) (hb : b.isMissing = false)
    (h : a.toFloat? = none ∨ b.toFloat? = none) :
    (a.looseCompare b).isSome = true ↔ a.key.rank = b.key.rank := by
  rw [looseCompare.eq_def, ha, hb]
  cases a <;> cases b
  case bool.float | text.float =>
    rw [key, key, rank_keyOfFloat hb]
    simp [Key.rank, toFloat?]
  case float.bool | float.text =>
    rw [key, key, rank_keyOfFloat ha]
    simp [Key.rank, toFloat?]
  all_goals simp_all [key, toFloat?, isMissing, Key.rank]

/-- Two cells can be compared if they are of one kind. -/
theorem isSome_looseCompare (ha : a.isMissing = false) (hb : b.isMissing = false) :
    (a.looseCompare b).isSome = true ↔ a.key.rank = b.key.rank := by
  obtain ⟨-, v, -, hv⟩ | ⟨hanone, -⟩ := exists_value?_or ha
  · obtain ⟨-, w, -, hw⟩ | ⟨hbnone, -⟩ := exists_value?_or hb
    · obtain ⟨x, hx, -⟩ := exists_toFloat? hv
      obtain ⟨y, hy, -⟩ := exists_toFloat? hw
      rw [looseCompare_of_value hv hw, rank_of_number hx ha, rank_of_number hy hb]
      exact iff_of_true rfl rfl
    · exact isSome_looseCompare_of_none ha hb (.inr hbnone)
  · exact isSome_looseCompare_of_none ha hb (.inl hanone)

/-- Cells of one kind are compared by the keys of the rounded cells, and others not at all. -/
theorem looseCompare_eq (ha : a.isMissing = false) (hb : b.isMissing = false) :
    a.looseCompare b =
      if a.key.rank = b.key.rank then some (Key.compare a.rounded.key b.rounded.key) else none := by
  have hsome := isSome_looseCompare ha hb
  cases h : a.looseCompare b with
  | none =>
    rw [h] at hsome
    rw [if_neg fun hrank => Bool.noConfusion (hsome.mpr hrank)]
  | some o =>
    rw [h] at hsome
    rw [if_pos (hsome.mp rfl), (comparesAs_rounded ha hb).looseCompare o h]

theorem looseCompare_eq_some_iff {o : Ordering} : a.looseCompare b = some o ↔
    (a.isMissing = false ∧ b.isMissing = false) ∧ a.key.rank = b.key.rank ∧
      Key.compare a.rounded.key b.rounded.key = o := by
  constructor
  · intro h
    obtain ⟨ha, hb⟩ := isMissing_of_looseCompare h
    rw [looseCompare_eq ha hb] at h
    split at h
    · next hrank => exact ⟨⟨ha, hb⟩, hrank, Option.some.inj h⟩
    · cases h
  · rintro ⟨⟨ha, hb⟩, hrank, rfl⟩
    rw [looseCompare_eq ha hb, if_pos hrank]

private theorem looseCompare_trans {o : Ordering} (ho : o = .lt ∨ o = .gt)
    (hab : a.looseCompare b = some o) (hbc : b.looseCompare c = some o) :
    a.looseCompare c = some o := by
  obtain ⟨⟨ha, -⟩, hrank, hcompare⟩ := looseCompare_eq_some_iff.mp hab
  obtain ⟨⟨-, hc⟩, hrank', hcompare'⟩ := looseCompare_eq_some_iff.mp hbc
  refine looseCompare_eq_some_iff.mpr ⟨⟨ha, hc⟩, hrank.trans hrank', ?_⟩
  obtain rfl | rfl := ho
  · exact Std.TransCmp.lt_trans hcompare hcompare'
  · exact Std.TransCmp.gt_trans hcompare hcompare'

private theorem looseCompare_self {o : Ordering} (h : a.looseCompare a = some o) : o = .eq := by
  obtain ⟨-, -, rfl⟩ := looseCompare_eq_some_iff.mp h
  exact Std.ReflCmp.compare_self

end Cell

namespace Aggregator

/-- The cell is one of those that no cell beats by being on this side of it. -/
def IsUnbeaten (side : Ordering) (cells : List Cell) (c : Cell) : Prop :=
  c ∈ cells ∧ ∀ d ∈ cells, d.looseCompare c ≠ some side

/-- All cells that no other beats have one key. -/
def HasOneExtreme (side : Ordering) (cells : List Cell) : Prop :=
  ∀ c d, IsUnbeaten side cells c → IsUnbeaten side cells d → c.key = d.key

/-- The outcome for the present cells of a group does not depend on their order. -/
def IgnoresOrder (a : Aggregator) (cells : List Cell) : Prop :=
  match a with
  | count | distinct => True
  | min => HasOneExtreme .lt (cells.filter fun c => !c.isMissing)
  | max => HasOneExtreme .gt (cells.filter fun c => !c.isMissing)
  | _ => False

variable {side : Ordering} {beats : Ordering → Bool} {cells cells' before : List Cell} {c d : Cell}

theorem looseCompare_self_ne (hside : side = .lt ∨ side = .gt) (c : Cell) :
    c.looseCompare c ≠ some side := by
  intro h
  obtain rfl := Cell.looseCompare_self h
  simp at hside

/-- A cell that beats the unbeaten one is itself unbeaten. -/
theorem IsUnbeaten.step (hside : side = .lt ∨ side = .gt) (hbeats : ∀ o, beats o ↔ o = side)
    (h : IsUnbeaten side before c) (x : Cell) :
    IsUnbeaten side (before ++ [x]) (if (x.looseCompare c).any beats then x else c) := by
  have hany : (x.looseCompare c).any beats ↔ x.looseCompare c = some side := by
    cases x.looseCompare c <;> simp [hbeats]
  obtain ⟨hc, hbefore⟩ := h
  split
  · next hx =>
    rw [hany] at hx
    refine ⟨by simp, List.forall_mem_append.mpr ⟨fun d hd hdx => ?_, ?_⟩⟩
    · exact hbefore d hd (Cell.looseCompare_trans hside hdx hx)
    · exact List.forall_mem_singleton.mpr (looseCompare_self_ne hside x)
  · next hx =>
    rw [hany] at hx
    exact ⟨by simp [hc], List.forall_mem_append.mpr ⟨hbefore, by simpa using hx⟩⟩

private theorem IsUnbeaten.foldl (hside : side = .lt ∨ side = .gt)
    (hbeats : ∀ o, beats o ↔ o = side) (h : IsUnbeaten side before c) (cells : List Cell) :
    IsUnbeaten side (before ++ cells)
      (cells.foldl (fun best c => if (c.looseCompare best).any beats then c else best) c) := by
  induction cells generalizing before c with
  | nil => rwa [List.append_nil]
  | cons x cells ih =>
    rw [List.append_cons]
    exact ih (h.step hside hbeats x)

theorem isUnbeaten_best (hside : side = .lt ∨ side = .gt) (hbeats : ∀ o, beats o ↔ o = side)
    (hcells : cells ≠ []) : IsUnbeaten side cells (best beats cells) := by
  obtain ⟨c, rest, rfl⟩ := List.exists_cons_of_ne_nil hcells
  have hfirst : IsUnbeaten side [c] c :=
    ⟨List.mem_cons_self, List.forall_mem_singleton.mpr (looseCompare_self_ne hside c)⟩
  exact hfirst.foldl hside hbeats rest

private theorem IsUnbeaten.perm (hperm : cells.Perm cells') (h : IsUnbeaten side cells c) :
    IsUnbeaten side cells' c :=
  ⟨hperm.mem_iff.mp h.1, fun d hd => h.2 d (hperm.mem_iff.mpr hd)⟩

/-- The extreme has the same key in any order. -/
theorem HasOneExtreme.key_best (hside : side = .lt ∨ side = .gt)
    (hbeats : ∀ o, beats o ↔ o = side) (h : HasOneExtreme side cells)
    (hperm : cells.Perm cells') : (best beats cells).key = (best beats cells').key := by
  by_cases hcells : cells = []
  · subst hcells
    obtain rfl := hperm.nil_eq
    rfl
  · have hcells' : cells' ≠ [] := fun hnil => hcells (hperm.trans (hnil ▸ .refl _)).eq_nil
    exact h _ _ (isUnbeaten_best hside hbeats hcells)
      ((isUnbeaten_best hside hbeats hcells').perm hperm.symm)

private theorem distinctCount_perm (hperm : cells.Perm cells') :
    distinctCount cells = distinctCount cells' := by
  refine length_eq_eraseDups (eraseDups_sublist_and_nodup _).2 fun k => ?_
  rw [List.mem_eraseDups]
  exact (hperm.map Cell.key).mem_iff

/-- The outcome for the cells of a group in any order has the same key. -/
theorem IgnoresOrder.key_apply {a : Aggregator} (h : a.IgnoresOrder cells)
    (hperm : cells.Perm cells') : (a.apply cells).key = (a.apply cells').key := by
  have hpresent := hperm.filter fun c => !c.isMissing
  cases a with
  | count => rw [apply, apply, hpresent.length_eq]
  | distinct => rw [apply, apply, distinctCount_perm hpresent]
  | min => exact HasOneExtreme.key_best (.inl rfl) (by decide) h hpresent
  | max => exact HasOneExtreme.key_best (.inr rfl) (by decide) h hpresent
  | sum | mean | median | std | var => exact h.elim

private theorem eq_of_ne_side {o : Ordering} (hside : side = .lt ∨ side = .gt) (h : o ≠ side)
    (h' : o.swap ≠ side) : o = .eq := by
  obtain rfl | rfl := hside <;> cases o <;> simp_all

/-- Cells of one kind, of which only cells with one key are equal after rounding. -/
def AreAlike (cells : List Cell) : Prop :=
  ∀ c ∈ cells, ∀ d ∈ cells, c.key.rank = d.key.rank ∧ (c.looseEq d → c.key = d.key)

instance (cells : List Cell) : Decidable (AreAlike cells) :=
  inferInstanceAs (Decidable (∀ c ∈ cells, ∀ d ∈ cells, _ ∧ (_ → _)))

private theorem AreAlike.hasOneExtreme (h : AreAlike cells)
    (hpresent : ∀ c ∈ cells, c.isMissing = false)
    (hside : side = .lt ∨ side = .gt) : HasOneExtreme side cells := by
  intro c d ⟨hc, hcbest⟩ ⟨hd, hdbest⟩
  obtain ⟨hrank, hrounding⟩ := h c hc d hd
  have hcd := Cell.looseCompare_eq (hpresent c hc) (hpresent d hd)
  have hdc := Cell.looseCompare_eq (hpresent d hd) (hpresent c hc)
  have hswap : Key.compare d.rounded.key c.rounded.key =
      (Key.compare c.rounded.key d.rounded.key).swap := Std.OrientedCmp.eq_swap
  rw [if_pos hrank] at hcd
  rw [if_pos hrank.symm, hswap] at hdc
  have heq : Key.compare c.rounded.key d.rounded.key = .eq :=
    eq_of_ne_side hside (fun h => hdbest c hc (hcd.trans (congrArg some h)))
      fun h => hcbest d hd (hdc.trans (congrArg some h))
  have hkeys := Cell.comparesAs_rounded (hpresent c hc) (hpresent d hd)
  exact hrounding (hkeys.looseEq.mpr (Std.LawfulEqCmp.eq_of_compare heq))

/-- Counts ignore the order of all cells, and extremes that of cells that are alike. -/
theorem ignoresOrder {a : Aggregator} (h : a = count ∨ a = distinct ∨
    (a = min ∨ a = max) ∧ AreAlike (cells.filter fun c => !c.isMissing)) :
    a.IgnoresOrder cells := by
  have hpresent : ∀ c ∈ cells.filter fun c => !c.isMissing, c.isMissing = false := by simp
  obtain rfl | rfl | ⟨rfl | rfl, halike⟩ := h
  · trivial
  · trivial
  · exact halike.hasOneExtreme hpresent (.inl rfl)
  · exact halike.hasOneExtreme hpresent (.inr rfl)

end Aggregator
end RollCall
