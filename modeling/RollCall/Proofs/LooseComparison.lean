import RollCall.Proofs.NumericKeys

/-!
# Loose comparison and keys

Filters compare integers after rounding them to doubles, while keys keep every integer. So loose
equality and order are those of the keys of the rounded cells. They differ from those of the keys
only where two numbers fall together by being rounded.
-/
namespace RollCall

open Binary64

namespace Cell

variable {a b c : Cell} {v w v' w' : Extended}

def rounded : Cell → Cell
  | .int n => .float (ofInt n.toInt)
  | c => c

/-- Rounding does not change the number that the cell stands for. -/
def IsExact (c : Cell) : Prop :=
  c.rounded.value? = c.value?

private theorem rank_ofInt {n : Int64} (h : Binary64.value? (ofInt n.toInt) = some v) :
    (roundedRank n.toInt).natAbs ≤ infinityPattern ∧ extended (roundedRank n.toInt) = v := by
  have hrank := value?_eq_some.mp h
  rwa [numberRank_ofInt (natAbs_toInt_lt n)] at hrank

/-- Rounding never puts two numbers the other way round. -/
theorem le_of_rounded (ha : a.value? = some v) (hb : b.value? = some w)
    (ha' : a.rounded.value? = some v') (hb' : b.rounded.value? = some w') (h : v ≤ w) :
    v' ≤ w' := by
  cases a with
  | int n =>
    obtain ⟨hn, rfl⟩ := rank_ofInt ha'
    obtain rfl := Option.some.inj ha
    cases b with
    | int m =>
      obtain ⟨hm, rfl⟩ := rank_ofInt hb'
      obtain rfl := Option.some.inj hb
      rw [ofRat_strictMono.le_iff_le, Int.cast_le] at h
      exact (extended_le hn hm).mpr (roundedRank_mono (natAbs_toInt_lt n) (natAbs_toInt_lt m) h)
    | float y =>
      obtain ⟨hy, rfl⟩ := value?_eq_some.mp hb'
      obtain rfl := Option.some.inj (hb'.symm.trans hb)
      rw [ofRat_le_extended (natAbs_toInt_lt n)] at h
      exact (extended_le hn hy).mpr (roundedRank_le h)
    | _ => cases hb
  | float x =>
    obtain ⟨hx, rfl⟩ := value?_eq_some.mp ha'
    obtain rfl := Option.some.inj (ha'.symm.trans ha)
    cases b with
    | int m =>
      obtain ⟨hm, rfl⟩ := rank_ofInt hb'
      obtain rfl := Option.some.inj hb
      rw [extended_le_ofRat (natAbs_toInt_lt m)] at h
      exact (extended_le hx hm).mpr (le_roundedRank h)
    | float y => exact Option.some.inj (hb'.symm.trans hb) ▸ h
    | _ => cases hb
  | _ => cases ha

/-- A rounded number is a double that is not missing. -/
theorem exists_toFloat? (h : c.rounded.value? = some v) :
    ∃ x, c.toFloat? = some x ∧ Binary64.value? x = some v ∧ c.isMissing = false := by
  cases c with
  | int n => exact ⟨_, rfl, h, rfl⟩
  | float x =>
    have hvalue : Binary64.value? x = some v := h
    refine ⟨x, rfl, h, ?_⟩
    rw [isMissing, ← Bool.not_eq_true, isNaN_iff, hvalue]
    exact Option.some_ne_none v
  | _ => cases h

theorem looseEq_of_value (ha : a.rounded.value? = some v) (hb : b.rounded.value? = some w) :
    a.looseEq b = true ↔ v = w := by
  obtain ⟨x, hx, hxvalue, hamissing⟩ := exists_toFloat? ha
  obtain ⟨y, hy, hyvalue, hbmissing⟩ := exists_toFloat? hb
  rw [looseEq, hamissing, hbmissing, hx, hy]
  exact beq_iff hxvalue hyvalue

theorem looseCompare_of_value (ha : a.rounded.value? = some v) (hb : b.rounded.value? = some w) :
    a.looseCompare b = some (cmp v w) := by
  obtain ⟨x, hx, hxvalue, hamissing⟩ := exists_toFloat? ha
  obtain ⟨y, hy, hyvalue, hbmissing⟩ := exists_toFloat? hb
  have hcompare : a.looseCompare b = compare? x y := by
    rw [looseCompare.eq_def, hamissing, hbmissing]
    cases a <;> cases hx <;> cases b <;> cases hy <;>
      simp only [Bool.or_self, Bool.false_eq_true, if_false, toFloat?]
  rw [hcompare, compare?_eq hxvalue hyvalue]

/-- A cell that is not missing stands for a number, or is no number and not rounded. -/
theorem exists_value?_or (h : c.isMissing = false) :
    (∃ v v', c.value? = some v ∧ c.rounded.value? = some v') ∨
      (c.toFloat? = none ∧ c.rounded = c) := by
  cases c with
  | int n =>
    have hbound := natAbs_roundedRank_lt (natAbs_toInt_lt n)
    refine .inl ⟨_, _, rfl, value?_eq_some.mpr ⟨?_, rfl⟩⟩
    rw [numberRank_ofInt (natAbs_toInt_lt n)]
    exact hbound.le
  | float x =>
    have hsome : Binary64.value? x ≠ none := by
      rw [Ne, ← isNaN_iff]
      exact ne_true_of_eq_false h
    obtain ⟨v, hv⟩ := Option.ne_none_iff_exists'.mp hsome
    exact .inl ⟨v, v, hv, hv⟩
  | null => cases h
  | _ => exact .inr ⟨rfl, rfl⟩

theorem keyOfFloat_ne (x : Float) :
    (∀ b, keyOfFloat x ≠ .bool b) ∧ ∀ s, keyOfFloat x ≠ .text s := by
  unfold keyOfFloat
  split
  · simp
  · split <;> simp

/-- Loose comparison of two cells is the comparison of two keys, as far as it goes. -/
structure ComparesAs (a b : Cell) (k l : Key) : Prop where
  looseEq : a.looseEq b = true ↔ k = l
  looseCompare : ∀ order, a.looseCompare b = some order → Key.compare k l = order

theorem comparesAs_of_none (ha : a.isMissing = false) (hb : b.isMissing = false)
    (h : a.toFloat? = none ∨ b.toFloat? = none) : a.ComparesAs b a.key b.key := by
  suffices hboth : (a.looseEq b = true ↔ a.key = b.key) ∧
      ∀ order, a.looseCompare b = some order → Key.compare a.key b.key = order from
    ⟨hboth.1, hboth.2⟩
  rw [looseEq, looseCompare.eq_def, ha, hb]
  cases a <;> cases b
  case text.text s t =>
    exact ⟨by simp [agrees, key, toFloat?], fun o ho => Option.some.inj ho⟩
  case bool.bool p q =>
    exact ⟨by simp [agrees, key, toFloat?], fun o ho => Option.some.inj ho⟩
  case bool.float p x => simp [agrees, key, toFloat?, ((keyOfFloat_ne x).1 p).symm]
  case float.bool x p => simp [agrees, key, toFloat?, (keyOfFloat_ne x).1 p]
  case text.float s x => simp [agrees, key, toFloat?, ((keyOfFloat_ne x).2 s).symm]
  case float.text x s => simp [agrees, key, toFloat?, (keyOfFloat_ne x).2 s]
  all_goals simp_all [agrees, key, toFloat?, isMissing]

theorem comparesAs_of_exact (ha : a.isMissing = false) (hb : b.isMissing = false)
    (haexact : a.IsExact) (hbexact : b.IsExact) : a.ComparesAs b a.key b.key := by
  rcases exists_value?_or ha with ⟨v, v', hv, -⟩ | ⟨hnone, -⟩
  · rcases exists_value?_or hb with ⟨w, w', hw, -⟩ | ⟨hnone, -⟩
    · have hv' : a.rounded.value? = some v := haexact.trans hv
      have hw' : b.rounded.value? = some w := hbexact.trans hw
      constructor
      · rw [looseEq_of_value hv' hw', key_eq_iff_of_value hv hw]
      · intro order horder
        rw [looseCompare_of_value hv' hw'] at horder
        rw [compare_key_of_value hv hw]
        exact Option.some.inj horder
    · exact comparesAs_of_none ha hb (.inr hnone)
  · exact comparesAs_of_none ha hb (.inl hnone)

theorem isMissing_rounded (c : Cell) : c.rounded.isMissing = c.isMissing := by
  cases c with
  | int n =>
    obtain ⟨v, v', -, hv'⟩ | ⟨hnone, -⟩ := exists_value?_or (c := .int n) rfl
    · obtain ⟨x, hx, hvalue, -⟩ := exists_toFloat? hv'
      obtain rfl := Option.some.inj hx
      change (ofInt n.toInt).isNaN = false
      rw [← Bool.not_eq_true, isNaN_iff, hvalue]
      exact Option.some_ne_none v'
    · cases hnone
  | _ => rfl

private theorem toFloat?_rounded (c : Cell) : c.rounded.toFloat? = c.toFloat? := by
  cases c <;> rfl

/-- Loose comparison is blind to rounding. -/
theorem looseEq_rounded (a b : Cell) : a.rounded.looseEq b.rounded = a.looseEq b := by
  rw [looseEq, looseEq, isMissing_rounded, isMissing_rounded, toFloat?_rounded, toFloat?_rounded]
  cases a <;> cases b <;> rfl

private theorem looseCompare_rounded (a b : Cell) :
    a.rounded.looseCompare b.rounded = a.looseCompare b := by
  rw [looseCompare.eq_def, looseCompare.eq_def, isMissing_rounded, isMissing_rounded]
  cases a <;> cases b <;> rfl

private theorem isExact_rounded (c : Cell) : c.rounded.IsExact := by
  cases c <;> rfl

theorem comparesAs_rounded (ha : a.isMissing = false) (hb : b.isMissing = false) :
    a.ComparesAs b a.rounded.key b.rounded.key := by
  have hrounded : a.rounded.ComparesAs b.rounded a.rounded.key b.rounded.key :=
    comparesAs_of_exact ((isMissing_rounded a).trans ha) ((isMissing_rounded b).trans hb)
      (isExact_rounded a) (isExact_rounded b)
  constructor
  · rw [← looseEq_rounded]
    exact hrounded.looseEq
  · rw [← looseCompare_rounded]
    exact hrounded.looseCompare

/-- Cells with one key are loosely equal, and the keys of cells in strict loose order are in that
order. -/
theorem loose_of_key (ha : a.isMissing = false) (hb : b.isMissing = false) :
    (a.key = b.key → a.looseEq b = true) ∧
      ∀ order ≠ .eq, a.looseCompare b = some order → Key.compare a.key b.key = order := by
  rcases exists_value?_or ha with ⟨v, v', hv, hv'⟩ | ⟨hnone, -⟩
  · rcases exists_value?_or hb with ⟨w, w', hw, hw'⟩ | ⟨hnone, -⟩
    · rw [looseEq_of_value hv' hw', key_eq_iff_of_value hv hw, looseCompare_of_value hv' hw',
        compare_key_of_value hv hw]
      constructor
      · rintro rfl
        exact le_antisymm (le_of_rounded hv hw hv' hw' le_rfl) (le_of_rounded hw hv hw' hv' le_rfl)
      · rintro order hne horder
        obtain rfl := Option.some.inj horder
        cases hcmp : cmp v' w' with
        | lt =>
          rw [cmp_eq_lt_iff] at hcmp ⊢
          exact lt_of_not_ge fun hle => hcmp.not_ge (le_of_rounded hw hv hw' hv' hle)
        | eq => exact absurd hcmp hne
        | gt =>
          rw [cmp_eq_gt_iff] at hcmp ⊢
          exact lt_of_not_ge fun hle => hcmp.not_ge (le_of_rounded hv hw hv' hw' hle)
    · have hkeys := comparesAs_of_none ha hb (.inr hnone)
      exact ⟨hkeys.looseEq.mpr, fun order _ => hkeys.looseCompare order⟩
  · have hkeys := comparesAs_of_none ha hb (.inl hnone)
    exact ⟨hkeys.looseEq.mpr, fun order _ => hkeys.looseCompare order⟩

/-- Loose comparison is the comparison of the keys of the rounded cells. Cells with one key are
loosely equal, and cells in strict loose order have keys in that order. So loose comparison differs
from that of the keys only where two numbers are equal after they are rounded, and not at all for
numbers that rounding does not change. -/
theorem loose_comparison (a b : Cell) (ha : a.isMissing = false) (hb : b.isMissing = false) :
    a.ComparesAs b a.rounded.key b.rounded.key ∧
      (a.key = b.key → a.looseEq b = true) ∧
      (∀ order ≠ .eq, a.looseCompare b = some order → Key.compare a.key b.key = order) ∧
      (a.IsExact → b.IsExact → a.ComparesAs b a.key b.key) :=
  ⟨comparesAs_rounded ha hb, (loose_of_key ha hb).1, (loose_of_key ha hb).2,
    comparesAs_of_exact ha hb⟩

/-- Above `2^53` two integers may be loosely equal although their keys differ. -/
theorem loose_comparison_rounds :
    Cell.looseEq (.int 9007199254740993) (.int 9007199254740992) = true ∧
      Cell.looseCompare (.int 9007199254740993) (.int 9007199254740992) = some .eq ∧
      Cell.key (.int 9007199254740993) ≠ Cell.key (.int 9007199254740992) ∧
      Key.compare (Cell.key (.int 9007199254740993)) (Cell.key (.int 9007199254740992)) = .gt := by
  decide

theorem loose_comparison_sample :
    Cell.key (.int 9007199254740992) = Cell.key (.float 9007199254740992) ∧
      Key.compare (Cell.key (.int 9007199254740993)) (Cell.key (.float 0.5)) = .gt := by
  have hexact : IsExact (.int 9007199254740992) := integer?_eq_some.mp (by decide)
  obtain ⟨-, -, -, hkeys⟩ := loose_comparison (.int 9007199254740992) (.float 9007199254740992)
    rfl (by decide)
  obtain ⟨-, -, hstrict, -⟩ := loose_comparison (.int 9007199254740993) (.float 0.5) rfl (by decide)
  exact ⟨(hkeys hexact rfl).looseEq.mp (by decide), hstrict .gt (by decide) (by decide)⟩

end Cell
end RollCall
