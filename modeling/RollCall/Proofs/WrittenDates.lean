import Mathlib.Data.List.Lex
import Mathlib.Data.String.Basic
import RollCall.Calendar.Reading
import RollCall.Proofs.DecimalTexts

/-!
# Written dates

A date is read back from its text, in whatever year it lies: the reader takes four digits, or a sign
and any number of them, and years are written so. From the year 0 to the year 9999 every part of a
text has its fixed width, and texts are ordered as the dates are.
-/
namespace RollCall

variable {c : Char} {cs ds es rest : List Char}

/-! ### Digits of a fixed width -/

/-- Of two numbers in as many digits the smaller one has the smaller digits. The numbers `m` and `n`
are those of the digits before. -/
theorem lt_of_ofDigitChars_lt {m n : Nat} (hds : ∀ c ∈ ds, c.isDigit) (hes : ∀ c ∈ es, c.isDigit)
    (hlength : ds.length = es.length)
    (h : Nat.ofDigitChars 10 ds m < Nat.ofDigitChars 10 es n) : m < n ∨ m = n ∧ ds < es := by
  induction ds generalizing es m n with
  | nil =>
    rw [List.eq_nil_of_length_eq_zero hlength.symm] at h
    exact .inl h
  | cons d ds ih =>
    obtain ⟨e, es, rfl⟩ := List.exists_cons_of_length_eq_add_one hlength.symm
    obtain ⟨hd, hds'⟩ := List.forall_mem_cons.mp hds
    obtain ⟨he, hes'⟩ := List.forall_mem_cons.mp hes
    obtain ⟨i, hi, rfl⟩ := Text.exists_digit hd
    obtain ⟨j, hj, rfl⟩ := Text.exists_digit he
    have hvalue : '0'.toNat = 48 := rfl
    rw [Nat.ofDigitChars_cons, Nat.ofDigitChars_cons, Nat.toNat_digitChar_of_lt_ten hi,
      Nat.toNat_digitChar_of_lt_ten hj, hvalue] at h
    have hfirst := ih hds' hes' (Nat.succ.inj hlength) h
    rw [List.cons_lt_cons_iff]
    have hlt : Nat.digitChar i < Nat.digitChar j ↔ i < j := by
      change (Nat.digitChar i).toNat < (Nat.digitChar j).toNat ↔ i < j
      rw [Nat.toNat_digitChar_of_lt_ten hi, Nat.toNat_digitChar_of_lt_ten hj]
      omega
    rw [hlt]
    rcases hfirst with hfirst | ⟨hfirst, hrest⟩
    · omega
    · obtain ⟨rfl, rfl⟩ : m = n ∧ i = j := by omega
      exact .inr ⟨rfl, .inr ⟨rfl, hrest⟩⟩

namespace Date

variable {width m n : Nat}

theorem isDigit_of_mem_padded (h : c ∈ padded width n) : c.isDigit := by
  rcases List.mem_append.mp h with h | h
  · rw [List.eq_of_mem_replicate h]
    rfl
  · exact Nat.isDigit_of_mem_toDigits (by decide) (by decide) h

theorem natOfDigits_padded (width n : Nat) : Decimal.natOfDigits (padded width n) = n := by
  have hzeros : ∀ k, Nat.ofDigitChars 10 (Decimal.zeros k) 0 = 0 := by
    intro k
    induction k with
    | zero => rfl
    | succ k ih => exact ih
  calc Decimal.natOfDigits (padded width n)
      = Nat.ofDigitChars 10 (Decimal.digitChars n)
          (Nat.ofDigitChars 10 (Decimal.zeros (width - (Decimal.digitChars n).length)) 0) :=
        List.foldl_append
    _ = n := by rw [hzeros]; exact Nat.ofDigitChars_toDigits (by decide) (by decide)

theorem padded_ne_nil (width n : Nat) : padded width n ≠ [] :=
  List.append_ne_nil_of_right_ne_nil _ Nat.toDigits_ne_nil

theorem length_padded (hwidth : 0 < width) (hn : n < 10 ^ width) :
    (padded width n).length = width := by
  have hlength : (Decimal.digitChars n).length ≤ width :=
    (Nat.length_toDigits_le_iff (by decide) hwidth).mpr hn
  rw [padded, List.length_append, Decimal.zeros, List.length_replicate]
  omega

private theorem padded_lt_padded (hwidth : 0 < width) (hn : n < 10 ^ width) (h : m < n) :
    padded width m < padded width n := by
  have hlength : (padded width m).length = (padded width n).length := by
    rw [length_padded hwidth hn, length_padded hwidth (h.trans hn)]
  rw [← natOfDigits_padded width m, ← natOfDigits_padded width n] at h
  have hlt := lt_of_ofDigitChars_lt (fun _ => isDigit_of_mem_padded)
    (fun _ => isDigit_of_mem_padded) hlength h
  exact (hlt.resolve_left (Nat.lt_irrefl 0)).2

private theorem append_lt_append (hlength : ds.length = es.length) (h : ds < es)
    (xs ys : List Char) :
    ds ++ xs < es ++ ys := by
  induction ds generalizing es with
  | nil =>
    rw [List.eq_nil_of_length_eq_zero hlength.symm] at h
    exact absurd h (List.lt_irrefl [])
  | cons d ds ih =>
    obtain ⟨e, es, rfl⟩ := List.exists_cons_of_length_eq_add_one hlength.symm
    rw [List.cons_append, List.cons_append, List.cons_lt_cons_iff]
    rcases List.cons_lt_cons_iff.mp h with hfirst | ⟨rfl, hrest⟩
    · exact .inl hfirst
    · exact .inr ⟨rfl, ih (Nat.succ.inj hlength) hrest⟩

/-- Texts that start with numbers of one width are ordered by these first. -/
theorem padded_append_le (hwidth : 0 < width) (hn : n < 10 ^ width) {xs ys : List Char}
    (h : m < n ∨ m = n ∧ xs ≤ ys) : padded width m ++ xs ≤ padded width n ++ ys := by
  rcases h with h | ⟨rfl, h⟩
  · have hlength : (padded width m).length = (padded width n).length := by
      rw [length_padded hwidth hn, length_padded hwidth (h.trans hn)]
    exact (append_lt_append hlength (padded_lt_padded hwidth hn h) xs ys).le
  · rcases h.lt_or_eq with h | rfl
    · exact (List.append_left_lt h).le
    · exact le_rfl

end Date

/-! ### Reading a text back -/

theorem Text.isBlank_of_isDigit (h : c.isDigit) : isBlank c = false := by
  obtain ⟨d, hd, rfl⟩ := exists_digit h
  have : d = 0 ∨ d = 1 ∨ d = 2 ∨ d = 3 ∨ d = 4 ∨ d = 5 ∨ d = 6 ∨ d = 7 ∨ d = 8 ∨ d = 9 := by omega
  rcases this with rfl | rfl | rfl | rfl | rfl | rfl | rfl | rfl | rfl | rfl <;> rfl

namespace Calendar

/-- Digits are read up to a hyphen, the end or the most that may be. -/
theorem number?_digits {most : Nat} (hne : ds ≠ []) (hds : ∀ c ∈ ds, c.isDigit)
    (hlength : ds.length ≤ most)
    (hrest : ds.length = most ∨ rest = [] ∨ ∃ cs, rest = '-' :: cs) :
    number? most (ds ++ rest) = some (Decimal.natOfDigits ds, rest) := by
  have htail : (rest.take (most - ds.length)).takeWhile Char.isDigit = [] := by
    rcases hrest with hrest | rfl | ⟨cs, rfl⟩
    · rw [hrest, Nat.sub_self, List.take_zero, List.takeWhile_nil]
    · rw [List.take_nil, List.takeWhile_nil]
    · cases most - ds.length <;> rfl
  have htake : ((ds ++ rest).take most).takeWhile Char.isDigit = ds := by
    rw [List.take_append, List.take_of_length_le hlength, List.takeWhile_append_of_pos hds, htail,
      List.append_nil]
  rw [number?, htake]
  cases ds with
  | nil => exact absurd rfl hne
  | cons d ds => exact congrArg (fun rest => some (_, rest)) List.drop_left

theorem number?_padded {width n : Nat} (hwidth : 0 < width) (hn : n < 10 ^ width)
    (rest : List Char) : number? width (Date.padded width n ++ rest) = some (n, rest) := by
  have hlength := Date.length_padded hwidth hn
  rw [number?_digits (Date.padded_ne_nil width n) (fun _ => Date.isDigit_of_mem_padded)
    hlength.le (.inl hlength), Date.natOfDigits_padded]

theorem trimStartChars_of_not_blank (h : Text.isBlank c = false) :
    Text.trimStartChars (c :: cs) = c :: cs :=
  List.dropWhile_cons_of_neg (by simp [h])

theorem exists_cons_padded (width n : Nat) :
    ∃ c cs, Date.padded width n = c :: cs ∧ c.isDigit := by
  obtain ⟨c, cs, h⟩ := List.exists_cons_of_ne_nil (Date.padded_ne_nil width n)
  exact ⟨c, cs, h, Date.isDigit_of_mem_padded (h ▸ List.mem_cons_self)⟩

private theorem part?_padded {n : Nat} (hn : n < 100) (rest : List Char) :
    part? (Date.padded 2 n ++ rest) = some (n, rest) := by
  obtain ⟨c, cs, hcons, hc⟩ := exists_cons_padded 2 n
  have htrim : Text.trimStartChars (Date.padded 2 n ++ rest) = Date.padded 2 n ++ rest := by
    rw [hcons]
    exact trimStartChars_of_not_blank (Text.isBlank_of_isDigit hc)
  rw [part?, htrim, number?_padded (by decide) hn]

private theorem year?_yearText (year : Int) (cs : List Char) :
    year? (Date.yearText year ++ '-' :: cs) = some (year, '-' :: cs) := by
  have hsigned : ∀ n : Nat, number? (Date.padded 4 n ++ '-' :: cs).length
      (Date.padded 4 n ++ '-' :: cs) = some (n, '-' :: cs) := by
    intro n
    rw [number?_digits (Date.padded_ne_nil 4 n) (fun _ => Date.isDigit_of_mem_padded)
      (by rw [List.length_append]; omega) (.inr (.inr ⟨cs, rfl⟩)), Date.natOfDigits_padded]
  rw [Date.yearText]
  split
  · next hrange =>
    obtain ⟨d, ds, hcons, hd⟩ := exists_cons_padded 4 year.toNat
    have hminus : d ≠ '-' := by rintro rfl; cases hd
    have hplus : d ≠ '+' := by rintro rfl; cases hd
    have hread := @number?_padded 4 year.toNat (by decide) (by omega) ('-' :: cs)
    rw [hcons] at hread ⊢
    rw [List.cons_append, year?, trimStartChars_of_not_blank (Text.isBlank_of_isDigit hd)]
    split
    · next heq => exact absurd (List.cons.inj heq).1 hminus
    · next heq => exact absurd (List.cons.inj heq).1 hplus
    · rw [List.cons_append] at hread
      rw [hread]
      simp only [Option.map_some, Option.some.injEq, Prod.mk.injEq, and_true]
      omega
  · next hrange =>
    split
    · next hneg =>
      rw [List.cons_append, year?, trimStartChars_of_not_blank (by rfl)]
      simp only [hsigned, Option.map_some, Option.some.injEq, Prod.mk.injEq, and_true]
      omega
    · next hpos =>
      rw [List.cons_append, year?, trimStartChars_of_not_blank (by rfl)]
      simp only [hsigned, Option.map_some, Option.some.injEq, Prod.mk.injEq, and_true]
      omega

end Calendar

namespace Date

variable {d e : Date}

theorem text_chars (d : Date) :
    d.text.toList = yearText d.year ++ '-' :: padded 2 d.month ++ '-' :: padded 2 d.day := by
  rw [text, String.toList_ofList]

theorem daysIn_lt (year : Int) (month : Nat) : Calendar.daysIn year month < 100 := by
  unfold Calendar.daysIn
  split
  · split <;> omega
  · split <;> omega

private theorem of?_self (d : Date) : of? d.year d.month d.day = some d := by
  rw [of?, dif_pos d.year_mem, dif_pos d.month_mem, dif_pos d.day_mem]

/-- A text of a date holds digits and signs only. -/
theorem mem_text (h : c ∈ d.text.toList) : c.isDigit ∨ c = '-' ∨ c = '+' := by
  have hyear : ∀ c ∈ yearText d.year, c.isDigit ∨ c = '-' ∨ c = '+' := by
    intro c hc
    rw [yearText] at hc
    split at hc
    · exact .inl (isDigit_of_mem_padded hc)
    · rcases List.mem_cons.mp hc with rfl | hc
      · split
        · exact .inr (.inl rfl)
        · exact .inr (.inr rfl)
      · exact .inl (isDigit_of_mem_padded hc)
  simp only [text_chars, List.mem_append, List.mem_cons] at h
  rcases h with (h | rfl | h) | rfl | h
  · exact hyear c h
  · exact .inr (.inl rfl)
  · exact .inl (isDigit_of_mem_padded h)
  · exact .inr (.inl rfl)
  · exact .inl (isDigit_of_mem_padded h)

/-- A date is read back from its text. -/
theorem read?_text (d : Date) : read? d.text = some d := by
  have hmonth : d.month < 100 := by have := d.month_mem; omega
  have hday : d.day < 100 := by have := d.day_mem; have := daysIn_lt d.year d.month; omega
  have hblank : ∀ c ∈ d.text.toList, Text.isBlank c = false := by
    intro c hc
    rcases mem_text hc with hc | rfl | rfl
    · exact Text.isBlank_of_isDigit hc
    · rfl
    · rfl
  have hplain : Calendar.plain? d.text.toList = some d := by
    have hlast := Calendar.part?_padded hday []
    rw [List.append_nil] at hlast
    rw [text_chars, Calendar.plain?, Calendar.dateOf?, List.append_assoc, List.cons_append,
      Calendar.year?_yearText]
    simp [Calendar.mark?, Calendar.part?_padded hmonth, hlast, of?_self]
  rw [read?, Text.trimChars_eq_self hblank, hplain]
  rfl

/-! ### The order of dates and of their texts -/

/-- A date is not after another one. -/
instance : LE Date where
  le d e := d.year < e.year ∨
    d.year = e.year ∧ (d.month < e.month ∨ d.month = e.month ∧ d.day ≤ e.day)

instance (d e : Date) : Decidable (d ≤ e) := inferInstanceAs (Decidable (_ ∨ _))

/-- The years that are written in four digits. -/
def HasFourDigits (d : Date) : Prop := 0 ≤ d.year ∧ d.year ≤ 9999

private theorem yearText_of_hasFourDigits (hd : d.HasFourDigits) :
    yearText d.year = padded 4 d.year.toNat :=
  if_pos hd

theorem text_le_text (hd : d.HasFourDigits) (he : e.HasFourDigits) (h : d ≤ e) :
    d.text ≤ e.text := by
  have hmonth : e.month < 100 := by have := e.month_mem; omega
  have hday : e.day < 100 := by have := e.day_mem; have := daysIn_lt e.year e.month; omega
  have hyear : e.year.toNat < 10 ^ 4 := by have := he.2; omega
  have hpart : ∀ d : Date, d.HasFourDigits → d.text.toList = padded 4 d.year.toNat ++
      '-' :: (padded 2 d.month ++ '-' :: (padded 2 d.day ++ [])) := by
    intro d hd
    rw [text_chars, yearText_of_hasFourDigits hd, List.append_assoc, List.cons_append,
      List.append_nil]
  rw [String.le_iff_toList_le, hpart d hd, hpart e he]
  refine padded_append_le (by decide) hyear ?_
  have := hd.1
  have := he.1
  rcases h with h | ⟨hsame, h⟩
  · exact .inl (by omega)
  refine .inr ⟨by rw [hsame], List.cons_le_cons _ (padded_append_le (by decide) hmonth ?_)⟩
  rcases h with h | ⟨hsame, h⟩
  · exact .inl h
  refine .inr ⟨hsame, List.cons_le_cons _ (padded_append_le (by decide) hday ?_)⟩
  rcases Nat.lt_or_eq_of_le h with h | h
  · exact .inl h
  · exact .inr ⟨h, le_rfl⟩

/-! ### Starts of periods -/

theorem startOf_le_startOf (f : Frequency) (h : d ≤ e) : d.startOf f ≤ e.startOf f := by
  rcases h with h | ⟨hyear, h⟩
  · exact .inl h
  · refine .inr ⟨hyear, ?_⟩
    have hmonth : f.firstMonth d.month ≤ f.firstMonth e.month := by
      cases f <;> simp only [Frequency.firstMonth] <;> omega
    rcases Nat.lt_or_eq_of_le hmonth with hmonth | hmonth
    · exact .inl hmonth
    · exact .inr ⟨hmonth, le_rfl⟩

end Date

def Frequency.coarseness : Frequency → Nat
  | month => 0
  | quarter => 1
  | year => 2

instance : LE Frequency where
  le f g := f.coarseness ≤ g.coarseness

instance (f g : Frequency) : Decidable (f ≤ g) := inferInstanceAs (Decidable (_ ≤ _))

/-- A coarser period starts with the first of the finer ones in it. -/
theorem Date.startOf_startOf (d : Date) {f g : Frequency} (h : f ≤ g) :
    (d.startOf f).startOf g = d.startOf g := by
  have hmonth : g.firstMonth (f.firstMonth d.month) = g.firstMonth d.month := by
    change f.coarseness ≤ g.coarseness at h
    cases f <;> cases g <;> simp only [Frequency.firstMonth, Frequency.coarseness] at h ⊢ <;> omega
  simp only [startOf, hmonth]

end RollCall
