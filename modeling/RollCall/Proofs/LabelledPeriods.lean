import RollCall.Operation.Execution
import RollCall.Proofs.PlacedColumns
import RollCall.Proofs.WrittenDates

/-!
# Labelled periods

A label is the first day of a period, so it is a date that is labelled in turn. Labels of one
frequency are labelled by a coarser one as the dates are, and from the year 0 to the year 9999 they
are ordered as the dates are.
-/
namespace RollCall

namespace Transform

variable {column : String} {f g : Frequency} {c label : Cell} {cells labels : List Cell}

theorem periodLabel_of_missing (h : c.isMissing) : periodLabel column f c = .ok .null :=
  if_pos h

theorem periodLabel_of_read {s : String} {d : Date} (h : Date.read? s = some d) :
    periodLabel column f (.text s) = .ok (.text (d.startOf f).text) := by
  rw [periodLabel, if_neg (by simp [Cell.isMissing])]
  simp only [Cell.toText?, h]

/-- A cell with a label is missing or a date. -/
theorem cases_of_periodLabel (h : periodLabel column f c = .ok label) :
    c.isMissing ∧ label = .null ∨
      ∃ s d, c = .text s ∧ Date.read? s = some d ∧ label = .text (d.startOf f).text := by
  cases hmissing : c.isMissing with
  | true =>
    rw [periodLabel_of_missing hmissing] at h
    exact .inl ⟨rfl, (Except.ok.inj h).symm⟩
  | false =>
    rw [periodLabel, hmissing] at h
    cases c with
    | text s =>
      cases hread : Date.read? s with
      | some d =>
        simp only [Cell.toText?, hread] at h
        exact .inr ⟨s, d, rfl, hread, (Except.ok.inj h).symm⟩
      | none =>
        simp only [Cell.toText?, hread] at h
        cases h
    | _ => cases h

/-- A label is labelled by a coarser frequency as the cell it stands for. -/
theorem periodLabel_label (hfg : f ≤ g) (h : periodLabel column f c = .ok label) :
    ∃ coarse, periodLabel column g c = .ok coarse ∧
      ∀ other, periodLabel other g label = .ok coarse := by
  rcases cases_of_periodLabel h with ⟨hmissing, rfl⟩ | ⟨s, d, rfl, hread, rfl⟩
  · exact ⟨.null, periodLabel_of_missing hmissing, fun _ => periodLabel_of_missing rfl⟩
  · refine ⟨_, periodLabel_of_read hread, fun _ => ?_⟩
    rw [periodLabel_of_read (Date.read?_text _), Date.startOf_startOf d hfg]

theorem periodLabels_labels (hfg : f ≤ g) (h : periodLabels column f cells = .ok labels) :
    ∃ coarse, periodLabels column g cells = .ok coarse ∧
      ∀ other, periodLabels other g labels = .ok coarse := by
  simp only [periodLabels, Outcome.mapM_eq_ok] at h ⊢
  induction h with
  | nil => exact ⟨[], .nil, fun _ => .nil⟩
  | cons hcell _ ih =>
    obtain ⟨coarse, hcoarse, hlabel⟩ := periodLabel_label hfg hcell
    obtain ⟨rest, hrest, hlabels⟩ := ih
    exact ⟨coarse :: rest, .cons hcoarse hrest, fun other => .cons (hlabel other) (hlabels other)⟩

private theorem periodLabels_self (h : periodLabels column f cells = .ok labels) (other : String) :
    periodLabels other f labels = .ok labels := by
  obtain ⟨coarse, hcoarse, hlabels⟩ := periodLabels_labels (g := f) (Nat.le_refl _) h
  rw [hlabels, ← h, hcoarse]

end Transform

namespace Operation

open Transform

variable {c : Context} {t u : Table} {p : PeriodParameters} {labels : List Cell}

/-- The operation labels the rows of its input with the given cells. -/
def Labels (c : Context) (p : PeriodParameters) (labels : List Cell) : Prop :=
  ∃ u column, runPeriod c p = .ok u ∧ u.column? p.output = some column ∧ column.cells = labels

theorem runPeriod_eq_ok_iff (hinput : c.input = .ok t) :
    runPeriod c p = .ok u ↔ ∃ dates labels, t.column? p.dateColumn = some dates ∧
      periodLabels p.dateColumn p.frequency dates.cells = .ok labels ∧
        t.withColumn ⟨p.output, .categorical, labels⟩ = .ok u := by
  simp only [runPeriod, hinput, Outcome.bind_eq_ok, Except.ok.injEq, exists_eq_left']
  cases t.column? p.dateColumn with
  | none => simp
  | some dates => simp [place]

private theorem labels_iff (hinput : c.input = .ok t) :
    Labels c p labels ↔ ∃ dates, t.column? p.dateColumn = some dates ∧
      periodLabels p.dateColumn p.frequency dates.cells = .ok labels ∧
        labels.length = t.rowCount := by
  simp only [Labels, runPeriod_eq_ok_iff hinput]
  constructor
  · rintro ⟨u, column, ⟨dates, labels', hdates, hlabels, hu⟩, hcolumn, rfl⟩
    rw [Table.column?_withColumn hu, if_pos rfl, Option.some.injEq] at hcolumn
    subst hcolumn
    exact ⟨dates, hdates, hlabels, Table.length_of_withColumn (Table.mem_of_column? hdates) hu⟩
  · rintro ⟨dates, hdates, hlabels, hlength⟩
    have hu : t.withColumn ⟨p.output, .categorical, labels⟩ = .ok _ :=
      Table.withColumn_eq_ok_iff.mpr ⟨.inl hlength, rfl⟩
    refine ⟨_, ⟨p.output, .categorical, labels⟩, ⟨dates, labels, hdates, hlabels, hu⟩, ?_, rfl⟩
    rw [Table.column?_withColumn hu, if_pos rfl]

/-- The labels stand in the output column, and no other column is touched. -/
theorem exists_of_runPeriod (hinput : c.input = .ok t) (h : runPeriod c p = .ok u) :
    ∃ dates labels, t.column? p.dateColumn = some dates ∧
      periodLabels p.dateColumn p.frequency dates.cells = .ok labels ∧
      u.rowCount = labels.length ∧ t.rowCount = labels.length ∧
      ∀ name, u.column? name =
        if name = p.output then some ⟨p.output, .categorical, labels⟩ else t.column? name := by
  obtain ⟨dates, labels, hdates, hlabels, hu⟩ := (runPeriod_eq_ok_iff hinput).mp h
  exact ⟨dates, labels, hdates, hlabels,
    congrArg Table.rowCount (Table.withColumn_eq_ok_iff.mp hu).2,
    (Table.length_of_withColumn (Table.mem_of_column? hdates) hu).symm,
    Table.column?_withColumn hu⟩

/-- Labels are labelled by a coarser frequency as the dates are, hence by their own as they are.
Missing dates stay missing, and labels of dates in four-digit years keep their order. -/
theorem periods_nest (hinput : c.input = .ok t) (h : runPeriod c p = .ok u) :
    ∃ dates labels, t.column? p.dateColumn = some dates ∧ u.column? p.output = some labels ∧
      (∀ output, Labels { c with inputs := [u] } ⟨p.output, p.frequency, output⟩ labels.cells) ∧
      (∀ g, p.frequency ≤ g → ∀ output, ∃ coarse,
        Labels { c with inputs := [u] } ⟨p.output, g, output⟩ coarse ∧
        Labels { c with inputs := [u] } ⟨p.dateColumn, g, output⟩ coarse ∧
        Labels c ⟨p.dateColumn, g, output⟩ coarse) ∧
      labels.length = dates.length ∧
      (∀ (i : Nat) (date label : Cell), dates.cells[i]? = some date →
        labels.cells[i]? = some label → (label = .null ↔ date.isMissing)) ∧
      ∀ (i j : Nat) (s s' : String) (d e : Date), dates.cells[i]? = some (.text s) →
        dates.cells[j]? = some (.text s') → Date.read? s = some d → Date.read? s' = some e →
        d.HasFourDigits → e.HasFourDigits → d ≤ e →
          ∃ a b : String, labels.cells[i]? = some (.text a) ∧ labels.cells[j]? = some (.text b) ∧
            a ≤ b := by
  obtain ⟨dates, labels, hdates, hcells, hrows, hrows', hcolumn⟩ := exists_of_runPeriod hinput h
  have hlength := Outcome.length_eq_of_mapM hcells
  have houtput : u.column? p.output = some ⟨p.output, .categorical, labels⟩ := by
    rw [hcolumn, if_pos rfl]
  have hagain : ∀ {g coarse} output, (∀ other, periodLabels other g labels = .ok coarse) →
      Labels { c with inputs := [u] } ⟨p.output, g, output⟩ coarse := by
    intro g coarse output hcoarse
    refine (labels_iff rfl).mpr ⟨_, houtput, hcoarse _, ?_⟩
    rw [hrows, Outcome.length_eq_of_mapM (hcoarse "")]
  have hlabel : ∀ {i : Nat} {date : Cell}, dates.cells[i]? = some date → ∃ label,
      labels[i]? = some label ∧ periodLabel p.dateColumn p.frequency date = .ok label :=
    Outcome.getElem?_of_mapM hcells
  refine ⟨dates, _, hdates, houtput, fun output => hagain output (periodLabels_self hcells),
    fun g hg output => ?_, hlength, ?_, ?_⟩
  · obtain ⟨coarse, hcoarse, hlabels⟩ := periodLabels_labels hg hcells
    have hlength' := Outcome.length_eq_of_mapM hcoarse
    refine ⟨coarse, hagain output hlabels, (labels_iff rfl).mpr ?_,
      (labels_iff hinput).mpr ⟨dates, hdates, hcoarse, ?_⟩⟩
    · -- The dates are still there, or the labels have taken their place.
      have hu := hcolumn p.dateColumn
      split at hu
      · exact ⟨_, hu, hlabels _, by rw [hrows, hlength, hlength']⟩
      · exact ⟨dates, hu.trans hdates, hcoarse, by rw [hrows, hlength, hlength']⟩
    · rw [hrows', hlength, hlength']
  · intro i date label hdate hi
    obtain ⟨label', hi', hdate'⟩ := hlabel hdate
    obtain rfl : label' = label := Option.some.inj (hi'.symm.trans hi)
    rcases cases_of_periodLabel hdate' with ⟨hmissing, rfl⟩ | ⟨s, d, rfl, -, rfl⟩
    · simp [hmissing]
    · simp [Cell.isMissing]
  · intro i j s s' d e hi hj hs hs' hd he hle
    obtain ⟨a, ha, hda⟩ := hlabel hi
    obtain ⟨b, hb, heb⟩ := hlabel hj
    rw [periodLabel_of_read hs] at hda
    rw [periodLabel_of_read hs'] at heb
    cases hda
    cases heb
    exact ⟨_, _, ha, hb, Date.text_le_text hd he (Date.startOf_le_startOf p.frequency hle)⟩

def sittings : Table :=
  ⟨[⟨"date", .text, [.text "2023-05-17", .text "+10000-11-02T14:30:00", .null,
    .text " 2023-04-30 09:00:00"]⟩], 4⟩

def quarters : List Cell :=
  [.text "2023-04-01", .text "+10000-10-01", .null, .text "2023-04-01"]

def sittingQuarters : Table :=
  ⟨sittings.columns ++ [⟨"_period", .categorical, quarters⟩], 4⟩

theorem periods_nest_sample :
    let c : Context := ⟨"bins", [sittings], {},
      { source := fun _ d => .error (.fetch ⟨d, .unreachable⟩) }⟩
    runPeriod c ⟨"date", .quarter, "_period"⟩ = .ok sittingQuarters ∧
    Labels { c with inputs := [sittingQuarters] } ⟨"_period", .quarter, "again"⟩ quarters ∧
    (∃ years, Labels { c with inputs := [sittingQuarters] } ⟨"_period", .year, "year"⟩ years ∧
      Labels c ⟨"date", .year, "year"⟩ years) ∧
    ∃ a b : String, quarters[3]? = some (.text a) ∧ quarters[0]? = some (.text b) ∧ a ≤ b := by
  intro c
  have h : runPeriod c ⟨"date", .quarter, "_period"⟩ = .ok sittingQuarters := rfl
  have hapril : Date.read? " 2023-04-30 09:00:00" =
      some ⟨2023, 4, 30, by decide, by decide, by decide⟩ := rfl
  have hmay : Date.read? "2023-05-17" = some ⟨2023, 5, 17, by decide, by decide, by decide⟩ := rfl
  obtain ⟨dates, labels, hdates, hlabels, hsame, hcoarse, -, -, horder⟩ := periods_nest rfl h
  obtain rfl : _ = dates := Option.some.inj hdates
  obtain rfl : _ = labels := Option.some.inj hlabels
  obtain ⟨years, hyears, -, hyears'⟩ := hcoarse .year (by decide) "year"
  exact ⟨h, hsame "again", ⟨years, hyears, hyears'⟩,
    horder 3 0 _ _ _ _ rfl rfl hapril hmay ⟨by decide, by decide⟩ ⟨by decide, by decide⟩
      (by decide)⟩

end Operation
end RollCall
