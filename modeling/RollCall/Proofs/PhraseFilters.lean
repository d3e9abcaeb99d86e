import RollCall.Proofs.EditedTables
import RollCall.Proofs.Filtering
import RollCall.Proofs.KeyedConditions

/-!
# Phrase filters

A source may keep only the rows that mention one of some phrases. These are the rows that a filter
keeps whose condition is a search for any of the phrases, and without the column both fail.
-/
namespace RollCall

open Operation

variable {column : String} {phrases : List String} {t : Table}

namespace Condition

def mention (column phrase : String) : Clause :=
  ⟨column, .containsFolded, .str phrase⟩

def mentionOfAny (column : String) (phrases : List String) : Condition :=
  .any (phrases.map fun phrase => .clause (mention column phrase))

def mentionNode (column : String) (phrases : List String) : Json :=
  .obj [("op", .str "or"), ("args", .arr (phrases.map fun phrase =>
    .obj [("column", .str column), ("op", .str "icontains"), ("value", .str phrase)]))]

private theorem ofJson_mentionNode (column : String) (phrases : List String) :
    ofJson (mentionNode column phrases) = .ok (mentionOfAny column phrases) := by
  have hclause : ∀ phrase, ofJson
      (.obj [("column", .str column), ("op", .str "icontains"), ("value", .str phrase)]) =
        .ok (.clause (mention column phrase)) := by
    intro phrase
    have hlists : (Condition.clause (mention column phrase)).ListsMembers :=
      listsMembers_clause.mpr nofun
    have hword : Text.asciiLower "icontains" ∈ Comparison.aliases .containsFolded := by
      decide +kernel
    exact ofJson_of_written hlists (.flat (.given "value" (by decide))
      ⟨"op", by decide, "icontains", hword, .swap _ _ _⟩)
  have hnodes : ofNodes (phrases.map fun phrase =>
      .obj [("column", .str column), ("op", .str "icontains"), ("value", .str phrase)]) =
        .ok (phrases.map fun phrase => .clause (mention column phrase)) := by
    induction phrases with
    | nil => simp [ofNodes]
    | cons phrase phrases ih =>
      rw [List.map_cons, ofNodes, hclause, ih]
      rfl
  rw [mentionNode, ofJson]
  have hop : Text.asciiLower "or" = "or" := by decide +kernel
  have hfields : ∀ args, field? "op" "operator" [("op", .str "or"), ("args", args)] =
      some (.str "or") := fun _ => rfl
  simp only [hfields, hop]
  split
  · next nodes h =>
    cases h
    rw [hnodes]
    rfl
  · next h => exact absurd rfl (h _)

/-- A row satisfies the search if its cell mentions one of the phrases. -/
theorem holds_mentionOfAny [Library] (row : String → Cell) :
    (mentionOfAny column phrases).holds row =
      mentionsAny (phrases.map Text.lowercase) (row column) := by
  have heach : (mentionOfAny column phrases).holds row = phrases.any fun phrase =>
      Clause.textual (Clause.mentions (Text.lowercase phrase)) (row column) := by
    rw [mentionOfAny, holds, holdsEach_eq_map, List.map_map, List.any_map]
    rfl
  rw [heach]
  cases row column with
  | text s => simp [mentionsAny, Clause.textual, Clause.mentions, Cell.toText?, Function.comp_def]
  | _ => simp [mentionsAny, Clause.textual, Cell.toText?]

/-- The search is refused if its column is not there. -/
theorem check_mentionOfAny [Library] (names : List String) (hphrases : phrases ≠ []) :
    (mentionOfAny column phrases).check names =
      if column ∈ names then .ok () else .error (.unknownColumn column) := by
  have hclauses : (mentionOfAny column phrases).clauses = phrases.map (mention column) := by
    rw [mentionOfAny, clauses]
    clear hphrases
    induction phrases with
    | nil => rfl
    | cons phrase phrases ih =>
      rw [List.map_cons, clausesOf, ih]
      rfl
  have hclause : ∀ phrase, (mention column phrase).check names =
      if column ∈ names then .ok () else .error (.unknownColumn column) := by
    intro phrase
    simp only [Clause.check, Clause.checkPattern, mention, ite_not, reduceCtorEq, if_false]
  rw [check, hclauses]
  split
  · next hmem =>
    clear hclauses hphrases
    induction phrases with
    | nil => rfl
    | cons phrase phrases ih =>
      rw [List.map_cons, List.forM_cons, hclause, if_pos hmem]
      exact ih
  · next hmem =>
    obtain ⟨phrase, rest, rfl⟩ := List.exists_cons_of_ne_nil hphrases
    rw [List.map_cons, List.forM_cons, hclause, if_neg hmem]
    rfl

end Condition

namespace Operation

variable {c : Context} {p : SourceParameters}

def mentioning (column : String) (phrases : List String) (t : Table) : Table :=
  t.takeRows ((List.range t.rowCount).filter fun i =>
    mentionsAny (phrases.map Text.lowercase) (t.cellAt i column))

/-- Neither the order of phrases nor repeats among them can be seen. -/
theorem mentionsAny_eq_of_mem {phrases phrases' : List String}
    (h : ∀ phrase, phrase ∈ phrases ↔ phrase ∈ phrases') :
    mentionsAny (phrases.map Text.lowercase) = mentionsAny (phrases'.map Text.lowercase) := by
  have hany : ∀ text, (phrases.map Text.lowercase).any (Text.contains text) =
      (phrases'.map Text.lowercase).any (Text.contains text) := by
    intro text
    rw [Bool.eq_iff_iff, List.any_map, List.any_map, List.any_eq_true, List.any_eq_true]
    simp only [h]
  funext x
  simp only [mentionsAny, hany]

private theorem runSource_plain : runSource c { p with phrases := [] } = c.table p.table := by
  rw [runSource]
  cases c.table p.table <;> rfl

/-- A source with phrases fails without the column and else keeps the rows that mention one. -/
theorem runSource_phrases (hstore : c.store.WellFormed) (hphrases : p.phrases ≠ []) :
    runSource c p = c.table p.table >>= fun t =>
      if p.phraseColumn ∈ t.names then .ok (mentioning p.phraseColumn p.phrases t)
      else .error (.condition (.noPhraseColumn p.phraseColumn p.table)) := by
  rw [runSource]
  cases htable : c.table p.table with
  | error e => rfl
  | ok t =>
    have ht := hstore _ (Context.mem_tables_of_table htable)
    simp only [bind, Except.bind, List.isEmpty_iff, hphrases, if_false]
    split
    · next hcolumn => rw [if_neg (Table.column?_eq_none_iff.mp hcolumn)]
    · next column hcolumn =>
      have hmem : p.phraseColumn ∈ t.names := Table.column?_isSome_iff.mp (by simp [hcolumn])
      rw [if_pos hmem, ht.cells_eq hcolumn, List.map_map, Table.filterMask,
        Table.setPositions_map_range]
      rfl

/-- A source without phrases, and a filter of what it gives. -/
def sourceThenFilter [Library] (c : Context) (p : SourceParameters) (step : String)
    (condition : Json) : Except Failure Table := do
  let t ← runSource c { p with phrases := [] }
  runFilter { c with step := step, inputs := [t] } condition

/-- The filter for the phrases does what the source does, up to the wording of its failure. -/
theorem sourceThenFilter_eq [Library] (hstore : c.store.WellFormed) (hphrases : p.phrases ≠ [])
    {step : String} {condition : Json}
    (hread : Condition.ofJson condition =
      .ok (Condition.mentionOfAny p.phraseColumn p.phrases)) :
    sourceThenFilter c p step condition = c.table p.table >>= fun t =>
      if p.phraseColumn ∈ t.names then .ok (mentioning p.phraseColumn p.phrases t)
      else .error (.condition (.unknownColumn p.phraseColumn)) := by
  rw [sourceThenFilter, runSource_plain]
  cases htable : c.table p.table with
  | error e => rfl
  | ok t =>
    have ht := hstore _ (Context.mem_tables_of_table htable)
    change runFilter { c with step := step, inputs := [t] } condition = _
    rw [Condition.runFilter_eq rfl hread, Condition.filter_eq ht,
      Condition.check_mentionOfAny _ hphrases]
    simp only [Condition.holds_mentionOfAny]
    change _ = ite _ _ _
    split <;> rfl

/-- A source with phrases is a source without them before a filter for any of the phrases: both give
one table, and both fail by the condition or by another failure that they have in common. Neither
the order of the phrases nor repeats among them can be seen. -/
theorem source_eq_filter [Library] (hstore : c.store.WellFormed) (hphrases : p.phrases ≠ []) :
    Condition.ofJson (Condition.mentionNode p.phraseColumn p.phrases) =
      .ok (Condition.mentionOfAny p.phraseColumn p.phrases) ∧
    (∀ (step : String) (condition : Json), Condition.ofJson condition =
        .ok (Condition.mentionOfAny p.phraseColumn p.phrases) →
      (∀ t, runSource c p = .ok t ↔ sourceThenFilter c p step condition = .ok t) ∧
      ((∃ fault, runSource c p = .error (.condition fault)) ↔
        ∃ fault, sourceThenFilter c p step condition = .error (.condition fault)) ∧
      ∀ e, (∀ fault, e ≠ .condition fault) →
        (runSource c p = .error e ↔ sourceThenFilter c p step condition = .error e)) ∧
    ∀ phrases, (∀ phrase, phrase ∈ phrases ↔ phrase ∈ p.phrases) →
      runSource c { p with phrases := phrases } = runSource c p := by
  refine ⟨Condition.ofJson_mentionNode _ _, fun step condition hread => ?_,
    fun phrases hmem => ?_⟩
  · rw [runSource_phrases hstore hphrases, sourceThenFilter_eq hstore hphrases hread]
    cases c.table p.table with
    | error e => simp [bind, Except.bind]
    | ok t =>
      simp only [bind, Except.bind]
      split
      · simp
      · -- Only the wording of the two failures differs.
        simp only [reduceCtorEq, Except.error.injEq, Failure.condition.injEq, exists_eq', true_and,
          implies_true]
        rintro e he
        simp [Ne.symm (he _)]
  · have hnonempty : phrases ≠ [] := by
      obtain ⟨phrase, hphrase⟩ := List.exists_mem_of_ne_nil _ hphrases
      exact List.ne_nil_of_mem ((hmem phrase).mpr hphrase)
    rw [runSource_phrases hstore hphrases, runSource_phrases hstore hnonempty]
    simp only [mentioning, mentionsAny_eq_of_mem hmem]

/-- Contributions to a debate, one of them missing and one a number. -/
def contributions : Table :=
  ⟨[⟨"text", .text, [.null, .text "Order", .int 7]⟩], 3⟩

theorem source_eq_filter_sample :
    let c : Context := ⟨"calls", [], ⟨[("contributions", contributions)]⟩,
      { source := fun _ d => .error (.fetch ⟨d, .unreachable⟩) }⟩
    let p : SourceParameters := { table := "contributions", phrases := ["Hear", "Order"] }
    sourceThenFilter c p "kept" (Condition.mentionNode "text" ["Hear", "Order"]) =
      .ok (contributions.takeRows [1]) ∧
    runSource c { p with phrases := ["Order", "Hear", "Order"] } =
      .ok (contributions.takeRows [1]) ∧
    ∃ fault, sourceThenFilter c { p with phraseColumn := "speech" } "kept"
      (Condition.mentionNode "speech" ["Hear", "Order"]) = .error (.condition fault) := by
  intro c p
  have hstore : c.store.WellFormed := by
    simp only [TableStore.WellFormed, c, List.mem_singleton, forall_eq]
    exact ⟨by decide, by decide⟩
  have hmentions : Text.contains (Text.lowercase "Order") (Text.lowercase "Order") = true := by
    rw [Text.contains, Text.occursIn_iff]
    exact ⟨[], [], by simp⟩
  have hmask : [Cell.null, .text "Order", .int 7].map
      (mentionsAny (["Hear", "Order"].map Text.lowercase)) = [false, true, false] := by
    simp [mentionsAny, Clause.textual, Cell.toText?, hmentions]
  have hrun : runSource c p = .ok (contributions.takeRows [1]) := by
    change Except.ok (contributions.filterMask ([Cell.null, .text "Order", .int 7].map
      (mentionsAny (["Hear", "Order"].map Text.lowercase)))) = _
    rw [hmask]
    rfl
  obtain ⟨hread, hfilter, hmem⟩ := source_eq_filter hstore (p := p) (by decide)
  refine ⟨((hfilter "kept" _ hread).1 _).mp hrun, ?_, ?_⟩
  · rw [hmem _ (by simp [p, or_comm]), hrun]
  · obtain ⟨hread, hfilter, -⟩ :=
      source_eq_filter hstore (p := { p with phraseColumn := "speech" }) (by decide)
    exact (hfilter "kept" _ hread).2.1.mp ⟨_, rfl⟩

end Operation

end RollCall
