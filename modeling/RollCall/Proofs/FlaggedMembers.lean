import RollCall.Operation.Execution
import RollCall.Proofs.Filtering
import RollCall.Proofs.PlacedColumns

/-!
# Flagged members

A flag is raised by an interest that mentions the phrase and never falls, so after all interests it
says whether the member has one that does. Neither the order of the interests nor repeats among them
can be seen from the flags.
-/
namespace RollCall.Operation

namespace Flags

variable {flags : Flags} {k l : Key} {p : Key → Bool} {phrase : String}

private theorem get_raise (flags : Flags) (k l : Key) (n : Int64) :
    (flags.raise k n).get l = if l = k then max (flags.get k) n else flags.get l := by
  rw [get, raise, List.find?_cons]
  by_cases h : l = k
  · simp [h]
  · have hrest : (flags.filter fun entry => entry.1 ≠ k).find? (fun entry => entry.1 = l) =
        flags.find? fun entry => entry.1 = l := by
      rw [List.find?_filter]
      refine congrArg (List.find? · flags) (funext fun entry => ?_)
      by_cases hentry : entry.1 = l
      · simp [hentry, h]
      · simp [hentry]
    simp only [Ne.symm h, h, if_false, decide_false, hrest]
    rfl

/-- An interest that raises the flag of a key. -/
def raises (phrase : String) (k : Key) (interest : Cell × Cell) : Bool :=
  !interest.1.isMissing && interest.1.key = k &&
    Clause.textual (Clause.mentions phrase) interest.2

/-- The flags that are raised are those of the keys with a property. -/
def Mark (flags : Flags) (p : Key → Bool) : Prop :=
  ∀ k, flags.get k = if p k then 1 else 0

private theorem Mark.note (h : flags.Mark p) (member text : Cell) :
    (flags.note phrase member text).Mark fun k => p k || raises phrase k (member, text) := by
  intro k
  rw [Flags.note]
  split
  · next hmissing =>
    rw [Cell.key_eq_null_iff] at hmissing
    simp [h k, raises, hmissing]
  · next hmember =>
    rw [Cell.key_eq_null_iff, Bool.not_eq_true] at hmember
    rw [get_raise, h]
    split
    · next hk =>
      subst hk
      simp only [raises, hmember, Bool.not_false, Bool.true_and, decide_true]
      cases p member.key <;> cases Clause.textual (Clause.mentions phrase) text <;> rfl
    · next hk =>
      simp [h k, raises, Ne.symm hk]

/-- After all interests the flags are those of the keys for which one of them counts. -/
theorem mark_ofInterests (phrase : String) (interests : List (Cell × Cell)) :
    (ofInterests phrase interests).Mark fun k => interests.any (raises phrase k) := by
  have hrun : ∀ (flags : Flags) (p : Key → Bool), flags.Mark p →
      (interests.foldl (fun flags interest => flags.note phrase interest.1 interest.2)
        flags).Mark fun k => p k || interests.any (raises phrase k) := by
    induction interests with
    | nil => simp
    | cons interest interests ih =>
      intro flags p h
      simpa [Bool.or_assoc] using ih _ _ (h.note interest.1 interest.2)
  exact hrun [] (fun _ => false) fun _ => rfl

end Flags

variable {c : Context} {p : InterestParameters} {t interests : Table}

/-- A member with the given key has an interest that mentions the phrase, both in lower case. -/
def Mentioned (interests : Table) (p : InterestParameters) (k : Key) : Prop :=
  ∃ row < interests.rowCount,
    (interests.cellAt row p.memberColumn).isMissing = false ∧
    (interests.cellAt row p.memberColumn).key = k ∧
    ∃ s, interests.cellAt row p.textColumn = .text s ∧
      (Text.lowercase p.phrase).toList <:+: (Text.lowercase s).toList

private theorem textual_mentions_iff {phrase : String} {x : Cell} :
    Clause.textual (Clause.mentions phrase) x = true ↔
      ∃ s, x = .text s ∧ phrase.toList <:+: (Text.lowercase s).toList := by
  cases x with
  | text s =>
    rw [Clause.textual, Cell.toText?, Option.map_some, Option.getD_some, Clause.mentions,
      Text.contains, Text.occursIn_iff]
    simp [List.IsInfix, eq_comm]
  | _ => simp [Clause.textual, Cell.toText?]

/-- The flags of all interests are those of the members that are mentioned. -/
theorem get_ofInterests (hinterests : interests.WellFormed) {members texts : Column}
    (hmembers : interests.column? p.memberColumn = some members)
    (htexts : interests.column? p.textColumn = some texts) (k : Key) :
    (Mentioned interests p k → (Flags.ofInterests (Text.lowercase p.phrase)
      (members.cells.zip texts.cells)).get k = 1) ∧
    (¬Mentioned interests p k → (Flags.ofInterests (Text.lowercase p.phrase)
      (members.cells.zip texts.cells)).get k = 0) := by
  have hany : (members.cells.zip texts.cells).any (Flags.raises (Text.lowercase p.phrase) k) ↔
      Mentioned interests p k := by
    rw [hinterests.cells_eq hmembers, hinterests.cells_eq htexts, List.zip_map', List.any_map,
      List.any_eq_true]
    simp only [List.mem_range, Function.comp_apply, Flags.raises, Bool.and_eq_true,
      Bool.not_eq_true', decide_eq_true_eq, textual_mentions_iff, and_assoc, Mentioned]
  rw [Flags.mark_ofInterests]
  constructor
  · exact fun h => if_pos (hany.mpr h)
  · exact fun h => if_neg fun hmark => h (hany.mp hmark)

private theorem not_mentioned_null : ¬Mentioned interests p .null := by
  rintro ⟨row, -, hpresent, hkey, -⟩
  rw [Cell.key_eq_null_iff, hpresent] at hkey
  cases hkey

/-- Rows in another order or several times mention the same members. -/
theorem mentioned_takeRows {rows : List Nat} (hrows : ∀ i, i ∈ rows ↔ i < interests.rowCount)
    (k : Key) : Mentioned (interests.takeRows rows) p k ↔ Mentioned interests p k := by
  have hcell : ∀ j, (hj : j < rows.length) → ∀ name,
      (interests.takeRows rows).cellAt j name = interests.cellAt rows[j] name :=
    fun j hj name => interests.cellAt_takeRows rows hj name
  constructor
  · rintro ⟨j, hj, h⟩
    change j < rows.length at hj
    rw [hcell j hj, hcell j hj] at h
    exact ⟨rows[j], (hrows _).mp (List.getElem_mem hj), h⟩
  · rintro ⟨i, hi, h⟩
    obtain ⟨j, hj, rfl⟩ := List.mem_iff_getElem.mp ((hrows i).mpr hi)
    refine ⟨j, hj, ?_⟩
    rw [hcell j hj, hcell j hj]
    exact h

def flagColumn (output : String) (flag : Key → Int64) (members : Column) : Column :=
  ⟨output, .numeric, members.cells.map fun member => .int (flag member.key)⟩

/-- The operation flags the mentioned members, whatever the interests they are mentioned in. -/
theorem runInterest_eq (hinput : c.input = .ok t) (hstore : c.store.get? p.table = some interests)
    (hinterests : interests.WellFormed) (hmember : p.memberColumn ∈ interests.names)
    (htext : p.textColumn ∈ interests.names) {keys : Column} (hkeys : t.column? p.on = some keys)
    {flag : Key → Int64} (hflag : ∀ k, (Mentioned interests p k → flag k = 1) ∧
      (¬Mentioned interests p k → flag k = 0)) :
    runInterest c p = place t (flagColumn p.output flag keys) := by
  obtain ⟨members, hmembers⟩ := Option.isSome_iff_exists.mp (Table.column?_isSome_iff.mpr hmember)
  obtain ⟨texts, htexts⟩ := Option.isSome_iff_exists.mp (Table.column?_isSome_iff.mpr htext)
  have hget : ∀ k, (Flags.ofInterests (Text.lowercase p.phrase)
      (members.cells.zip texts.cells)).get k = flag k := by
    intro k
    obtain ⟨hone, hzero⟩ := get_ofInterests hinterests hmembers htexts k
    by_cases h : Mentioned interests p k
    · rw [hone h, (hflag k).1 h]
    · rw [hzero h, (hflag k).2 h]
  have htable : c.table p.table = .ok interests := by
    rw [Context.table, hstore]
  have hlookup : ∀ {u : Table} {owner name : String} {column : Column},
      u.column? name = some column → lookupColumn u owner name = .ok column := by
    intro u owner name column hcolumn
    rw [lookupColumn, hcolumn]
  rw [runInterest, hinput, htable]
  simp only [bind, Except.bind, hlookup hmembers, hlookup htexts, hlookup hkeys, hget, flagColumn]

/-- A column of flags is put into the table and nothing else is changed. A row is flagged if its
member is mentioned, and not if it has none. Interests in another order or several times make the
same table. -/
theorem flags_mentioned (hinput : c.input = .ok t)
    (hstore : c.store.get? p.table = some interests) (ht : t.WellFormed)
    (hinterests : interests.WellFormed) (hon : p.on ∈ t.names)
    (hmember : p.memberColumn ∈ interests.names) (htext : p.textColumn ∈ interests.names) :
    ∃ (u : Table) (flags : Column), runInterest c p = .ok u ∧ u.rowCount = t.rowCount ∧
      u.columns = (if p.output ∈ t.names
        then t.columns.map fun d => if d.name = p.output then flags else d
        else t.columns ++ [flags]) ∧
      flags.name = p.output ∧ flags.kind = .numeric ∧ flags.length = t.rowCount ∧
      (∀ row < t.rowCount,
        (Mentioned interests p (t.cellAt row p.on).key → flags.cells[row]? = some (.int 1)) ∧
        (¬Mentioned interests p (t.cellAt row p.on).key → flags.cells[row]? = some (.int 0)) ∧
        ((t.cellAt row p.on).isMissing → flags.cells[row]? = some (.int 0))) ∧
      ∀ (store : TableStore) (rows : List Nat),
        store.get? p.table = some (interests.takeRows rows) →
        (∀ i, i ∈ rows ↔ i < interests.rowCount) →
          runInterest { c with store := store } p = .ok u := by
  obtain ⟨keys, hkeys⟩ := Option.isSome_iff_exists.mp (Table.column?_isSome_iff.mpr hon)
  obtain ⟨members, hmembers⟩ := Option.isSome_iff_exists.mp (Table.column?_isSome_iff.mpr hmember)
  obtain ⟨texts, htexts⟩ := Option.isSome_iff_exists.mp (Table.column?_isSome_iff.mpr htext)
  obtain ⟨flag, hflag⟩ : ∃ flag : Key → Int64, ∀ k, (Mentioned interests p k → flag k = 1) ∧
      (¬Mentioned interests p k → flag k = 0) :=
    ⟨_, get_ofInterests hinterests hmembers htexts⟩
  have hlength : (flagColumn p.output flag keys).length = t.rowCount := by
    rw [Column.length, flagColumn, List.length_map, ht.length_of_column? hkeys]
  have hplace : place t (flagColumn p.output flag keys) =
      .ok ⟨Table.place (flagColumn p.output flag keys) t.columns, t.rowCount⟩ := by
    rw [place, Outcome.mapError_eq_ok, Table.withColumn_eq_ok_iff]
    exact ⟨.inl hlength, by rw [hlength]⟩
  have hcell : ∀ row < t.rowCount,
      (flagColumn p.output flag keys).cells[row]? =
        some (.int (flag (t.cellAt row p.on).key)) := by
    intro row hrow
    rw [flagColumn, ht.cells_eq hkeys]
    simp [hrow]
  refine ⟨_, _, (runInterest_eq hinput hstore hinterests hmember htext hkeys hflag).trans hplace,
    rfl, ?_, rfl, rfl, hlength, fun row hrow => ⟨fun h => ?_, fun h => ?_, fun h => ?_⟩, ?_⟩
  · split
    · next h => exact Table.place_of_mem ht.nodup h
    · next h => exact Table.place_of_notMem h
  · rw [hcell row hrow, (hflag _).1 h]
  · rw [hcell row hrow, (hflag _).2 h]
  · rw [← Cell.key_eq_null_iff] at h
    rw [hcell row hrow, h, (hflag _).2 not_mentioned_null]
  · intro store rows hstore' hrows
    refine (runInterest_eq (c := { c with store := store }) hinput hstore'
      (hinterests.takeRows rows) ?_ ?_ hkeys fun k => ?_).trans hplace
    · rwa [Table.names_takeRows]
    · rwa [Table.names_takeRows]
    · rw [mentioned_takeRows hrows]
      exact hflag k

def members : Table :=
  ⟨[⟨"member_id", .numeric, [.int 1, .float 2.0, .null, .int 4]⟩,
    ⟨"bets", .text, [.text "yes", .null, .null, .null]⟩], 4⟩

def register : Table :=
  ⟨[⟨"m_id", .numeric, [.float 1.0, .int 1, .int 2, .null]⟩,
    ⟨"interest", .text, [.text "BETTING shops", .int 7, .null, .text "betting"]⟩], 4⟩

theorem flags_mentioned_sample :
    let c : Context := ⟨"flags", [members], ⟨[("member_interests", register)]⟩,
      { source := fun _ d => .error (.fetch ⟨d, .unreachable⟩) }⟩
    let shuffled : TableStore := ⟨[("member_interests", register.takeRows [3, 1, 0, 2, 0])]⟩
    let p : InterestParameters := { phrase := "Betting", output := "bets" }
    ∃ (u : Table) (flags : Column), runInterest c p = .ok u ∧ u.rowCount = 4 ∧
      u.columns = [⟨"member_id", .numeric, [.int 1, .float 2.0, .null, .int 4]⟩, flags] ∧
      flags.cells[0]? = some (.int 1) ∧ flags.cells[1]? = some (.int 0) ∧
      flags.cells[2]? = some (.int 0) ∧ runInterest { c with store := shuffled } p = .ok u := by
  intro c shuffled p
  have hmembers : members.WellFormed := ⟨by decide, by decide⟩
  have hregister : register.WellFormed := ⟨by decide, by decide⟩
  obtain ⟨u, flags, hu, hrows, hcolumns, -, -, -, hflags, hshuffled⟩ :=
    flags_mentioned (c := c) (p := p) rfl rfl hmembers hregister (by decide) (by decide) (by decide)
  have hone : Mentioned register p (members.cellAt 0 "member_id").key :=
    ⟨0, by decide, rfl, rfl, "BETTING shops", rfl, [], " shops".toList, by decide +kernel⟩
  have htwo : ¬Mentioned register p (members.cellAt 1 "member_id").key := by
    rintro ⟨row, hrow, -, hkey, s, htext, -⟩
    change row < 4 at hrow
    obtain rfl | rfl | rfl | rfl : row = 0 ∨ row = 1 ∨ row = 2 ∨ row = 3 := by omega
    · exact absurd hkey (by decide +kernel)
    · cases htext
    · cases htext
    · exact absurd hkey (by decide +kernel)
  refine ⟨u, flags, hu, hrows, hcolumns, (hflags 0 (by decide)).1 hone,
    (hflags 1 (by decide)).2.1 htwo, (hflags 2 (by decide)).2.2 rfl, ?_⟩
  refine hshuffled shuffled [3, 1, 0, 2, 0] rfl fun i => ?_
  change i ∈ [3, 1, 0, 2, 0] ↔ i < 4
  simp only [List.mem_cons, List.not_mem_nil, or_false]
  omega

end RollCall.Operation
