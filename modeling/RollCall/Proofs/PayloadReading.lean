import RollCall.Proofs.DecimalTexts
import RollCall.Proofs.Lists
import RollCall.Proofs.Rolls

/-!
# Payloads that hold rolls

When a payload is read, and what its roll is: the members of all entries of the lists in their
order, each with the vote of the list of its first entry.
-/
namespace RollCall

namespace Roll

/-- A value identifies a member if it is an integer or the text of one, with white space or not. -/
def Names : Json → Int64 → Prop
  | .int n, m => n = m.toInt
  | .str s, m => Text.IsDecimal (Text.trim s).toList m.toInt
  | _, _ => False

/-- The member of an entry is identified by the value of a field. -/
def EntryOf (idField : String) (entry : Json) (m : Int64) : Prop :=
  ∃ v, entry.get? idField = some v ∧ Names v m

/-- The fields of a payload that may hold lists. The Lords may have them in a field of their own. -/
inductive StandsFor : Chamber → Json → List (String × Json) → Prop
  | wrapped {outer fields : List (String × Json)}
      (h : Json.lookup "division" outer = some (.obj fields)) :
      StandsFor .lords (.obj outer) fields
  | bare {chamber : Chamber} {fields : List (String × Json)}
      (h : chamber = .lords → ∀ inner, Json.lookup "division" fields ≠ some (.obj inner)) :
      StandsFor chamber (.obj fields) fields

/-- A list may be lacking or `null`. -/
def IsList (fields : List (String × Json)) (list : String) : Prop :=
  ∀ v, Json.lookup list fields = some v → v = .null ∨ ∃ entries, v = .arr entries

def listEntries (fields : List (String × Json)) (list : String) : List Json :=
  ((Json.lookup list fields).bind Json.toItems?).getD []

/-- The entries of all lists with the votes of the lists. -/
def listed (fields : List (String × Json)) (lists : List (String × Vote)) : List (Json × Vote) :=
  lists.flatMap fun list => (listEntries fields list.1).map (·, list.2)

/-- Entries as members with votes. -/
def AreEntries (idField : String) : List (Json × Vote) → List (Int64 × Vote) → Prop :=
  List.Forall₂ fun entry e => EntryOf idField entry.1 e.1 ∧ entry.2 = e.2

/-- The fields hold a roll of a layout. -/
structure Holds (fields : List (String × Json)) (layout : RollLayout) : Prop where
  exists_list : ∃ list ∈ layout.lists, (Json.lookup list.1 fields).isSome
  isList : ∀ list ∈ layout.lists, IsList fields list.1
  exists_member : ∀ entry ∈ listed fields layout.lists, ∃ m, EntryOf layout.idField entry.1 m

/-- The members of the entries in the order of their first ones, each with the vote of its first
entry. -/
structure IsFirstOf (es : List (Int64 × Vote)) (roll : Roll) : Prop where
  nodup : (roll.votes.map Prod.fst).Nodup
  members_eq : roll.votes.map Prod.fst = (es.map Prod.fst).eraseDups
  mem_iff : ∀ m v, (m, v) ∈ roll.votes ↔ es.find? (fun e => e.1 = m) = some (m, v)

variable {chamber : Chamber} {payload v : Json} {fields : List (String × Json)}
  {idField list : String} {lists : List (String × Vote)} {m : Int64} {ms : List Int64}
  {es : List (Int64 × Vote)} {layout : RollLayout}

private theorem member?_eq_some_iff : member? v = some m ↔ Names v m := by
  cases v with
  | int n => rw [member?, Checked.ofInt?_eq_some_iff, Names]
  | str s =>
    rw [member?, Option.bind_eq_some_iff, Names, ← Text.toInt?_eq_some_iff]
    constructor
    · rintro ⟨n, hn, hm⟩
      rw [hn, Checked.ofInt?_eq_some_iff.mp hm]
    · intro h
      exact ⟨m.toInt, h, Checked.ofInt?_toInt m⟩
  | null | bool | float | arr | obj => exact iff_of_false nofun id

private theorem entryMember_eq_ok_iff {entry : Json} :
    entryMember idField list entry = .ok m ↔ EntryOf idField entry m := by
  rw [EntryOf]
  simp_rw [← member?_eq_some_iff]
  rw [← Option.bind_eq_some_iff, entryMember]
  cases (entry.get? idField).bind member? <;> simp

private theorem listMembers_eq_ok_iff : listMembers fields idField list = .ok ms ↔
    IsList fields list ∧ List.Forall₂ (EntryOf idField) (listEntries fields list) ms := by
  rw [listMembers, IsList, listEntries]
  cases hlookup : Json.lookup list fields with
  | none => simp [eq_comm]
  | some v =>
    cases v with
    | null => simp [eq_comm, Json.toItems?]
    | arr entries => simp [Outcome.mapM_eq_ok, entryMember_eq_ok_iff, Json.toItems?]
    | bool | int | float | str | obj => simp

/-- The entries of a list and those of all later lists. -/
theorem areEntries_append {jsons : List Json} {vote : Vote} {later : List (Json × Vote)} :
    AreEntries idField (jsons.map (·, vote) ++ later) es ↔
      ∃ ms, List.Forall₂ (EntryOf idField) jsons ms ∧
        ∃ rest, AreEntries idField later rest ∧ ms.map (·, vote) ++ rest = es := by
  induction jsons generalizing es with
  | nil => simp [List.forall₂_nil_left_iff]
  | cons json jsons ih =>
    rw [List.map_cons, List.cons_append, AreEntries, List.forall₂_cons_left_iff]
    simp only [← AreEntries.eq_1, ih, List.forall₂_cons_left_iff]
    constructor
    · rintro ⟨⟨m, v⟩, es', ⟨hm, rfl⟩, ⟨ms, hms, rest, hrest, rfl⟩, rfl⟩
      exact ⟨m :: ms, ⟨m, ms, hm, hms, rfl⟩, rest, hrest, rfl⟩
    · rintro ⟨ms', ⟨m, ms, hm, hms, rfl⟩, rest, hrest, rfl⟩
      exact ⟨(m, vote), _, ⟨hm, rfl⟩, ⟨ms, hms, rest, hrest, rfl⟩, rfl⟩

private theorem entries_eq_ok_iff : entries fields idField lists = .ok es ↔
    (∀ list ∈ lists, IsList fields list.1) ∧ AreEntries idField (listed fields lists) es := by
  induction lists generalizing es with
  | nil => simp [entries, listed, AreEntries, List.forall₂_nil_left_iff, eq_comm]
  | cons list lists ih =>
    rw [listed, List.flatMap_cons, areEntries_append, List.forall_mem_cons, ← listed]
    simp only [entries, Outcome.bind_eq_ok, Outcome.pure_eq_ok, listMembers_eq_ok_iff, ih]
    constructor
    · rintro ⟨ms, ⟨hlist, hms⟩, rest, ⟨hlists, hrest⟩, rfl⟩
      exact ⟨⟨hlist, hlists⟩, ms, hms, rest, hrest, rfl⟩
    · rintro ⟨⟨hlist, hlists⟩, ms, hms, rest, hrest, rfl⟩
      exact ⟨ms, ⟨hlist, hms⟩, rest, ⟨hlists, hrest⟩, rfl⟩

/-- Entries have members if each of them has one. -/
theorem exists_areEntries {jsons : List (Json × Vote)} :
    (∃ es, AreEntries idField jsons es) ↔ ∀ entry ∈ jsons, ∃ m, EntryOf idField entry.1 m := by
  induction jsons with
  | nil => exact iff_of_true ⟨[], .nil⟩ (List.forall_mem_nil _)
  | cons entry jsons ih =>
    rw [List.forall_mem_cons, ← ih]
    constructor
    · rintro ⟨es, h⟩
      cases h with
      | cons hentry hrest => exact ⟨⟨_, hentry.1⟩, _, hrest⟩
    · rintro ⟨⟨m, hm⟩, es, hes⟩
      exact ⟨(m, entry.2) :: es, .cons ⟨hm, rfl⟩ hes⟩

theorem body_eq_obj_iff :
    body chamber payload = .obj fields ↔ StandsFor chamber payload fields := by
  constructor
  · intro h
    unfold body at h
    split at h
    · next inner hinner =>
      cases h
      cases payload with
      | obj outer => exact .wrapped hinner
      | null | bool | int | float | str | arr => cases hinner
    · next hbare =>
      subst h
      exact .bare fun hlords inner hinner => hbare inner hlords hinner
  · rintro (hwrapped | hbare)
    · simp only [body, Json.get?, hwrapped]
    · unfold body
      split
      · next inner hinner => exact absurd hinner (hbare rfl inner)
      · rfl

private theorem members_firstEntries (seen : List Int64) (es : List (Int64 × Vote)) :
    (firstEntries seen es).map Prod.fst =
      ((es.map Prod.fst).filter fun m => m ∉ seen).eraseDups := by
  induction es generalizing seen with
  | nil => rfl
  | cons e es ih =>
    obtain ⟨m, v⟩ := e
    rw [firstEntries, List.map_cons]
    split
    · next hm => rw [ih, List.filter_cons_of_neg (by simpa using hm)]
    · next hm =>
      rw [List.map_cons, ih, List.filter_cons_of_pos (by simpa using hm), List.eraseDups_cons,
        List.filter_filter]
      refine congrArg (m :: List.eraseDups ·) (List.filter_congr fun x _ => ?_)
      by_cases hx : x = m <;> simp [hx]

private theorem mem_firstEntries (seen : List Int64) (es : List (Int64 × Vote)) (m : Int64)
    (v : Vote) :
    (m, v) ∈ firstEntries seen es ↔ m ∉ seen ∧ es.find? (fun e => e.1 = m) = some (m, v) := by
  induction es generalizing seen with
  | nil => simp [firstEntries]
  | cons e es ih =>
    obtain ⟨m', v'⟩ := e
    rw [firstEntries]
    by_cases heq : m' = m
    · subst heq
      rw [List.find?_cons_of_pos (by simp)]
      split
      · next hm => simp [ih, hm]
      · next hm => simp [ih, hm, eq_comm]
    · rw [List.find?_cons_of_neg (by simpa using heq)]
      split
      · exact ih seen
      · simp [ih, Ne.symm heq]

/-- Of every member the first entry is kept. -/
theorem isFirstOf_firstEntries (es : List (Int64 × Vote)) : IsFirstOf es ⟨firstEntries [] es⟩ where
  nodup := (nodup_firstEntries [] es).1
  members_eq := by simpa using members_firstEntries [] es
  mem_iff m v := by simpa using mem_firstEntries [] es m v

theorem ofPayload_of_standsFor {roll : Roll} (h : StandsFor chamber payload fields) :
    ofPayload chamber payload = .ok roll ↔
      Holds fields (RollLayout.ofChamber chamber) ∧
        ∃ es, AreEntries (RollLayout.ofChamber chamber).idField
          (listed fields (RollLayout.ofChamber chamber).lists) es ∧
        ⟨firstEntries [] es⟩ = roll := by
  rw [ofPayload, body_eq_obj_iff.mpr h]
  dsimp only
  split
  · next hany =>
    simp only [Outcome.bind_eq_ok, Outcome.pure_eq_ok, entries_eq_ok_iff]
    constructor
    · rintro ⟨es, ⟨hlists, hes⟩, rfl⟩
      exact ⟨⟨List.any_eq_true.mp hany, hlists, exists_areEntries.mp ⟨es, hes⟩⟩, es, hes, rfl⟩
    · rintro ⟨hholds, es, hes, rfl⟩
      exact ⟨es, ⟨hholds.isList, hes⟩, rfl⟩
  · next hany =>
    have hnone : ¬ Holds fields (RollLayout.ofChamber chamber) := fun hholds =>
      hany (List.any_eq_true.mpr hholds.exists_list)
    simp only [hnone, false_and, reduceCtorEq]

private theorem exists_standsFor {roll : Roll} (h : ofPayload chamber payload = .ok roll) :
    ∃ fields, StandsFor chamber payload fields := by
  rw [ofPayload] at h
  split at h
  · next fields hbody => exact ⟨fields, body_eq_obj_iff.mp hbody⟩
  · cases h

/-- A table holds a roll: it has a row for every member in their order, with the number and the word
for the vote. -/
structure Tabulates (votes : List (Int64 × Vote)) (t : Table) : Prop where
  wellFormed : t.WellFormed
  rowCount_eq : t.rowCount = votes.length
  header_eq : t.columns.map (fun c => (c.name, c.kind)) =
    [("member_id", .numeric), ("vote", .categorical)]
  cells : ∀ (i : Nat) m v, votes[i]? = some (m, v) → t.cell? i "member_id" = some (.int m) ∧
    t.cell? i "vote" =
      some (.text (match v with | .aye => "AYE" | .no => "NO" | .abstain => "ABSTAIN"))

theorem tabulates_toTable (roll : Roll) : Tabulates roll.votes roll.toTable where
  wellFormed := roll.toTable_wellFormed
  rowCount_eq := rfl
  header_eq := rfl
  cells i m v h := by
    have hmembers : roll.toTable.cell? i "member_id" =
        (roll.votes.map fun e => Cell.int e.1)[i]? := rfl
    have hvotes : roll.toTable.cell? i "vote" =
        (roll.votes.map fun e => Cell.text e.2.name)[i]? := rfl
    rw [hmembers, hvotes, List.getElem?_map, List.getElem?_map, h]
    cases v <;> exact ⟨rfl, rfl⟩

/-- A table holds one roll at most. -/
theorem Tabulates.unique {votes votes' : List (Int64 × Vote)} {t : Table} (h : Tabulates votes t)
    (h' : Tabulates votes' t) : votes = votes' := by
  have hlength : votes.length = votes'.length := h.rowCount_eq.symm.trans h'.rowCount_eq
  refine List.ext_getElem hlength fun i hi hi' => ?_
  obtain ⟨hmember, hvote⟩ := h.cells i _ _ (List.getElem?_eq_getElem hi)
  obtain ⟨hmember', hvote'⟩ := h'.cells i _ _ (List.getElem?_eq_getElem hi')
  have hmembers := hmember.symm.trans hmember'
  have hlabels := hvote.symm.trans hvote'
  simp only [Option.some.injEq, Cell.int.injEq, Cell.text.injEq] at hmembers hlabels
  refine Prod.ext hmembers ?_
  revert hlabels
  cases votes[i].2 <;> cases votes'[i].2 <;> simp

end Roll

namespace Fetcher

open Roll

variable {d : Division} {payload : Json} {fields : List (String × Json)} {t : Table}

theorem read_eq_ok_iff :
    read d payload = .ok t ↔
      ∃ roll, Roll.ofPayload d.chamber payload = .ok roll ∧ roll.toTable = t := by
  rw [read]
  cases ofPayload d.chamber payload <;> simp

private theorem fault_of_read {fault : FetchFault} (h : read d payload = .error fault) :
    fault.division = d ∧ fault.cause.isRetryable = false := by
  rw [read] at h
  split at h
  · cases h
  · cases h
    exact ⟨rfl, rfl⟩

private theorem exists_of_read (h : read d payload = .ok t) :
    ∃ fields es roll, StandsFor d.chamber payload fields ∧
      Holds fields (RollLayout.ofChamber d.chamber) ∧
      AreEntries (RollLayout.ofChamber d.chamber).idField
        (listed fields (RollLayout.ofChamber d.chamber).lists) es ∧
      IsFirstOf es roll ∧ Tabulates roll.votes t ∧ t = roll.toTable := by
  obtain ⟨roll, hroll, rfl⟩ := read_eq_ok_iff.mp h
  obtain ⟨fields, hfields⟩ := exists_standsFor hroll
  obtain ⟨hholds, es, hes, rfl⟩ := (ofPayload_of_standsFor hfields).mp hroll
  exact ⟨fields, es, _, hfields, hholds, hes, isFirstOf_firstEntries es, tabulates_toTable _, rfl⟩

private theorem exists_read (hfields : StandsFor d.chamber payload fields)
    (hholds : Holds fields (RollLayout.ofChamber d.chamber)) : ∃ t, read d payload = .ok t := by
  obtain ⟨es, hes⟩ := exists_areEntries.mpr hholds.exists_member
  have hroll := (ofPayload_of_standsFor hfields).mpr ⟨hholds, es, hes, rfl⟩
  exact ⟨_, read_eq_ok_iff.mpr ⟨_, hroll, rfl⟩⟩

/-- Only the fields that a payload stands for are read. -/
theorem read_eq_of_standsFor {other : Json} (h : StandsFor d.chamber payload fields)
    (hother : StandsFor d.chamber other fields) : read d payload = read d other := by
  have hbody : body d.chamber payload = body d.chamber other :=
    (body_eq_obj_iff.mpr h).trans (body_eq_obj_iff.mpr hother).symm
  rw [read, read, ofPayload, ofPayload, hbody]

/-- A payload is read exactly if the fields it stands for hold a roll. The table then has a row for
each member of the listed entries, with the vote of its first entry, and else the failure names the
division and is final. Fields in a field of their own are read as if they stood alone. -/
theorem read_exact (d : Division) (payload : Json) :
    let layout := RollLayout.ofChamber d.chamber
    ((∃ t, read d payload = .ok t) ↔
      ∃ fields, StandsFor d.chamber payload fields ∧ Holds fields layout) ∧
    (∀ t, read d payload = .ok t → ∃ fields es roll, StandsFor d.chamber payload fields ∧
      AreEntries layout.idField (listed fields layout.lists) es ∧ IsFirstOf es roll ∧
      Tabulates roll.votes t ∧ t = roll.toTable) ∧
    (∀ fault, read d payload = .error fault →
      fault.division = d ∧ fault.cause.isRetryable = false) ∧
    ∀ outer fields, d.chamber = .lords → payload = .obj outer →
      Json.lookup "division" outer = some (.obj fields) →
      (∀ inner, Json.lookup "division" fields ≠ some (.obj inner)) →
      read d payload = read d (.obj fields) := by
  intro layout
  refine ⟨⟨?_, ?_⟩, fun t ht => ?_, fun fault => fault_of_read, ?_⟩
  · rintro ⟨t, ht⟩
    obtain ⟨fields, -, -, hfields, hholds, -⟩ := exists_of_read ht
    exact ⟨fields, hfields, hholds⟩
  · rintro ⟨fields, hfields, hholds⟩
    exact exists_read hfields hholds
  · obtain ⟨fields, es, roll, hfields, -, hes, hroll, htable⟩ := exists_of_read ht
    exact ⟨fields, es, roll, hfields, hes, hroll, htable⟩
  · rintro outer fields hlords rfl hwrapped hbare
    have hfields : StandsFor d.chamber (.obj outer) fields := hlords ▸ .wrapped hwrapped
    exact read_eq_of_standsFor hfields (.bare fun _ => hbare)

/-- Lists of the Lords in which the member `7` is listed twice and one list is lacking. -/
def sampleLists : List (String × Json) :=
  [("contents", .arr [.obj [("memberId", .int 7)], .obj [("memberId", .str " +8 ")]]),
    ("notContents", .null),
    ("noVoteRecorded", .arr [.obj [("memberId", .str "07")], .obj [("memberId", .int (-9))]])]

def sampleTable : Table :=
  ⟨[⟨"member_id", .numeric, [.int 7, .int 8, .int (-9)]⟩,
    ⟨"vote", .categorical, [.text "AYE", .text "AYE", .text "ABSTAIN"]⟩], 3⟩

theorem read_exact_sample :
    let d : Division := ⟨1, .lords⟩
    let payload : Json := .obj [("divisionId", .int 1), ("division", .obj sampleLists)]
    read d payload = .ok sampleTable ∧
    (∃ fields es roll, StandsFor .lords payload fields ∧
      AreEntries "memberId" (listed fields (RollLayout.ofChamber .lords).lists) es ∧
      IsFirstOf es roll ∧ Tabulates roll.votes sampleTable ∧
      roll.votes = [(7, .aye), (8, .aye), (-9, .abstain)]) ∧
    read d payload = read d (.obj sampleLists) ∧
    ∃ fault, read d .null = .error fault ∧ fault.division = d ∧
      fault.cause.isRetryable = false := by
  intro d payload
  have htable : read d payload = .ok sampleTable := rfl
  obtain ⟨-, hread, -, hwrapped⟩ := read_exact d payload
  obtain ⟨fields, es, roll, hfields, hes, hroll, htabulates, -⟩ := hread sampleTable htable
  have hvotes : roll.votes = [(7, .aye), (8, .aye), (-9, .abstain)] :=
    htabulates.unique (tabulates_toTable ⟨[(7, .aye), (8, .aye), (-9, .abstain)]⟩)
  exact ⟨htable, ⟨fields, es, roll, hfields, hes, hroll, htabulates, hvotes⟩,
    hwrapped _ sampleLists rfl rfl rfl nofun, _, rfl, (read_exact d .null).2.2.1 _ rfl⟩

end Fetcher
end RollCall
