import Mathlib.Data.Int.Order.Basic
import Mathlib.Data.List.Induction
import Mathlib.Data.Nat.Basic
import RollCall.Proofs.Lists
import RollCall.Proofs.Rolls

/-!
# The matrix of the votes

The matrix of some divisions is made of their rolls alone, which are fetched one after another, each
once. It fails only where a fetch fails: every word in a roll is a vote, and the names of the
columns are distinct.
-/
namespace RollCall

variable {f : Fetcher} {w : Weights} {chamber : Chamber} {namesPrefix : String} {s : VoteState}

/-- The rolls of divisions of a chamber, fetched in order up to the first that fails. -/
def Fetcher.fetchAll (f : Fetcher) (chamber : Chamber) :
    List Nat → VoteState → Fetching (List (Nat × Table))
  | [], s => ⟨.ok [], s, []⟩
  | id :: ids, s =>
    let fetched := f.fetch ⟨id, chamber⟩ s
    match fetched.result with
    | .error failure => ⟨.error failure, fetched.state, fetched.events⟩
    | .ok roll =>
      let rest := fetchAll f chamber ids fetched.state
      ⟨rest.result.map ((id, roll) :: ·), rest.state, fetched.events ++ rest.events⟩

theorem Fetcher.map_fst_of_fetchAll {ids : List Nat} {rolls : List (Nat × Table)}
    (h : (f.fetchAll chamber ids s).result = .ok rolls) : rolls.map Prod.fst = ids := by
  induction ids generalizing s rolls with
  | nil =>
    cases h
    rfl
  | cons id ids ih =>
    rw [fetchAll] at h
    dsimp only at h
    split at h
    · cases h
    · obtain ⟨rest, hrest, rfl⟩ := Outcome.map_eq_ok.mp h
      rw [List.map_cons, ih hrest]

/-- Weights given one after another, a later one in the place of an earlier one. -/
def Weights.given (entries : List (Vote × Cell)) : Weights :=
  entries.foldl (fun w entry => w.set entry.1 entry.2) {}

/-- A vote without a weight weighs nothing. -/
theorem Weights.weight_given (entries : List (Vote × Cell)) (v : Vote) :
    (given entries).weight v =
      ((entries.reverse.find? fun entry => entry.1 = v).map Prod.snd).getD (.int 0) := by
  induction entries using List.reverseRecOn with
  | nil => cases v <;> rfl
  | append_singleton entries entry ih =>
    rw [given, List.foldl_concat, ← given, weight_set, List.reverse_concat, List.find?_cons]
    by_cases hv : entry.1 = v
    · simp [hv]
    · simp [hv, Ne.symm hv, ih]

namespace VoteMatrix

/-! ### Members -/

variable {m : Int64} {c : Cell} {found : List (Int64 × Cell)}
  {divisions : List (Nat × List (Int64 × Cell))}

private theorem mem_members : m ∈ members divisions ↔ ∃ d ∈ divisions, m ∈ d.2.map Prod.fst := by
  rw [members, List.mem_eraseDups, List.mem_mergeSort, List.mem_flatMap]

private theorem members_rising (divisions : List (Nat × List (Int64 × Cell))) :
    (members divisions).Pairwise (· < ·) := by
  rw [members]
  generalize divisions.flatMap (fun d => d.2.map Prod.fst) = ms
  have hsorted : (ms.mergeSort fun a b => a.toInt ≤ b.toInt).Pairwise fun a b =>
      decide (a.toInt ≤ b.toInt) = true := by
    refine List.pairwise_mergeSort (fun a b c => ?_) (fun a b => ?_) ms
    · simp only [decide_eq_true_eq]
      exact Int.le_trans
    · simp only [Bool.or_eq_true, decide_eq_true_eq]
      exact Int.le_total _ _
  obtain ⟨hsub, hdistinct⟩ :=
    eraseDups_sublist_and_nodup (ms.mergeSort fun a b => a.toInt ≤ b.toInt)
  refine ((hsorted.sublist hsub).and hdistinct).imp fun {a b} hab => ?_
  obtain ⟨hle, hne⟩ := hab
  have hne' : a.toInt ≠ b.toInt := fun h => hne (Int64.toInt_inj.mp h)
  exact Int64.lt_iff_toInt_lt.mpr (lt_of_le_of_ne (of_decide_eq_true hle) hne')

private theorem weightOf_eq (hnodup : (found.map Prod.fst).Nodup) (h : (m, c) ∈ found) :
    weightOf found m = c := by
  rw [weightOf]
  cases hfind : found.reverse.find? fun entry => entry.1 = m with
  | none =>
    have hnone := List.find?_eq_none.mp hfind (m, c) (List.mem_reverse.mpr h)
    simp at hnone
  | some entry =>
    have hm : entry.1 = m := by simpa using List.find?_some hfind
    have hmem : entry ∈ found := List.mem_reverse.mp (List.mem_of_find?_eq_some hfind)
    rw [List.inj_on_of_nodup_map hnodup hmem h hm]
    rfl

private theorem weightOf_of_notMem (h : m ∉ found.map Prod.fst) : weightOf found m = .int 0 := by
  have hfind : (found.reverse.find? fun entry => entry.1 = m) = none := by
    refine List.find?_eq_none.mpr fun entry hentry hm => h ?_
    have hentry' : entry ∈ found := List.mem_reverse.mp hentry
    exact of_decide_eq_true hm ▸ List.mem_map_of_mem hentry'
  rw [weightOf, hfind]
  rfl

/-! ### Columns -/

private theorem toString_injective : Function.Injective fun n : Nat => toString n := by
  intro m n h
  have hdigits : Nat.toDigits 10 m = Nat.toDigits 10 n :=
    Nat.toList_repr.symm.trans ((congrArg String.toList h).trans Nat.toList_repr)
  rw [← Nat.ofDigitChars_toDigits (b := 10) (n := m) (by decide) le_rfl, hdigits,
    Nat.ofDigitChars_toDigits (by decide) le_rfl]

/-- The name of a division ends in a digit. -/
theorem append_toString_ne_memberColumn (namesPrefix : String) (id : Nat) :
    namesPrefix ++ toString id ≠ Roll.memberColumn := by
  intro h
  have hdigits : (toString id).toList = Nat.toDigits 10 id := Nat.toList_repr
  have hlists : namesPrefix.toList ++ Nat.toDigits 10 id = Roll.memberColumn.toList := by
    rw [← h, String.toList_append, hdigits]
  have hlast : (Nat.toDigits 10 id).getLast Nat.toDigits_ne_nil = 'd' := by
    have hlast? := congrArg List.getLast? hlists
    rw [List.getLast?_append_of_ne_nil _ Nat.toDigits_ne_nil,
      List.getLast?_eq_some_getLast Nat.toDigits_ne_nil] at hlast?
    exact Option.some.inj hlast?
  have hdigit := Nat.isDigit_of_mem_toDigits (by decide) (by decide)
    (List.getLast_mem (Nat.toDigits_ne_nil (n := id) (b := 10)))
  rw [hlast] at hdigit
  exact absurd hdigit (by decide)

/-- The columns of distinct divisions make a table. -/
theorem table_eq (namesPrefix : String) (h : (divisions.map Prod.fst).Nodup) :
    table namesPrefix divisions =
      .ok ⟨columns namesPrefix divisions, (members divisions).length⟩ := by
  have hnames : (columns namesPrefix divisions).map Column.name =
      Roll.memberColumn :: (divisions.map Prod.fst).map fun id => namesPrefix ++ toString id := by
    simp [columns, Function.comp_def]
  have hinjective : Function.Injective fun id : Nat => namesPrefix ++ toString id :=
    fun _ _ heq => toString_injective ((String.append_right_inj namesPrefix).mp heq)
  have hok : Table.ofColumns (columns namesPrefix divisions) =
      .ok ⟨columns namesPrefix divisions, (members divisions).length⟩ := by
    refine Table.ofColumns_eq_ok.mpr ⟨⟨?_, ?_⟩, rfl, ?_⟩
    · rw [Table.names, hnames, List.nodup_cons]
      refine ⟨fun hmem => ?_, h.map hinjective⟩
      obtain ⟨id, -, hid⟩ := List.mem_map.mp hmem
      exact append_toString_ne_memberColumn namesPrefix id hid
    · intro c hc
      rcases List.mem_cons.mp hc with rfl | hc
      · exact List.length_map _
      · obtain ⟨division, -, rfl⟩ := List.mem_map.mp hc
        exact List.length_map _
    · simp [columns, Column.length]
  rw [table, hok]

/-! ### The matrix of some rolls -/

/-- A column of the weights of members in a division, whose roll records some of them. -/
structure IsDivisionColumn (w : Weights) (namesPrefix : String) (members : List Int64)
    (division : Nat × Table) (c : Column) : Prop where
  name_eq : c.name = namesPrefix ++ toString division.1
  kind_eq : c.kind = .numeric
  cells : List.Forall₂ (fun m cell =>
    (∀ v, division.2.Records m v → cell = w.weight v) ∧
      ((∀ v, ¬division.2.Records m v) → cell = .int 0)) members c.cells

/-- The matrix of divisions with their rolls: the members that any roll records, in rising order,
and a column of weights for every division. -/
structure IsMatrix (w : Weights) (namesPrefix : String) (rolls : List (Nat × Table))
    (members : List Int64) (t : Table) : Prop where
  rising : members.Pairwise (· < ·)
  mem_iff : ∀ m, m ∈ members ↔ ∃ division ∈ rolls, ∃ v, division.2.Records m v
  rowCount_eq : t.rowCount = members.length
  columns_eq : ∃ weighed,
    t.columns = ⟨Roll.memberColumn, .numeric, members.map .int⟩ :: weighed ∧
      List.Forall₂ (IsDivisionColumn w namesPrefix members) rolls weighed

/-- A division with the weights of the members that its roll records. -/
structure Weighs (w : Weights) (division : Nat × Table) (found : Nat × List (Int64 × Cell)) :
    Prop where
  id_eq : found.1 = division.1
  nodup : (found.2.map Prod.fst).Nodup
  recorded : ∀ m v, division.2.Records m v → (m, w.weight v) ∈ found.2
  mem_iff : ∀ m, m ∈ found.2.map Prod.fst ↔ ∃ v, division.2.Records m v

private theorem weighs_weighed {chamber : Chamber} {payload : Json} {roll : Roll} (w : Weights)
    (id : Nat) (h : Roll.ofPayload chamber payload = .ok roll) :
    Weighs w (id, roll.toTable) (id, roll.weighed w) where
  id_eq := rfl
  nodup := by
    rw [Roll.map_fst_weighed]
    exact Roll.nodup_of_ofPayload h
  recorded m v hrecords := by
    exact List.mem_map.mpr ⟨(m, v), Roll.records_toTable.mp hrecords, rfl⟩
  mem_iff m := by
    simp [Roll.map_fst_weighed, Roll.records_toTable]

/-- The weights of a division make its column. -/
theorem Weighs.isDivisionColumn {division : Nat × Table} {found : Nat × List (Int64 × Cell)}
    (h : Weighs w division found) (namesPrefix : String) (members : List Int64) :
    IsDivisionColumn w namesPrefix members division
      ⟨namesPrefix ++ toString found.1, .numeric, members.map (weightOf found.2)⟩ where
  name_eq := by rw [h.id_eq]
  kind_eq := rfl
  cells := by
    rw [List.forall₂_map_right_iff, List.forall₂_same]
    intro m _
    constructor
    · intro v hrecords
      exact weightOf_eq h.nodup (h.recorded m v hrecords)
    · intro hnone
      refine weightOf_of_notMem fun hmem => ?_
      obtain ⟨v, hv⟩ := (h.mem_iff m).mp hmem
      exact hnone v hv

/-- The weights of all divisions make the matrix of their rolls. -/
theorem isMatrix_of_weighs {rolls : List (Nat × Table)}
    (h : List.Forall₂ (Weighs w) rolls divisions) :
    IsMatrix w namesPrefix rolls (members divisions)
      ⟨columns namesPrefix divisions, (members divisions).length⟩ where
  rising := members_rising divisions
  mem_iff m := by
    rw [mem_members]
    constructor
    · rintro ⟨found, hfound, hm⟩
      obtain ⟨division, hdivision, hweighs⟩ := Outcome.exists_of_mem_right h hfound
      exact ⟨division, hdivision, (hweighs.mem_iff m).mp hm⟩
    · rintro ⟨division, hdivision, hm⟩
      obtain ⟨found, hfound, hweighs⟩ := Outcome.exists_of_mem_left h hdivision
      exact ⟨found, hfound, (hweighs.mem_iff m).mpr hm⟩
  rowCount_eq := rfl
  columns_eq := by
    refine ⟨_, rfl, ?_⟩
    rw [List.forall₂_map_right_iff]
    exact h.imp fun division found hweighs => hweighs.isDivisionColumn namesPrefix _

/-! ### Gathering -/

/-- What is gathered comes from the rolls that are fetched, and fails only where a fetch does. -/
structure Follows (w : Weights) (gathered : Fetching (List (Nat × List (Int64 × Cell))))
    (fetched : Fetching (List (Nat × Table))) : Prop where
  state_eq : gathered.state = fetched.state
  events_eq : gathered.events = fetched.events
  fails : ∀ failure, fetched.result = .error failure → gathered.result = .error failure
  succeeds : ∀ rolls, fetched.result = .ok rolls →
    ∃ found, gathered.result = .ok found ∧ List.Forall₂ (Weighs w) rolls found

private theorem follows_gather (f : Fetcher) (w : Weights) (chamber : Chamber) (ids : List Nat)
    (hs : s.cache.Holds fun _ t => t.IsRoll) :
    Follows w (gather f w chamber ids s) (f.fetchAll chamber ids s) := by
  induction ids generalizing s with
  | nil =>
    refine ⟨rfl, rfl, fun failure h => ?_, fun rolls h => ⟨[], rfl, ?_⟩⟩
    · cases h
    · cases h
      exact .nil
  | cons id ids ih =>
    obtain ⟨hrolls, hcache⟩ := (Roll.gives_isRoll f).fetch hs ⟨id, chamber⟩
    have hrest := ih hcache
    rw [gather, Fetcher.fetchAll]
    dsimp only
    cases hresult : (f.fetch ⟨id, chamber⟩ s).result with
    | error failure =>
      refine ⟨rfl, rfl, fun failure' h => ?_, fun rolls h => ?_⟩
      · cases h
        rfl
      · cases h
    | ok t =>
      obtain ⟨chamber', payload, roll, hroll, rfl⟩ := hrolls t hresult
      have hscores : (Except.ok roll.toTable).bind (scores w id) = .ok (roll.weighed w) :=
        Roll.scores_toTable w id roll
      rw [hscores]
      refine ⟨hrest.state_eq, ?_, fun failure h => ?_, fun rolls h => ?_⟩
      · rw [hrest.events_eq]
      · cases hfetched : (f.fetchAll chamber ids (f.fetch ⟨id, chamber⟩ s).state).result with
        | error failure' =>
          rw [hfetched] at h
          cases h
          dsimp only
          rw [hrest.fails _ hfetched]
          rfl
        | ok rolls =>
          rw [hfetched] at h
          cases h
      · obtain ⟨rolls, hfetched, rfl⟩ := Outcome.map_eq_ok.mp h
        obtain ⟨found, hfound, hall⟩ := hrest.succeeds rolls hfetched
        refine ⟨(id, roll.weighed w) :: found, ?_, .cons (weighs_weighed w id hroll) hall⟩
        dsimp only
        rw [hfound]
        rfl

/-- What is gathered where rolls are fetched. -/
theorem gather_eq {ids : List Nat} (rolls : List (Nat × Roll))
    (h : (f.fetchAll chamber ids s).result =
      .ok (rolls.map fun (id, roll) => (id, roll.toTable))) :
    gather f w chamber ids s = { f.fetchAll chamber ids s with
      result := .ok (rolls.map fun (id, roll) => (id, roll.weighed w)) } := by
  induction ids generalizing s rolls with
  | nil =>
    obtain rfl := List.map_eq_nil_iff.mp (Except.ok.inj h).symm
    rfl
  | cons id ids ih =>
    rw [gather, Fetcher.fetchAll] at *
    dsimp only at h ⊢
    cases hresult : (f.fetch ⟨id, chamber⟩ s).result with
    | error failure =>
      rw [hresult] at h
      cases h
    | ok t =>
      rw [hresult] at h
      obtain ⟨tables, htables, hrolls⟩ := Outcome.map_eq_ok.mp h
      obtain ⟨⟨id, roll⟩, rolls, rfl, hfirst, hrest⟩ := List.map_eq_cons_iff.mp hrolls.symm
      cases hfirst
      have hscores : (Except.ok roll.toTable).bind (scores w id) = .ok (roll.weighed w) :=
        Roll.scores_toTable w id roll
      rw [hscores, ih rolls (htables.trans (congrArg Except.ok hrest.symm))]
      rfl

/-- The matrix of divisions whose rolls are fetched. -/
theorem build_eq {ids : List Nat} (rolls : List (Nat × Roll))
    (h : (f.fetchAll chamber ids.eraseDups s).result =
      .ok (rolls.map fun (id, roll) => (id, roll.toTable)))
    {divisions : List (Nat × List (Int64 × Cell))} {ms : List Int64}
    (hmembers : members divisions = ms)
    (hdivisions : rolls.map (fun (id, roll) => (id, roll.weighed w)) = divisions) :
    build f ids chamber w namesPrefix s = { f.fetchAll chamber ids.eraseDups s with
      result := .ok ⟨⟨Roll.memberColumn, .numeric, ms.map .int⟩ :: divisions.map fun (id, found) =>
        ⟨namesPrefix ++ toString id, .numeric, ms.map (weightOf found)⟩, ms.length⟩ } := by
  subst hdivisions hmembers
  have hids : (rolls.map fun (id, roll) => (id, roll.weighed w)).map Prod.fst = ids.eraseDups := by
    rw [← Fetcher.map_fst_of_fetchAll h, List.map_map, List.map_map]
    rfl
  have htable := table_eq namesPrefix (hids ▸ (eraseDups_sublist_and_nodup ids).2)
  rw [build, gather_eq rolls h]
  exact congrArg (fun result => Fetching.mk result _ _) htable

/-- If the cache holds only rolls of payloads, the matrix of some divisions fails exactly where one
of their fetches does, and as that does. Otherwise it is the matrix of the rolls fetched, each once
and in order; a vote weighs what it was given last, or nothing. -/
theorem build_exact (f : Fetcher) (ids : List Nat) (chamber : Chamber)
    (given : List (Vote × Cell)) (namesPrefix : String) (s : VoteState)
    (hs : s.cache.Holds fun _ t => t.IsRoll) :
    let w := Weights.given given
    let fetched := f.fetchAll chamber ids.eraseDups s
    let built := build f ids chamber w namesPrefix s
    built.state = fetched.state ∧ built.events = fetched.events ∧
      (∀ failure, built.result = .error failure ↔ fetched.result = .error failure) ∧
      (∀ rolls, fetched.result = .ok rolls → rolls.map Prod.fst = ids.eraseDups ∧
        ∃ t members, built.result = .ok t ∧ IsMatrix w namesPrefix rolls members t) ∧
      ∀ v, w.weight v =
        ((given.reverse.find? fun entry => entry.1 = v).map Prod.snd).getD (.int 0) := by
  intro w fetched built
  have hfollows := follows_gather f w chamber ids.eraseDups hs
  have hok : ∀ rolls, fetched.result = .ok rolls → rolls.map Prod.fst = ids.eraseDups ∧
      ∃ t members, built.result = .ok t ∧ IsMatrix w namesPrefix rolls members t := by
    intro rolls hrolls
    obtain ⟨found, hfound, hweighs⟩ := hfollows.succeeds rolls hrolls
    have hids := Fetcher.map_fst_of_fetchAll hrolls
    have hdistinct : (found.map Prod.fst).Nodup := by
      have heq : found.map Prod.fst = rolls.map Prod.fst := by
        rw [← List.forall₂_eq_eq_eq, List.forall₂_map_left_iff, List.forall₂_map_right_iff]
        exact hweighs.flip.imp fun _ _ h => h.id_eq
      rw [heq, hids]
      exact (eraseDups_sublist_and_nodup ids).2
    refine ⟨hids, _, _, ?_, isMatrix_of_weighs hweighs⟩
    exact Outcome.dotBind_eq_ok.mpr ⟨found, hfound, table_eq namesPrefix hdistinct⟩
  have hfails : ∀ failure, fetched.result = .error failure → built.result = .error failure := by
    intro failure h
    simp only [built, build, hfollows.fails failure h]
    rfl
  refine ⟨hfollows.state_eq, hfollows.events_eq, fun failure => ⟨fun h => ?_, hfails failure⟩, hok,
    Weights.weight_given given⟩
  cases hfetched : fetched.result with
  | error failure' =>
    have heq := (hfails failure' hfetched).symm.trans h
    rw [Except.error.inj heq]
  | ok rolls =>
    obtain ⟨-, t, members, ht, -⟩ := hok rolls hfetched
    have heq := ht.symm.trans h
    cases heq

def sampleRoll : Roll := ⟨[(5, .no), (3, .abstain)]⟩

def sampleState : VoteState where
  cache := (Cache.empty 2).put ⟨7, .commons⟩ sampleRoll.toTable

def sampleFetcher : Fetcher where
  source := fun _ _ => .ok (.obj [("Ayes", .arr [.obj [("MemberId", .int 5)]])])

def sampleMatrix : Table :=
  ⟨[⟨"member_id", .numeric, [.int 3, .int 5]⟩, ⟨"d1", .numeric, [.int 0, .int 1]⟩,
    ⟨"d7", .numeric, [.int 0, .int (-1)]⟩], 2⟩

theorem build_exact_sample :
    sampleState.cache.Holds (fun _ t => t.IsRoll) ∧
      (build sampleFetcher [1, 7, 1] .commons (.given [(.no, .int (-1)), (.aye, .int 1)]) "d"
        sampleState).result = .ok sampleMatrix ∧
      ∃ members, IsMatrix (.given [(.no, .int (-1)), (.aye, .int 1)]) "d"
        [(1, Roll.toTable ⟨[(5, .aye)]⟩), (7, sampleRoll.toTable)] members sampleMatrix := by
  have hroll : sampleRoll.toTable.IsRoll :=
    ⟨.commons, .obj [("Noes", .arr [.obj [("MemberId", .int 5)]]),
      ("NoVoteRecorded", .arr [.obj [("MemberId", .str "3")]])], sampleRoll, rfl, rfl⟩
  have hs : sampleState.cache.Holds fun _ t => t.IsRoll := (Cache.holds_empty 2).put hroll
  have hfetched : (sampleFetcher.fetchAll .commons [1, 7, 1].eraseDups sampleState).result =
      .ok [(1, Roll.toTable ⟨[(5, .aye)]⟩), (7, sampleRoll.toTable)] := rfl
  have hmembers : members [(1, [(5, .int 1)]), (7, [(5, .int (-1)), (3, .int 0)])] = [3, 5] := by
    simp [members, List.mergeSort, List.eraseDups_cons]
  obtain ⟨-, -, -, hmatrix, -⟩ := build_exact sampleFetcher [1, 7, 1] .commons
    [(.no, .int (-1)), (.aye, .int 1)] "d" sampleState hs
  obtain ⟨-, t, members, ht, hmatrix⟩ := hmatrix _ hfetched
  have hbuilt : (build sampleFetcher [1, 7, 1] .commons (.given [(.no, .int (-1)), (.aye, .int 1)])
      "d" sampleState).result = .ok sampleMatrix := by
    rw [build_eq [(1, ⟨[(5, .aye)]⟩), (7, sampleRoll)] hfetched hmembers rfl]
    rfl
  cases hbuilt.symm.trans ht
  exact ⟨hs, hbuilt, members, hmatrix⟩

end VoteMatrix
end RollCall
