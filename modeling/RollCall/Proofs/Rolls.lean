import RollCall.Proofs.Fetching
import RollCall.Proofs.Tables

/-!
# What rolls record

The table of a roll that has been read from a payload records every member at most once, and the
votes in it are words that are read back. Scoring such a table therefore never fails, and weighs
each member by the vote it records.
-/
namespace RollCall

private theorem Vote.ofWord_name (v : Vote) : ofWord v.name = .ok v := by
  have hword : Text.asciiUpper (Text.trim v.name) = v.name := by cases v <;> decide +kernel
  rw [ofWord, hword]
  cases v <;> rfl

private theorem Vote.name_injective : Function.Injective name := by
  intro v v' h
  have hname : some v = some v' := by rw [← ofName?_name, h, ofName?_name]
  exact Option.some.inj hname

namespace Table

/-- The table of the roll in a payload. -/
def IsRoll (t : Table) : Prop :=
  ∃ chamber payload roll, Roll.ofPayload chamber payload = .ok roll ∧ t = roll.toTable

/-- A member and a vote stand in one row. -/
def Records (t : Table) (m : Int64) (v : Vote) : Prop :=
  ∃ i, t.cell? i Roll.memberColumn = some (.int m) ∧
    t.cell? i Roll.voteColumn = some (.text v.name)

end Table

namespace Roll

variable {roll : Roll} {m : Int64} {v : Vote}

/-- Of several entries of a member the first one is kept, and none of a member seen before. -/
theorem nodup_firstEntries (seen : List Int64) (xs : List (Int64 × Vote)) :
    ((firstEntries seen xs).map Prod.fst).Nodup ∧
      ∀ m ∈ (firstEntries seen xs).map Prod.fst, m ∉ seen := by
  induction xs generalizing seen with
  | nil => exact ⟨List.nodup_nil, List.forall_mem_nil _⟩
  | cons x xs ih =>
    obtain ⟨m, v⟩ := x
    rw [firstEntries]
    split
    · exact ih seen
    · next hm =>
      obtain ⟨hnodup, hnew⟩ := ih (m :: seen)
      rw [List.map_cons]
      constructor
      · exact List.nodup_cons.mpr ⟨fun hmem => hnew m hmem List.mem_cons_self, hnodup⟩
      · refine List.forall_mem_cons.mpr ⟨hm, fun m' hm' hseen => ?_⟩
        exact hnew m' hm' (List.mem_cons_of_mem m hseen)

theorem nodup_of_ofPayload {chamber : Chamber} {payload : Json}
    (h : ofPayload chamber payload = .ok roll) : (roll.votes.map Prod.fst).Nodup := by
  rw [ofPayload] at h
  split at h
  · split at h
    · obtain ⟨entries, -, hroll⟩ := Outcome.bind_eq_ok.mp h
      cases hroll
      exact (nodup_firstEntries [] entries).1
    · cases h
  · cases h

/-- A fetched table is the table of a roll. -/
theorem gives_isRoll (f : Fetcher) : f.Gives fun _ t => t.IsRoll := by
  intro requests d i t h
  obtain ⟨payload, roll, hroll, ht⟩ := Fetcher.exists_of_request h
  exact ⟨d.chamber, payload, roll, hroll, ht⟩

theorem column?_member (roll : Roll) : roll.toTable.column? memberColumn =
    some ⟨memberColumn, .numeric, roll.votes.map fun (m, _) => .int m⟩ := rfl

theorem column?_vote (roll : Roll) : roll.toTable.column? voteColumn =
    some ⟨voteColumn, .categorical, roll.votes.map fun (_, v) => .text v.name⟩ := rfl

theorem records_toTable : roll.toTable.Records m v ↔ (m, v) ∈ roll.votes := by
  rw [Table.Records, List.mem_iff_getElem?]
  refine exists_congr fun i => ?_
  rw [Table.cell?, Table.cell?, column?_member, column?_vote]
  simp only [Option.bind_some, List.getElem?_map, Option.map_eq_some_iff]
  constructor
  · rintro ⟨⟨⟨m', v'⟩, hget, hm⟩, ⟨m'', v''⟩, hget', hv⟩
    rw [hget] at hget'
    cases hget'
    cases hm
    have hname : v' = v := Vote.name_injective (Cell.text.inj hv)
    rw [hget, hname]
  · intro hget
    exact ⟨⟨(m, v), hget, rfl⟩, (m, v), hget, rfl⟩

def weighed (w : Weights) (roll : Roll) : List (Int64 × Cell) :=
  roll.votes.map fun (m, v) => (m, w.weight v)

theorem map_fst_weighed (w : Weights) (roll : Roll) :
    (roll.weighed w).map Prod.fst = roll.votes.map Prod.fst := by
  simp [weighed, Function.comp_def]

theorem scores_toTable (w : Weights) (division : Nat) (roll : Roll) :
    VoteMatrix.scores w division roll.toTable = .ok (roll.weighed w) := by
  rw [VoteMatrix.scores, column?_member, column?_vote]
  refine Outcome.bind_eq_ok.mpr ⟨(roll.weighed w).map some, ?_, ?_⟩
  · rw [List.zip_map', Outcome.mapM_eq_ok, weighed, List.map_map, List.forall₂_map_left_iff,
      List.forall₂_map_right_iff, List.forall₂_same]
    rintro ⟨m, v⟩ -
    dsimp only [VoteMatrix.score?]
    rw [Vote.ofWord_name]
    rfl
  · refine congrArg Except.ok ?_
    rw [List.filterMap_map]
    exact List.filterMap_some

end Roll
end RollCall
