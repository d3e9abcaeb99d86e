import RollCall.Table.Basic
import RollCall.Text.Integer
import RollCall.Votes.Division

/-!
# Rolls

The roll of a division: its members, each with a vote. `Roll.ofPayload` reads one from what a
chamber publishes, which is three lists of entries. A member who is listed twice is recorded with
the first entry.
-/
namespace RollCall

/-- How a chamber writes a roll: the names of its lists with the votes they record, and the name of
the field that identifies a member. -/
structure RollLayout where
  lists : List (String × Vote)
  idField : String

namespace RollLayout

def ofChamber : Chamber → RollLayout
  | .commons => ⟨[("Ayes", .aye), ("Noes", .no), ("NoVoteRecorded", .abstain)], "MemberId"⟩
  | .lords =>
    ⟨[("contents", .aye), ("notContents", .no), ("noVoteRecorded", .abstain)], "memberId"⟩

end RollLayout

/-- The members of a division with their votes, in the order of the record. -/
structure Roll where
  votes : List (Int64 × Vote)
deriving DecidableEq

namespace Roll

/-- The number of a member, given as an integer or as its text. -/
def member? : Json → Option Int64
  | .int n => Checked.ofInt? n
  | .str s => (Text.toInt? (Text.trim s)).bind Checked.ofInt?
  | _ => none

/-- The object that holds the lists. The Lords may wrap it in a field. -/
def body (chamber : Chamber) (payload : Json) : Json :=
  match chamber, payload.get? "division" with
  | .lords, some (.obj fields) => .obj fields
  | _, _ => payload

def entryMember (idField list : String) (entry : Json) : Except PayloadFault Int64 :=
  match (entry.get? idField).bind member? with
  | some m => .ok m
  | none => .error (.badEntry list idField)

def listMembers (fields : List (String × Json)) (idField list : String) :
    Except PayloadFault (List Int64) :=
  match Json.lookup list fields with
  | none | some .null => .ok []
  | some (.arr entries) => entries.mapM (entryMember idField list)
  | some _ => .error (.notList list)

def entries (fields : List (String × Json)) (idField : String) :
    List (String × Vote) → Except PayloadFault (List (Int64 × Vote))
  | [] => .ok []
  | (list, vote) :: lists => do
    let members ← listMembers fields idField list
    return members.map (·, vote) ++ (← entries fields idField lists)

/-- The entries whose member is not among `seen` or the entries before. -/
def firstEntries (seen : List Int64) : List (Int64 × Vote) → List (Int64 × Vote)
  | [] => []
  | (m, vote) :: rest =>
    if m ∈ seen then firstEntries seen rest else (m, vote) :: firstEntries (m :: seen) rest

def ofPayload (chamber : Chamber) (payload : Json) : Except PayloadFault Roll :=
  let layout := RollLayout.ofChamber chamber
  match body chamber payload with
  | .obj fields =>
    if layout.lists.any fun list => (Json.lookup list.1 fields).isSome then do
      return ⟨firstEntries [] (← entries fields layout.idField layout.lists)⟩
    else
      .error (.noList (layout.lists.map Prod.fst))
  | _ => .error .notObject

def memberColumn : String := "member_id"

def voteColumn : String := "vote"

def toTable (r : Roll) : Table where
  columns :=
    [⟨memberColumn, .numeric, r.votes.map fun (m, _) => .int m⟩,
     ⟨voteColumn, .categorical, r.votes.map fun (_, vote) => .text vote.name⟩]
  rowCount := r.votes.length

theorem toTable_wellFormed (r : Roll) : r.toTable.WellFormed where
  nodup := by simp [toTable, Table.names, memberColumn, voteColumn]
  length_eq := by simp [toTable, Column.length]

end Roll
end RollCall
