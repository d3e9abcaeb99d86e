import RollCall.Votes.Fetch

/-!
# The matrix of votes

One row for every member seen in any of several divisions, and one column of weights for every
division. A member weighs nothing in a division that does not record them.
-/
namespace RollCall

structure Weights where
  aye : Cell := .int 0
  no : Cell := .int 0
  abstain : Cell := .int 0
deriving DecidableEq

namespace Weights

def weight (w : Weights) : Vote → Cell
  | .aye => w.aye
  | .no => w.no
  | .abstain => w.abstain

def set (w : Weights) (vote : Vote) (c : Cell) : Weights :=
  match vote with
  | .aye => { w with aye := c }
  | .no => { w with no := c }
  | .abstain => { w with abstain := c }

theorem weight_set (w : Weights) (vote other : Vote) (c : Cell) :
    (w.set vote c).weight other = if other = vote then c else w.weight other := by
  cases vote <;> cases other <;> rfl

end Weights

namespace VoteMatrix

/-- The weight of a row of a roll; a row without a member or a vote has none. -/
def score? (w : Weights) (member vote : Cell) : Except Failure (Option (Int64 × Cell)) :=
  match member, vote with
  | .int m, .text word =>
    match Vote.ofWord word with
    | .ok v => .ok (some (m, w.weight v))
    | .error fault => .error (.other (.word fault))
  | _, _ => .ok none

def scores (w : Weights) (division : Nat) (roll : Table) : Except Failure (List (Int64 × Cell)) :=
  match roll.column? Roll.memberColumn, roll.column? Roll.voteColumn with
  | some members, some votes => do
    let rows ← (members.cells.zip votes.cells).mapM fun (m, v) => score? w m v
    return rows.filterMap id
  | _, _ => .error (.other (.rollColumns division))

/-- The weights of the members of several divisions of a chamber, fetched in order. -/
def gather (f : Fetcher) (w : Weights) (chamber : Chamber) :
    List Nat → VoteState → Fetching (List (Nat × List (Int64 × Cell)))
  | [], s => ⟨.ok [], s, []⟩
  | id :: ids, s =>
    let fetched := f.fetch ⟨id, chamber⟩ s
    match fetched.result.bind (scores w id) with
    | .error failure => ⟨.error failure, fetched.state, fetched.events⟩
    | .ok found =>
      let rest := gather f w chamber ids fetched.state
      ⟨rest.result.map ((id, found) :: ·), rest.state, fetched.events ++ rest.events⟩

def members (divisions : List (Nat × List (Int64 × Cell))) : List Int64 :=
  ((divisions.flatMap fun d => d.2.map Prod.fst).mergeSort fun a b => a.toInt ≤ b.toInt).eraseDups

/-- The weight of a member in a division, the last one if there are several. -/
def weightOf (found : List (Int64 × Cell)) (m : Int64) : Cell :=
  ((found.reverse.find? fun entry => entry.1 = m).map Prod.snd).getD (.int 0)

def columns (namesPrefix : String) (divisions : List (Nat × List (Int64 × Cell))) : List Column :=
  let ms := members divisions
  ⟨Roll.memberColumn, .numeric, ms.map .int⟩ ::
    divisions.map fun (id, found) => ⟨namesPrefix ++ toString id, .numeric, ms.map (weightOf found)⟩

def table (namesPrefix : String) (divisions : List (Nat × List (Int64 × Cell))) :
    Except Failure Table :=
  match Table.ofColumns (columns namesPrefix divisions) with
  | .ok t => .ok t
  | .error fault => .error (.other (.table fault))

/-- The matrix of the given divisions, each of which is fetched once. -/
def build (f : Fetcher) (ids : List Nat) (chamber : Chamber) (w : Weights) (namesPrefix : String)
    (s : VoteState) : Fetching Table :=
  let gathered := gather f w chamber ids.eraseDups s
  { gathered with result := gathered.result.bind (table namesPrefix) }

end VoteMatrix
end RollCall
