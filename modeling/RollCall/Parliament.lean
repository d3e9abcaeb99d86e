import RollCall.Json.Basic
import RollCall.Text.Blank
import RollCall.Text.Lowercase

/-!
# Parliamentary vocabulary

The two houses and the three ways in which a member is recorded in a division. Each has one written
name, further names under which it may be given, and a form in JSON documents.
-/
namespace RollCall

inductive WordFault
  | unknownChamber (word : String)
  | unknownVote (word : String)
deriving DecidableEq

def WordFault.message : WordFault → String
  | .unknownChamber word => s!"unknown chamber '{word}'"
  | .unknownVote word => s!"unknown vote choice '{word}'"

/-- The value a JSON document names, alone or as the only key of an object that holds `null`. -/
def namedIn (named : String → Option α) : Json → Option α
  | .str s => named s
  | .obj [(s, .null)] => named s
  | _ => none

inductive Chamber
  | commons
  | lords
deriving DecidableEq

namespace Chamber

def name : Chamber → String
  | commons => "commons"
  | lords => "lords"

/-- The number of the house: the Commons are the first. -/
def houseNumber : Chamber → Nat
  | commons => 1
  | lords => 2

def ofHouseNumber? : Nat → Option Chamber
  | 1 => some commons
  | 2 => some lords
  | _ => none

/-- The chamber of a name or house number, without regard to case and outer white space. -/
def ofWord (s : String) : Except WordFault Chamber :=
  match Text.asciiLower (Text.trim s) with
  | "commons" | "1" => .ok commons
  | "lords" | "2" => .ok lords
  | word => .error (.unknownChamber word)

def ofName? : String → Option Chamber
  | "commons" => some commons
  | "lords" => some lords
  | _ => none

theorem ofName?_name (c : Chamber) : ofName? c.name = some c := by
  cases c <;> rfl

theorem ofHouseNumber?_houseNumber (c : Chamber) : ofHouseNumber? c.houseNumber = some c := by
  cases c <;> rfl

end Chamber

inductive Vote
  | aye
  | no
  | abstain
deriving DecidableEq

namespace Vote

def all : List Vote := [aye, no, abstain]

def name : Vote → String
  | aye => "AYE"
  | no => "NO"
  | abstain => "ABSTAIN"

/-- The vote of a name used in either house, without regard to case and outer white space. -/
def ofWord (s : String) : Except WordFault Vote :=
  match Text.asciiUpper (Text.trim s) with
  | "AYE" | "CONTENT" => .ok aye
  | "NO" | "NOT_CONTENT" | "NOTCONTENT" => .ok no
  | "ABSTAIN" | "NOTREC" => .ok abstain
  | word => .error (.unknownVote word)

def ofName? : String → Option Vote
  | "AYE" => some aye
  | "NO" => some no
  | "ABSTAIN" => some abstain
  | _ => none

theorem ofName?_name (v : Vote) : ofName? v.name = some v := by
  cases v <;> rfl

end Vote
end RollCall
