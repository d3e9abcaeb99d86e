import RollCall.Failure
import RollCall.Text.Integer
import RollCall.Text.Search
import RollCall.Votes.Backoff
import RollCall.Votes.Cache

/-!
# Settings for fetching

Where the rolls of the chambers are found and how they are fetched. The settings may be changed by
variables of the environment.
-/
namespace RollCall

/-- How rolls are fetched. In an address, the mark `{id}` stands for the number of the division. -/
structure Settings where
  commonsAddress : String := "https://commonsvotes-api.parliament.uk/data/division/\x7bid\x7d.json"
  lordsAddress : String := "https://lordsvotes-api.parliament.uk/data/Divisions/\x7bid\x7d"
  /-- The time that a request may take, in seconds. -/
  timeout : Nat := 6
  /-- How often a request is made at most, the first time included. -/
  attempts : Nat := 3
  backoff : Backoff := .standard
  cacheCapacity : Nat := Cache.standardCapacity
deriving DecidableEq

namespace Settings

/-- The variables for the addresses, the time limit, the attempts and the cache. -/
def commonsVariable : String := "WHIP_COMMONS_VOTES_URL"
def lordsVariable : String := "WHIP_LORDS_VOTES_URL"
def timeoutVariable : String := "WHIP_FETCH_TIMEOUT_SECS"
def attemptsVariable : String := "WHIP_FETCH_RETRIES"
def capacityVariable : String := "WHIP_VOTE_CACHE_CAPACITY"

def variableNames : List String :=
  [commonsVariable, lordsVariable, timeoutVariable, attemptsVariable, capacityVariable]

/-- The number a variable holds, or `standard` if it is not set. -/
def number (value? : String → Option String) (name : String) (standard : Nat) :
    Except Failure Nat :=
  match value? name with
  | none => .ok standard
  | some value =>
    match Text.toNatBelow? 0x10000000000000000 (Text.trim value) with
    | some n => .ok n
    | none => .error (.other (.setting name value))

def ofVariables (value? : String → Option String) : Except Failure Settings := do
  let standard : Settings := {}
  let timeout ← number value? timeoutVariable standard.timeout
  let attempts ← number value? attemptsVariable standard.attempts
  let cacheCapacity ← number value? capacityVariable standard.cacheCapacity
  return { standard with
    commonsAddress := (value? commonsVariable).getD standard.commonsAddress
    lordsAddress := (value? lordsVariable).getD standard.lordsAddress
    timeout, attempts, cacheCapacity }

def address (s : Settings) (d : Division) : String :=
  let pattern :=
    match d.chamber with
    | .commons => s.commonsAddress
    | .lords => s.lordsAddress
  Text.replace pattern "\x7bid\x7d" (toString d.id)

end Settings
end RollCall
