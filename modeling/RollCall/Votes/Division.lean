import RollCall.Parliament

/-!
# Divisions and faults of fetching

A division is a vote of one chamber, known by its number. Fetching its roll may fail on the way or
because the answer is not understood; some failures may pass if the request is made again.
-/
namespace RollCall

structure Division where
  id : Nat
  chamber : Chamber
deriving DecidableEq

inductive PayloadFault
  | notObject
  | noList (names : List String)
  | notList (name : String)
  | badEntry (list idField : String)
deriving DecidableEq

def PayloadFault.message : PayloadFault → String
  | notObject => "payload is not a JSON object"
  | noList names => "payload has none of the vote lists " ++ ", ".intercalate names
  | notList name => s!"'{name}' is not a list"
  | badEntry list idField => s!"entry in '{list}' has no usable '{idField}'"

inductive FetchCause
  /-- No connection could be made. -/
  | unreachable
  | timedOut (seconds : Nat)
  | badStatus (status : Nat) (body : String)
  | notJson (reason : String)
  | badPayload (fault : PayloadFault)
  /-- A cause known by its wording only. -/
  | stated (text : String) (retryable : Bool)
deriving DecidableEq

namespace FetchCause

/-- The start of a body that is kept in a message. -/
def excerpt (body : String) : String :=
  Text.trim (String.ofList (body.toList.take 200))

def message : FetchCause → String
  | unreachable => "error sending request"
  | timedOut seconds => s!"request timed out after {seconds}s"
  | badStatus status body =>
    if (excerpt body).isEmpty then s!"HTTP {status}" else s!"HTTP {status}: {excerpt body}"
  | notJson reason => s!"response is not valid JSON: {reason}"
  | badPayload fault => fault.message
  | stated text _ => text

/-- Whether the same request may succeed later: the connection failed, or the server is busy or in
trouble. -/
def isRetryable : FetchCause → Bool
  | unreachable | timedOut _ => true
  | badStatus status _ => status == 429 || (500 ≤ status && status < 600)
  | notJson _ | badPayload _ => false
  | stated _ retryable => retryable

end FetchCause

structure FetchFault where
  division : Division
  cause : FetchCause
deriving DecidableEq

def FetchFault.message (f : FetchFault) : String :=
  s!"Fetching {f.division.chamber.name} division {f.division.id} failed: {f.cause.message}"

end RollCall
