import RollCall.Failure
import RollCall.Json.Reader
import RollCall.Votes.Cache
import RollCall.Votes.Retry
import RollCall.Votes.Roll

/-!
# Fetching rolls

A roll is taken from the cache if it is there. Otherwise it is requested, again if need be, and put
into the cache once it has been read. What a source answers may depend on the requests it has had,
so these are kept.
-/
namespace RollCall

inductive Response
  | refused
  | timedOut
  | reply (status : Nat) (body : String)
deriving DecidableEq

/-- The payload in a response to a request that may take `timeout` seconds. -/
def Response.payload [Library] (timeout : Nat) : Response → Except FetchCause Json
  | refused => .error .unreachable
  | timedOut => .error (.timedOut timeout)
  | reply status body =>
    if 200 ≤ status ∧ status < 300 then
      match Json.read? body with
      | some v => .ok v
      | none => .error (.notJson (Library.syntaxFault body))
    else
      .error (.badStatus status body)

inductive FetchEvent
  | fetched (division : Division) (members : Nat)
  | cacheHit (division : Division)
  /-- An attempt, counted from one, has failed and is repeated. -/
  | retrying (division : Division) (attempt : Nat)
deriving DecidableEq

/-- The answer to a request for a division after the given earlier requests. A source is free to
fail in any way. -/
abbrev Source := List Division → Division → Except Failure Json

structure Fetcher where
  source : Source
  attempts : Nat := 3
  backoff : Backoff := .standard

/-- What a fetcher remembers. -/
structure VoteState where
  cache : Cache Table
  /-- The requests made so far, the latest last. -/
  requests : List Division := []

/-- The outcome of fetching something, with what was remembered and noted on the way. -/
structure Fetching (α : Type) where
  result : Except Failure α
  state : VoteState
  events : List FetchEvent

namespace Fetcher

def read (d : Division) (payload : Json) : Except FetchFault Table :=
  match Roll.ofPayload d.chamber payload with
  | .ok roll => .ok roll.toTable
  | .error fault => .error ⟨d, .badPayload fault⟩

/-- The outcome of the request for a division after `i` failed requests for it. -/
def request (f : Fetcher) (requests : List Division) (d : Division) (i : Nat) :
    Except Failure Table :=
  match f.source (requests ++ List.replicate i d) d with
  | .ok payload => (read d payload).mapError .fetch
  | .error failure => .error failure

def retrieve (f : Fetcher) (requests : List Division) (d : Division) : Trial Failure Table :=
  Trial.run f.attempts f.backoff Failure.isRetryable (f.request requests d)

def fetch (f : Fetcher) (d : Division) (s : VoteState) : Fetching Table :=
  match s.cache.get d with
  | (some t, cache) => ⟨.ok t, { s with cache }, [.cacheHit d]⟩
  | (none, _) =>
    let trial := f.retrieve s.requests d
    let requests := s.requests ++ List.replicate trial.calls d
    let retries := trial.retries.map fun r => FetchEvent.retrying d r.attempt
    match trial.result with
    | .ok t => ⟨.ok t, ⟨s.cache.put d t, requests⟩, retries ++ [.fetched d t.rowCount]⟩
    | .error failure => ⟨.error failure, { s with requests }, retries⟩

end Fetcher
end RollCall
