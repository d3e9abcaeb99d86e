import RollCall.Operation.Execution
import RollCall.Proofs.Fetching

/-!
# Sources with fixed answers

If a source answers every request for a division alike, and the cache holds only rolls from these
answers, then what is fetched does not depend on the cache, its capacity or the requests made
before. Nor does the outcome of any operation.
-/
namespace RollCall

namespace Fetcher

variable {f : Fetcher} {answer : Division → Except Failure Json} {s s' : VoteState}

/-- The source gives the same answer to every request for a division. -/
def Answers (f : Fetcher) (answer : Division → Except Failure Json) : Prop :=
  ∀ requests d, f.source requests d = answer d

def rollOf (answer : Division → Except Failure Json) (d : Division) :
    Except Failure Table :=
  match answer d with
  | .ok payload => (read d payload).mapError .fetch
  | .error failure => .error failure

/-- The cache holds rolls from the answers only. -/
def Remembers (answer : Division → Except Failure Json) (s : VoteState) : Prop :=
  s.cache.Holds fun d t => rollOf answer d = .ok t

theorem Answers.request_eq (hf : f.Answers answer) (requests : List Division) (d : Division)
    (i : Nat) : f.request requests d i = rollOf answer d := by
  rw [request, hf]
  rfl

theorem Answers.gives (hf : f.Answers answer) : f.Gives fun d t => rollOf answer d = .ok t := by
  intro requests d i t h
  rw [← hf.request_eq requests d i, h]

private theorem Answers.result_retrieve (hf : f.Answers answer) (requests : List Division)
    (d : Division) : (f.retrieve requests d).result = rollOf answer d := by
  obtain ⟨i, hi⟩ := Trial.exists_runFrom f.backoff Failure.isRetryable
    (f.request requests d) (f.attempts - 1) 0
  exact hi.trans (hf.request_eq requests d i)

/-- Fetching gives the roll in the answer, from the cache or not. -/
theorem Answers.result_fetch (hf : f.Answers answer) (hs : Remembers answer s) (d : Division) :
    (f.fetch d s).result = rollOf answer d := by
  rw [fetch, Cache.get]
  cases hfind : Cache.find? d s.cache.entries with
  | some t =>
    exact (hs.of_find? hfind).symm
  | none =>
    dsimp only
    rw [hf.result_retrieve]
    cases rollOf answer d <;> rfl

private theorem Answers.remembers_fetch (hf : f.Answers answer) (hs : Remembers answer s)
    (d : Division) : Remembers answer (f.fetch d s).state :=
  (hf.gives.fetch hs d).2

end Fetcher

open Fetcher (Remembers)

variable {f : Fetcher} {answer : Division → Except Failure Json} {s s' : VoteState}

namespace VoteMatrix

private theorem result_gather (hf : f.Answers answer) (w : Weights) (chamber : Chamber)
    (ids : List Nat) (hs : Remembers answer s) (hs' : Remembers answer s') :
    (gather f w chamber ids s).result = (gather f w chamber ids s').result := by
  induction ids generalizing s s' with
  | nil => rfl
  | cons id ids ih =>
    have hrest := ih (hf.remembers_fetch hs ⟨id, chamber⟩) (hf.remembers_fetch hs' ⟨id, chamber⟩)
    simp only [gather, hf.result_fetch hs, hf.result_fetch hs']
    split
    · rfl
    · rw [hrest]

private theorem result_build (hf : f.Answers answer) (ids : List Nat) (chamber : Chamber)
    (w : Weights) (namesPrefix : String) (hs : Remembers answer s) (hs' : Remembers answer s') :
    (build f ids chamber w namesPrefix s).result =
      (build f ids chamber w namesPrefix s').result := by
  simp only [build, result_gather hf w chamber ids.eraseDups hs hs']

end VoteMatrix

namespace Operation

variable {c : Context}

/-- What comes of an operation is a matter of its context only. -/
theorem result_run [Library] (hf : c.fetcher.Answers answer) (hs : Remembers answer s)
    (hs' : Remembers answer s') (op : Operation) : (op.run c s).result = (op.run c s').result := by
  cases op with
  | divisionVotes p =>
    simp only [run, VoteMatrix.result_build hf p.divisions p.chamber p.weights p.namesPrefix hs hs']
  | _ => rfl

end Operation
end RollCall
