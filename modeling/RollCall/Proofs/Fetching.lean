import RollCall.Operation.Execution
import RollCall.Proofs.Entries
import RollCall.Proofs.Outcome

/-!
# What a cache holds

A property of rolls that every fetched one has is a property of all rolls in the cache, whatever is
put, used or evicted, and so of every roll that fetching gives.
-/
namespace RollCall

namespace Trial

variable {ε α : Type}

/-- The outcome of a trial is that of one of its calls. -/
theorem exists_runFrom (policy : Backoff) (mayPass : ε → Bool) (call : Nat → Except ε α)
    (left i : Nat) :
    ∃ j, (runFrom policy mayPass call left i).result = call j := by
  induction left generalizing i with
  | zero => exact ⟨i, rfl⟩
  | succ left ih =>
    rw [runFrom]
    cases hcall : call i with
    | ok v => exact ⟨i, hcall.symm⟩
    | error e =>
      by_cases hpass : mayPass e
      · obtain ⟨j, hj⟩ := ih (i + 1)
        exact ⟨j, by simpa [hpass] using hj⟩
      · exact ⟨i, by simpa [hpass] using hcall.symm⟩

end Trial

namespace Cache

variable {α : Type} {P : Division → α → Prop} {c : Cache α} {d : Division} {v : α}

def Holds (P : Division → α → Prop) (c : Cache α) : Prop :=
  ∀ entry ∈ c.entries, P entry.1 entry.2

theorem holds_empty (capacity : Nat) : (empty capacity : Cache α).Holds P :=
  fun _ h => absurd h List.not_mem_nil

theorem Holds.touch (h : c.Holds P) (d : Division) : (c.touch d).Holds P := h

private theorem Holds.evict (h : c.Holds P) : c.evict.Holds P := by
  rw [Cache.evict]
  split
  · exact fun entry hentry => h entry (List.mem_filter.mp hentry).1
  · exact h

private theorem Holds.makeRoom (h : c.Holds P) (n : Nat) : (makeRoom n c).Holds P := by
  induction n generalizing c with
  | zero => exact h
  | succ n ih =>
    rw [Cache.makeRoom]
    split
    · exact ih h.evict
    · exact h

theorem Holds.put (h : c.Holds P) (hv : P d v) : (c.put d v).Holds P := by
  rw [Cache.put]
  split
  · exact h
  · refine Holds.touch (fun entry hentry => ?_) d
    rcases List.mem_cons.mp hentry with rfl | hentry
    · exact hv
    · have hold := (List.mem_filter.mp hentry).1
      split at hold
      · exact h entry hold
      · exact h.makeRoom c.size entry hold

theorem Holds.of_find? (h : c.Holds P) (hfind : find? d c.entries = some v) : P d v :=
  h (d, v) (mem_of_find? hfind)

end Cache

variable {f : Fetcher} {P : Division → Table → Prop} {s : VoteState}

namespace Fetcher

/-- The table of a request is that of the roll in some payload. -/
theorem exists_of_request {requests : List Division} {d : Division} {i : Nat} {t : Table}
    (h : f.request requests d i = .ok t) :
    ∃ payload roll, Roll.ofPayload d.chamber payload = .ok roll ∧ t = roll.toTable := by
  rw [Fetcher.request] at h
  split at h
  · next payload _ =>
    rw [Outcome.mapError_eq_ok, Fetcher.read] at h
    split at h
    · next roll hroll =>
      cases h
      exact ⟨payload, roll, hroll, rfl⟩
    · cases h
  · cases h

def Gives (f : Fetcher) (P : Division → Table → Prop) : Prop :=
  ∀ requests d i t, f.request requests d i = .ok t → P d t

private theorem Gives.retrieve (hf : f.Gives P) {requests : List Division} {d : Division}
    {t : Table} (h : (f.retrieve requests d).result = .ok t) : P d t := by
  obtain ⟨i, hi⟩ := Trial.exists_runFrom f.backoff Failure.isRetryable
    (f.request requests d) (f.attempts - 1) 0
  exact hf requests d i t (hi.symm.trans h)

/-- Fetching keeps what the cache holds, and gives only rolls of that property. -/
theorem Gives.fetch (hf : f.Gives P) (hs : s.cache.Holds P) (d : Division) :
    (∀ t, (f.fetch d s).result = .ok t → P d t) ∧ (f.fetch d s).state.cache.Holds P := by
  rw [Fetcher.fetch, Cache.get]
  cases hfind : Cache.find? d s.cache.entries with
  | some t =>
    refine ⟨fun u hu => ?_, hs.touch d⟩
    cases hu
    exact hs.of_find? hfind
  | none =>
    dsimp only
    cases hresult : (f.retrieve s.requests d).result with
    | ok t =>
      have ht := hf.retrieve hresult
      refine ⟨fun u hu => ?_, hs.put ht⟩
      cases hu
      exact ht
    | error failure =>
      refine ⟨fun u hu => ?_, hs⟩
      cases hu

end Fetcher

namespace VoteMatrix

/-- A matrix is a table of the columns of what has been gathered. -/
theorem exists_of_build {ids : List Nat} {chamber : Chamber} {w : Weights} {namesPrefix : String}
    {t : Table} (h : (build f ids chamber w namesPrefix s).result = .ok t) :
    ∃ divisions, (gather f w chamber ids.eraseDups s).result = .ok divisions ∧
      Table.ofColumns (columns namesPrefix divisions) = .ok t := by
  obtain ⟨divisions, hgather, htable⟩ := Outcome.dotBind_eq_ok.mp h
  refine ⟨divisions, hgather, ?_⟩
  rw [table] at htable
  split at htable
  · next u hu =>
    cases htable
    exact hu
  · cases htable

private theorem holds_gather (hf : f.Gives P) (w : Weights) (chamber : Chamber) (ids : List Nat)
    (hs : s.cache.Holds P) : (gather f w chamber ids s).state.cache.Holds P := by
  induction ids generalizing s with
  | nil => exact hs
  | cons id ids ih =>
    have hfetch := (hf.fetch hs ⟨id, chamber⟩).2
    rw [gather]
    dsimp only
    split
    · exact hfetch
    · exact ih hfetch

private theorem holds_build (hf : f.Gives P) (ids : List Nat) (chamber : Chamber) (w : Weights)
    (namesPrefix : String) (hs : s.cache.Holds P) :
    (build f ids chamber w namesPrefix s).state.cache.Holds P :=
  holds_gather hf w chamber ids.eraseDups hs

end VoteMatrix

namespace Operation

/-- What every fetched roll has, the cache keeps. -/
theorem holds_run [Library] {c : Context} (hf : c.fetcher.Gives P) (hs : s.cache.Holds P)
    (op : Operation) : (op.run c s).state.cache.Holds P := by
  cases op with
  | divisionVotes p =>
    exact VoteMatrix.holds_build hf p.divisions p.chamber p.weights p.namesPrefix hs
  | _ => exact hs

end Operation
end RollCall
