import RollCall.Votes.Backoff

/-!
# Repeated attempts

A call that fails is repeated while its failure may pass and attempts are left. `Trial` is what
became of it: everything that was done, in order, and the last outcome.
-/
namespace RollCall

/-- A failed attempt that was followed by another one. -/
structure Retry (ε : Type) where
  /-- The number of the attempt, counted from one. -/
  attempt : Nat
  failure : ε
  delay : Nat

/-- What is done in the course of a repeated call. -/
inductive TrialAction (ε : Type)
  | called
  /-- A failed attempt is told of before the delay. -/
  | told (retry : Retry ε)
  | slept (delay : Nat)

namespace TrialAction

def isCall : TrialAction ε → Bool
  | called => true
  | _ => false

def retry? : TrialAction ε → Option (Retry ε)
  | told retry => some retry
  | _ => none

end TrialAction

structure Trial (ε α : Type) where
  actions : List (TrialAction ε)
  result : Except ε α

namespace Trial

def calls (trial : Trial ε α) : Nat :=
  trial.actions.countP TrialAction.isCall

def retries (trial : Trial ε α) : List (Retry ε) :=
  trial.actions.filterMap TrialAction.retry?

@[simp] theorem calls_of_called (result : Except ε α) : calls ⟨[.called], result⟩ = 1 := rfl

@[simp] theorem calls_of_retry (retry : Retry ε) (delay : Nat) (rest : Trial ε α) :
    calls { rest with actions := .called :: .told retry :: .slept delay :: rest.actions } =
      rest.calls + 1 := by
  simp [calls, List.countP_cons, TrialAction.isCall]

/-- Call from the attempt `i` on, with at most `left` further attempts after it. -/
def runFrom (policy : Backoff) (mayPass : ε → Bool) (call : Nat → Except ε α) :
    Nat → Nat → Trial ε α
  | 0, i => ⟨[.called], call i⟩
  | left + 1, i =>
    match call i with
    | .ok v => ⟨[.called], .ok v⟩
    | .error e =>
      if mayPass e then
        let delay := policy.delay i
        let rest := runFrom policy mayPass call left (i + 1)
        { rest with actions := .called :: .told ⟨i + 1, e, delay⟩ :: .slept delay :: rest.actions }
      else
        ⟨[.called], .error e⟩

/-- Call at most `attempts` times, but at least once. `call i` is the outcome of the call after `i`
others. -/
def run (attempts : Nat) (policy : Backoff) (mayPass : ε → Bool) (call : Nat → Except ε α) :
    Trial ε α :=
  runFrom policy mayPass call (attempts - 1) 0

end Trial
end RollCall
