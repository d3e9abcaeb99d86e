import Mathlib.Data.List.TakeWhile
import RollCall.Command.Basic
import RollCall.Library.Standard
import RollCall.Proofs.FailureAttribution
import RollCall.Proofs.FetchedOnce
import RollCall.Proofs.LintAgreement
import RollCall.Proofs.RepeatedAttempts

/-!
# The events of a run

A run notes its start, then the start and the end of every step it has completed, and then one of
three endings: it completes, it fails at the next step, or it fails outside the steps. What is
fetched is noted between the start and the end of a step that fetches. Only if the delay between two
attempts cannot be found does the program break off, and then in the middle of such a step.
-/
namespace RollCall

def Operation.fetches : Operation → Bool
  | .divisionVotes _ => true
  | _ => false

/-- The delay before every further attempt can be found. -/
def Fetcher.KeepsDelays (checked : Bool) (f : Fetcher) : Prop :=
  ∀ attempt, attempt + 1 < f.attempts → (f.backoff.delay? checked attempt).isSome

/-- A step that has been completed, with what it has made and what was noted while fetching. -/
structure CompletedStep where
  step : Step
  artifact : Artifact
  fetched : List FetchEvent

namespace CompletedStep

/-- The rows that are told of. The result of a test has none. -/
def rows? : Artifact → Option Nat
  | .table t => some t.rowCount
  | .result _ => none

def events (c : CompletedStep) : List Event :=
  .stepStarted c.step.id c.step.operation.name :: c.fetched.map .fetch ++
    [.stepCompleted c.step.id c.artifact.kind (rows? c.artifact)]

/-- The artifacts of completed steps, the latest first. -/
def environment (done : List CompletedStep) : Environment :=
  (done.map fun c => (c.step.id, c.artifact)).reverse

end CompletedStep

namespace Runner

open CompletedStep

variable {r : Runner} {p : Pipeline} {env : Environment} {s : Step} {steps rest : List Step}
  {state : VoteState} {done : List CompletedStep} {c : CompletedStep} {fetched : List FetchEvent}
  {failure : Failure} {checked : Bool}

/-- The events of completed steps and the start of another one, with what is noted in it while
fetching. -/
def untilStep (done : List CompletedStep) (s : Step) (fetched : List FetchEvent) : List Event :=
  done.flatMap CompletedStep.events ++
    .stepStarted s.id s.operation.name :: fetched.map .fetch

theorem environment_cons (c : CompletedStep) :
    environment (c :: done) ++ env = environment done ++ (c.step.id, c.artifact) :: env := by
  simp [environment]

private theorem untilStep_cons :
    untilStep (c :: done) s fetched = c.events ++ untilStep done s fetched := by
  rw [untilStep, untilStep, List.flatMap_cons, List.append_assoc]

/-- The program does not break off in the place of any of these events. -/
def Passes (checked : Bool) (r : Runner) (events : List Event) : Prop :=
  ∀ e ∈ events, r.breaksOff checked e = false

private theorem Passes.append {xs ys : List Event} (hxs : r.Passes checked xs)
    (hys : r.Passes checked ys) :
    r.Passes checked (xs ++ ys) :=
  List.forall_mem_append.mpr ⟨hxs, hys⟩

variable [Library]

/-! ### Steps -/

/-- A failure that resolving the inputs of a step or its operation raises. -/
def Raises (r : Runner) (env : Environment) (s : Step) (state : VoteState)
    (cause : Failure) : Prop :=
  (∃ fault, inputs env s = .error fault ∧ cause = .malformedStep s.id fault) ∨
    ∃ tables, inputs env s = .ok tables ∧
      (s.operation.run (r.context s tables) state).result = .error cause

theorem events_runSteps_cons_of_ok {a : Artifact} (h : (r.runStep env s state).result = .ok a) :
    (r.runSteps (s :: steps) env state).events = (r.runStep env s state).events ++
      (r.runSteps steps ((s.id, a) :: env) (r.runStep env s state).state).events := by
  rw [runSteps, h]

/-- These steps are completed one after the other, and only some of them fetch. -/
structure CarriesOut (r : Runner) (env : Environment) (state : VoteState)
    (done : List CompletedStep) : Prop where
  result : (r.runSteps (done.map step) env state).result = .ok (environment done ++ env)
  fetched : ∀ c ∈ done, c.fetched ≠ [] → c.step.operation.fetches

/-- After some completed steps another one fails, and its failure tells what was raised. -/
structure StopsAt (r : Runner) (env : Environment) (state : VoteState) (done : List CompletedStep)
    (s : Step) (fetched : List FetchEvent) (failure : Failure) : Prop where
  raised : ∃ cause,
    r.Raises (environment done ++ env) s (r.runSteps (done.map step) env state).state cause ∧
      failure.kind = cause.kind ∧ failure.report.message = cause.report.message ∧
      failure.step? = some (cause.step?.getD s.id)
  attributed : r.fetcher.NamesNoStep → failure.step? = some s.id
  fetched : fetched ≠ [] → s.operation.fetches

private theorem CarriesOut.cons (hresult : (r.runStep env c.step state).result = .ok c.artifact)
    (hfetched : c.fetched ≠ [] → c.step.operation.fetches)
    (h : r.CarriesOut ((c.step.id, c.artifact) :: env) (r.runStep env c.step state).state done) :
    r.CarriesOut env state (c :: done) where
  result := by
    rw [List.map_cons, (runSteps_cons_of_ok hresult).1, environment_cons]
    exact h.result
  fetched := List.forall_mem_cons.mpr ⟨hfetched, h.fetched⟩

private theorem StopsAt.cons (hresult : (r.runStep env c.step state).result = .ok c.artifact)
    (h : r.StopsAt ((c.step.id, c.artifact) :: env) (r.runStep env c.step state).state done s
      fetched failure) :
    r.StopsAt env state (c :: done) s fetched failure where
  raised := by
    rw [List.map_cons, (runSteps_cons_of_ok hresult).2, environment_cons]
    exact h.raised
  attributed := h.attributed
  fetched := h.fetched

/-- The ways in which a run of steps can go after the completed ones. -/
inductive Ends (checked : Bool) (r : Runner) (steps : List Step) (env : Environment)
    (state : VoteState) (done : List CompletedStep) : Prop
  | completed (hsteps : done.map step = steps)
    (hevents : (r.runSteps steps env state).events = done.flatMap CompletedStep.events)
    (hpasses : r.Passes checked (r.runSteps steps env state).events)
  | failed (s : Step) (rest : List Step) (fetched : List FetchEvent) (failure : Failure)
    (hsteps : steps = done.map step ++ s :: rest)
    (hstops : r.StopsAt env state done s fetched failure)
    (hresult : (r.runSteps steps env state).result = .error failure)
    (hevents : (r.runSteps steps env state).events =
      untilStep done s fetched ++ [.stepFailed s.id failure.message])
    (hpasses : r.Passes checked (r.runSteps steps env state).events)
  | brokenOff (s : Step) (rest : List Step) (fetched : List FetchEvent) (broken : Event)
    (unseen : List Event) (hsteps : steps = done.map step ++ s :: rest)
    (hfetches : s.operation.fetches) (hdelays : ¬r.fetcher.KeepsDelays checked)
    (hpasses : r.Passes checked (untilStep done s fetched))
    (hbreaks : r.breaksOff checked broken = true)
    (hevents : (r.runSteps steps env state).events =
      untilStep done s fetched ++ broken :: unseen)

private theorem Ends.cons (hresult : (r.runStep env c.step state).result = .ok c.artifact)
    (hfirst : (r.runStep env c.step state).events = c.events) (hevents : r.Passes checked c.events)
    (h : r.Ends checked steps ((c.step.id, c.artifact) :: env) (r.runStep env c.step state).state
      done) :
    r.Ends checked (c.step :: steps) env state (c :: done) := by
  have hcons : (r.runSteps (c.step :: steps) env state).events = c.events ++ _ :=
    (events_runSteps_cons_of_ok hresult).trans (congrArg (· ++ _) hfirst)
  cases h with
  | completed hsteps hrest hpasses =>
    refine .completed (congrArg _ hsteps) (by rw [hcons, hrest]; rfl) ?_
    rw [hcons]
    exact hevents.append hpasses
  | failed s rest fetched failure hsteps hstops hfail hrest hpasses =>
    refine .failed s rest fetched failure (by rw [hsteps]; rfl) (hstops.cons hresult)
      ((runSteps_cons_of_ok hresult).1.trans hfail) ?_ ?_
    · rw [hcons, hrest, untilStep_cons, List.append_assoc]
    · rw [hcons]
      exact hevents.append hpasses
  | brokenOff s rest fetched broken unseen hsteps hfetches hdelays hpasses hbreaks hrest =>
    refine .brokenOff s rest fetched broken unseen (by rw [hsteps]; rfl) hfetches hdelays ?_ hbreaks
      ?_
    · rw [untilStep_cons]
      exact hevents.append hpasses
    · rw [hcons, hrest, untilStep_cons, List.append_assoc]

section Accepted

variable (haccepted : r.checks = true → ∃ findings, Lint.check p = .ok findings)
include haccepted

end Accepted

end Runner

/-! ### Runs of the program -/

theorem Command.namesNoStep_fetcher [Library] (w : World) (s : Settings) :
    (fetcher w s).NamesNoStep :=
  fun _ _ => Outcome.failsAs_mapError fun _ => rfl

private theorem Backoff.isSome_delay?_standard (checked : Bool) (attempt : Nat) :
    (standard.delay? checked attempt).isSome := by
  have hcounted : min attempt attemptLimit ≤ attemptLimit := min_le_right _ _
  have hsum : 1000 + min longest (1000 * min attempt attemptLimit) ≤ longest := by
    simp only [attemptLimit, longest] at hcounted ⊢
    omega
  rw [standard, delay?, if_pos hsum]
  rfl

/-- The program always waits as long as the standard policy says. -/
theorem Command.keepsDelays_fetcher [Library] {w : World} {o : RunOptions} {s : Settings}
    (checked : Bool) (h : settingsFor w o = .ok s) : (fetcher w s).KeepsDelays checked := by
  obtain ⟨s', hread, hs⟩ := Outcome.bind_eq_ok.mp h
  obtain ⟨timeout, -, hread⟩ := Outcome.bind_eq_ok.mp hread
  obtain ⟨attempts, -, hread⟩ := Outcome.bind_eq_ok.mp hread
  obtain ⟨capacity, -, hread⟩ := Outcome.bind_eq_ok.mp hread
  cases hread
  cases hs
  exact fun attempt _ => Backoff.isSome_delay?_standard checked attempt

namespace Runner

end Runner
end RollCall
