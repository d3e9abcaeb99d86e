import RollCall.Library.Standard
import RollCall.Proofs.FailureAttribution
import RollCall.Proofs.Runs
import RollCall.Proofs.VoteMatrices

/-!
# Failures that may pass

Attributing a failure to a step leaves its kind, its own message and its root as they are, and is
done once. Whether a failure may pass on a further attempt is a matter of its root: the attributed
failure itself is never retryable, and so no failure that a run ends with is.
-/
namespace RollCall

namespace Failure

variable {step other : String} {failure : Failure}

private theorem root_inStep : (inStep step failure).root = failure.root := by
  rw [inStep]
  split <;> rfl

private theorem inStep_inStep : inStep other (inStep step failure) = inStep step failure := by
  have hstep : (inStep step failure).step?.isSome := by
    rw [inStep]
    split
    · assumption
    · rfl
  rw [inStep, if_pos hstep]

/-- Only a failure to fetch is retryable, and that names no step. -/
theorem step?_of_isRetryable (h : failure.isRetryable = true) : failure.step? = none := by
  cases failure with
  | fetch fault => rfl
  | _ => cases h

theorem isRetryable_inStep : (inStep step failure).isRetryable = false := by
  rw [inStep]
  split
  · next hstep =>
    rw [← Bool.not_eq_true]
    intro hretryable
    rw [step?_of_isRetryable hretryable] at hstep
    cases hstep
  · rfl

end Failure

namespace VoteMatrix

variable {f : Fetcher} {w : Weights} {chamber : Chamber} {s : VoteState} {failure : Failure}

/-- What is gathered goes on from where the first divisions have left off. -/
theorem result_gather_append {before after : List Nat} :
    (gather f w chamber (before ++ after) s).result =
      (gather f w chamber before s).result.bind fun found =>
        (gather f w chamber after (gather f w chamber before s).state).result.map
          (found ++ ·) := by
  induction before generalizing s with
  | nil =>
    change _ = (gather f w chamber after s).result.map id
    rw [Except.map_id]
    rfl
  | cons id before ih =>
    rw [List.cons_append, gather, gather]
    dsimp only
    cases hfound : (f.fetch ⟨id, chamber⟩ s).result.bind (scores w id) with
    | error failure => rfl
    | ok found =>
      dsimp only
      rw [ih]
      cases (gather f w chamber before (f.fetch ⟨id, chamber⟩ s).state).result with
      | error failure => rfl
      | ok rest =>
        simp only [Except.bind, Except.map]
        cases (gather f w chamber after _).result <;> rfl

/-- The votes of some divisions are gathered, and then the fetch of the next one fails. -/
def FetchFails (f : Fetcher) (w : Weights) (chamber : Chamber) (ids : List Nat) (s : VoteState)
    (failure : Failure) : Prop :=
  ∃ before id after found, ids = before ++ id :: after ∧
    (gather f w chamber before s).result = .ok found ∧
    (f.fetch ⟨id, chamber⟩ (gather f w chamber before s).state).result = .error failure

private theorem FetchFails.result_gather {ids : List Nat}
    (h : FetchFails f w chamber ids s failure) :
    (gather f w chamber ids s).result = .error failure := by
  obtain ⟨before, id, after, found, rfl, hfound, hfail⟩ := h
  rw [result_gather_append, hfound, gather, hfail]
  rfl

end VoteMatrix

namespace Runner

variable {r : Runner} {p : Pipeline} {s : Step} {state : VoteState} {failure : Failure}

/-- The steps before one that fetches are completed, and there a fetch fails. -/
structure FailsInFetch [Library] (r : Runner) (p : Pipeline) (state : VoteState) (s : Step)
    (failure : Failure) : Prop where
  accepted : r.checks = true → ∃ findings, Lint.check p = .ok findings
  fails : ∃ done rest env tables votes, p.steps = done ++ s :: rest ∧
    (r.runSteps done [] state).result = .ok env ∧ inputs env s = .ok tables ∧
    s.operation = .divisionVotes votes ∧
    VoteMatrix.FetchFails r.fetcher votes.weights votes.chamber votes.divisions.eraseDups
      (r.runSteps done [] state).state failure

/-- A run in which a fetch fails ends with that failure, attributed to the step that fetches. -/
theorem FailsInFetch.result_run [Library] (h : r.FailsInFetch p state s failure) :
    (r.run p state).result = .error (.inStep s.id failure) := by
  obtain ⟨done, rest, env, tables, votes, hsteps, hdone, hinputs, hoperation, hfetch⟩ := h.fails
  have hran : (s.operation.run (r.context s tables) (r.runSteps done [] state).state).result =
      .error failure := by
    rw [hoperation]
    change ((VoteMatrix.gather _ _ _ _ _).result.bind _).map _ = _
    rw [context, hfetch.result_gather]
    rfl
  have hstep : (r.runStep env s (r.runSteps done [] state).state).result =
      .error (.inStep s.id failure) :=
    runStep_eq_error.mpr (.inr ⟨tables, failure, hinputs, hran, rfl⟩)
  rw [Runner.result_run, execute_of_accepted h.accepted, hsteps, result_runSteps_append, hdone]
  change (r.runSteps (s :: rest) env _).result.bind _ = _
  rw [runSteps_cons_of_error hstep]
  rfl

/-- Every failure that a run ends with names a step or is attributed to one. -/
theorem isRetryable_of_run [Library] (h : (r.run p state).result = .error failure) :
    failure.isRetryable = false := by
  rw [Runner.result_run, execute] at h
  split at h
  · next hcheck =>
    cases h
    split at hcheck
    · rw [Lint.check] at hcheck
      split at hcheck <;> cases hcheck
      rfl
    · cases hcheck
  · dsimp only at h
    cases hsteps : (r.runSteps p.steps [] state).result with
    | ok env =>
      rw [hsteps] at h
      obtain ⟨id, -, hreturned⟩ := Outcome.exists_of_mapM_eq_error h
      obtain ⟨-, rfl⟩ := returned_eq_error.mp hreturned
      rfl
    | error e =>
      rw [hsteps] at h
      cases h
      obtain ⟨done, s, rest, env, -, -, hfail⟩ := exists_failing_step hsteps
      rcases runStep_eq_error.mp hfail with ⟨fault, -, rfl⟩ | ⟨tables, cause, -, -, rfl⟩
      · rfl
      · exact Failure.isRetryable_inStep

/-- Attribution keeps the kind, the own message and the root of a failure and is done once, but what
it gives is never retryable, and so is nothing that a run ends with. A run in which a fetch fails
ends with that failure, attributed. So it says whether it may pass exactly if the failure may not;
its root says so if the fetch itself has failed, and not a step that the source names. -/
theorem attribution_keeps_root [Library] (step other : String) (failure : Failure) :
    (Failure.inStep step failure).kind = failure.kind ∧
    (Failure.inStep step failure).report.message = failure.report.message ∧
    Failure.inStep other (Failure.inStep step failure) = Failure.inStep step failure ∧
    (Failure.inStep step failure).root = failure.root ∧
    ((Failure.inStep step failure).isRetryable = failure.isRetryable ↔
      failure.isRetryable = false) ∧
    ∀ (r : Runner) (p : Pipeline) (state : VoteState),
      (∀ ended, (r.run p state).result = .error ended → ended.isRetryable = false) ∧
        ∀ s, r.FailsInFetch p state s failure →
          ∃ ended, (r.run p state).result = .error ended ∧ ended = .inStep s.id failure ∧
            ended.report = ⟨failure.kind, some (failure.step?.getD s.id), failure.rootMessage⟩ ∧
            ended.root = failure.root ∧
            (ended.isRetryable = failure.isRetryable ↔ failure.isRetryable = false) ∧
            ∀ fault, failure = .fetch fault →
              ended.report = ⟨"FetchError", some s.id, failure.message⟩ ∧
                ended.root.isRetryable = failure.isRetryable := by
  refine ⟨Failure.kind_inStep, Failure.rootMessage_inStep, Failure.inStep_inStep,
    Failure.root_inStep, ?_, fun r p state => ⟨fun ended => isRetryable_of_run, fun s hfails => ?_⟩⟩
  · rw [Failure.isRetryable_inStep, eq_comm]
  · refine ⟨_, hfails.result_run, rfl, ?_, Failure.root_inStep, ?_, ?_⟩
    · rw [Failure.report, Failure.kind_inStep, Failure.step?_inStep, Failure.rootMessage_inStep]
    · rw [Failure.isRetryable_inStep, eq_comm]
    · rintro fault rfl
      exact ⟨rfl, rfl⟩

def busyRunner : Runner where
  store := {}
  fetcher := { source := fun _ d => .error (.fetch ⟨d, .badStatus 503 ""⟩) }

def knownBallot : VoteState where
  cache := (Cache.empty 2).put ⟨7, .commons⟩ (Roll.toTable ⟨[(5, .no)]⟩)

def knownMatrix : Table :=
  ⟨[⟨"member_id", .numeric, [.int 5]⟩, ⟨"division_7", .numeric, [.int 0]⟩], 1⟩

def ballotStep (id : String) (divisions : List Nat) : Step :=
  ⟨id, [], .divisionVotes { divisions, chamber := .commons, weights := { aye := .int 1 } }⟩

/-- Two steps, the second of which asks for a division that is not known. -/
def ballotPipeline : Pipeline :=
  ⟨[ballotStep "known" [7], ballotStep "votes" [7, 9, 7]], ["known", "votes"]⟩

def busyFailure : Failure :=
  .fetch ⟨⟨9, .commons⟩, .badStatus 503 ""⟩

theorem failsInFetch_ballot :
    busyRunner.FailsInFetch ballotPipeline knownBallot (ballotStep "votes" [7, 9, 7])
      busyFailure where
  accepted _ := ⟨[], rfl⟩
  fails := by
    have hmembers : VoteMatrix.members [(7, [(5, .int 0)])] = [5] := by
      simp [VoteMatrix.members, List.eraseDups_cons]
    have hbuilt : VoteMatrix.build busyRunner.fetcher [7] .commons { aye := .int 1 } "division_"
        knownBallot = { busyRunner.fetcher.fetchAll .commons [7] knownBallot with
          result := .ok knownMatrix } := by
      rw [VoteMatrix.build_eq [(7, ⟨[(5, .no)]⟩)] rfl hmembers rfl]
      rfl
    have hinputs : inputs [] (ballotStep "known" [7]) = .ok [] := rfl
    have hstep : (busyRunner.runStep [] (ballotStep "known" [7]) knownBallot).result =
        .ok (.table knownMatrix) :=
      runStep_eq_ok.mpr ⟨[], hinputs, congrArg (·.result.map Artifact.table) hbuilt⟩
    have hdone : (busyRunner.runSteps [ballotStep "known" [7]] [] knownBallot).result =
        .ok [("known", .table knownMatrix)] := runSteps_cons_eq_ok.mpr ⟨_, hstep, rfl⟩
    have hstate : (busyRunner.runSteps [ballotStep "known" [7]] [] knownBallot).state =
        (busyRunner.fetcher.fetchAll .commons [7] knownBallot).state :=
      (runSteps_cons_of_ok hstep).2.trans
        ((state_runStep hinputs).trans (congrArg (·.state) hbuilt))
    refine ⟨[ballotStep "known" [7]], [], _, [], _, rfl, hdone, rfl, rfl, [7], 9, [],
      [(7, [(5, .int 0)])], by decide, ?_, ?_⟩
    all_goals
      rw [hstate, VoteMatrix.gather_eq [(7, ⟨[(5, .no)]⟩)] rfl]
      rfl

/-- A failure that may pass is not retryable once it is attributed to a step, and the run that ends
with it is not either. -/
theorem attribution_hides_retryable :
    busyFailure.isRetryable = true ∧ (Failure.inStep "votes" busyFailure).isRetryable = false ∧
      busyRunner.FailsInFetch ballotPipeline knownBallot (ballotStep "votes" [7, 9, 7])
        busyFailure ∧
      ∃ ended, (busyRunner.run ballotPipeline knownBallot).result = .error ended ∧
        ended.isRetryable = false :=
  ⟨rfl, rfl, failsInFetch_ballot, _, failsInFetch_ballot.result_run, rfl⟩

theorem attribution_keeps_root_sample :
    busyRunner.FailsInFetch ballotPipeline knownBallot (ballotStep "votes" [7, 9, 7])
        busyFailure ∧
      ∃ ended, (busyRunner.run ballotPipeline knownBallot).result = .error ended ∧
        ended.report =
          ⟨"FetchError", some "votes", "Fetching commons division 9 failed: HTTP 503"⟩ ∧
        ended.root.isRetryable = true ∧ ended.isRetryable = false := by
  obtain ⟨-, -, -, -, -, hruns⟩ := attribution_keeps_root "votes" "known" busyFailure
  obtain ⟨hnever, hfetch⟩ := hruns busyRunner ballotPipeline knownBallot
  obtain ⟨ended, hended, -, -, -, -, hfault⟩ := hfetch _ failsInFetch_ballot
  obtain ⟨hreport, hroot⟩ := hfault _ rfl
  have hmessage : busyFailure.message = "Fetching commons division 9 failed: HTTP 503" := by
    decide +kernel
  rw [hmessage] at hreport
  exact ⟨failsInFetch_ballot, ended, hended, hreport, hroot, hnever ended hended⟩

end Runner
end RollCall
