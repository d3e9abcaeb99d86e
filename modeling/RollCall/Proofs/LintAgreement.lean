import RollCall.Library.Standard
import RollCall.Proofs.Runs

/-!
# Checked pipelines and their runs

A step of a run finds an artifact under an id exactly when an earlier step has that id. That is what
the rules look for, by the first position of an id in the list of steps. So a pipeline without
errors fails only in its operations or at an input that is no table, and a pipeline with an error
other than a repeated id never succeeds.
-/
namespace RollCall

namespace Lint

variable {p : Pipeline} {s : Step} {done rest : List Step} {f : Finding} {input : String}

/-- An input is in order exactly when an earlier step has its id. -/
theorem inputFinding_eq_none_iff (h : p.steps = done ++ s :: rest) :
    inputFinding p done.length s input = none ↔ input ∈ done.map Step.id := by
  rw [inputFinding]
  rw [h, List.findIdx?_append]
  cases hfirst : done.findIdx? fun other => other.id = input with
  | some position =>
    obtain ⟨hposition, hid, -⟩ := List.findIdx?_eq_some_iff_getElem.mp hfirst
    have hmem : input ∈ done.map Step.id :=
      List.mem_map.mpr ⟨done[position], List.getElem_mem hposition, by simpa using hid⟩
    simp [hmem, hposition]
  | none =>
    have hmem : input ∉ done.map Step.id := by
      intro hmem
      obtain ⟨other, hother, hid⟩ := List.mem_map.mp hmem
      have hne := List.findIdx?_eq_none_iff.mp hfirst other hother
      simp [hid] at hne
    simp only [hmem, iff_false, Option.none_or]
    cases (s :: rest).findIdx? fun other => other.id = input <;> simp

private theorem isError_of_inputFinding {index : Nat} (h : inputFinding p index s input = some f) :
    f.isError = true := by
  rw [inputFinding] at h
  split at h
  · cases h
    rfl
  · split at h <;> cases h
    rfl

/-- The findings on inputs are those on the inputs of a step, at its position in the list. -/
theorem mem_inputsDefined :
    f ∈ inputsDefined p ↔ ∃ done s rest input, p.steps = done ++ s :: rest ∧ input ∈ s.inputs ∧
      inputFinding p done.length s input = some f := by
  simp only [inputsDefined, List.mem_flatMap, List.mem_filterMap, Prod.exists,
    List.mem_zipIdx_iff_getElem?]
  constructor
  · rintro ⟨s, i, hs, input, hinput, hf⟩
    obtain ⟨hi, rfl⟩ := List.getElem?_eq_some_iff.mp hs
    refine ⟨p.steps.take i, p.steps[i], p.steps.drop (i + 1), input, ?_, hinput, ?_⟩
    · rw [List.getElem_cons_drop, List.take_append_drop]
    · rwa [List.length_take, Nat.min_eq_left (Nat.le_of_lt hi)]
  · rintro ⟨done, s, rest, input, hsteps, hinput, hf⟩
    exact ⟨s, done.length, by simp [hsteps], input, hinput, hf⟩

theorem mem_inputCounts :
    f ∈ inputCounts p ↔ ∃ s ∈ p.steps, s.operation.arity.accepts s.inputs.length = false ∧
      .inputCount s.operation.name s.id s.operation.arity s.inputs.length = f := by
  simp [inputCounts, and_assoc]

theorem mem_returnIds_of_isError (hf : f.isError) :
    f ∈ returnIds p ↔ ∃ id ∈ p.returns, id ∉ p.steps.map Step.id ∧ .unknownReturn id = f := by
  have hnothing : f ≠ .nothingReturned := by
    rintro rfl
    cases hf
  have hstep : ∀ id, (p.step? id).isNone ↔ id ∉ p.steps.map Step.id := by
    intro id
    simp [Pipeline.step?]
  rw [returnIds, List.mem_append, List.mem_map]
  simp only [List.mem_filter, hstep, and_assoc]
  split <;> simp [hnothing]

/-- A pipeline is accepted if no finding is an error. -/
theorem isError_of_check {findings : List Finding} (h : check p = .ok findings) :
    ∀ f ∈ Lint.findings p, f.isError = false := by
  rw [check] at h
  split at h
  · next hnone =>
    intro f hf
    simpa using List.filter_eq_nil_iff.mp hnone f hf
  · cases h

theorem exists_of_mem_repeatedIds {seen : List String} {steps : List Step}
    (h : f ∈ repeatedIds seen steps) : ∃ id, f = .repeatedId id := by
  induction steps generalizing seen with
  | nil => cases h
  | cons s steps ih =>
    rw [repeatedIds] at h
    split at h
    · rcases List.mem_cons.mp h with rfl | h
      · exact ⟨s.id, rfl⟩
      · exact ih h
    · exact ih h

private theorem isError_of_mem_unusedSteps (h : f ∈ unusedSteps p) : f.isError = false := by
  obtain ⟨s, -, rfl⟩ := List.mem_map.mp h
  rfl

/-- An error that is no repeated id comes from one of three rules. -/
theorem mem_of_isError (h : f ∈ Lint.findings p) (herror : f.isError)
    (hrule : f.rule ≠ "unique_ids") :
    f ∈ inputsDefined p ∨ f ∈ inputCounts p ∨ f ∈ returnIds p := by
  simp only [Lint.findings, List.mem_append] at h
  rcases h with (((h | h) | h) | h) | h
  · obtain ⟨id, rfl⟩ := exists_of_mem_repeatedIds h
    exact absurd rfl hrule
  · exact .inl h
  · exact .inr (.inl h)
  · exact .inr (.inr h)
  · rw [isError_of_mem_unusedSteps h] at herror
    cases herror

variable {findings : List Finding}

/-- The inputs of a step of an accepted pipeline are ids of earlier steps. -/
theorem mem_ids_of_check (h : check p = .ok findings) (hsteps : p.steps = done ++ s :: rest)
    (hinput : input ∈ s.inputs) : input ∈ done.map Step.id := by
  rw [← inputFinding_eq_none_iff hsteps, Option.eq_none_iff_forall_ne_some]
  intro f hf
  have hmem : f ∈ Lint.findings p := by
    simp only [Lint.findings, List.mem_append]
    exact .inl (.inl (.inl (.inr (mem_inputsDefined.mpr
      ⟨done, s, rest, input, hsteps, hinput, hf⟩))))
  have herror := isError_of_inputFinding hf
  rw [isError_of_check h f hmem] at herror
  cases herror

private theorem accepts_of_check (h : check p = .ok findings) (hs : s ∈ p.steps) :
    s.operation.arity.accepts s.inputs.length = true := by
  by_contra hcount
  have hmem : .inputCount s.operation.name s.id s.operation.arity s.inputs.length ∈
      Lint.findings p := by
    simp only [Lint.findings, List.mem_append]
    exact .inl (.inl (.inr (mem_inputCounts.mpr ⟨s, hs, by simpa using hcount, rfl⟩)))
  cases isError_of_check h _ hmem

theorem mem_steps_of_check (h : check p = .ok findings) {id : String} (hid : id ∈ p.returns) :
    id ∈ p.steps.map Step.id := by
  by_contra hunknown
  have hmem : .unknownReturn id ∈ Lint.findings p := by
    simp only [Lint.findings, List.mem_append]
    exact .inl (.inr ((mem_returnIds_of_isError rfl).mpr ⟨id, hid, hunknown, rfl⟩))
  cases isError_of_check h _ hmem

end Lint

namespace Runner

variable {r : Runner} {p : Pipeline} {env : Environment} {s : Step} {done rest : List Step}
  {state : VoteState} {findings : List Finding}

/-- Where the inputs are known and of the right number, only a result in the place of a table can
keep a step from being carried out. -/
theorem exists_result_of_inputs {fault : StepFault}
    (harity : s.operation.arity.accepts s.inputs.length = true)
    (hknown : ∀ id ∈ s.inputs, (env.find? id).isSome) (h : inputs env s = .error fault) :
    ∃ id result, id ∈ s.inputs ∧ env.find? id = some (.result result) ∧
      fault = .inputNotTable id := by
  rw [inputs, if_pos harity] at h
  obtain ⟨id, hid, hfault⟩ := Outcome.exists_of_mapM_eq_error h
  rw [inputTable] at hfault
  split at hfault
  · cases hfault
  · next result hresult =>
    cases hfault
    exact ⟨id, result, hid, hresult, rfl⟩
  · next hnone =>
    have hsome := hknown id hid
    rw [hnone] at hsome
    cases hsome

private theorem exists_returned (h : ∀ id ∈ p.returns, (env.find? id).isSome) :
    ∃ artifacts, p.returns.mapM (returned env) = .ok artifacts := by
  refine Outcome.exists_mapM_eq_ok.mpr fun id hid => ?_
  obtain ⟨artifact, hartifact⟩ := Option.isSome_iff_exists.mp (h id hid)
  exact ⟨(id, artifact), returned_eq_ok.mpr ⟨rfl, hartifact⟩⟩

/-- In a run that succeeds every input is the id of an earlier step. -/
theorem mem_ids_of_execute [Library] {artifacts : List (String × Artifact)}
    (h : (r.execute p state).result = .ok artifacts) (hsteps : p.steps = done ++ s :: rest) :
    s.operation.arity.accepts s.inputs.length = true ∧ ∀ id ∈ s.inputs, id ∈ done.map Step.id := by
  obtain ⟨env, hrun, -⟩ := exists_of_execute h
  rw [hsteps] at hrun
  obtain ⟨env₁, a, hdone, ha⟩ := exists_of_runSteps hrun
  obtain ⟨tables, hinputs, -⟩ := runStep_eq_ok.mp ha
  exact ⟨(inputs_eq_ok.mp hinputs).1, mem_ids_of_inputs hdone hinputs⟩

/-- In a run that succeeds every returned id is that of a step. -/
theorem mem_steps_of_execute [Library] {artifacts : List (String × Artifact)}
    (h : (r.execute p state).result = .ok artifacts) {id : String} (hid : id ∈ p.returns) :
    id ∈ p.steps.map Step.id := by
  obtain ⟨env, hrun, hreturned⟩ := exists_of_execute h
  obtain ⟨entry, hentry⟩ := Outcome.exists_ok_of_mapM hreturned id hid
  rw [← find?_isSome_of_runSteps hrun, (returned_eq_ok.mp hentry).2]
  rfl

/-- A run of an accepted pipeline fails at a step, and there at an input that is the result of a
test or in an operation whose inputs are all there. -/
theorem exists_failing_step_of_check [Library] {failure : Failure}
    (hcheck : Lint.check p = .ok findings) (h : (r.run p state).result = .error failure) :
    ∃ done s rest env, p.steps = done ++ s :: rest ∧
      (r.runSteps done [] state).result = .ok env ∧
      ((∃ id result, id ∈ s.inputs ∧ env.find? id = some (.result result) ∧
          inputs env s = .error (.inputNotTable id) ∧
          failure = .malformedStep s.id (.inputNotTable id)) ∨
        ∃ tables cause, inputs env s = .ok tables ∧
          (s.operation.run (r.context s tables) (r.runSteps done [] state).state).result =
            .error cause ∧
          failure = .inStep s.id cause) := by
  rw [result_run, execute_of_check hcheck] at h
  cases hsteps : (r.runSteps p.steps [] state).result with
  | ok env =>
    rw [hsteps] at h
    have hreturns : ∀ id ∈ p.returns, (env.find? id).isSome := fun id hid =>
      (find?_isSome_of_runSteps hsteps).mpr (Lint.mem_steps_of_check hcheck hid)
    obtain ⟨artifacts, hreturned⟩ := exists_returned hreturns
    have hok := hreturned.symm.trans h
    cases hok
  | error e =>
    rw [hsteps] at h
    cases h
    obtain ⟨done, s, rest, env, hsplit, hdone, hfail⟩ := exists_failing_step hsteps
    refine ⟨done, s, rest, env, hsplit, hdone, ?_⟩
    rcases runStep_eq_error.mp hfail with
      ⟨fault, hfault, rfl⟩ | ⟨tables, cause, hinputs, hcause, rfl⟩
    · have hknown : ∀ id ∈ s.inputs, (env.find? id).isSome := fun id hid =>
        (find?_isSome_of_runSteps hdone).mpr (Lint.mem_ids_of_check hcheck hsplit hid)
      have hmem : s ∈ p.steps := hsplit ▸ List.mem_append_right done List.mem_cons_self
      obtain ⟨id, result, hid, hresult, rfl⟩ :=
        exists_result_of_inputs (Lint.accepts_of_check hcheck hmem) hknown hfault
      exact .inl ⟨id, result, hid, hresult, hfault, rfl⟩
    · exact .inr ⟨tables, cause, hinputs, hcause, rfl⟩

/-- What a check finds wrong other than a repeated id keeps every run from succeeding. -/
theorem result_ne_ok_of_isError [Library] {f : Finding} (hf : f ∈ Lint.findings p)
    (herror : f.isError) (hunique : f.rule ≠ "unique_ids") (artifacts : List (String × Artifact)) :
    (r.run p state).result ≠ .ok artifacts := by
  intro hrun
  rcases Lint.mem_of_isError hf herror hunique with hf | hf | hf
  · obtain ⟨done, s, rest, input, hsteps, hinput, hfinding⟩ := Lint.mem_inputsDefined.mp hf
    have hmem := (mem_ids_of_execute hrun hsteps).2 input hinput
    rw [(Lint.inputFinding_eq_none_iff hsteps).mpr hmem] at hfinding
    cases hfinding
  · obtain ⟨s, hs, hcount, -⟩ := Lint.mem_inputCounts.mp hf
    obtain ⟨done, rest, hsteps⟩ := List.append_of_mem hs
    rw [(mem_ids_of_execute hrun hsteps).1] at hcount
    cases hcount
  · obtain ⟨id, hid, hunknown, -⟩ := (Lint.mem_returnIds_of_isError herror).mp hf
    exact hunknown (mem_steps_of_execute hrun hid)

/-- Checks and runs agree. A run of an accepted pipeline fails only at an input that is the result
of a test, or in an operation whose inputs are all there. A pipeline in which an input, a number of
inputs or a returned id is found wrong never succeeds, checked or not. -/
theorem check_agrees_with_run [Library] (r : Runner) (p : Pipeline) (state : VoteState) :
    (∀ findings failure, Lint.check p = .ok findings → (r.run p state).result = .error failure →
      ∃ done s rest env, p.steps = done ++ s :: rest ∧
        (r.runSteps done [] state).result = .ok env ∧
        ((∃ id result, id ∈ s.inputs ∧ env.find? id = some (.result result) ∧
            inputs env s = .error (.inputNotTable id) ∧
            failure = .malformedStep s.id (.inputNotTable id)) ∨
          ∃ tables cause, inputs env s = .ok tables ∧
            (s.operation.run (r.context s tables) (r.runSteps done [] state).state).result =
              .error cause ∧
            failure = .inStep s.id cause)) ∧
    ∀ f ∈ Lint.findings p, f.isError →
      f.rule ∈ ["inputs_defined", "input_arity", "return_ids"] →
      ∀ artifacts, (r.run p state).result ≠ .ok artifacts := by
  refine ⟨fun findings failure hcheck hrun => exists_failing_step_of_check hcheck hrun,
    fun f hf herror hrule artifacts => result_ne_ok_of_isError hf herror ?_ artifacts⟩
  intro hunique
  rw [hunique] at hrule
  exact absurd hrule (by decide)

/-- A runner without tables, whose source cannot be reached. -/
def idleRunner : Runner where
  store := {}
  fetcher := { source := fun _ d => .error (.fetch ⟨d, .unreachable⟩) }

/-- A pipeline without errors whose one step asks for a table that is not there. -/
def tablelessPipeline : Pipeline :=
  ⟨[⟨"votes", [], .source { table := "votes" }⟩], ["votes"]⟩

/-- A pipeline whose second step takes its own result. -/
def circularPipeline : Pipeline :=
  ⟨[⟨"votes", [], .source { table := "votes" }⟩, ⟨"kept", ["votes", "kept"], .filter .null⟩],
    ["kept"]⟩

theorem check_agrees_with_run_sample :
    (∃ done s rest env, tablelessPipeline.steps = done ++ s :: rest ∧
      (idleRunner.runSteps done [] ⟨.empty 0, []⟩).result = .ok env ∧
      ∃ tables, inputs env s = .ok tables) ∧
    ∀ artifacts, (idleRunner.run circularPipeline ⟨.empty 0, []⟩).result ≠ .ok artifacts := by
  have hcheck : Lint.check tablelessPipeline = .ok [] := rfl
  have hrun : (idleRunner.run tablelessPipeline ⟨.empty 0, []⟩).result =
      .error (.malformedStep "votes" (.unknownTable "votes")) := rfl
  have hfinding : .laterInput "kept" "kept" ∈ Lint.findings circularPipeline := by decide
  constructor
  · obtain ⟨done, s, rest, env, hsteps, hdone, ⟨id, _, -, -, -, hfailure⟩ | hcause⟩ :=
      (check_agrees_with_run idleRunner tablelessPipeline ⟨.empty 0, []⟩).1 _ _ hcheck hrun
    · simp at hfailure
    · obtain ⟨tables, _, hinputs, -, -⟩ := hcause
      exact ⟨done, s, rest, env, hsteps, hdone, tables, hinputs⟩
  · exact (check_agrees_with_run idleRunner circularPipeline ⟨.empty 0, []⟩).2 _ hfinding rfl
      (by decide)

end Runner
end RollCall
