import RollCall.Pipeline.Run
import RollCall.Proofs.Fetching

/-!
# Runs step by step

A step succeeds exactly when its inputs are tables of the environment and its operation succeeds on
them. A run of steps succeeds exactly when every one of them does, each in the environment that the
steps before it have left.
-/
namespace RollCall

private theorem Environment.find?_isSome_iff {env : Environment} {id : String} :
    (env.find? id).isSome ↔ id ∈ env.map Prod.fst := by
  simp [Environment.find?]

namespace Runner

variable {r : Runner} {env env' : Environment} {s : Step} {steps xs ys : List Step}
  {state : VoteState} {a : Artifact}

/-- The inputs of a step are tables of the environment. -/
theorem inputs_eq_ok {tables : List Table} :
    inputs env s = .ok tables ↔
      s.operation.arity.accepts s.inputs.length ∧
        List.Forall₂ (fun id t => env.find? id = some (.table t)) s.inputs tables := by
  have htable : ∀ id t, inputTable env id = .ok t ↔ env.find? id = some (.table t) := by
    intro id t
    rw [inputTable]
    split <;> simp_all
  rw [inputs]
  split
  · simp [*, Outcome.mapM_eq_ok]
  · simp [*]

theorem mem_of_inputs {tables : List Table} {t : Table} (h : inputs env s = .ok tables)
    (ht : t ∈ tables) : ∃ id, (id, .table t) ∈ env := by
  obtain ⟨id, -, hid⟩ := Outcome.exists_of_mem_right (inputs_eq_ok.mp h).2 ht
  exact ⟨id, mem_of_lookup hid⟩

theorem returned_eq_ok {id : String} {entry : String × Artifact} :
    returned env id = .ok entry ↔ id = entry.1 ∧ env.find? id = some entry.2 := by
  obtain ⟨id', a⟩ := entry
  rw [returned]
  cases env.find? id <;> simp

theorem returned_eq_error {id : String} {failure : Failure} :
    returned env id = .error failure ↔
      env.find? id = none ∧ .malformedStep id (.unknownReturn id) = failure := by
  rw [returned]
  cases env.find? id <;> simp

variable [Library]

def context (r : Runner) (s : Step) (tables : List Table) : Context :=
  ⟨s.id, tables, r.store, r.fetcher⟩

/-- A step succeeds if its inputs are there and its operation succeeds. -/
theorem runStep_eq_ok :
    (r.runStep env s state).result = .ok a ↔
      ∃ tables, inputs env s = .ok tables ∧
        (s.operation.run (r.context s tables) state).result = .ok a := by
  rw [runStep]
  cases hinputs : inputs env s with
  | error fault => simp
  | ok tables => simp [context]

/-- A step fails at its inputs or in its operation. -/
theorem runStep_eq_error {failure : Failure} :
    (r.runStep env s state).result = .error failure ↔
      (∃ fault, inputs env s = .error fault ∧ .malformedStep s.id fault = failure) ∨
        ∃ tables cause, inputs env s = .ok tables ∧
          (s.operation.run (r.context s tables) state).result = .error cause ∧
          .inStep s.id cause = failure := by
  rw [runStep]
  cases hinputs : inputs env s with
  | error fault => simp
  | ok tables => simp [context]

theorem state_runStep {tables : List Table} (h : inputs env s = .ok tables) :
    (r.runStep env s state).state = (s.operation.run (r.context s tables) state).state := by
  rw [runStep]
  rw [h]
  rfl

@[simp] theorem runSteps_nil : r.runSteps [] env state = ⟨.ok env, state, []⟩ := rfl

theorem runSteps_cons_of_ok (h : (r.runStep env s state).result = .ok a) :
    (r.runSteps (s :: steps) env state).result =
        (r.runSteps steps ((s.id, a) :: env) (r.runStep env s state).state).result ∧
      (r.runSteps (s :: steps) env state).state =
        (r.runSteps steps ((s.id, a) :: env) (r.runStep env s state).state).state := by
  rw [runSteps, h]
  exact ⟨rfl, rfl⟩

theorem runSteps_cons_of_error {failure : Failure}
    (h : (r.runStep env s state).result = .error failure) :
    (r.runSteps (s :: steps) env state).result = .error failure := by
  rw [runSteps, h]

theorem runSteps_cons_eq_ok :
    (r.runSteps (s :: steps) env state).result = .ok env' ↔
      ∃ a, (r.runStep env s state).result = .ok a ∧
        (r.runSteps steps ((s.id, a) :: env) (r.runStep env s state).state).result = .ok env' := by
  cases hresult : (r.runStep env s state).result with
  | error failure => simp [runSteps_cons_of_error hresult]
  | ok a => simp [(runSteps_cons_of_ok hresult).1]

/-- A run goes on from where its first part has ended. -/
theorem result_runSteps_append :
    (r.runSteps (xs ++ ys) env state).result =
      (r.runSteps xs env state).result.bind fun env' =>
        (r.runSteps ys env' (r.runSteps xs env state).state).result := by
  induction xs generalizing env state with
  | nil => rfl
  | cons s xs ih =>
    cases hresult : (r.runStep env s state).result with
    | error failure =>
      rw [List.cons_append, runSteps_cons_of_error hresult, runSteps_cons_of_error hresult]
      rfl
    | ok a =>
      rw [List.cons_append, (runSteps_cons_of_ok hresult).1, (runSteps_cons_of_ok hresult).1,
        (runSteps_cons_of_ok hresult).2]
      exact ih

theorem runSteps_append_eq_ok {env'' : Environment} :
    (r.runSteps (xs ++ ys) env state).result = .ok env'' ↔
      ∃ env', (r.runSteps xs env state).result = .ok env' ∧
        (r.runSteps ys env' (r.runSteps xs env state).state).result = .ok env'' := by
  rw [result_runSteps_append, Outcome.dotBind_eq_ok]

/-- What a successful step keeps, a successful run keeps. -/
theorem runSteps_keeps {P : Environment → VoteState → Prop}
    (hstep : ∀ s ∈ steps, ∀ env state a, (r.runStep env s state).result = .ok a →
      P env state → P ((s.id, a) :: env) (r.runStep env s state).state)
    (h : (r.runSteps steps env state).result = .ok env') (hinv : P env state) :
    P env' (r.runSteps steps env state).state := by
  induction steps generalizing env state with
  | nil =>
    cases h
    exact hinv
  | cons s steps ih =>
    obtain ⟨a, ha, hrest⟩ := runSteps_cons_eq_ok.mp h
    rw [(runSteps_cons_of_ok ha).2]
    exact ih (fun s' hs' => hstep s' (List.mem_cons_of_mem _ hs')) hrest
      (hstep s List.mem_cons_self env state a ha hinv)

/-- A run fails at the first step that does. -/
theorem exists_failing_step {failure : Failure}
    (h : (r.runSteps steps env state).result = .error failure) :
    ∃ done s rest env', steps = done ++ s :: rest ∧
      (r.runSteps done env state).result = .ok env' ∧
      (r.runStep env' s (r.runSteps done env state).state).result = .error failure := by
  induction steps generalizing env state with
  | nil => cases h
  | cons s steps ih =>
    cases hresult : (r.runStep env s state).result with
    | error e =>
      rw [runSteps_cons_of_error hresult] at h
      cases h
      exact ⟨[], s, steps, env, rfl, rfl, hresult⟩
    | ok a =>
      rw [(runSteps_cons_of_ok hresult).1] at h
      obtain ⟨done, s', rest, env', rfl, hdone, hfail⟩ := ih h
      refine ⟨s :: done, s', rest, env', rfl, ?_, ?_⟩
      · rw [(runSteps_cons_of_ok hresult).1]
        exact hdone
      · rw [(runSteps_cons_of_ok hresult).2]
        exact hfail

/-- In a run that succeeds, every step succeeds after those before it. -/
theorem exists_of_runSteps (h : (r.runSteps (xs ++ s :: ys) env state).result = .ok env') :
    ∃ env₁ a, (r.runSteps xs env state).result = .ok env₁ ∧
      (r.runStep env₁ s (r.runSteps xs env state).state).result = .ok a := by
  obtain ⟨env₁, hfirst, hrest⟩ := runSteps_append_eq_ok.mp h
  obtain ⟨a, ha, -⟩ := runSteps_cons_eq_ok.mp hrest
  exact ⟨env₁, a, hfirst, ha⟩

/-- After a run the environment has the ids of the steps, the latest first. -/
theorem ids_of_runSteps (h : (r.runSteps steps env state).result = .ok env') :
    env'.map Prod.fst = (steps.map Step.id).reverse ++ env.map Prod.fst := by
  induction steps generalizing env state with
  | nil =>
    cases h
    rfl
  | cons s steps ih =>
    obtain ⟨a, -, hrest⟩ := runSteps_cons_eq_ok.mp h
    rw [ih hrest]
    simp

/-- After some steps the environment knows exactly their ids. -/
theorem find?_isSome_of_runSteps (h : (r.runSteps steps [] state).result = .ok env) {id : String} :
    (env.find? id).isSome ↔ id ∈ steps.map Step.id := by
  rw [Environment.find?_isSome_iff, ids_of_runSteps h]
  simp

/-- The inputs that a step finds have the ids of earlier steps. -/
theorem mem_ids_of_inputs (h : (r.runSteps steps [] state).result = .ok env) {tables : List Table}
    (hinputs : inputs env s = .ok tables) : ∀ id ∈ s.inputs, id ∈ steps.map Step.id := by
  have hboth : List.Forall₂ (fun id t => (env.find? id).isSome ∧ env.find? id = some (.table t))
      s.inputs tables := (inputs_eq_ok.mp hinputs).2.imp fun id t ht => ⟨by rw [ht]; rfl, ht⟩
  intro id hid
  have hknown := ((List.forall₂_and_left s.inputs tables).mp hboth).1 id hid
  exact (find?_isSome_of_runSteps h).mp hknown

variable {p : Pipeline} {artifacts : List (String × Artifact)}

@[simp] theorem result_run : (r.run p state).result = (r.execute p state).result := rfl

/-- A pipeline that is accepted or not checked is carried out step by step. -/
theorem execute_of_accepted (h : r.checks = true → ∃ findings, Lint.check p = .ok findings) :
    r.execute p state =
      { r.runSteps p.steps [] state with
        result := (r.runSteps p.steps [] state).result.bind fun env =>
          p.returns.mapM (returned env) } := by
  rw [execute]
  cases hchecks : r.checks with
  | false => rfl
  | true =>
    obtain ⟨findings, hfindings⟩ := h hchecks
    rw [hfindings]
    rfl

theorem execute_of_check {findings : List Finding} (h : Lint.check p = .ok findings) :
    (r.execute p state).result =
      (r.runSteps p.steps [] state).result.bind fun env => p.returns.mapM (returned env) := by
  rw [execute_of_accepted fun _ => ⟨findings, h⟩]

/-- A run succeeds only if its steps do and everything it returns is there. -/
theorem exists_of_execute (h : (r.execute p state).result = .ok artifacts) :
    ∃ env, (r.runSteps p.steps [] state).result = .ok env ∧
      p.returns.mapM (returned env) = .ok artifacts := by
  rw [execute] at h
  split at h
  · cases h
  · exact Outcome.dotBind_eq_ok.mp h

end Runner
end RollCall
