import Mathlib.Data.List.Induction
import Mathlib.Data.List.Perm.Subperm
import RollCall.Proofs.FixedSource
import RollCall.Proofs.LintAgreement
import RollCall.Proofs.VoteMatrices

/-!
# The order of steps

The environment that a successful run leaves settles every one of its steps: it has the inputs of
the step and what the operation makes of them. Any other run of steps that are settled in this way
finds the same artifacts, in whichever order the steps stand and whichever of them are left out.
-/
namespace RollCall

open Fetcher (Remembers)

theorem Environment.find?_cons (env : Environment) (id other : String) (a : Artifact) :
    find? ((id, a) :: env) other = if id = other then some a else env.find? other := by
  by_cases h : id = other <;> simp [Environment.find?, h]

namespace Lint

variable {p : Pipeline} {findings : List Finding}

private theorem nodup_of_repeatedIds {seen : List String} {steps : List Step}
    (h : repeatedIds seen steps = []) :
    (steps.map Step.id).Nodup ∧ ∀ id ∈ steps.map Step.id, id ∉ seen := by
  induction steps generalizing seen with
  | nil => simp
  | cons s steps ih =>
    rw [repeatedIds] at h
    split at h
    · cases h
    · next hs =>
      obtain ⟨hnodup, hseen⟩ := ih h
      refine ⟨List.nodup_cons.mpr ⟨fun hmem => hseen s.id hmem List.mem_cons_self, hnodup⟩, ?_⟩
      intro id hid
      rcases List.mem_cons.mp hid with rfl | hid
      · exact hs
      · exact fun hmem => hseen id hid (List.mem_cons_of_mem _ hmem)

/-- The steps of an accepted pipeline have distinct ids. -/
theorem nodup_of_check (h : check p = .ok findings) : (p.steps.map Step.id).Nodup := by
  have hnone : repeatedIds [] p.steps = [] := by
    refine List.eq_nil_iff_forall_not_mem.mpr fun f hf => ?_
    have hmem : f ∈ Lint.findings p := by
      simp only [Lint.findings, List.mem_append]
      exact .inl (.inl (.inl (.inl hf)))
    obtain ⟨id, rfl⟩ := exists_of_mem_repeatedIds hf
    cases isError_of_check h _ hmem
  exact (nodup_of_repeatedIds hnone).1

end Lint

/-- The ids that the returned artifacts depend on, directly or through inputs. -/
inductive Pipeline.Needs (p : Pipeline) : String → Prop
  | returned {id : String} (hid : id ∈ p.returns) : Needs p id
  | input {s : Step} {id : String} (hs : s ∈ p.steps) (hneeds : Needs p s.id)
      (hid : id ∈ s.inputs) : Needs p id

/-- An accepted pipeline that leaves out steps of another one, for the same ids to return, leaves
out none that these depend on. -/
theorem Pipeline.Needs.mem_steps {p q : Pipeline} {findings : List Finding}
    (hnodup : (p.steps.map Step.id).Nodup) (hq : Lint.check q = .ok findings)
    (hsteps : q.steps ⊆ p.steps) (hreturns : q.returns = p.returns) {id : String}
    (h : p.Needs id) : id ∈ q.steps.map Step.id := by
  induction h with
  | returned hid => exact Lint.mem_steps_of_check hq (hreturns ▸ hid)
  | @input s id hs _ hid ih =>
    obtain ⟨s', hs', heq⟩ := List.mem_map.mp ih
    have hsame : s' = s := List.inj_on_of_nodup_map hnodup (hsteps hs') hs heq
    obtain ⟨done, rest, hsplit⟩ := List.append_of_mem (hsame ▸ hs')
    have hearlier := Lint.mem_ids_of_check hq hsplit hid
    rw [hsplit, List.map_append]
    exact List.mem_append_left _ hearlier

namespace Runner

variable {r : Runner} {answer : Division → Except Failure Json} {env env' : Environment}
  {s : Step} {steps done rest : List Step} {state : VoteState} {p q : Pipeline}

/-- A run does not touch the artifacts of other ids. -/
theorem find?_of_runSteps [Library] (h : (r.runSteps steps env state).result = .ok env')
    {id : String} (hid : id ∉ steps.map Step.id) : env'.find? id = env.find? id := by
  induction steps generalizing env state with
  | nil =>
    cases h
    rfl
  | cons s steps ih =>
    rw [List.map_cons, List.mem_cons, not_or] at hid
    obtain ⟨a, -, hrest⟩ := runSteps_cons_eq_ok.mp h
    rw [ih hrest hid.2, Environment.find?_cons, if_neg (Ne.symm hid.1)]

theorem inputs_congr (h : ∀ id ∈ s.inputs, env.find? id = env'.find? id) :
    inputs env s = inputs env' s := by
  have htable : ∀ id ∈ s.inputs, inputTable env id = inputTable env' id := by
    intro id hid
    rw [inputTable, inputTable, h id hid]
  rw [inputs, inputs, Outcome.mapM_congr htable]

private theorem returned_congr {ids : List String} (h : ∀ id ∈ ids, env.find? id = env'.find? id) :
    ids.mapM (returned env) = ids.mapM (returned env') := by
  refine Outcome.mapM_congr fun id hid => ?_
  rw [returned, returned, h id hid]

/-- The environment has the inputs of the step, and what its operation makes of them whatever is
cached. -/
def Settles [Library] (r : Runner) (answer : Division → Except Failure Json) (env : Environment)
    (s : Step) : Prop :=
  ∃ tables a, inputs env s = .ok tables ∧ env.find? s.id = some a ∧
    ∀ state, Remembers answer state →
      (s.operation.run (r.context s tables) state).result = .ok a

theorem remembers_runSteps [Library] (hr : r.fetcher.Answers answer)
    (h : (r.runSteps steps env state).result = .ok env') (hstate : Remembers answer state) :
    Remembers answer (r.runSteps steps env state).state := by
  refine runSteps_keeps (P := fun _ state => Remembers answer state)
    (fun s _ env state a ha hstate => ?_) h hstate
  obtain ⟨tables, hinputs, -⟩ := runStep_eq_ok.mp ha
  rw [state_runStep hinputs]
  exact Operation.holds_run hr.gives hstate s.operation

/-- What a successful run of steps with distinct ids leaves settles all of them. -/
theorem settles_of_runSteps [Library] (hr : r.fetcher.Answers answer)
    (hstate : Remembers answer state) (hnodup : (steps.map Step.id).Nodup)
    (h : (r.runSteps steps [] state).result = .ok env) :
    ∀ s ∈ steps, Settles r answer env s := by
  intro s hs
  obtain ⟨done, rest, rfl⟩ := List.append_of_mem hs
  obtain ⟨env₁, hdone, hrest⟩ := runSteps_append_eq_ok.mp h
  obtain ⟨a, ha, hlast⟩ := runSteps_cons_eq_ok.mp hrest
  obtain ⟨tables, hinputs, hrun⟩ := runStep_eq_ok.mp ha
  rw [List.map_append, List.map_cons, List.nodup_append] at hnodup
  obtain ⟨-, hlater, hapart⟩ := hnodup
  have hself : env.find? s.id = some a := by
    rw [find?_of_runSteps hlast (List.nodup_cons.mp hlater).1, Environment.find?_cons,
      if_pos rfl]
  -- an input is the id of an earlier step, so nothing replaces it later
  have hkept : ∀ id ∈ s.inputs, env.find? id = env₁.find? id := by
    intro id hid
    have hearlier := mem_ids_of_inputs hdone hinputs id hid
    have hne : ∀ other ∈ s.id :: rest.map Step.id, id ≠ other := hapart id hearlier
    rw [find?_of_runSteps hlast fun hmem => hne id (List.mem_cons_of_mem _ hmem) rfl,
      Environment.find?_cons, if_neg (hne s.id List.mem_cons_self).symm]
  refine ⟨tables, a, (inputs_congr hkept).trans hinputs, hself, fun state' hstate' => ?_⟩
  rw [← hrun]
  exact Operation.result_run hr hstate' (remembers_runSteps hr hdone hstate) s.operation

/-- Settled steps run through if every input is the id of an earlier step, and leave the artifacts
of the environment that settles them. -/
theorem runSteps_of_settles [Library] (hr : r.fetcher.Answers answer)
    (hstate : Remembers answer state) (hsettles : ∀ s ∈ steps, Settles r answer env s)
    (hinputs : ∀ done s rest, steps = done ++ s :: rest →
      ∀ id ∈ s.inputs, id ∈ done.map Step.id) :
    ∃ env', (r.runSteps steps [] state).result = .ok env' ∧
      ∀ id ∈ steps.map Step.id, env'.find? id = env.find? id := by
  induction steps using List.reverseRecOn with
  | nil => exact ⟨[], rfl, by simp⟩
  | append_singleton steps s ih =>
    obtain ⟨env₁, hrun, hagree⟩ := ih (fun s' hs' => hsettles s' (List.mem_append_left _ hs'))
      fun done s' rest hsteps => hinputs done s' (rest ++ [s]) (by simp [hsteps])
    obtain ⟨tables, a, htables, hself, hresult⟩ := hsettles s (by simp)
    have hfound : inputs env₁ s = .ok tables := by
      rw [inputs_congr fun id hid => hagree id (hinputs steps s [] rfl id hid), htables]
    have hstep : (r.runStep env₁ s (r.runSteps steps [] state).state).result = .ok a :=
      runStep_eq_ok.mpr ⟨tables, hfound, hresult _ (remembers_runSteps hr hrun hstate)⟩
    refine ⟨(s.id, a) :: env₁, ?_, fun id hid => ?_⟩
    · exact runSteps_append_eq_ok.mpr ⟨env₁, hrun, runSteps_cons_eq_ok.mpr ⟨a, hstep, rfl⟩⟩
    · rw [Environment.find?_cons]
      split
      · next heq => rw [← heq, hself]
      · next hne =>
        have hold : id ∈ steps.map Step.id := by
          simpa [Ne.symm hne] using hid
        exact hagree id hold

/-- A run depends on the graph of its steps only: not on their order, nor on steps that nothing
returned depends on, nor on what was cached or requested before. -/
theorem run_eq_of_subperm [Library] {r : Runner} {answer : Division → Except Failure Json}
    {p q : Pipeline} {s s' : VoteState} {findings findings' : List Finding}
    {artifacts : List (String × Artifact)} (hr : r.fetcher.Answers answer)
    (hs : Remembers answer s) (hs' : Remembers answer s')
    (hp : Lint.check p = .ok findings) (hq : Lint.check q = .ok findings')
    (hsteps : q.steps.Subperm p.steps) (hreturns : q.returns = p.returns)
    (h : (r.run p s).result = .ok artifacts) :
    (r.run q s').result = .ok artifacts ∧ ∀ id, p.Needs id → id ∈ q.steps.map Step.id := by
  have hnodup := Lint.nodup_of_check hp
  refine ⟨?_, fun id hid => hid.mem_steps hnodup hq hsteps.subset hreturns⟩
  rw [result_run, execute_of_check hp] at h
  obtain ⟨env, hrun, hreturned⟩ := Outcome.dotBind_eq_ok.mp h
  have hsettles := settles_of_runSteps hr hs hnodup hrun
  obtain ⟨env', hrun', hagree⟩ := runSteps_of_settles hr hs'
    (fun s hs => hsettles s (hsteps.subset hs))
    fun done s rest hsplit id hid => Lint.mem_ids_of_check hq hsplit hid
  have hreturned' : q.returns.mapM (returned env') = .ok artifacts := by
    rw [returned_congr fun id hid => hagree id (Lint.mem_steps_of_check hq hid), hreturns,
      hreturned]
  rw [result_run, execute_of_check hq, hrun']
  exact hreturned'

def sampleAnswer (d : Division) : Except Failure Json :=
  if d = ⟨7, .commons⟩ then
    .ok (.obj [("Ayes", .arr [.obj [("MemberId", .int 3)]]),
      ("Noes", .arr [.obj [("MemberId", .int 1)]])])
  else .error (.fetch ⟨d, .unreachable⟩)

def sampleRoll : Roll := ⟨[(3, .aye), (1, .no)]⟩

def answeredRunner : Runner where
  store := ⟨[("notes", ⟨[⟨"member_id", .numeric, [.int 1, .int 2]⟩], 2⟩)]⟩
  fetcher := { source := fun _ => sampleAnswer }

def notesStep : Step := ⟨"notes", [], .source { table := "notes" }⟩

def votesStep : Step :=
  ⟨"votes", [], .divisionVotes
    { divisions := [7], chamber := .commons, weights := { aye := .int 1, no := .int 2 } }⟩

def joinStep : Step := ⟨"joined", ["notes", "votes"], .join { on := ["member_id"] }⟩

def unusedStep : Step := ⟨"unused", [], .source { table := "notes" }⟩

def sampleMatrix : Table :=
  ⟨[⟨"member_id", .numeric, [.int 1, .int 3]⟩, ⟨"division_7", .numeric, [.int 2, .int 1]⟩], 2⟩

def sampleArtifacts : List (String × Artifact) :=
  [("joined", .table ⟨[⟨"member_id", .numeric, [.int 1]⟩, ⟨"division_7", .numeric, [.int 2]⟩], 1⟩),
    ("votes", .table sampleMatrix)]

theorem run_eq_of_subperm_sample :
    (answeredRunner.run ⟨[votesStep, notesStep, joinStep], ["joined", "votes"]⟩
      ⟨(Cache.empty 1).put ⟨7, .commons⟩ sampleRoll.toTable, []⟩).result = .ok sampleArtifacts := by
  have hanswers : answeredRunner.fetcher.Answers sampleAnswer := fun _ _ => rfl
  have hempty : Remembers sampleAnswer ⟨.empty 0, []⟩ := Cache.holds_empty 0
  have hcached : Remembers sampleAnswer
      ⟨(Cache.empty 1).put ⟨7, .commons⟩ sampleRoll.toTable, []⟩ :=
    (Cache.holds_empty 1).put rfl
  have hsteps : [votesStep, notesStep, joinStep].Subperm
      [notesStep, unusedStep, votesStep, joinStep] :=
    ⟨[notesStep, votesStep, joinStep], .swap _ _ _, by simp⟩
  have hcheck : Lint.check ⟨[notesStep, unusedStep, votesStep, joinStep], ["joined", "votes"]⟩ =
      .ok [.unusedStep "unused"] := rfl
  have hcheck' : Lint.check ⟨[votesStep, notesStep, joinStep], ["joined", "votes"]⟩ = .ok [] := rfl
  have hmembers : VoteMatrix.members [(7, [(3, .int 1), (1, .int 2)])] = [1, 3] := by
    simp [VoteMatrix.members, List.mergeSort, List.eraseDups_cons]
  have hbuilt : (VoteMatrix.build answeredRunner.fetcher [7] .commons
      { aye := .int 1, no := .int 2 } "division_" ⟨.empty 0, []⟩).result = .ok sampleMatrix := by
    rw [VoteMatrix.build_eq [(7, sampleRoll)] rfl hmembers rfl]
    rfl
  have hvotes : ∀ env, (answeredRunner.runStep env votesStep ⟨.empty 0, []⟩).result =
      .ok (.table sampleMatrix) := fun env =>
    runStep_eq_ok.mpr ⟨[], rfl, congrArg (Except.map Artifact.table) hbuilt⟩
  have hrun : (answeredRunner.run ⟨[notesStep, unusedStep, votesStep, joinStep],
      ["joined", "votes"]⟩ ⟨.empty 0, []⟩).result = .ok sampleArtifacts := by
    have hsteps : (answeredRunner.runSteps [notesStep, unusedStep, votesStep, joinStep] []
        ⟨.empty 0, []⟩).result = .ok _ :=
      runSteps_cons_eq_ok.mpr ⟨_, rfl, runSteps_cons_eq_ok.mpr ⟨_, rfl,
        runSteps_cons_eq_ok.mpr ⟨_, hvotes _, runSteps_cons_eq_ok.mpr ⟨_, rfl, rfl⟩⟩⟩⟩
    rw [result_run, execute_of_check hcheck, hsteps]
    rfl
  exact (run_eq_of_subperm hanswers hempty hcached hcheck hcheck' hsteps rfl hrun).1

end Runner
end RollCall
