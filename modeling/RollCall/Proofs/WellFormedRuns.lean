import RollCall.Library.Standard
import RollCall.Proofs.Runs
import RollCall.Proofs.Strict.Operation

/-!
# Well-formed runs

Every step of a run finds well-formed tables in its environment and leaves one, so no step reads
outside a list. The cache holds well-formed rolls all the while.
-/
namespace RollCall

def Environment.WellFormed (env : Environment) : Prop :=
  ∀ entry ∈ env, entry.2.WellFormed

def VoteState.WellFormed (s : VoteState) : Prop :=
  s.cache.Holds fun _ t => t.WellFormed

namespace Runner

variable {r : Runner} {env env' : Environment} {s : Step} {state : VoteState} {a : Artifact}

theorem wellFormed_context (hr : r.store.WellFormed) (henv : env.WellFormed)
    {tables : List Table} (h : inputs env s = .ok tables) : (r.context s tables).WellFormed := by
  refine ⟨fun t ht => ?_, hr⟩
  obtain ⟨id, hid⟩ := mem_of_inputs h ht
  exact henv (id, .table t) hid

theorem wellFormed_of_runStep [Library] (hr : r.store.WellFormed) (henv : env.WellFormed)
    (h : (r.runStep env s state).result = .ok a) : a.WellFormed := by
  obtain ⟨tables, hinputs, hrun⟩ := runStep_eq_ok.mp h
  exact Operation.wellFormed_of_run (wellFormed_context hr henv hinputs) hrun

private theorem state_wellFormed_of_runStep [Library] (hstate : state.WellFormed)
    (h : (r.runStep env s state).result = .ok a) : (r.runStep env s state).state.WellFormed := by
  obtain ⟨tables, hinputs, -⟩ := runStep_eq_ok.mp h
  rw [state_runStep hinputs]
  exact Operation.holds_run r.fetcher.gives_wellFormed hstate s.operation

private theorem wellFormed_of_runSteps [Library] (hr : r.store.WellFormed) {steps : List Step}
    (h : (r.runSteps steps env state).result = .ok env') (henv : env.WellFormed)
    (hstate : state.WellFormed) :
    env'.WellFormed ∧ (r.runSteps steps env state).state.WellFormed := by
  refine runSteps_keeps (P := fun env state => env.WellFormed ∧ state.WellFormed)
    (fun s _ env state a ha hinv => ?_) h ⟨henv, hstate⟩
  refine ⟨fun entry hentry => ?_, state_wellFormed_of_runStep hinv.2 ha⟩
  rcases List.mem_cons.mp hentry with rfl | hentry
  · exact wellFormed_of_runStep hr hinv.1 ha
  · exact hinv.1 entry hentry

/-- An operation on well-formed tables reads nothing outside a list and makes a well-formed table or
fails; and after every part of a run all tables are well formed, so the next step reads nothing
outside a list either. -/
theorem wellFormed_execution [Library] :
    (∀ (c : Context) (state : VoteState) (op : Operation), c.WellFormed → state.WellFormed →
      Strict.run c state op = some (op.run c state) ∧
        (∀ t, (op.run c state).result = .ok (.table t) → t.WellFormed) ∧
        (op.run c state).state.WellFormed) ∧
    ∀ (r : Runner) (p : Pipeline) (state : VoteState), r.store.WellFormed → state.WellFormed →
      ∀ done rest env, p.steps = done ++ rest → (r.runSteps done [] state).result = .ok env →
        (∀ id t, (id, .table t) ∈ env → t.WellFormed) ∧
          ∀ s ∈ rest.head?, ∀ tables, inputs env s = .ok tables →
            Strict.run (r.context s tables) (r.runSteps done [] state).state s.operation =
              some (s.operation.run (r.context s tables) (r.runSteps done [] state).state) := by
  refine ⟨fun c state op hc hstate => ⟨Strict.run_eq hc state op, fun t ht => ?_, ?_⟩,
    fun r p state hr hstate done rest env _ h => ?_⟩
  · exact Operation.wellFormed_of_run hc ht
  · exact Operation.holds_run c.fetcher.gives_wellFormed hstate op
  · have hempty : Environment.WellFormed [] := fun _ hentry => absurd hentry List.not_mem_nil
    obtain ⟨henv, -⟩ := wellFormed_of_runSteps hr h hempty hstate
    refine ⟨fun id t ht => henv (id, .table t) ht, fun s _ tables hinputs => ?_⟩
    exact Strict.run_eq (wellFormed_context hr henv hinputs) _ s.operation

def sampleSteps : List Step :=
  [⟨"votes", [], .source { table := "votes" }⟩, ⟨"notes", [], .source { table := "notes" }⟩]

def sampleJoinStep : Step :=
  ⟨"joined", ["votes", "notes"], .join { on := ["division"], kind := .outer }⟩

/-- A store of two tables, and a source that cannot be reached. -/
def sampleRunner : Runner where
  store := ⟨[("votes", Join.sampleVotes), ("notes", Join.sampleNotes)]⟩
  fetcher := { source := fun _ d => .error (.fetch ⟨d, .unreachable⟩) }

def sampleState : VoteState where
  cache := (Cache.empty 2).put ⟨7, .commons⟩ (Roll.toTable ⟨[(1, .aye), (2, .no)]⟩)

def sampleEnvironment : Environment :=
  [("notes", .table Join.sampleNotes), ("votes", .table Join.sampleVotes)]

theorem wellFormed_execution_sample :
    Strict.run (sampleRunner.context sampleJoinStep [Join.sampleVotes, Join.sampleNotes])
        (sampleRunner.runSteps sampleSteps [] sampleState).state sampleJoinStep.operation =
      some ⟨.ok (.table Join.sampleJoin), sampleState, []⟩ ∧
    Join.sampleJoin.WellFormed := by
  have hvotes : Join.sampleVotes.WellFormed := ⟨by decide, by decide⟩
  have hnotes : Join.sampleNotes.WellFormed := ⟨by decide, by decide⟩
  have hstore : sampleRunner.store.WellFormed := by
    simp [TableStore.WellFormed, sampleRunner, hvotes, hnotes]
  have hstate : sampleState.WellFormed :=
    (Cache.holds_empty 2).put (Roll.toTable_wellFormed _)
  have hrun : (sampleRunner.runSteps sampleSteps [] sampleState).result =
      .ok sampleEnvironment := rfl
  have hinputs : inputs sampleEnvironment sampleJoinStep =
      .ok [Join.sampleVotes, Join.sampleNotes] := rfl
  have henv : sampleEnvironment.WellFormed := by
    simp [Environment.WellFormed, sampleEnvironment, Artifact.WellFormed, hvotes, hnotes]
  have hcontext := wellFormed_context hstore henv hinputs
  have hjoin := (wellFormed_execution.2 sampleRunner
    ⟨sampleSteps ++ [sampleJoinStep], ["joined"]⟩ sampleState hstore hstate sampleSteps
    [sampleJoinStep] sampleEnvironment rfl hrun).2 sampleJoinStep rfl _ hinputs
  exact ⟨hjoin, (wellFormed_execution.1 _ sampleState sampleJoinStep.operation hcontext
    hstate).2.1 Join.sampleJoin rfl⟩

end Runner
end RollCall
