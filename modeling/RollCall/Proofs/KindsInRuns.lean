import RollCall.Pipeline.Reading
import RollCall.Proofs.KindsInOperations
import RollCall.Proofs.WellFormedRuns

/-!
# Kinds in runs

The tables of a run hold what their kinds say exactly if the inputs of its joins fit each other. The
steps are gone through one after the other: what a step finds in the environment holds what its
kinds say, and so does what it leaves there, unless it is a join that does not fit.
-/
namespace RollCall

/-- Whether all votes that a pipeline weighs weigh numbers. -/
def Pipeline.WeighsNumbers (p : Pipeline) : Prop :=
  ∀ s ∈ p.steps, s.operation.WeighsNumbers

private theorem Pipeline.weighsNumbers_of_ofJson {v : Json} {p : Pipeline} (h : ofJson v = .ok p) :
    p.WeighsNumbers := by
  simp only [ofJson, Outcome.bind_eq_ok, Outcome.pure_eq_ok] at h
  obtain ⟨⟨values, returns⟩, -, steps, hsteps, rfl⟩ := h
  intro s hs
  obtain ⟨⟨value, i⟩, -, hstep⟩ := Outcome.exists_of_mem_mapM hsteps hs
  dsimp only at hstep
  unfold Step.ofJson at hstep
  split at hstep
  · split at hstep
    · rw [Outcome.mapError_eq_ok] at hstep
      simp only [Step.ofFields, Outcome.bind_eq_ok, Outcome.pure_eq_ok] at hstep
      obtain ⟨inputs, -, op, hop, rfl⟩ := hstep
      exact Operation.weighsNumbers_of_ofFields hop
    · cases hstep
  · cases hstep

def Environment.HoldsKinds (env : Environment) : Prop :=
  ∀ id t, (id, .table t) ∈ env → t.HoldsKinds

/-- Every table is made of records. -/
def TableStore.OfRecords (s : TableStore) : Prop :=
  ∀ entry ∈ s.tables, ∃ records, Table.ofRecords records = .ok entry.2

theorem TableStore.OfRecords.wellFormed {s : TableStore} (hs : s.OfRecords) : s.WellFormed := by
  intro entry hentry
  obtain ⟨records, hrecords⟩ := hs entry hentry
  exact (Table.wellFormed_of_ofRecords hrecords).1

namespace Runner

variable {r : Runner} {env env' : Environment} {s : Step} {steps : List Step} {state : VoteState}
  {a : Artifact}

/-- Whenever steps come to a join, its inputs fit each other. -/
def JoinsFit [Library] (r : Runner) : List Step → Environment → VoteState → Prop
  | [], _, _ => True
  | s :: steps, env, state =>
    (∀ tables, inputs env s = .ok tables → s.operation.InputsFit tables) ∧
      ∀ a, (r.runStep env s state).result = .ok a →
        JoinsFit r steps ((s.id, a) :: env) (r.runStep env s state).state

/-- Joins that keep no lone right row fit. -/
theorem joinsFit_of_kind [Library]
    (h : ∀ s ∈ steps, ∀ p, s.operation = .join p → p.kind = .inner ∨ p.kind = .left) :
    r.JoinsFit steps env state := by
  induction steps generalizing env state with
  | nil => trivial
  | cons s steps ih =>
    obtain ⟨hs, hsteps⟩ := List.forall_mem_cons.mp h
    refine ⟨fun tables _ => ?_, fun a _ => ih hsteps⟩
    cases hop : s.operation with
    | join p => exact Join.inputsFit_of_kind (hs p hop) tables
    | _ => trivial

/-- A step leaves a table that holds what its kinds say exactly if its inputs fit. -/
theorem holdsKinds_runStep_iff [Library] (hr : r.store.OfRecords) (hwell : env.WellFormed)
    (henv : env.HoldsKinds) (hweighs : s.operation.WeighsNumbers) {tables : List Table}
    (hinputs : inputs env s = .ok tables) (h : (r.runStep env s state).result = .ok a) :
    Environment.HoldsKinds ((s.id, a) :: env) ↔ s.operation.InputsFit tables := by
  obtain ⟨tables', hinputs', hrun⟩ := runStep_eq_ok.mp h
  cases hinputs.symm.trans hinputs'
  have hcontext : (r.context s tables).HoldsKinds := by
    refine ⟨fun t ht => ?_, fun entry hentry => ?_⟩
    · obtain ⟨id, hid⟩ := mem_of_inputs hinputs ht
      exact henv id t hid
    · obtain ⟨records, hrecords⟩ := hr entry hentry
      exact Table.holdsKinds_of_ofRecords hrecords
  have hcontextWell := wellFormed_context hr.wellFormed hwell hinputs
  constructor
  · intro hkinds
    cases a with
    | table t =>
      have ht : t.HoldsKinds := hkinds s.id t List.mem_cons_self
      exact (Operation.holdsKinds_run_iff hcontextWell hcontext hweighs hrun).mp ht
    | result result => exact Operation.inputsFit_of_result hrun
  · intro hfit id t ht
    rcases List.mem_cons.mp ht with heq | ht
    · cases heq
      exact (Operation.holdsKinds_run_iff hcontextWell hcontext hweighs hrun).mpr hfit
    · exact henv id t ht

private theorem mem_of_runSteps [Library] (h : (r.runSteps steps env state).result = .ok env') :
    ∀ entry ∈ env, entry ∈ env' :=
  runSteps_keeps (P := fun env₁ _ => ∀ entry ∈ env, entry ∈ env₁)
    (fun _ _ _ _ _ _ hkept entry hentry => List.mem_cons_of_mem _ (hkept entry hentry)) h
    fun _ hentry => hentry

/-- A run leaves tables that hold what their kinds say exactly if its joins fit. -/
theorem holdsKinds_runSteps_iff [Library] (hr : r.store.OfRecords) (hwell : env.WellFormed)
    (henv : env.HoldsKinds) (hweighs : ∀ s ∈ steps, s.operation.WeighsNumbers)
    (h : (r.runSteps steps env state).result = .ok env') :
    env'.HoldsKinds ↔ r.JoinsFit steps env state := by
  induction steps generalizing env state with
  | nil =>
    cases h
    exact iff_of_true henv trivial
  | cons s steps ih =>
    obtain ⟨hs, hsteps⟩ := List.forall_mem_cons.mp hweighs
    obtain ⟨a, ha, h⟩ := runSteps_cons_eq_ok.mp h
    obtain ⟨tables, hinputs, -⟩ := runStep_eq_ok.mp ha
    have hwell' : Environment.WellFormed ((s.id, a) :: env) :=
      List.forall_mem_cons.mpr ⟨wellFormed_of_runStep hr.wellFormed hwell ha, hwell⟩
    have hstep := holdsKinds_runStep_iff hr hwell henv hs hinputs ha
    constructor
    · intro hkinds
      have hleft : Environment.HoldsKinds ((s.id, a) :: env) :=
        fun id t ht => hkinds id t (mem_of_runSteps h _ ht)
      refine ⟨fun tables' hinputs' => ?_, fun a' ha' => ?_⟩
      · cases hinputs.symm.trans hinputs'
        exact hstep.mp hleft
      · cases ha.symm.trans ha'
        exact (ih hwell' hleft hsteps h).mp hkinds
    · rintro ⟨hfit, hrest⟩
      exact (ih hwell' (hstep.mpr (hfit tables hinputs)) hsteps h).mpr (hrest a ha)

/-- The tables of a run hold what their kinds say exactly if the inputs of its right and outer joins
fit each other, and always if it has none. Nothing else an operation of a document does puts a cell
under a kind that it does not fit. -/
theorem kinds_of_runs [Library] (r : Runner) (p : Pipeline) (state : VoteState)
    (hr : r.store.OfRecords) :
    (∀ v, Pipeline.ofJson v = .ok p → p.WeighsNumbers) ∧
    (p.WeighsNumbers → ∀ done rest env, p.steps = done ++ rest →
      (r.runSteps done [] state).result = .ok env →
        ((∀ id t, (id, .table t) ∈ env → t.HoldsKinds) ↔ r.JoinsFit done [] state) ∧
        ((∀ s ∈ done, ∀ q, s.operation = .join q → q.kind = .inner ∨ q.kind = .left) →
          r.JoinsFit done [] state)) := by
  refine ⟨fun v => Pipeline.weighsNumbers_of_ofJson, fun hweighs done rest env hsplit h => ?_⟩
  have hdone : ∀ s ∈ done, s.operation.WeighsNumbers := by
    intro s hs
    exact hweighs s (hsplit ▸ List.mem_append_left rest hs)
  have hempty : Environment.HoldsKinds [] := fun _ _ ht => absurd ht List.not_mem_nil
  exact ⟨holdsKinds_runSteps_iff hr (List.forall_mem_nil _) hempty hdone h, joinsFit_of_kind⟩

def keyedTable (kind : ColumnKind) (cells : List Cell) : Table :=
  ⟨[⟨"k", kind, cells⟩], cells.length⟩

/-- A number, two numbers, and a text. -/
def keyedRunner : Runner where
  store := ⟨[("one", keyedTable .numeric [.int 1]), ("two", keyedTable .numeric [.int 1, .int 2]),
    ("word", keyedTable .text [.text "x"])]⟩
  fetcher := { source := fun _ d => .error (.fetch ⟨d, .unreachable⟩) }

def keyedSteps (other : String) : List Step :=
  [⟨"one", [], .source { table := "one" }⟩, ⟨other, [], .source { table := other }⟩,
    ⟨"joined", ["one", other], .join { on := ["k"], kind := .outer }⟩]

def keyedEnvironment (other : String) (t joined : Table) : Environment :=
  [("joined", .table joined), (other, .table t), ("one", .table (keyedTable .numeric [.int 1]))]

theorem ofRecords_keyedRunner : keyedRunner.store.OfRecords := by
  intro entry hentry
  simp only [keyedRunner, List.mem_cons, List.not_mem_nil, or_false] at hentry
  rcases hentry with rfl | rfl | rfl
  · exact ⟨[.obj [("k", .int 1)]], rfl⟩
  · exact ⟨[.obj [("k", .int 1)], .obj [("k", .int 2)]], rfl⟩
  · exact ⟨[.obj [("k", .str "x")]], rfl⟩

theorem weighsNumbers_keyedSteps (other : String) :
    Pipeline.WeighsNumbers ⟨keyedSteps other, ["joined"]⟩ := by
  simp [Pipeline.WeighsNumbers, keyedSteps, Operation.WeighsNumbers]

theorem kinds_of_runs_sample :
    (keyedRunner.runSteps (keyedSteps "two") [] ⟨.empty 0, []⟩).result =
        .ok (keyedEnvironment "two" (keyedTable .numeric [.int 1, .int 2])
          (keyedTable .numeric [.int 1, .int 2])) ∧
      (keyedTable .numeric [.int 1, .int 2]).HoldsKinds := by
  have hrun : (keyedRunner.runSteps (keyedSteps "two") [] ⟨.empty 0, []⟩).result =
      .ok (keyedEnvironment "two" (keyedTable .numeric [.int 1, .int 2])
        (keyedTable .numeric [.int 1, .int 2])) := rfl
  have hjoins : keyedRunner.JoinsFit (keyedSteps "two") [] ⟨.empty 0, []⟩ := by
    refine ⟨fun _ _ => trivial, fun a ha => ⟨fun _ _ => trivial, fun b hb =>
      ⟨fun tables htables => ?_, fun _ _ => trivial⟩⟩⟩
    cases ha
    cases hb
    cases htables
    have hfit : Join.InputsFit ["k"] .outer
        [keyedTable .numeric [.int 1], keyedTable .numeric [.int 1, .int 2]] := by decide
    exact hfit
  obtain ⟨-, hkinds⟩ := kinds_of_runs keyedRunner ⟨keyedSteps "two", ["joined"]⟩ ⟨.empty 0, []⟩
    ofRecords_keyedRunner
  obtain ⟨hiff, -⟩ := hkinds (weighsNumbers_keyedSteps "two") (keyedSteps "two") [] _
    (List.append_nil _).symm hrun
  exact ⟨hrun, hiff.mpr hjoins "joined" _ List.mem_cons_self⟩

/-- The key column is numeric, as in the left table, and takes the text of a right row without a
left one. Rescaling, which takes all numeric columns unless told otherwise, fails at it. -/
theorem kinds_of_runs_unfit :
    keyedRunner.store.OfRecords ∧ Pipeline.WeighsNumbers ⟨keyedSteps "word", ["joined"]⟩ ∧
      ∃ t, (keyedRunner.runSteps (keyedSteps "word") [] ⟨.empty 0, []⟩).result =
          .ok (keyedEnvironment "word" (keyedTable .text [.text "x"]) t) ∧
        t.columns = [⟨"k", .numeric, [.int 1, .text "x"]⟩] ∧ ¬t.HoldsKinds ∧
        Operation.runRescale ⟨"scaled", [t], keyedRunner.store, keyedRunner.fetcher⟩
          { method := "zscore" } = .error (.transform (.notNumeric "k" (.text "x"))) := by
  have hword : Rescaling.ofWord (keyedTable .numeric [.int 1, .text "x"]) "zscore" none =
      .ok .zscore := by
    have hplain : Text.asciiLower (Text.trim "zscore") = "zscore" := by decide +kernel
    simp only [Rescaling.ofWord, hplain]
  refine ⟨ofRecords_keyedRunner, weighsNumbers_keyedSteps "word",
    keyedTable .numeric [.int 1, .text "x"], rfl, rfl, by decide, ?_⟩
  show (Rescaling.ofWord (keyedTable .numeric [.int 1, .text "x"]) "zscore" none).mapError
    Failure.transform >>= _ = _
  rw [hword]
  rfl

end Runner
end RollCall
