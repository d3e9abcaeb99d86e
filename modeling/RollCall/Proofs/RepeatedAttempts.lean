import Mathlib.Order.Bounds.Defs
import RollCall.Proofs.Outcome
import RollCall.Votes.Fetch

/-!
# Repeated attempts

A call is made until its outcome is final or no attempt is left, and before each repetition the
failure is told and the delay of the policy is slept. All that is done follows from the failures on
the way (`Trial.Course`), and so does what a fetcher requests and notes when the cache has no roll.
-/
namespace RollCall

namespace Trial

variable {ε α : Type} {policy : Backoff} {mayPass : ε → Bool} {call : Nat → Except ε α}
  {left i : Nat} {failures : List ε} {trial : Trial ε α}

/-- The retry after the failure of the attempt with `i` before it. -/
def retryOf (policy : Backoff) (failed : ε × Nat) : Retry ε :=
  ⟨failed.2 + 1, failed.1, policy.delay failed.2⟩

def repetition (policy : Backoff) (failed : ε × Nat) : List (TrialAction ε) :=
  [.called, .told (retryOf policy failed), .slept (policy.delay failed.2)]

/-- No attempt follows this outcome. -/
def IsFinal (mayPass : ε → Bool) : Except ε α → Prop
  | .ok _ => True
  | .error e => mayPass e = false

private theorem isFinal_or_failed (mayPass : ε → Bool) (outcome : Except ε α) :
    IsFinal mayPass outcome ∨ ∃ e, outcome = .error e ∧ mayPass e := by
  cases outcome with
  | ok v => exact .inl trivial
  | error e =>
    cases hpass : mayPass e with
    | false => exact .inl hpass
    | true => exact .inr ⟨e, rfl, hpass⟩

private theorem runFrom_of_final (h : IsFinal mayPass (call i)) :
    runFrom policy mayPass call left i = ⟨[.called], call i⟩ := by
  cases left with
  | zero => rfl
  | succ left =>
    rw [runFrom]
    cases hcall : call i with
    | ok v => rfl
    | error e =>
      rw [hcall] at h
      exact if_neg (Bool.eq_false_iff.mp h)

private theorem runFrom_of_failed {e : ε} (hcall : call i = .error e) (hpass : mayPass e) :
    runFrom policy mayPass call (left + 1) i =
      { runFrom policy mayPass call left (i + 1) with
        actions := repetition policy (e, i) ++
          (runFrom policy mayPass call left (i + 1)).actions } := by
  rw [runFrom, hcall]
  exact if_pos hpass

/-- The attempts, counted from one, that none can follow: the last one that is allowed, and those
whose outcome is final. -/
def stops (attempts : Nat) (mayPass : ε → Bool) (call : Nat → Except ε α) : Set Nat :=
  {max 1 attempts} ∪ {p | ∃ i, IsFinal mayPass (call i) ∧ p = i + 1}

/-- A trial from the attempt `i` on that ends after the given failures, with at most `left` attempts
after the first. -/
structure Course (policy : Backoff) (mayPass : ε → Bool) (call : Nat → Except ε α) (left i : Nat)
    (failures : List ε) (trial : Trial ε α) : Prop where
  actions_eq : trial.actions = (failures.zipIdx i).flatMap (repetition policy) ++ [.called]
  result_eq : trial.result = call (i + failures.length)
  failed : ∀ k e, failures[k]? = some e → call (i + k) = .error e ∧ mayPass e
  length_le : failures.length ≤ left
  ended : failures.length = left ∨ IsFinal mayPass (call (i + failures.length))

/-- The only attempt. -/
theorem course_of_last (h : left = 0 ∨ IsFinal mayPass (call i)) :
    Course policy mayPass call left i [] ⟨[.called], call i⟩ where
  actions_eq := rfl
  result_eq := rfl
  failed := nofun
  length_le := left.zero_le
  ended := h.imp Eq.symm id

/-- One more attempt before all others. -/
theorem Course.cons {e : ε} (h : Course policy mayPass call left (i + 1) failures trial)
    (hcall : call i = .error e) (hpass : mayPass e) :
    Course policy mayPass call (left + 1) i (e :: failures)
      { trial with actions := repetition policy (e, i) ++ trial.actions } where
  actions_eq := by
    rw [h.actions_eq, List.zipIdx_cons, List.flatMap_cons, List.append_assoc]
  result_eq := by
    rw [h.result_eq, List.length_cons, Nat.add_right_comm, Nat.add_assoc]
  failed := by
    rintro (_ | k) e' hk
    · cases hk
      exact ⟨hcall, hpass⟩
    · rw [← Nat.add_assoc, Nat.add_right_comm]
      exact h.failed k e' hk
  length_le := Nat.succ_le_succ h.length_le
  ended := by
    rw [List.length_cons, ← Nat.add_assoc, Nat.add_right_comm]
    exact h.ended.imp_left (congrArg Nat.succ)

theorem exists_course (policy : Backoff) (mayPass : ε → Bool) (call : Nat → Except ε α)
    (left i : Nat) :
    ∃ failures,
      Course policy mayPass call left i failures (runFrom policy mayPass call left i) := by
  induction left generalizing i with
  | zero => exact ⟨[], course_of_last (.inl rfl)⟩
  | succ left ih =>
    obtain hfinal | ⟨e, hcall, hpass⟩ := isFinal_or_failed mayPass (call i)
    · exact ⟨[], runFrom_of_final hfinal ▸ course_of_last (.inr hfinal)⟩
    · obtain ⟨failures, hcourse⟩ := ih (i + 1)
      exact ⟨e :: failures, runFrom_of_failed hcall hpass ▸ hcourse.cons hcall hpass⟩

private theorem Course.retries_eq (h : Course policy mayPass call left i failures trial) :
    trial.retries = (failures.zipIdx i).map (retryOf policy) := by
  rw [retries, h.actions_eq, List.filterMap_append, List.filterMap_flatMap, List.map_eq_flatMap]
  exact List.append_nil _

theorem Course.calls_eq (h : Course policy mayPass call left i failures trial) :
    trial.calls = failures.length + 1 := by
  have hone : List.countP TrialAction.isCall ∘ repetition policy = fun _ : ε × Nat => 1 := rfl
  rw [calls, h.actions_eq, List.countP_append, List.countP_flatMap, hone, List.map_const',
    List.length_zipIdx, List.sum_replicate_nat, Nat.mul_one]
  rfl

/-- The calls end with the first attempt that none can follow. -/
theorem Course.isLeast_calls {attempts : Nat}
    (h : Course policy mayPass call (attempts - 1) 0 failures trial) :
    IsLeast (stops attempts mayPass call) trial.calls := by
  have hlength := h.length_le
  rw [h.calls_eq]
  constructor
  · obtain hlast | hfinal := h.ended
    · exact .inl (show failures.length + 1 = max 1 attempts by omega)
    · rw [Nat.zero_add] at hfinal
      exact .inr ⟨_, hfinal, rfl⟩
  · rintro p (rfl | ⟨i, hfinal, rfl⟩)
    · omega
    · by_contra hlt
      have hi : i < failures.length := by omega
      obtain ⟨hcall, hpass⟩ := h.failed i _ (List.getElem?_eq_getElem hi)
      rw [Nat.zero_add] at hcall
      rw [hcall] at hfinal
      exact Bool.noConfusion (hpass.symm.trans hfinal)

/-- A trial of `c` calls, the last of which gives its result. After every other one the attempt, its
failure and the delay are told, and the delay is slept. -/
structure RunsIn (attempts : Nat) (policy : Backoff) (mayPass : ε → Bool)
    (call : Nat → Except ε α) (trial : Trial ε α) (c : Nat) : Prop where
  isLeast : IsLeast (stops attempts mayPass call) c
  calls_eq : trial.calls = c
  result_eq : trial.result = call (c - 1)
  exists_failures : ∃ failures : List ε, failures.length = c - 1 ∧
    (∀ i e, failures[i]? = some e → call i = .error e) ∧
    trial.actions = failures.zipIdx.flatMap (repetition policy) ++ [.called]

theorem Course.runsIn {attempts : Nat}
    (h : Course policy mayPass call (attempts - 1) 0 failures trial) :
    RunsIn attempts policy mayPass call trial trial.calls where
  isLeast := h.isLeast_calls
  calls_eq := rfl
  result_eq := by
    rw [h.result_eq, h.calls_eq, Nat.zero_add, Nat.add_sub_cancel]
  exists_failures := by
    refine ⟨failures, by rw [h.calls_eq, Nat.add_sub_cancel], fun i e hi => ?_, h.actions_eq⟩
    rw [← (h.failed i e hi).1, Nat.zero_add]

end Trial

namespace Fetcher

variable {f : Fetcher} {d : Division} {s : VoteState}

def noted (d : Division) : Except Failure Table → List FetchEvent
  | .ok t => [.fetched d t.rowCount]
  | .error _ => []

structure FetchesIn (f : Fetcher) (d : Division) (s : VoteState) (c : Nat) : Prop where
  isLeast : IsLeast (Trial.stops f.attempts Failure.isRetryable (f.request s.requests d)) c
  requests_eq : (f.fetch d s).state.requests = s.requests ++ List.replicate c d
  result_eq : (f.fetch d s).result = f.request s.requests d (c - 1)
  events_eq : (f.fetch d s).events =
    (List.range' 1 (c - 1)).map (.retrying d) ++ noted d (f.request s.requests d (c - 1))
  /-- No request follows a payload that cannot be read. -/
  le_of_malformed : ∀ i payload fault, f.source (s.requests ++ List.replicate i d) d = .ok payload →
    Roll.ofPayload d.chamber payload = .error fault → c ≤ i + 1

private theorem isFinal_of_malformed {requests : List Division} {i : Nat} {payload : Json}
    {fault : PayloadFault} (hsource : f.source (requests ++ List.replicate i d) d = .ok payload)
    (hpayload : Roll.ofPayload d.chamber payload = .error fault) :
    Trial.IsFinal Failure.isRetryable (f.request requests d i) := by
  simp only [request, hsource, read, hpayload]
  rfl

private theorem map_zipIdx_retrying {ε : Type} (failures : List ε) :
    failures.zipIdx.map (fun failed => FetchEvent.retrying d (failed.2 + 1)) =
      (List.range' 1 failures.length).map (.retrying d) := by
  rw [List.range'_eq_map_range, List.range_eq_range', ← List.zipIdx_map_snd, List.map_map,
    List.map_map]
  exact List.map_congr_left fun failed _ => congrArg (FetchEvent.retrying d) (Nat.add_comm _ 1)

theorem fetch_of_miss (hmiss : (s.cache.get d).1 = none) :
    f.FetchesIn d s (f.retrieve s.requests d).calls := by
  obtain ⟨failures, hcourse⟩ := Trial.exists_course f.backoff Failure.isRetryable
    (f.request s.requests d) (f.attempts - 1) 0
  change Trial.Course _ _ _ _ _ _ (f.retrieve s.requests d) at hcourse
  have hruns := hcourse.runsIn
  have hget : s.cache.get d = (none, (s.cache.get d).2) := by
    rw [← hmiss]
  have hretries : (f.retrieve s.requests d).retries.map (fun r => FetchEvent.retrying d r.attempt) =
      (List.range' 1 ((f.retrieve s.requests d).calls - 1)).map (.retrying d) := by
    rw [hcourse.retries_eq, hcourse.calls_eq, Nat.add_sub_cancel, List.map_map]
    exact map_zipIdx_retrying failures
  have hresult := hruns.result_eq
  constructor
  · exact hruns.isLeast
  · rw [fetch, hget]
    dsimp only
    cases (f.retrieve s.requests d).result <;> rfl
  · rw [← hresult, fetch, hget]
    dsimp only
    cases (f.retrieve s.requests d).result <;> rfl
  · rw [← hresult, fetch, hget, ← hretries]
    dsimp only
    cases (f.retrieve s.requests d).result with
    | ok t => rfl
    | error failure => exact (List.append_nil _).symm
  · intro i payload fault hsource hpayload
    exact hruns.isLeast.2 (.inr ⟨i, isFinal_of_malformed hsource hpayload, rfl⟩)

/-- A call is repeated until its outcome is final or all attempts are made, and so are the requests
for a roll that is not in the cache. -/
theorem repeats_until_final {ε α : Type} (attempts : Nat) (policy : Backoff) (mayPass : ε → Bool)
    (call : Nat → Except ε α) (f : Fetcher) (d : Division) (s : VoteState) :
    (∃ c, Trial.RunsIn attempts policy mayPass call (Trial.run attempts policy mayPass call) c) ∧
      ((s.cache.get d).1 = none → ∃ c, f.FetchesIn d s c) := by
  obtain ⟨failures, hcourse⟩ := Trial.exists_course policy mayPass call (attempts - 1) 0
  exact ⟨⟨_, hcourse.runsIn⟩, fun hmiss => ⟨_, fetch_of_miss hmiss⟩⟩

/-- A source whose first answer comes too late and whose next one is no roll. -/
def lateSource : Source := fun requests _ =>
  if requests.isEmpty then .error (.fetch ⟨⟨7, .lords⟩, .timedOut 30⟩) else .ok .null

theorem repeats_until_final_of_late :
    let fetching := fetch { source := lateSource } ⟨7, .lords⟩ ⟨.empty 1, []⟩
    fetching.state.requests = [⟨7, .lords⟩, ⟨7, .lords⟩] ∧
      fetching.events = [.retrying ⟨7, .lords⟩ 1] := by
  obtain ⟨c, h⟩ := (repeats_until_final 0 .immediate (fun _ : Unit => true) (fun _ => .ok ())
    { source := lateSource } ⟨7, .lords⟩ ⟨.empty 1, []⟩).2 rfl
  have hc : c = 2 := by
    have hle : c ≤ 2 := h.le_of_malformed 1 .null _ rfl rfl
    obtain rfl | ⟨i, hfinal, rfl⟩ := h.isLeast.1
    · exact absurd hle (by decide)
    · cases i with
      | zero => exact Bool.noConfusion (hfinal : true = false)
      | succ i => omega
  subst hc
  exact ⟨h.requests_eq, h.events_eq⟩

end Fetcher
end RollCall
