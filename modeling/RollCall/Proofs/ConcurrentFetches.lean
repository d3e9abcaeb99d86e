import Mathlib.Algebra.GroupWithZero.Nat
import Mathlib.Logic.Relation
import RollCall.Proofs.FixedSource

/-!
# Fetches side by side

A fetch looks into the cache, makes its requests one after the other and stores what they give.
Between any two of these steps other fetches may take theirs, on the same cache and the same source.
For a source with fixed answers this changes no result: whatever the cache holds has come from the
answer for that very division.
-/
namespace RollCall

inductive FetchStage
  | waiting
  /-- The cache has been of no help, and so many further requests may follow the next one. -/
  | requesting (left : Nat)
  | retrieved (t : Table)
  | finished (result : Except Failure Table)

namespace FetchStage

def isFinished : FetchStage → Bool
  | finished _ => true
  | _ => false

/-- A bound on the steps that are left when a fetch may make so many requests. -/
def stepsLeft (attempts : Nat) : FetchStage → Nat
  | waiting => attempts + 3
  | requesting left => left + 2
  | retrieved _ => 1
  | finished _ => 0

end FetchStage

namespace Fetcher

def advance (f : Fetcher) (d : Division) (s : VoteState) : FetchStage → VoteState × FetchStage
  | .waiting =>
    match s.cache.get d with
    | (some t, cache) => ({ s with cache }, .finished (.ok t))
    | (none, _) => (s, .requesting (f.attempts - 1))
  | .requesting left =>
    ({ s with requests := s.requests ++ [d] },
      match f.request s.requests d 0 with
      | .ok t => .retrieved t
      | .error failure =>
        if failure.isRetryable ∧ 0 < left then .requesting (left - 1)
        else .finished (.error failure))
  | .retrieved t => ({ s with cache := s.cache.put d t }, .finished (.ok t))
  | .finished result => (s, .finished result)

structure Crowd where
  state : VoteState
  fetches : List (Division × FetchStage)

/-- The fetch at the position `i` takes a step. -/
inductive Moves (f : Fetcher) (i : Nat) : Crowd → Crowd → Prop
  | step {c : Crowd} {d : Division} {stage : FetchStage} (hi : c.fetches[i]? = some (d, stage))
    (hstage : stage.isFinished = false) :
    Moves f i c ⟨(f.advance d c.state stage).1,
      c.fetches.set i (d, (f.advance d c.state stage).2)⟩

def Reaches (f : Fetcher) : Crowd → Crowd → Prop :=
  Relation.ReflTransGen fun c c' => ∃ i, f.Moves i c c'

def Crowd.start (s : VoteState) (ds : List Division) : Crowd :=
  ⟨s, ds.map fun d => (d, .waiting)⟩

/-- What is remembered when an empty cache has been filled by fetches side by side, of fetchers
whose source gives the same answers. -/
inductive Filled (answer : Division → Except Failure Json) : VoteState → Prop
  | empty (capacity : Nat) (requests : List Division) : Filled answer ⟨.empty capacity, requests⟩
  | fetched {f : Fetcher} {s : VoteState} {ds : List Division} {c : Crowd} (hf : f.Answers answer)
    (hs : Filled answer s) (hc : f.Reaches (.start s ds) c) : Filled answer c.state

variable {f : Fetcher} {answer : Division → Except Failure Json} {s : VoteState} {c c' : Crowd}
  {d : Division} {stage : FetchStage} {i : Nat}

/-! ### Results -/

/-- What a fetch has in hand comes from the answer for its division. -/
def Follows (answer : Division → Except Failure Json) (d : Division) : FetchStage → Prop
  | .retrieved t => rollOf answer d = .ok t
  | .finished result => result = rollOf answer d
  | _ => True

/-- A step keeps both what the cache holds and what the fetch has in hand true to the answers. -/
theorem Answers.advance (hf : f.Answers answer) (hs : Remembers answer s)
    (hstage : Follows answer d stage) :
    Remembers answer (f.advance d s stage).1 ∧ Follows answer d (f.advance d s stage).2 := by
  cases stage with
  | waiting =>
    rw [Fetcher.advance, Cache.get]
    cases hfind : Cache.find? d s.cache.entries with
    | some t =>
      exact ⟨Cache.Holds.touch hs d, (hs.of_find? hfind).symm⟩
    | none => exact ⟨hs, trivial⟩
  | requesting left =>
    refine ⟨hs, ?_⟩
    rw [Fetcher.advance, hf.request_eq]
    cases hroll : rollOf answer d with
    | ok t => exact hroll
    | error failure =>
      dsimp only
      split
      · trivial
      · exact hroll.symm
  | retrieved t =>
    have hroll : rollOf answer d = .ok t := hstage
    exact ⟨Cache.Holds.put hs hroll, hroll.symm⟩
  | finished result => exact ⟨hs, hstage⟩

structure Sound (answer : Division → Except Failure Json) (c : Crowd) : Prop where
  remembers : Remembers answer c.state
  follows : ∀ fetch ∈ c.fetches, Follows answer fetch.1 fetch.2

theorem sound_start (hs : Remembers answer s) (ds : List Division) :
    Sound answer (.start s ds) := by
  refine ⟨hs, fun fetch hfetch => ?_⟩
  obtain ⟨d, -, rfl⟩ := List.mem_map.mp hfetch
  trivial

private theorem Answers.sound_of_moves (hf : f.Answers answer) (hc : Sound answer c)
    (hmoves : f.Moves i c c') : Sound answer c' := by
  obtain ⟨hi, -⟩ := hmoves
  obtain ⟨hremembers, hfollows⟩ :=
    hf.advance hc.remembers (hc.follows _ (List.mem_of_getElem? hi))
  refine ⟨hremembers, fun fetch hfetch => ?_⟩
  rcases List.mem_or_eq_of_mem_set hfetch with hold | rfl
  · exact hc.follows fetch hold
  · exact hfollows

theorem Answers.sound_of_reaches (hf : f.Answers answer) (hc : Sound answer c)
    (hreaches : f.Reaches c c') : Sound answer c' := by
  induction hreaches with
  | refl => exact hc
  | tail _ hmoves ih =>
    obtain ⟨i, hmoves⟩ := hmoves
    exact hf.sound_of_moves ih hmoves

private theorem remembers_of_filled (hs : Filled answer s) : Remembers answer s := by
  induction hs with
  | empty capacity requests => exact Cache.holds_empty capacity
  | fetched hf _ hc ih => exact (hf.sound_of_reaches (sound_start ih _) hc).remembers

/-! ### Progress -/

private theorem map_set_eq {α β : Type} {g : α → β} {xs : List α} {i : Nat} {x y : α}
    (hi : xs[i]? = some x) (h : g y = g x) : (xs.set i y).map g = xs.map g := by
  obtain ⟨hlt, rfl⟩ := List.getElem?_eq_some_iff.mp hi
  rw [List.map_set, h, ← List.getElem_map g (h := by simpa using hlt), List.set_getElem_self]

private theorem divisions_of_reaches (hreaches : f.Reaches c c') :
    c'.fetches.map Prod.fst = c.fetches.map Prod.fst := by
  induction hreaches with
  | refl => rfl
  | tail _ hmoves ih =>
    obtain ⟨i, hi, -⟩ := hmoves
    rw [← ih]
    exact map_set_eq hi rfl

private theorem sum_map_set_lt {α : Type} {g : α → Nat} {xs : List α} {i : Nat} {x y : α}
    (hi : xs[i]? = some x) (h : g y < g x) : ((xs.set i y).map g).sum < (xs.map g).sum := by
  induction xs generalizing i with
  | nil => cases hi
  | cons z xs ih =>
    cases i with
    | zero =>
      obtain rfl : z = x := Option.some.inj hi
      simpa using h
    | succ i =>
      have hrest := ih hi
      simp only [List.set_cons_succ, List.map_cons, List.sum_cons]
      omega

private theorem stepsLeft_advance (f : Fetcher) (d : Division) (s : VoteState)
    (hstage : stage.isFinished = false) :
    (f.advance d s stage).2.stepsLeft f.attempts < stage.stepsLeft f.attempts := by
  cases stage with
  | waiting =>
    rw [advance]
    split
    · exact Nat.succ_pos _
    · simp only [FetchStage.stepsLeft]
      omega
  | requesting left =>
    rw [advance]
    dsimp only
    split
    · simp only [FetchStage.stepsLeft]
      omega
    · split
      · next hagain =>
        simp only [FetchStage.stepsLeft]
        omega
      · exact Nat.succ_pos _
  | retrieved t => exact Nat.one_pos
  | finished result => cases hstage

private theorem wellFounded_moves (f : Fetcher) :
    WellFounded fun c' c : Crowd => ∃ i, f.Moves i c c' := by
  refine Subrelation.wf (r := InvImage (· < ·) fun c : Crowd =>
    (c.fetches.map fun fetch => fetch.2.stepsLeft f.attempts).sum) ?_
    (InvImage.wf _ Nat.lt_wfRel.wf)
  rintro c' c ⟨i, hi, hstage⟩
  exact sum_map_set_lt hi (stepsLeft_advance f _ _ hstage)

private theorem isFinished_of_stuck (hstuck : ∀ i c', ¬f.Moves i c c') :
    ∀ fetch ∈ c.fetches, fetch.2.isFinished := by
  rintro ⟨d, stage⟩ hfetch
  obtain ⟨i, hi⟩ := List.getElem?_of_mem hfetch
  by_contra hstage
  exact hstuck i _ (.step hi (by simpa using hstage))

/-! ### Failures -/

/-- Only a step that ends in success touches the cache. -/
theorem cache_advance (h : ∀ t, (f.advance d s stage).2 ≠ .finished (.ok t)) :
    (f.advance d s stage).1.cache = s.cache := by
  cases stage with
  | waiting =>
    rw [advance] at h ⊢
    split
    · next t cache hget =>
      rw [hget] at h
      exact absurd rfl (h t)
    · rfl
  | requesting left => rfl
  | retrieved t => exact absurd rfl (h t)
  | finished result => rfl

private theorem finished_of_reaches {result : Except Failure Table}
    (hi : c.fetches[i]? = some (d, .finished result)) (hreaches : f.Reaches c c') :
    c'.fetches[i]? = some (d, .finished result) := by
  induction hreaches with
  | refl => exact hi
  | tail _ hmoves ih =>
    obtain ⟨j, hj, hstage⟩ := hmoves
    by_cases hij : j = i
    · subst hij
      rw [ih] at hj
      cases hj
      cases hstage
    · rw [List.getElem?_set_ne hij]
      exact ih

/-- A fetch that is going to fail leaves the cache as it is in every step. -/
theorem cache_of_moves {c'' : Crowd} {failure : Failure} (hmoves : f.Moves i c c')
    (hreaches : f.Reaches c' c'')
    (hfails : c''.fetches[i]? = some (d, .finished (.error failure))) :
    c'.state.cache = c.state.cache := by
  obtain ⟨hi, hstage⟩ := hmoves
  refine cache_advance fun t hok => ?_
  -- A step that ends in success is the last one of its fetch.
  have hlt := (List.getElem?_eq_some_iff.mp hi).1
  have hdone := finished_of_reaches (by rw [hok]; exact List.getElem?_set_self hlt) hreaches
  rw [hfails] at hdone
  cases hdone

/-! ### A fetch on its own -/

variable {fetches : List (Division × FetchStage)}

theorem moves_set (f : Fetcher) (d : Division) (s : VoteState) (stage : FetchStage)
    (hlt : i < fetches.length) (hstage : stage.isFinished = false) :
    f.Moves i ⟨s, fetches.set i (d, stage)⟩
      ⟨(f.advance d s stage).1, fetches.set i (d, (f.advance d s stage).2)⟩ := by
  have hmoves := Moves.step (f := f) (c := ⟨s, fetches.set i (d, stage)⟩)
    (List.getElem?_set_self hlt) hstage
  rwa [List.set_set] at hmoves

def afterTrial : Except Failure Table → FetchStage
  | .ok t => .retrieved t
  | .error failure => .finished (.error failure)

private theorem advance_requesting (f : Fetcher) (d : Division) (cache : Cache Table)
    (requests : List Division) (n left : Nat) :
    f.advance d ⟨cache, requests ++ List.replicate n d⟩ (.requesting left) =
      (⟨cache, requests ++ List.replicate (n + 1) d⟩,
        match f.request requests d n with
        | .ok t => .retrieved t
        | .error failure =>
          if failure.isRetryable ∧ 0 < left then .requesting (left - 1)
          else .finished (.error failure)) := by
  have hrequest : f.request (requests ++ List.replicate n d) d 0 = f.request requests d n := by
    rw [request, request, List.replicate_zero, List.append_nil]
  rw [advance, hrequest, List.append_assoc, ← List.replicate_succ']

private theorem reaches_afterTrial (hlt : i < fetches.length) (cache : Cache Table)
    (requests : List Division) (left n : Nat) :
    let trial := Trial.runFrom f.backoff Failure.isRetryable (f.request requests d) left n
    f.Reaches ⟨⟨cache, requests ++ List.replicate n d⟩, fetches.set i (d, .requesting left)⟩
      ⟨⟨cache, requests ++ List.replicate (n + trial.calls) d⟩,
        fetches.set i (d, afterTrial trial.result)⟩ := by
  -- So many requests are left after the next one, and `n` have failed.
  induction left generalizing n with
  | zero =>
    have hstep :=
      moves_set f d ⟨cache, requests ++ List.replicate n d⟩ (.requesting 0) hlt rfl
    rw [advance_requesting] at hstep
    rw [Trial.runFrom]
    refine .single ⟨i, ?_⟩
    cases hcall : f.request requests d n <;> simpa [hcall, afterTrial] using hstep
  | succ left ih =>
    have hstep :=
      moves_set f d ⟨cache, requests ++ List.replicate n d⟩ (.requesting (left + 1)) hlt rfl
    rw [advance_requesting] at hstep
    rw [Trial.runFrom]
    cases hcall : f.request requests d n with
    | ok t =>
      refine .single ⟨i, ?_⟩
      simpa [hcall, afterTrial] using hstep
    | error failure =>
      by_cases hpass : failure.isRetryable = true
      · refine .head ⟨i, by simpa [hcall, hpass] using hstep⟩ ?_
        simpa [Reaches, hpass, Nat.add_right_comm n 1, Nat.add_assoc] using ih (n + 1)
      · refine .single ⟨i, ?_⟩
        simpa [hcall, hpass, afterTrial] using hstep

/-- Fetching is one way to take the steps of a fetch: all at once. -/
theorem reaches_fetch (hi : c.fetches[i]? = some (d, .waiting)) :
    f.Reaches c ⟨(f.fetch d c.state).state,
      c.fetches.set i (d, .finished (f.fetch d c.state).result)⟩ := by
  have hlt := (List.getElem?_eq_some_iff.mp hi).1
  have hstep : f.Moves i c _ := .step hi rfl
  rw [advance] at hstep
  rw [fetch]
  cases hget : c.state.cache.get d with
  | mk found cache =>
    rw [hget] at hstep
    cases found with
    | some t => exact .single ⟨i, hstep⟩
    | none =>
      have hrequests := reaches_afterTrial (f := f) (d := d) hlt c.state.cache c.state.requests
        (f.attempts - 1) 0
      simp only [List.replicate_zero, List.append_nil, Nat.zero_add] at hrequests
      refine .head ⟨i, hstep⟩ (hrequests.trans ?_)
      change f.Reaches
        ⟨⟨_, _⟩, c.fetches.set i (d, afterTrial (f.retrieve c.state.requests d).result)⟩ _
      dsimp only
      cases (f.retrieve c.state.requests d).result with
      | ok t => exact .single ⟨i, moves_set f d _ (.retrieved t) hlt rfl⟩
      | error failure => exact .refl

private theorem cache_fetch_of_error {failure : Failure}
    (h : (f.fetch d s).result = .error failure) :
    (f.fetch d s).state.cache = s.cache := by
  rw [fetch] at h ⊢
  split
  · next hget =>
    rw [hget] at h
    cases h
  · next hget =>
    rw [hget] at h
    dsimp only at h ⊢
    cases hresult : (f.retrieve s.requests d).result with
    | ok t =>
      rw [hresult] at h
      cases h
    | error failure => rfl

/-- The cache is transparent: a fetch gives what it gives without one, however the steps of fetches
are interleaved, and one that fails leaves the cache as it is. -/
theorem fetches_transparent (hf : f.Answers answer) (hs : Filled answer s) {ds : List Division}
    (hc : f.Reaches (.start s ds) c) :
    c.fetches.map Prod.fst = ds ∧
    (∀ d result, (d, FetchStage.finished result) ∈ c.fetches →
      result = rollOf answer d ∧
        ∀ requests, result = (f.fetch d ⟨.empty 0, requests⟩).result) ∧
    (∀ i d failure c' c'', f.Moves i c c' → f.Reaches c' c'' →
      c''.fetches[i]? = some (d, .finished (.error failure)) →
        c'.state.cache = c.state.cache) ∧
    (∀ d failure, (f.fetch d c.state).result = .error failure →
      (f.fetch d c.state).state.cache = c.state.cache) ∧
    (WellFounded fun c' c : Crowd => ∃ i, f.Moves i c c') ∧
    ((∀ i c', ¬f.Moves i c c') → ∀ fetch ∈ c.fetches, fetch.2.isFinished) ∧
    ∀ i d, c.fetches[i]? = some (d, .waiting) → f.Reaches c ⟨(f.fetch d c.state).state,
      c.fetches.set i (d, .finished (f.fetch d c.state).result)⟩ := by
  have hsound := hf.sound_of_reaches (sound_start (remembers_of_filled hs) ds) hc
  refine ⟨?_, fun d result hmem => ?_, fun i d failure c' c'' => cache_of_moves,
    fun d failure => cache_fetch_of_error, wellFounded_moves f, isFinished_of_stuck,
    fun i d => reaches_fetch⟩
  · rw [divisions_of_reaches hc, Crowd.start, List.map_map]
    exact List.map_id ds
  · have hresult : result = rollOf answer d := hsound.follows _ hmem
    refine ⟨hresult, fun requests => ?_⟩
    have hempty : Remembers answer ⟨.empty 0, requests⟩ := Cache.holds_empty 0
    rw [hf.result_fetch hempty, hresult]

def firstAnswer (d : Division) : Except Failure Json :=
  if d = ⟨1, .commons⟩ then .ok (.obj [("Ayes", .arr [.obj [("MemberId", .int 3)]])])
  else .error (.fetch ⟨d, .badStatus 404 ""⟩)

def firstRoll : Table := Roll.toTable ⟨[(3, .aye)]⟩

def firstFetcher : Fetcher where
  source := fun _ => firstAnswer

/-- Two fetches of one division both miss; the roll of neither is one for the other chamber. -/
theorem fetches_transparent_sample :
    ∃ c, firstFetcher.Reaches
        (.start ⟨.empty 1, []⟩ [⟨1, .commons⟩, ⟨1, .commons⟩, ⟨1, .lords⟩]) c ∧
      c.fetches = [(⟨1, .commons⟩, .finished (.ok firstRoll)),
        (⟨1, .commons⟩, .finished (.ok firstRoll)),
        (⟨1, .lords⟩, .finished (.error (.fetch ⟨⟨1, .lords⟩, .badStatus 404 ""⟩)))] ∧
      (firstFetcher.fetch ⟨1, .commons⟩ ⟨.empty 0, []⟩).result = .ok firstRoll := by
  have hreaches : firstFetcher.Reaches
      (.start ⟨.empty 1, []⟩ [⟨1, .commons⟩, ⟨1, .commons⟩, ⟨1, .lords⟩]) _ :=
    .head ⟨0, .step rfl rfl⟩ <| .head ⟨1, .step rfl rfl⟩ <| .head ⟨1, .step rfl rfl⟩ <|
      .head ⟨0, .step rfl rfl⟩ <| .head ⟨0, .step rfl rfl⟩ <| .head ⟨2, .step rfl rfl⟩ <|
      .head ⟨1, .step rfl rfl⟩ <| .single ⟨2, .step rfl rfl⟩
  have hanswers : firstFetcher.Answers firstAnswer := fun _ _ => rfl
  obtain ⟨-, hresults, -⟩ := fetches_transparent hanswers (.empty 1 []) hreaches
  have hfirst := (hresults ⟨1, .commons⟩ (.ok firstRoll) (.head _)).2 []
  exact ⟨_, hreaches, rfl, hfirst.symm⟩

end Fetcher
end RollCall
