import Mathlib.Data.Nat.Basic
import Mathlib.Order.Basic
import RollCall.Library.Standard
import RollCall.Proofs.LeastRecentlyUsed
import RollCall.Proofs.Runs

/-!
# Fetched once

A cache with room for all divisions that are asked for never evicts anything, so that a roll stays
once it has been fetched and is not requested again. This holds of calls made one after another,
whatever comes of them, and all that runs of pipelines do to the cache is the work of such calls.
-/
namespace RollCall

/-! ### Room for some divisions -/

namespace Cache

variable {α : Type} {c : Cache α} {ds : List Division} {d e : Division}

private theorem find?_set_self (d : Division) (v : α) (xs : List (Division × α)) :
    find? d (set d v xs) = some v := by
  simp [find?, set]

private theorem find?_set_of_ne (h : e ≠ d) (v : α) (xs : List (Division × α)) :
    find? e (set d v xs) = find? e xs := by
  have hdrop : (drop d xs).find? (fun entry => entry.1 = e) =
      xs.find? (fun entry => entry.1 = e) := by
    rw [drop, List.find?_filter]
    congr 1
    funext entry
    by_cases hentry : entry.1 = e <;> simp [hentry, h]
  simp [find?, set, hdrop, Ne.symm h]

/-- The entries are of the given divisions, which all fit in. -/
structure HasRoomFor (ds : List Division) (c : Cache α) : Prop where
  nodup : (c.entries.map Prod.fst).Nodup
  among : ∀ d ∈ c.entries.map Prod.fst, d ∈ ds
  room : ds.eraseDups.length ≤ c.capacity

private theorem hasRoomFor_empty {capacity : Nat} (h : ds.eraseDups.length ≤ capacity) :
    (empty capacity : Cache α).HasRoomFor ds :=
  ⟨List.nodup_nil, List.forall_mem_nil _, h⟩

private theorem HasRoomFor.touch (h : c.HasRoomFor ds) (d : Division) : (c.touch d).HasRoomFor ds :=
  ⟨h.nodup, h.among, h.room⟩

/-- There is room for the entry of a division that has none. -/
theorem HasRoomFor.size_lt (h : c.HasRoomFor ds) (hd : d ∈ ds) (hnew : find? d c.entries = none) :
    c.size < c.capacity := by
  have hnodup : (d :: c.entries.map Prod.fst).Nodup :=
    List.nodup_cons.mpr ⟨find?_eq_none_iff.mp hnew, h.nodup⟩
  have hsubset : d :: c.entries.map Prod.fst ⊆ ds.eraseDups := by
    intro e he
    rcases List.mem_cons.mp he with rfl | he
    · exact List.mem_eraseDups.mpr hd
    · exact List.mem_eraseDups.mpr (h.among e he)
  have hlength := (List.subperm_of_subset hnodup hsubset).length_le
  rw [List.length_cons, List.length_map] at hlength
  exact hlength.trans h.room

/-- A new entry is added to the others, none of which is evicted. -/
theorem HasRoomFor.entries_put (h : c.HasRoomFor ds) (hd : d ∈ ds)
    (hnew : find? d c.entries = none) (v : α) : (c.put d v).entries = set d v c.entries := by
  have hlt := h.size_lt hd hnew
  rw [put, if_neg (by omega), contains, hnew, makeRoom_of_size_lt hlt]
  rfl

private theorem HasRoomFor.put (h : c.HasRoomFor ds) (hd : d ∈ ds) (hnew : find? d c.entries = none)
    (v : α) : (c.put d v).HasRoomFor ds := by
  have hkeys : (c.put d v).entries.map Prod.fst = d :: c.entries.map Prod.fst := by
    rw [h.entries_put hd hnew, set, drop_eq_self (find?_eq_none_iff.mp hnew), List.map_cons]
  have hcapacity : (c.put d v).capacity = c.capacity := by
    have hlt := h.size_lt hd hnew
    rw [Cache.put, if_neg (by omega), contains, hnew, makeRoom_of_size_lt hlt]
    rfl
  constructor
  · rw [hkeys]
    exact List.nodup_cons.mpr ⟨find?_eq_none_iff.mp hnew, h.nodup⟩
  · rw [hkeys]
    exact List.forall_mem_cons.mpr ⟨hd, h.among⟩
  · rw [hcapacity]
    exact h.room

end Cache

open Cache (find?)

/-! ### Calls one after another -/

structure FetchCall where
  fetcher : Fetcher
  division : Division

namespace FetchCall

variable {c : FetchCall} {calls before between : List FetchCall} {ds : List Division}
  {e : Division} {s : VoteState} {t : Table}

def serve (c : FetchCall) (s : VoteState) : Fetching Table :=
  c.fetcher.fetch c.division s

/-- What is remembered after calls, each made when the one before it has ended. -/
def stateAfter : List FetchCall → VoteState → VoteState
  | [], s => s
  | c :: calls, s => stateAfter calls (c.serve s).state

def events : List FetchCall → VoteState → List FetchEvent
  | [], _ => []
  | c :: calls, s => (c.serve s).events ++ events calls (c.serve s).state

theorem stateAfter_append (xs ys : List FetchCall) (s : VoteState) :
    stateAfter (xs ++ ys) s = stateAfter ys (stateAfter xs s) := by
  induction xs generalizing s with
  | nil => rfl
  | cons c xs ih => exact ih (c.serve s).state

private theorem events_append (xs ys : List FetchCall) (s : VoteState) :
    events (xs ++ ys) s = events xs s ++ events ys (stateAfter xs s) := by
  induction xs generalizing s with
  | nil => rfl
  | cons c xs ih => rw [List.cons_append, events, events, ih, List.append_assoc, stateAfter]

/-- A division in the cache is not requested. -/
theorem serve_of_find? (h : find? c.division s.cache.entries = some t) :
    (c.serve s).result = .ok t ∧ (c.serve s).state.requests = s.requests ∧
      (c.serve s).events = [.cacheHit c.division] := by
  rw [serve, Fetcher.fetch, Cache.get, h]
  exact ⟨rfl, rfl, rfl⟩

/-- A call uses an entry, puts a new one, or leaves the cache as it is. -/
theorem cache_serve (c : FetchCall) (s : VoteState) :
    (∃ t, find? c.division s.cache.entries = some t ∧ (c.serve s).result = .ok t ∧
        (c.serve s).state.cache = s.cache.touch c.division) ∨
      find? c.division s.cache.entries = none ∧
        ((∃ t, (c.serve s).result = .ok t ∧
            (c.serve s).state.cache = s.cache.put c.division t) ∨
          ∃ failure, (c.serve s).result = .error failure ∧
            (c.serve s).state.cache = s.cache) := by
  rw [serve, Fetcher.fetch, Cache.get]
  cases hfind : find? c.division s.cache.entries with
  | some t => exact .inl ⟨t, rfl, rfl, rfl⟩
  | none =>
    refine .inr ⟨rfl, ?_⟩
    dsimp only
    cases (c.fetcher.retrieve s.requests c.division).result with
    | ok t => exact .inl ⟨t, rfl, rfl⟩
    | error failure => exact .inr ⟨failure, rfl, rfl⟩

/-- A call leaves what is in the cache, and puts the roll it returns there. -/
theorem serve_step (hs : s.cache.HasRoomFor ds) (hc : c.division ∈ ds) :
    (c.serve s).state.cache.HasRoomFor ds ∧
      (∀ e t, find? e s.cache.entries = some t →
        find? e (c.serve s).state.cache.entries = some t) ∧
      ∀ t, (c.serve s).result = .ok t →
        find? c.division (c.serve s).state.cache.entries = some t := by
  rcases c.cache_serve s with ⟨t, hfind, hresult, hcache⟩ |
      ⟨hnew, ⟨t, hresult, hcache⟩ | ⟨failure, hresult, hcache⟩⟩
  · rw [hcache, hresult]
    refine ⟨hs.touch c.division, fun e u hu => hu, fun u hu => ?_⟩
    cases hu
    exact hfind
  · rw [hcache, hresult, hs.entries_put hc hnew]
    refine ⟨hs.put hc hnew t, fun e u hu => ?_, fun u hu => ?_⟩
    · have hne : e ≠ c.division := by
        rintro rfl
        rw [hnew] at hu
        cases hu
      rw [Cache.find?_set_of_ne hne, hu]
    · cases hu
      exact Cache.find?_set_self c.division t s.cache.entries
  · rw [hcache, hresult]
    exact ⟨hs, fun e u hu => hu, fun u hu => nomatch hu⟩

/-- Calls leave what is in the cache. -/
theorem stateAfter_run (hs : s.cache.HasRoomFor ds) (hcalls : ∀ c ∈ calls, c.division ∈ ds) :
    (stateAfter calls s).cache.HasRoomFor ds ∧
      ∀ e t, find? e s.cache.entries = some t →
        find? e (stateAfter calls s).cache.entries = some t := by
  induction calls generalizing s with
  | nil => exact ⟨hs, fun e t h => h⟩
  | cons c calls ih =>
    obtain ⟨hc, hcalls⟩ := List.forall_mem_cons.mp hcalls
    obtain ⟨hroom, hkeeps, -⟩ := serve_step hs hc
    obtain ⟨hroom', hkeeps'⟩ := ih hroom hcalls
    exact ⟨hroom', fun e t h => hkeeps' e t (hkeeps e t h)⟩

/-- After a call that has returned a roll, the roll is in the cache for good. -/
theorem find?_stateAfter (hs : s.cache.HasRoomFor ds)
    (hcalls : ∀ c' ∈ before ++ c :: between, c'.division ∈ ds)
    (h : (c.serve (stateAfter before s)).result = .ok t) :
    find? c.division (stateAfter (before ++ c :: between) s).cache.entries = some t := by
  obtain ⟨hbefore, hcalls⟩ := List.forall_mem_append.mp hcalls
  obtain ⟨hc, hbetween⟩ := List.forall_mem_cons.mp hcalls
  obtain ⟨hroom, -⟩ := stateAfter_run hs hbefore
  obtain ⟨hroom, -, hputs⟩ := serve_step hroom hc
  rw [stateAfter_append, stateAfter]
  exact (stateAfter_run hroom hbetween).2 c.division t (hputs t h)

/-! ### The calls of runs -/

/-- What leads from one state to another and notes these events is nothing but calls of fetchers of
a kind. -/
def Explains (P : Fetcher → Prop) (s s' : VoteState) (noted : List FetchEvent) : Prop :=
  ∃ calls : List FetchCall,
    (∀ c ∈ calls, P c.fetcher) ∧ stateAfter calls s = s' ∧ events calls s = noted

variable {P Q : Fetcher → Prop} {s' s'' : VoteState} {noted noted' : List FetchEvent}

theorem Explains.refl (P : Fetcher → Prop) (s : VoteState) : Explains P s s [] :=
  ⟨[], List.forall_mem_nil _, rfl, rfl⟩

theorem Explains.trans (h : Explains P s s' noted) (h' : Explains P s' s'' noted') :
    Explains P s s'' (noted ++ noted') := by
  obtain ⟨xs, hxs, rfl, rfl⟩ := h
  obtain ⟨ys, hys, rfl, rfl⟩ := h'
  exact ⟨xs ++ ys, List.forall_mem_append.mpr ⟨hxs, hys⟩, stateAfter_append xs ys s,
    events_append xs ys s⟩

private theorem Explains.mono (h : Explains P s s' noted) (hPQ : ∀ f, P f → Q f) :
    Explains Q s s' noted := by
  obtain ⟨calls, hcalls, hstate, hevents⟩ := h
  exact ⟨calls, fun c hc => hPQ c.fetcher (hcalls c hc), hstate, hevents⟩

private theorem explains_fetch (f : Fetcher) (d : Division) (s : VoteState) :
    Explains (· = f) s (f.fetch d s).state (f.fetch d s).events :=
  ⟨[⟨f, d⟩], by simp, rfl, by simp [events, serve]⟩

end FetchCall

open FetchCall (Explains)

private theorem VoteMatrix.explains_gather (f : Fetcher) (w : Weights) (chamber : Chamber)
    (ids : List Nat) (s : VoteState) :
    Explains (· = f) s (gather f w chamber ids s).state (gather f w chamber ids s).events := by
  induction ids generalizing s with
  | nil => exact .refl _ s
  | cons id ids ih =>
    have hfetch := FetchCall.explains_fetch f ⟨id, chamber⟩ s
    rw [gather]
    dsimp only
    split
    · exact hfetch
    · exact hfetch.trans (ih _)

theorem Operation.explains_run [Library] (c : Context) (s : VoteState) (op : Operation) :
    Explains (· = c.fetcher) s (op.run c s).state (op.run c s).events := by
  cases op with
  | divisionVotes p =>
    exact VoteMatrix.explains_gather c.fetcher p.weights p.chamber p.divisions.eraseDups s
  | _ => exact .refl _ s

/-- What is noted while fetching, among all that is noted. -/
def Event.fetched? : Event → Option FetchEvent
  | .fetch e => some e
  | _ => none

private theorem Event.filterMap_fetched?_map (noted : List FetchEvent) :
    (noted.map Event.fetch).filterMap fetched? = noted := by
  rw [List.filterMap_map]
  exact List.filterMap_some

/-- The start and the end of a step or a run are not noted while fetching. -/
theorem Event.filterMap_fetched?_between {first last : Event} {events : List Event}
    (hfirst : first.fetched? = none) (hlast : last.fetched? = none) :
    (first :: events ++ [last]).filterMap fetched? = events.filterMap fetched? := by
  simp [hfirst, hlast]

namespace Runner

variable {r : Runner}

private theorem explains_runStep [Library] (r : Runner) (env : Environment) (s : Step)
    (state : VoteState) :
    Explains (· = r.fetcher) state (r.runStep env s state).state
      ((r.runStep env s state).events.filterMap Event.fetched?) := by
  rw [runStep]
  cases inputs env s with
  | error fault => exact .refl _ state
  | ok tables =>
    have hend : ∀ result, (stepEnd s result).fetched? = none := by
      intro result
      cases result <;> rfl
    dsimp only
    rw [Event.filterMap_fetched?_between rfl (hend _), Event.filterMap_fetched?_map]
    exact s.operation.explains_run (r.context s tables) state

private theorem explains_runSteps [Library] (r : Runner) (steps : List Step) (env : Environment)
    (state : VoteState) :
    Explains (· = r.fetcher) state (r.runSteps steps env state).state
      ((r.runSteps steps env state).events.filterMap Event.fetched?) := by
  induction steps generalizing env state with
  | nil => exact .refl _ state
  | cons s steps ih =>
    have hstep := r.explains_runStep env s state
    rw [runSteps]
    dsimp only
    split
    · exact hstep
    · rw [List.filterMap_append]
      exact hstep.trans (ih _ _)

private theorem explains_run [Library] (r : Runner) (p : Pipeline) (state : VoteState) :
    Explains (· = r.fetcher) state (r.run p state).state
      ((r.run p state).events.filterMap Event.fetched?) := by
  have hexecute : Explains (· = r.fetcher) state (r.execute p state).state
      ((r.execute p state).events.filterMap Event.fetched?) := by
    rw [execute]
    split
    · exact .refl _ state
    · exact r.explains_runSteps p.steps [] state
  have hend : ∀ result, (runEnd p result).fetched? = none := by
    intro result
    cases result <;> rfl
  rw [run]
  dsimp only
  rw [Event.filterMap_fetched?_between rfl (hend _)]
  exact hexecute

/-- Runs one after another, which succeed or fail, with what they share and note. -/
def runEach [Library] : List (Runner × Pipeline) → VoteState → VoteState × List Event
  | [], state => (state, [])
  | (r, p) :: runs, state =>
    let ran := r.run p state
    let rest := runEach runs ran.state
    (rest.1, ran.events ++ rest.2)

private theorem explains_runEach [Library] (runs : List (Runner × Pipeline)) (state : VoteState) :
    Explains (fun f => ∃ run ∈ runs, f = run.1.fetcher) state (runEach runs state).1
      ((runEach runs state).2.filterMap Event.fetched?) := by
  induction runs generalizing state with
  | nil => exact .refl _ state
  | cons run runs ih =>
    obtain ⟨r, p⟩ := run
    have hfirst := (r.explains_run p state).mono (Q := fun f => ∃ run ∈ (r, p) :: runs,
      f = run.1.fetcher) fun f hf => ⟨(r, p), List.mem_cons_self, hf⟩
    have hrest := (ih (r.run p state).state).mono (Q := fun f => ∃ run ∈ (r, p) :: runs,
      f = run.1.fetcher) fun f ⟨run, hrun, hf⟩ => ⟨run, List.mem_cons_of_mem _ hrun, hf⟩
    rw [runEach]
    dsimp only
    rw [List.filterMap_append]
    exact hfirst.trans hrest

end Runner

namespace FetchCall

/-- If the cache has room for all divisions that are asked for, then after a call that has returned
a roll every later call for that division returns the same roll and requests nothing, whatever comes
of the calls between. What any runs do to the cache is the work of such calls. -/
theorem fetched_once [Library] :
    (∀ (capacity : Nat) (requests : List Division) (calls : List FetchCall),
      (calls.map division).eraseDups.length ≤ capacity →
      ∀ before c between d after, calls = before ++ c :: between ++ d :: after →
        d.division = c.division →
        ∀ t, (c.serve (stateAfter before ⟨.empty capacity, requests⟩)).result = .ok t →
          let s := stateAfter (before ++ c :: between) ⟨.empty capacity, requests⟩
          (d.serve s).result = .ok t ∧ (d.serve s).state.requests = s.requests ∧
            (d.serve s).events = [.cacheHit c.division]) ∧
    ∀ (runs : List (Runner × Pipeline)) (s : VoteState),
      ∃ calls : List FetchCall, (∀ c ∈ calls, ∃ run ∈ runs, c.fetcher = run.1.fetcher) ∧
        stateAfter calls s = (Runner.runEach runs s).1 ∧
        events calls s = (Runner.runEach runs s).2.filterMap Event.fetched? := by
  refine ⟨fun capacity requests calls hroom before c between d after hcalls hd t ht => ?_,
    Runner.explains_runEach⟩
  have hamong : ∀ c' ∈ before ++ c :: between, c'.division ∈ calls.map division := by
    intro c' hc'
    exact List.mem_map_of_mem (hcalls ▸ List.mem_append_left (d :: after) hc')
  have hfind := find?_stateAfter (s := ⟨.empty capacity, requests⟩)
    (Cache.hasRoomFor_empty hroom) hamong ht
  rw [← hd] at hfind ⊢
  exact serve_of_find? hfind

def sampleSource : Source := fun requests d =>
  if requests.length = 1 then .ok (.obj [("Ayes", .arr [.obj [("MemberId", .int 3)]])])
  else .error (.fetch ⟨d, .badStatus 404 ""⟩)

def sampleCall (d : Division) : FetchCall := ⟨{ source := sampleSource }, d⟩

theorem fetched_once_sample :
    let s := stateAfter
      [sampleCall ⟨1, .commons⟩, sampleCall ⟨1, .commons⟩, sampleCall ⟨2, .lords⟩] ⟨.empty 2, []⟩
    s.requests = [⟨1, .commons⟩, ⟨1, .commons⟩, ⟨2, .lords⟩] ∧
      ((sampleCall ⟨1, .commons⟩).serve s).result = .ok (Roll.toTable ⟨[(3, .aye)]⟩) ∧
      ((sampleCall ⟨1, .commons⟩).serve s).state.requests = s.requests := by
  obtain ⟨hresult, hrequests, -⟩ := fetched_once.1 2 []
    [sampleCall ⟨1, .commons⟩, sampleCall ⟨1, .commons⟩, sampleCall ⟨2, .lords⟩,
      sampleCall ⟨1, .commons⟩]
    (by decide) [sampleCall ⟨1, .commons⟩] (sampleCall ⟨1, .commons⟩) [sampleCall ⟨2, .lords⟩]
    (sampleCall ⟨1, .commons⟩) [] rfl rfl (Roll.toTable ⟨[(3, .aye)]⟩) rfl
  exact ⟨rfl, hresult, hrequests⟩

end FetchCall
end RollCall
