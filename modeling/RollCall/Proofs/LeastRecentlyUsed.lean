import Mathlib.Algebra.Group.Nat.Defs
import RollCall.Proofs.Entries

/-!
# The least recently used entry

A cache behaves like a plain list of its entries in which the one used last stands first. The
entries and the times of their last use are kept in any order; what ties them to the list is that
the times fall strictly along it and that the clock is not behind the first of them. The last entry
of the list is then the one that is dropped, in whatever order the times are looked through.
-/
namespace RollCall

namespace Cache

variable {α : Type}

inductive Request (α : Type)
  | get (d : Division)
  | put (d : Division) (v : α)
  | contains (d : Division)
  | size
  | clear

inductive Answer (α : Type)
  | entry (v : Option α)
  | held (b : Bool)
  | count (n : Nat)
  | done
deriving DecidableEq

def serve (c : Cache α) : Request α → Answer α × Cache α
  | .get d => (.entry (c.get d).1, (c.get d).2)
  | .put d v => (.done, c.put d v)
  | .contains d => (.held (c.contains d), c)
  | .size => (.count c.size, c)
  | .clear => (.done, c.clear)

/-- The same cache with its entries and times looked through in another order. -/
structure Reordered (c b : Cache α) : Prop where
  capacity_eq : b.capacity = c.capacity
  entries_perm : b.entries.Perm c.entries
  lastUse_perm : b.lastUse.Perm c.lastUse
  clock_eq : b.clock = c.clock

private theorem Reordered.refl (c : Cache α) : Reordered c c :=
  ⟨rfl, .refl _, .refl _, rfl⟩

/-- A request after another, before each of which the entries and times come to stand anyhow. -/
inductive Runs : Cache α → List (Request α) → List (Answer α) → Cache α → Prop
  | nil (c : Cache α) : Runs c [] [] c
  | cons {c b c' : Cache α} {r : Request α} {rs : List (Request α)} {as : List (Answer α)}
    (hb : Reordered c b) (h : Runs (b.serve r).2 rs as c') :
    Runs c (r :: rs) ((b.serve r).1 :: as) c'

def serveAll (reorder : Cache α → Cache α) (c : Cache α) :
    List (Request α) → List (Answer α) × Cache α
  | [] => ([], c)
  | r :: rs =>
    let (a, c) := (reorder c).serve r
    let (as, c) := serveAll reorder c rs
    (a :: as, c)

private theorem runs_serveAll {reorder : Cache α → Cache α} (h : ∀ c, Reordered c (reorder c))
    (rs : List (Request α)) (c : Cache α) :
    Runs c rs (c.serveAll reorder rs).1 (c.serveAll reorder rs).2 := by
  induction rs generalizing c with
  | nil => exact .nil c
  | cons r rs ih => exact .cons (h c) (ih _)

end Cache

open Cache (drop find? Request Answer)

/-- Entries, the one used last first. -/
abbrev Recent (α : Type) := List (Division × α)

namespace Recent

variable {α : Type}

/-- An entry goes first, in place of the one of its division or else of the last of a full list. -/
def put (capacity : Nat) (m : Recent α) (d : Division) (v : α) : Recent α :=
  if capacity = 0 then m
  else if (find? d m).isSome then (d, v) :: drop d m
  else if capacity ≤ m.length then (d, v) :: m.dropLast
  else (d, v) :: m

def serve (capacity : Nat) (m : Recent α) : Request α → Answer α × Recent α
  | .get d =>
    match find? d m with
    | some v => (.entry (some v), (d, v) :: drop d m)
    | none => (.entry none, m)
  | .put d v => (.done, m.put capacity d v)
  | .contains d => (.held (find? d m).isSome, m)
  | .size => (.count m.length, m)
  | .clear => (.done, [])

def serveAll (capacity : Nat) (m : Recent α) : List (Request α) → List (Answer α) × Recent α
  | [] => ([], m)
  | r :: rs =>
    let (a, m) := m.serve capacity r
    let (as, m) := serveAll capacity m rs
    (a :: as, m)

def touches (capacity : Nat) (m : Recent α) : Request α → Nat
  | .get d => if (find? d m).isSome then 1 else 0
  | .put _ _ => if capacity = 0 then 0 else 1
  | _ => 0

def touchesAll (capacity : Nat) (m : Recent α) : List (Request α) → Nat
  | [] => 0
  | r :: rs => m.touches capacity r + touchesAll capacity (m.serve capacity r).2 rs

end Recent

namespace Cache

section Times

variable {u : Division × UInt64} {us : List (Division × UInt64)}

theorem earliest?_isSome (h : us ≠ []) : (earliest? us).isSome := by
  cases us with
  | nil => exact absurd rfl h
  | cons u us =>
    rw [earliest?]
    split
    · split <;> rfl
    · rfl

private theorem mem_of_earliest? (h : earliest? us = some u) : u ∈ us ∧ ∀ w ∈ us, u.2 ≤ w.2 := by
  induction us generalizing u with
  | nil => cases h
  | cons first us ih =>
    rw [earliest?] at h
    split at h
    · next later hlater =>
      obtain ⟨hmem, hleast⟩ := ih hlater
      split at h
      · next hlt =>
        cases h
        refine ⟨List.mem_cons_of_mem _ hmem, fun w hw => ?_⟩
        rcases List.mem_cons.mp hw with rfl | hw
        · exact UInt64.le_of_lt hlt
        · exact hleast w hw
      · next hle =>
        cases h
        refine ⟨List.mem_cons_self, fun w hw => ?_⟩
        rcases List.mem_cons.mp hw with rfl | hw
        · exact UInt64.le_refl _
        · exact UInt64.le_trans (UInt64.not_lt.mp hle) (hleast w hw)
    · next hnone =>
      cases h
      cases us with
      | nil => exact ⟨List.mem_cons_self, by simp⟩
      | cons w us =>
        have hsome := earliest?_isSome (List.cons_ne_nil w us)
        rw [hnone] at hsome
        cases hsome

end Times

variable {α : Type} {c b c' : Cache α} {d : Division} {v : α} {ds : List Division}
  {m : Recent α} {capacity : Nat}

/-- The times of the given divisions fall strictly, from the clock at most. -/
def TimesFall (c : Cache α) (ds : List Division) : Prop :=
  ∃ us, c.lastUse.Perm us ∧ us.map Prod.fst = ds ∧ (us.map Prod.snd).Pairwise (· > ·) ∧
    ∀ u ∈ us, u.2 ≤ c.clock

/-- A cache whose entries, the one used last first, are those of a list. -/
structure Represents (c : Cache α) (m : List (Division × α)) : Prop where
  entries_perm : c.entries.Perm m
  nodup : (m.map Prod.fst).Nodup
  timesFall : c.TimesFall (m.map Prod.fst)
  length_le : m.length ≤ c.capacity

private theorem represents_empty (capacity : Nat) : (empty capacity : Cache α).Represents [] where
  entries_perm := .nil
  nodup := List.nodup_nil
  timesFall := ⟨[], .nil, rfl, .nil, by simp⟩
  length_le := Nat.zero_le _

theorem Represents.of_reordered (h : c.Represents m) (hb : Reordered c b) : b.Represents m := by
  obtain ⟨us, hperm, hmap, hfall, hclock⟩ := h.timesFall
  refine ⟨hb.entries_perm.trans h.entries_perm, h.nodup, ?_, hb.capacity_eq ▸ h.length_le⟩
  exact ⟨us, hb.lastUse_perm.trans hperm, hmap, hfall, hb.clock_eq ▸ hclock⟩

theorem Represents.size_eq (h : c.Represents m) : c.size = m.length :=
  h.entries_perm.length_eq

theorem Represents.find?_eq (h : c.Represents m) (d : Division) :
    find? d c.entries = find? d m :=
  find?_perm h.entries_perm h.nodup

theorem toNat_clock_touch (hclock : c.clock.toNat + 1 < 2 ^ 64) (d : Division) :
    (c.touch d).clock.toNat = c.clock.toNat + 1 := by
  rw [touch, UInt64.toNat_add]
  exact Nat.mod_eq_of_lt hclock

theorem TimesFall.touch (h : c.TimesFall ds) (hclock : c.clock.toNat + 1 < 2 ^ 64)
    (d : Division) : (c.touch d).TimesFall (d :: ds.filter (· ≠ d)) := by
  obtain ⟨us, hperm, rfl, hfall, hle⟩ := h
  have hnow : (c.clock + 1).toNat = c.clock.toNat + 1 := toNat_clock_touch hclock d
  refine ⟨(d, c.clock + 1) :: drop d us, (hperm.filter _).cons _, ?_, ?_, ?_⟩
  · rw [List.map_cons, map_fst_drop]
  · -- The new time is later than all others, as none is later than the clock.
    refine List.pairwise_cons.mpr ⟨fun time htime => ?_, hfall.sublist ?_⟩
    · obtain ⟨u, hu, rfl⟩ := List.mem_map.mp htime
      have hbefore := UInt64.le_iff_toNat_le.mp (hle u (List.mem_filter.mp hu).1)
      rw [gt_iff_lt, UInt64.lt_iff_toNat_lt, hnow]
      omega
    · exact List.filter_sublist.map _
  · intro u hu
    rw [UInt64.le_iff_toNat_le]
    rcases List.mem_cons.mp hu with rfl | hu
    · exact Nat.le_refl _
    · have hbefore := UInt64.le_iff_toNat_le.mp (hle u (List.mem_filter.mp hu).1)
      change u.2.toNat ≤ (c.clock + 1).toNat
      omega

private theorem TimesFall.earliest?_eq (h : c.TimesFall (ds ++ [d])) :
    ∃ time, earliest? c.lastUse = some (d, time) := by
  obtain ⟨us, hperm, hmap, hfall, -⟩ := h
  obtain ⟨us, last, rfl, rfl, hlast⟩ := List.map_eq_append_iff.mp hmap
  obtain ⟨⟨e, time⟩, rfl, rfl⟩ := List.map_eq_singleton_iff.mp hlast
  have hne : c.lastUse ≠ [] := by
    intro hnil
    rw [hnil] at hperm
    simpa using hperm.length_eq
  obtain ⟨u, hu⟩ := Option.isSome_iff_exists.mp (earliest?_isSome hne)
  obtain ⟨hmem, hleast⟩ := mem_of_earliest? hu
  have hle : u.2 ≤ time := hleast (e, time) (hperm.mem_iff.mpr (by simp))
  -- Times before the last one in the list are later, so none of them is the earliest.
  rcases List.mem_append.mp (hperm.mem_iff.mp hmem) with hearlier | hlast
  · rw [List.map_append, List.pairwise_append] at hfall
    have hgt : time < u.2 := hfall.2.2 u.2 (List.mem_map_of_mem hearlier) time (by simp)
    exact absurd hle (UInt64.not_le.mpr hgt)
  · rw [List.mem_singleton] at hlast
    exact ⟨time, hlast ▸ hu⟩

private theorem Represents.evict (h : c.Represents (m ++ [(d, v)])) : c.evict.Represents m := by
  obtain ⟨time, hearliest⟩ := TimesFall.earliest?_eq (by simpa using h.timesFall)
  obtain ⟨us, hperm, hmap, hfall, hle⟩ := h.timesFall
  have hdrop : (drop d us).map Prod.fst = m.map Prod.fst := by
    rw [map_fst_drop, hmap, ← map_fst_drop, drop_append_singleton h.nodup]
  rw [Cache.evict, hearliest]
  refine ⟨?_, ?_, ⟨drop d us, hperm.filter _, hdrop, ?_, ?_⟩, ?_⟩
  · have hentries := h.entries_perm.filter fun entry => entry.1 ≠ d
    exact hentries.trans (.of_eq (drop_append_singleton h.nodup))
  · exact h.nodup.sublist ((List.sublist_append_left m _).map _)
  · exact hfall.sublist (List.filter_sublist.map _)
  · exact fun u hu => hle u (List.mem_filter.mp hu).1
  · have hlength := h.length_le
    rw [List.length_append] at hlength
    exact Nat.le_trans (Nat.le_add_right _ _) hlength

/-- An entry is stored where there is room, or in place of the one of its division. -/
theorem Represents.store (h : c.Represents m) (hclock : c.clock.toNat + 1 < 2 ^ 64)
    (hroom : (drop d m).length < c.capacity) :
    ({ c with entries := set d v c.entries }.touch d).Represents ((d, v) :: drop d m) := by
  have hdrop := map_fst_drop d m
  refine ⟨(h.entries_perm.filter _).cons _, ?_, ?_, hroom⟩
  · rw [List.map_cons, hdrop]
    refine List.nodup_cons.mpr ⟨fun hmem => ?_, h.nodup.filter _⟩
    simpa using (List.mem_filter.mp hmem).2
  · rw [List.map_cons, hdrop]
    exact h.timesFall.touch hclock d

@[simp] theorem capacity_evict (c : Cache α) : c.evict.capacity = c.capacity := by
  rw [Cache.evict]
  split <;> rfl

@[simp] theorem clock_evict (c : Cache α) : c.evict.clock = c.clock := by
  rw [Cache.evict]
  split <;> rfl

@[simp] theorem capacity_makeRoom (n : Nat) (c : Cache α) :
    (makeRoom n c).capacity = c.capacity := by
  induction n generalizing c with
  | zero => rfl
  | succ n ih =>
    rw [makeRoom]
    split
    · rw [ih, capacity_evict]
    · rfl

@[simp] theorem clock_makeRoom (n : Nat) (c : Cache α) : (makeRoom n c).clock = c.clock := by
  induction n generalizing c with
  | zero => rfl
  | succ n ih =>
    rw [makeRoom]
    split
    · rw [ih, clock_evict]
    · rfl

theorem makeRoom_of_size_lt (h : c.size < c.capacity) (n : Nat) : makeRoom n c = c := by
  cases n with
  | zero => rfl
  | succ n => rw [makeRoom, if_neg (Nat.not_le.mpr h)]

theorem Represents.evict_dropLast (h : c.Represents m) : c.evict.Represents m.dropLast := by
  rcases List.eq_nil_or_concat m with rfl | ⟨m, ⟨d, v⟩, rfl⟩
  · obtain ⟨us, hperm, hmap, -⟩ := h.timesFall
    rw [List.map_eq_nil_iff.mp hmap] at hperm
    rw [Cache.evict, hperm.eq_nil]
    exact h
  · rw [List.concat_eq_append] at h ⊢
    rw [List.dropLast_concat]
    exact h.evict

/-- Making room drops the last entry of a full list, and no further one. -/
theorem Represents.makeRoom (h : c.Represents m) (hpos : 0 < c.capacity) {n : Nat}
    (hn : m.length ≤ n) :
    (makeRoom n c).Represents (if c.capacity ≤ m.length then m.dropLast else m) := by
  have hsize := h.size_eq
  split
  · next hfull =>
    cases n with
    | zero => omega
    | succ n =>
      have hroom : c.evict.size < c.evict.capacity := by
        rw [h.evict_dropLast.size_eq, List.length_dropLast, capacity_evict]
        have hle := h.length_le
        omega
      rw [Cache.makeRoom, if_pos (hsize ▸ hfull), makeRoom_of_size_lt hroom]
      exact h.evict_dropLast
  · rw [makeRoom_of_size_lt (by omega)]
    exact h

structure Serves (c : Cache α) (m : Recent α) (r : Request α) : Prop where
  answer_eq : (c.serve r).1 = (m.serve c.capacity r).1
  represents : (c.serve r).2.Represents (m.serve c.capacity r).2
  capacity_eq : (c.serve r).2.capacity = c.capacity
  clock_eq : (c.serve r).2.clock.toNat = c.clock.toNat + m.touches c.capacity r

private theorem Represents.serves_get (h : c.Represents m) (d : Division)
    (hclock : c.clock.toNat + m.touches c.capacity (.get d) < 2 ^ 64) : c.Serves m (.get d) := by
  cases hfind : find? d m with
  | none =>
    have hget : c.get d = (none, c) := by rw [Cache.get, h.find?_eq, hfind]
    refine ⟨?_, ?_, ?_, ?_⟩ <;> simp [Cache.serve, Recent.serve, Recent.touches, hget, hfind, h]
  | some v =>
    have hget : c.get d = (some v, c.touch d) := by rw [Cache.get, h.find?_eq, hfind]
    rw [Recent.touches, hfind, Option.isSome_some, if_pos rfl] at hclock
    have hperm := perm_cons_drop h.nodup (mem_of_find? hfind)
    have hrepresents : (c.touch d).Represents ((d, v) :: drop d m) := by
      refine ⟨h.entries_perm.trans hperm, ?_, ?_, hperm.length_eq ▸ h.length_le⟩
      · exact (hperm.map Prod.fst).nodup_iff.mp h.nodup
      · rw [List.map_cons, map_fst_drop]
        exact h.timesFall.touch hclock d
    refine ⟨?_, ?_, ?_, ?_⟩ <;> simp only [Cache.serve, Recent.serve, Recent.touches, hget, hfind]
    · exact hrepresents
    · rfl
    · exact toNat_clock_touch hclock d

theorem Represents.contains_eq (h : c.Represents m) (d : Division) :
    c.contains d = (find? d m).isSome := by
  rw [Cache.contains, h.find?_eq]

/-- The cache in which an entry is stored: room has been made unless its division has one. -/
def roomFor (c : Cache α) (d : Division) : Cache α :=
  if c.contains d then c else Cache.makeRoom c.size c

private theorem put_eq (hpos : 0 < c.capacity) (d : Division) (v : α) :
    c.put d v = { c.roomFor d with entries := set d v (c.roomFor d).entries }.touch d :=
  if_neg (Nat.ne_of_gt hpos)

@[simp] theorem capacity_roomFor (c : Cache α) (d : Division) :
    (c.roomFor d).capacity = c.capacity := by
  rw [roomFor]
  split <;> simp

@[simp] theorem clock_roomFor (c : Cache α) (d : Division) : (c.roomFor d).clock = c.clock := by
  rw [roomFor]
  split <;> simp

private theorem Represents.roomFor (h : c.Represents m) (hpos : 0 < c.capacity) (d : Division)
    (v : α) :
    ∃ m', (c.roomFor d).Represents m' ∧ (drop d m').length < c.capacity ∧
      m.put c.capacity d v = (d, v) :: drop d m' := by
  have hle := h.length_le
  rw [Cache.roomFor, h.contains_eq, Recent.put, if_neg (Nat.ne_of_gt hpos)]
  cases hfind : find? d m with
  | some w =>
    have hlength := (perm_cons_drop h.nodup (mem_of_find? hfind)).length_eq
    rw [List.length_cons] at hlength
    exact ⟨m, h, by omega, rfl⟩
  | none =>
    have habsent := find?_eq_none_iff.mp hfind
    have hmade := h.makeRoom hpos (Nat.le_of_eq h.size_eq.symm)
    by_cases hfull : c.capacity ≤ m.length
    · have hdrop : drop d m.dropLast = m.dropLast :=
        drop_eq_self fun hmem => habsent (((List.dropLast_sublist m).map _).subset hmem)
      rw [if_pos hfull] at hmade
      refine ⟨m.dropLast, hmade, ?_, ?_⟩
      · rw [hdrop, List.length_dropLast]
        omega
      · simp [hfull, hdrop]
    · rw [if_neg hfull] at hmade
      refine ⟨m, hmade, ?_, ?_⟩
      · rw [drop_eq_self habsent]
        omega
      · simp [hfull, drop_eq_self habsent]

private theorem Represents.serves_put (h : c.Represents m) (d : Division) (v : α)
    (hclock : c.clock.toNat + m.touches c.capacity (.put d v) < 2 ^ 64) :
    c.Serves m (.put d v) := by
  rcases Nat.eq_zero_or_pos c.capacity with hzero | hpos
  · have hput : c.put d v = c := if_pos hzero
    refine ⟨rfl, ?_, ?_, ?_⟩ <;>
      simp [Cache.serve, Recent.serve, Recent.put, Recent.touches, hput, hzero, h]
  · have htouches : m.touches c.capacity (.put d v) = 1 := if_neg (Nat.ne_of_gt hpos)
    have hroomclock : (c.roomFor d).clock.toNat + 1 < 2 ^ 64 := by
      rwa [clock_roomFor, ← htouches]
    obtain ⟨m', hroom, hlength, hm'⟩ := h.roomFor hpos d v
    refine ⟨rfl, ?_, ?_, ?_⟩
    · simp only [Cache.serve, Recent.serve, put_eq hpos, hm']
      exact hroom.store hroomclock (by rwa [capacity_roomFor])
    · rw [Cache.serve, put_eq hpos]
      exact capacity_roomFor c d
    · rw [htouches, ← clock_roomFor c d, Cache.serve, put_eq hpos]
      exact toNat_clock_touch hroomclock d

private theorem Represents.serves (h : c.Represents m) (r : Request α)
    (hclock : c.clock.toNat + m.touches c.capacity r < 2 ^ 64) : c.Serves m r := by
  cases r with
  | get d => exact h.serves_get d hclock
  | put d v => exact h.serves_put d v hclock
  | contains d => exact ⟨congrArg Answer.held (h.contains_eq d), h, rfl, rfl⟩
  | size => exact ⟨congrArg Answer.count h.size_eq, h, rfl, rfl⟩
  | clear =>
    have htimes : c.clear.TimesFall [] := ⟨[], .nil, rfl, .nil, by simp⟩
    exact ⟨rfl, ⟨.nil, List.nodup_nil, htimes, Nat.zero_le _⟩, rfl, rfl⟩

/-- A run from a cache answers as the list does, and ends in a cache that stands for its end. -/
theorem Represents.runs (h : c.Represents m) {rs : List (Request α)} {as : List (Answer α)}
    (hruns : Runs c rs as c') (hclock : c.clock.toNat + m.touchesAll c.capacity rs < 2 ^ 64) :
    as = (m.serveAll c.capacity rs).1 ∧ c'.Represents (m.serveAll c.capacity rs).2 ∧
      c'.capacity = c.capacity := by
  -- The bound says that the clock will not be behind after the uses that are still to come.
  induction hruns generalizing m with
  | nil c => exact ⟨rfl, h, rfl⟩
  | @cons c b c' r rs as hb _ ih =>
    rw [Recent.touchesAll, ← hb.clock_eq, ← hb.capacity_eq] at hclock
    have hserves := (h.of_reordered hb).serves r (by omega)
    rw [← hb.capacity_eq]
    obtain ⟨has, hend, hcapacity⟩ := ih hserves.represents <| by
      rw [hserves.clock_eq, hserves.capacity_eq]
      omega
    rw [hserves.capacity_eq] at has hend hcapacity
    refine ⟨?_, hend, hcapacity⟩
    rw [Recent.serveAll, hserves.answer_eq, has]

/-- A turn of the loop that makes room, the entries and times looked through in any order. -/
def EvictsTo (c c' : Cache α) : Prop :=
  c.capacity ≤ c.size ∧ ∃ b, Reordered c b ∧ c' = b.evict

private theorem makeRoom_reached (n : Nat) (c : Cache α) :
    Relation.ReflTransGen EvictsTo c (Cache.makeRoom n c) := by
  induction n generalizing c with
  | zero => exact .refl
  | succ n ih =>
    rw [Cache.makeRoom]
    split
    · next hfull => exact .head ⟨hfull, c, .refl c, rfl⟩ (ih c.evict)
    · exact .refl

private theorem Represents.acc_evictsTo (h : c.Represents m) (hpos : 0 < c.capacity) :
    Acc (fun c' c => EvictsTo c c') c := by
  -- Every turn shortens the list that the cache stands for.
  induction hn : m.length generalizing c m with
  | zero =>
    refine .intro c fun c' hturn => ?_
    have hfull := hturn.1
    rw [h.size_eq] at hfull
    omega
  | succ n ih =>
    refine .intro c ?_
    rintro c' ⟨-, b, hb, rfl⟩
    refine ih (h.of_reordered hb).evict_dropLast ?_ ?_
    · rwa [capacity_evict, hb.capacity_eq]
    · rw [List.length_dropLast]
      omega

/-- Entries and times belong to the same divisions, once each, and no two times agree. -/
structure Matched (c : Cache α) : Prop where
  entries_nodup : (c.entries.map Prod.fst).Nodup
  lastUse_nodup : (c.lastUse.map Prod.fst).Nodup
  mem_iff : ∀ d, d ∈ c.entries.map Prod.fst ↔ d ∈ c.lastUse.map Prod.fst
  times_nodup : (c.lastUse.map Prod.snd).Nodup

private theorem Represents.matched (h : c.Represents m) : c.Matched := by
  have hentries := h.entries_perm.map Prod.fst
  obtain ⟨us, hperm, hmap, hfall, -⟩ := h.timesFall
  have huses : (c.lastUse.map Prod.fst).Perm (m.map Prod.fst) := hmap ▸ hperm.map Prod.fst
  refine ⟨hentries.nodup_iff.mpr h.nodup, huses.nodup_iff.mpr h.nodup, fun d => ?_, ?_⟩
  · rw [hentries.mem_iff, huses.mem_iff]
  · have htimes : (us.map Prod.snd).Nodup := hfall.imp fun hlt => (UInt64.ne_of_lt hlt).symm
    exact (hperm.map Prod.snd).nodup_iff.mpr htimes

/-- While the clock does not start anew, a cache answers as the list of what was used last does, in
whatever order its entries and times stand. It never holds too much, its two lists match, and the
loop that makes room ends, with room, where `makeRoom` ends. -/
theorem runs_eq_recent {rs : List (Request α)} {as : List (Answer α)}
    (hruns : Runs (empty capacity) rs as c) (htouches : Recent.touchesAll capacity [] rs < 2 ^ 64) :
    as = (Recent.serveAll capacity [] rs).1 ∧ c.size ≤ capacity ∧ c.Matched ∧
      (0 < capacity → Acc (fun c' c => EvictsTo c c') c ∧ ∀ b, Reordered c b →
        Relation.ReflTransGen EvictsTo b (Cache.makeRoom b.size b) ∧
          (Cache.makeRoom b.size b).size < capacity) := by
  have hclock : (empty capacity : Cache α).clock.toNat +
      Recent.touchesAll (empty capacity : Cache α).capacity [] rs < 2 ^ 64 := by
    have hzero : (empty capacity : Cache α).clock.toNat = 0 := rfl
    rw [hzero, Nat.zero_add]
    exact htouches
  obtain ⟨has, hend, hcapacity⟩ := (represents_empty capacity).runs hruns hclock
  have hcapacity : c.capacity = capacity := hcapacity
  have hle := hend.length_le
  refine ⟨has, by rw [hend.size_eq]; omega, hend.matched, fun hpos => ⟨?_, fun b hb => ?_⟩⟩
  · exact hend.acc_evictsTo (hcapacity ▸ hpos)
  · have hb' := hend.of_reordered hb
    have hbcapacity : b.capacity = capacity := hb.capacity_eq.trans hcapacity
    refine ⟨makeRoom_reached b.size b, ?_⟩
    rw [(hb'.makeRoom (hbcapacity ▸ hpos) (Nat.le_of_eq hb'.size_eq.symm)).size_eq]
    split
    · rw [List.length_dropLast]
      omega
    · omega

def reversed (c : Cache α) : Cache α :=
  { c with entries := c.entries.reverse, lastUse := c.lastUse.reverse }

private theorem reordered_reversed (c : Cache α) : Reordered c c.reversed :=
  ⟨rfl, c.entries.reverse_perm, c.lastUse.reverse_perm, rfl⟩

def sampleRequests : List (Request String) :=
  [.put ⟨1, .commons⟩ "a", .put ⟨2, .commons⟩ "b", .get ⟨1, .commons⟩, .put ⟨1, .lords⟩ "c",
    .contains ⟨2, .commons⟩, .size, .clear, .get ⟨1, .commons⟩]

theorem runs_eq_recent_sample :
    ∃ c, Runs (empty 2) sampleRequests
        [.done, .done, .entry (some "a"), .done, .held false, .count 2, .done, .entry none] c ∧
      Recent.touchesAll 2 [] sampleRequests < 2 ^ 64 ∧
      (Recent.serveAll 2 [] sampleRequests).1 =
        [.done, .done, .entry (some "a"), .done, .held false, .count 2, .done, .entry none] ∧
      c.Matched := by
  have hruns := runs_serveAll reordered_reversed sampleRequests (empty 2)
  have hanswers : ((empty 2).serveAll reversed sampleRequests).1 =
      [.done, .done, .entry (some "a"), .done, .held false, .count 2, .done, .entry none] := by
    decide
  rw [hanswers] at hruns
  have htouches : Recent.touchesAll 2 [] sampleRequests < 2 ^ 64 := by decide
  obtain ⟨has, -, hmatched, -⟩ := runs_eq_recent hruns htouches
  exact ⟨_, hruns, htouches, has.symm, hmatched⟩

end Cache
end RollCall
