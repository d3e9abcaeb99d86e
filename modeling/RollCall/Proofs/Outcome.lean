import Mathlib.Data.List.Forall2

/-!
# Outcomes

Laws of `Except`, by which the runs of the library are taken apart: a sequence of computations
succeeds exactly when every one of them does, and what every step keeps a loop keeps.
-/
namespace RollCall.Outcome

variable {ε ε' α β γ : Type}

@[simp] theorem bind_eq_ok {x : Except ε α} {f : α → Except ε β} {b : β} :
    (x >>= f) = .ok b ↔ ∃ a, x = .ok a ∧ f a = .ok b := by
  cases x <;> simp [bind, Except.bind]

@[simp] theorem dotBind_eq_ok {x : Except ε α} {f : α → Except ε β} {b : β} :
    x.bind f = .ok b ↔ ∃ a, x = .ok a ∧ f a = .ok b :=
  bind_eq_ok

@[simp] theorem pure_eq_ok {a b : α} : (pure a : Except ε α) = .ok b ↔ a = b := by
  simp [pure, Except.pure]

@[simp] theorem map_eq_ok {x : Except ε α} {f : α → β} {b : β} :
    x.map f = .ok b ↔ ∃ a, x = .ok a ∧ f a = b := by
  cases x <;> simp [Except.map]

@[simp] theorem mapError_eq_ok {x : Except ε α} {f : ε → ε'} {a : α} :
    x.mapError f = .ok a ↔ x = .ok a := by
  cases x <;> simp [Except.mapError]

@[simp] theorem mapError_eq_error {x : Except ε α} {f : ε → ε'} {e : ε'} :
    x.mapError f = .error e ↔ ∃ cause, x = .error cause ∧ f cause = e := by
  cases x <;> simp [Except.mapError]

/-- A loop over a list succeeds exactly when every member does. -/
theorem mapM_eq_ok {f : α → Except ε β} {xs : List α} {ys : List β} :
    xs.mapM f = .ok ys ↔ List.Forall₂ (fun x y => f x = .ok y) xs ys := by
  induction xs generalizing ys with
  | nil =>
    rw [List.mapM_nil, pure_eq_ok, List.forall₂_nil_left_iff]
    exact eq_comm
  | cons x xs ih =>
    simp only [List.mapM_cons, bind_eq_ok, pure_eq_ok, List.forall₂_cons_left_iff, ih]
    constructor
    · rintro ⟨y, hy, ys', hys, rfl⟩
      exact ⟨y, ys', hy, hys, rfl⟩
    · rintro ⟨y, ys', hy, hys, rfl⟩
      exact ⟨y, hy, ys', hys, rfl⟩

theorem mapM_congr {f g : α → Except ε β} {xs : List α} (h : ∀ x ∈ xs, f x = g x) :
    xs.mapM f = xs.mapM g := by
  induction xs with
  | nil => rfl
  | cons x xs ih =>
    rw [List.mapM_cons, List.mapM_cons, h x List.mem_cons_self,
      ih fun y hy => h y (List.mem_cons_of_mem _ hy)]

/-- A loop succeeds where another one does if its body follows that of the other. -/
theorem mapM_eq_ok_map {f : α → Except ε β} {g : α → Except ε γ} {k : β → γ} {xs : List α}
    {ys : List β} (h : ∀ x ∈ xs, ∀ y, f x = .ok y → g x = .ok (k y)) (hf : xs.mapM f = .ok ys) :
    xs.mapM g = .ok (ys.map k) := by
  have hall := mapM_eq_ok.mp hf
  clear hf
  induction hall with
  | nil => rfl
  | cons hxy _ ih =>
    rw [List.mapM_cons, h _ List.mem_cons_self _ hxy,
      ih fun z hz => h z (List.mem_cons_of_mem _ hz)]
    rfl

/-- A loop over the first numbers succeeds exactly when it gives a list of their length with the
result for each of them in its place. -/
theorem mapM_range_eq_ok {f : Nat → Except ε β} {n : Nat} {ys : List β} :
    (List.range n).mapM f = .ok ys ↔
      ys.length = n ∧ ∀ i, (hi : i < ys.length) → f i = .ok ys[i] := by
  rw [mapM_eq_ok, List.forall₂_iff_get]
  simp only [List.get_eq_getElem, List.getElem_range, List.length_range]
  constructor
  · rintro ⟨hlength, h⟩
    exact ⟨hlength.symm, fun i hi => h i (hlength ▸ hi) hi⟩
  · rintro ⟨hlength, h⟩
    exact ⟨hlength.symm, fun i _ hi => h i hi⟩

/-- Every member has its result in its place. -/
theorem getElem?_of_mapM {f : α → Except ε β} {xs : List α} {ys : List β}
    (h : xs.mapM f = .ok ys) {i : Nat} {x : α} (hx : xs[i]? = some x) :
    ∃ y, ys[i]? = some y ∧ f x = .ok y := by
  obtain ⟨hi, rfl⟩ := List.getElem?_eq_some_iff.mp hx
  obtain ⟨hlength, hall⟩ := List.forall₂_iff_get.mp (mapM_eq_ok.mp h)
  have hi' : i < ys.length := hlength ▸ hi
  exact ⟨ys[i], List.getElem?_eq_getElem hi', hall i hi hi'⟩

theorem length_eq_of_mapM {f : α → Except ε β} {xs : List α} {ys : List β}
    (h : xs.mapM f = .ok ys) : ys.length = xs.length :=
  (mapM_eq_ok.mp h).length_eq.symm

/-- Every member of the right list stands beside one of the left list. -/
theorem exists_of_mem_right {R : α → β → Prop} {xs : List α} {ys : List β}
    (h : List.Forall₂ R xs ys) {y : β} (hy : y ∈ ys) : ∃ x ∈ xs, R x y := by
  induction h with
  | nil => cases hy
  | cons hxy _ ih =>
    rcases List.mem_cons.mp hy with rfl | hy
    · exact ⟨_, List.mem_cons_self, hxy⟩
    · obtain ⟨x, hx, hxy⟩ := ih hy
      exact ⟨x, List.mem_cons_of_mem _ hx, hxy⟩

theorem exists_of_mem_left {R : α → β → Prop} {xs : List α} {ys : List β}
    (h : List.Forall₂ R xs ys) {x : α} (hx : x ∈ xs) : ∃ y ∈ ys, R x y :=
  exists_of_mem_right h.flip hx

theorem exists_forall₂ {R : α → β → Prop} {xs : List α} (h : ∀ x ∈ xs, ∃ y, R x y) :
    ∃ ys, List.Forall₂ R xs ys := by
  induction xs with
  | nil => exact ⟨[], .nil⟩
  | cons x xs ih =>
    obtain ⟨y, hy⟩ := h x List.mem_cons_self
    obtain ⟨ys, hys⟩ := ih fun z hz => h z (List.mem_cons_of_mem _ hz)
    exact ⟨y :: ys, .cons hy hys⟩

/-- What is written of every member of a list is read back if it is of each of them. -/
theorem mapM_of_forall₂ {R : α → β → Prop} {f : β → Except ε α} {xs : List α} {ys : List β}
    (hread : ∀ x ∈ xs, ∀ y, R x y → f y = .ok x) (h : List.Forall₂ R xs ys) :
    ys.mapM f = .ok xs := by
  have hboth : List.Forall₂ (fun x y => (∀ y, R x y → f y = .ok x) ∧ R x y) xs ys :=
    (List.forall₂_and_left xs ys).mpr ⟨hread, h⟩
  exact mapM_eq_ok.mpr (hboth.imp fun _ y hx => hx.1 y hx.2).flip

theorem exists_between {R : α → β → Prop} {S : β → γ → Prop} {xs : List α}
    {zs : List γ} (h : List.Forall₂ (fun x z => ∃ y, R x y ∧ S y z) xs zs) :
    ∃ ys, List.Forall₂ R xs ys ∧ List.Forall₂ S ys zs := by
  induction h with
  | nil => exact ⟨[], .nil, .nil⟩
  | cons hxz _ ih =>
    obtain ⟨y, hxy, hyz⟩ := hxz
    obtain ⟨ys, hxs, hzs⟩ := ih
    exact ⟨y :: ys, .cons hxy hxs, .cons hyz hzs⟩

/-- Every member of the result of a loop comes from a member of the list. -/
theorem exists_of_mem_mapM {f : α → Except ε β} {xs : List α} {ys : List β}
    (h : xs.mapM f = .ok ys) {y : β} (hy : y ∈ ys) : ∃ x ∈ xs, f x = .ok y :=
  exists_of_mem_right (mapM_eq_ok.mp h) hy

theorem exists_ok_of_mapM {f : α → Except ε β} {xs : List α} {ys : List β}
    (h : xs.mapM f = .ok ys) : ∀ x ∈ xs, ∃ y, f x = .ok y := by
  have hboth : List.Forall₂ (fun x y => (∃ y, f x = .ok y) ∧ f x = .ok y) xs ys :=
    (mapM_eq_ok.mp h).imp fun x y hxy => ⟨⟨y, hxy⟩, hxy⟩
  exact ((List.forall₂_and_left xs ys).mp hboth).1

/-- A loop fails as the first member that fails does. -/
theorem mapM_eq_error {f : α → Except ε β} {xs : List α} {e : ε} :
    xs.mapM f = .error e ↔ ∃ before x after, xs = before ++ x :: after ∧
      (∀ y ∈ before, ∃ b, f y = .ok b) ∧ f x = .error e := by
  constructor
  · intro h
    induction xs with
    | nil => cases h
    | cons x xs ih =>
      rw [List.mapM_cons] at h
      cases hx : f x with
      | error e' =>
        rw [hx] at h
        cases h
        exact ⟨[], x, xs, rfl, fun _ hy => absurd hy List.not_mem_nil, hx⟩
      | ok y =>
        have hxs : xs.mapM f = .error e := by
          cases hxs : xs.mapM f <;> simp_all [bind, Except.bind, pure, Except.pure]
        obtain ⟨before, z, after, rfl, hbefore, hz⟩ := ih hxs
        refine ⟨x :: before, z, after, rfl, fun w hw => ?_, hz⟩
        rcases List.mem_cons.mp hw with rfl | hw
        · exact ⟨y, hx⟩
        · exact hbefore w hw
  · rintro ⟨before, x, after, rfl, hbefore, hx⟩
    induction before with
    | nil =>
      rw [List.nil_append, List.mapM_cons, hx]
      rfl
    | cons y before ih =>
      obtain ⟨b, hb⟩ := hbefore y List.mem_cons_self
      rw [List.cons_append, List.mapM_cons, hb,
        ih fun z hz => hbefore z (List.mem_cons_of_mem _ hz)]
      rfl

/-- A loop fails as one of the members does. -/
theorem exists_of_mapM_eq_error {f : α → Except ε β} {xs : List α} {e : ε}
    (h : xs.mapM f = .error e) : ∃ x ∈ xs, f x = .error e := by
  obtain ⟨before, x, after, rfl, -, hx⟩ := mapM_eq_error.mp h
  exact ⟨x, List.mem_append_right _ List.mem_cons_self, hx⟩

theorem exists_mapM_eq_ok {f : α → Except ε β} {xs : List α} :
    (∃ ys, xs.mapM f = .ok ys) ↔ ∀ x ∈ xs, ∃ y, f x = .ok y := by
  refine ⟨fun ⟨ys, hys⟩ => exists_ok_of_mapM hys, fun h => ?_⟩
  cases hmap : xs.mapM f with
  | ok ys => exact ⟨ys, rfl⟩
  | error e =>
    obtain ⟨x, hx, hfail⟩ := exists_of_mapM_eq_error hmap
    obtain ⟨y, hy⟩ := h x hx
    rw [hfail] at hy
    cases hy

/-- Members that give nothing may be left out. -/
theorem mapM_filter {f : α → Except ε (Option β)} {p : α → Bool} {xs : List α}
    (h : ∀ x ∈ xs, p x = false → f x = .ok none) :
    ((xs.filter p).mapM f).map (List.filterMap id) = (xs.mapM f).map (List.filterMap id) := by
  induction xs with
  | nil => rfl
  | cons x xs ih =>
    obtain ⟨hx, hrest⟩ := List.forall_mem_cons.mp h
    have hmap : ∀ ys : List α, ((x :: ys).mapM f).map (List.filterMap id) =
        (f x).bind fun y => ((ys.mapM f).map (List.filterMap id)).map (y.toList ++ ·) := by
      intro ys
      rw [List.mapM_cons]
      cases f x with
      | error e => rfl
      | ok y => cases ys.mapM f <;> cases y <;> rfl
    cases hp : p x with
    | true => rw [List.filter_cons_of_pos hp, hmap, hmap, ih hrest]
    | false =>
      rw [List.filter_cons_of_neg (by simp [hp]), hmap, hx hp, ih hrest]
      cases xs.mapM f <;> rfl

/-- A loop of steps that do not fail. -/
theorem foldlM_eq_ok_foldl {f : β → α → Except ε β} {g : β → α → β} {xs : List α} {b : β}
    (h : ∀ x ∈ xs, ∀ b, f b x = .ok (g b x)) : xs.foldlM f b = .ok (xs.foldl g b) := by
  induction xs generalizing b with
  | nil => rfl
  | cons x xs ih =>
    obtain ⟨hx, hrest⟩ := List.forall_mem_cons.mp h
    rw [List.foldlM_cons, hx, List.foldl_cons]
    exact ih hrest

/-- What every step of a loop keeps, the loop keeps. -/
theorem foldlM_keeps {P : β → Prop} {f : β → α → Except ε β} {xs : List α} {b b' : β}
    (hstep : ∀ x ∈ xs, ∀ c c', f c x = .ok c' → P c → P c')
    (h : xs.foldlM f b = .ok b') (hb : P b) : P b' := by
  induction xs generalizing b with
  | nil =>
    rw [List.foldlM_nil, pure_eq_ok] at h
    exact h ▸ hb
  | cons x xs ih =>
    rw [List.foldlM_cons, bind_eq_ok] at h
    obtain ⟨c, hc, hrest⟩ := h
    exact ih (fun y hy => hstep y (List.mem_cons_of_mem _ hy)) hrest
      (hstep x List.mem_cons_self b c hc hb)

/-- Every failure of a computation has a property. -/
def FailsAs (P : ε → Prop) (x : Except ε α) : Prop :=
  ∀ e, x = .error e → P e

variable {P : ε → Prop} {x : Except ε α}

theorem failsAs_ok (a : α) : FailsAs P (.ok a : Except ε α) :=
  fun _ h => nomatch h

theorem failsAs_error {e : ε} (h : P e) : FailsAs P (.error e : Except ε α) := by
  rintro _ ⟨⟩
  exact h

theorem FailsAs.bind {f : α → Except ε β} (hx : FailsAs P x) (hf : ∀ a, FailsAs P (f a)) :
    FailsAs P (x >>= f) := by
  cases x with
  | error e => exact failsAs_error (hx e rfl)
  | ok a => exact hf a

theorem FailsAs.map {f : α → β} (hx : FailsAs P x) : FailsAs P (x.map f) := by
  cases x with
  | error e => exact failsAs_error (hx e rfl)
  | ok a => exact failsAs_ok (f a)

theorem failsAs_mapError {x : Except ε' α} {f : ε' → ε} (h : ∀ e, P (f e)) :
    FailsAs P (x.mapError f) := by
  cases x with
  | error e => exact failsAs_error (h e)
  | ok a => exact failsAs_ok a

theorem failsAs_mapM {f : α → Except ε β} {xs : List α} (h : ∀ x, FailsAs P (f x)) :
    FailsAs P (xs.mapM f) := by
  intro e he
  obtain ⟨x, -, hx⟩ := exists_of_mapM_eq_error he
  exact h x e hx

end RollCall.Outcome
