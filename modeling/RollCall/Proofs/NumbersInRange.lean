import RollCall.Json.Reader

/-!
# Numbers of JSON texts

JSON can hold integers of 64 bits, signed or not, and finite doubles. A value that is read from a
text has no other numbers in it, however deep its arrays and objects are nested.
-/
namespace RollCall.Json

/-- All numbers in a JSON value are such as JSON can hold. -/
inductive InRange : Json → Prop
  | null : InRange .null
  | bool (b : Bool) : InRange (.bool b)
  | int {n : Int} (h : isIntegral n = true) : InRange (.int n)
  | float {x : Float} (h : Binary64.isFinite x = true) : InRange (.float x)
  | str (s : String) : InRange (.str s)
  | arr {items : List Json} (h : ∀ v ∈ items, InRange v) : InRange (.arr items)
  | obj {fields : List (String × Json)} (h : ∀ field ∈ fields, InRange field.2) :
    InRange (.obj fields)

variable {v : Json} {key : String} {fields : List (String × Json)}

theorem mem_of_lookup (h : lookup key fields = some v) : (key, v) ∈ fields := by
  induction fields with
  | nil => cases h
  | cons field fields ih =>
    obtain ⟨k, w⟩ := field
    rw [lookup] at h
    split at h
    · next hk =>
      cases h
      exact hk ▸ List.mem_cons_self
    · exact List.mem_cons_of_mem _ (ih h)

private theorem mem_insert {field : String × Json} (h : field ∈ insert key v fields) :
    field = (key, v) ∨ field ∈ fields := by
  induction fields with
  | nil => exact .inl (List.mem_singleton.mp h)
  | cons first fields ih =>
    obtain ⟨k, w⟩ := first
    rw [insert] at h
    split at h
    · next hk =>
      rcases List.mem_cons.mp h with rfl | h
      · exact .inl (by rw [hk])
      · exact .inr (List.mem_cons_of_mem _ h)
    · rcases List.mem_cons.mp h with rfl | h
      · exact .inr List.mem_cons_self
      · exact (ih h).imp_right (List.mem_cons_of_mem _)

private theorem inRange_of_number? [Library] {cs rest : List Char}
    (h : Token.number? cs = some (v, rest)) :
    v.InRange := by
  simp only [Token.number?, Option.bind_eq_bind, Option.bind_eq_some_iff] at h
  obtain ⟨⟨literal, rest'⟩, -, h⟩ := h
  have hvalue : (if (literal.integral && isIntegral literal.toInt &&
      !(literal.negative && literal.toInt == 0)) = true then some (int literal.toInt, rest')
      else if Binary64.isFinite (Library.decimal literal) = true then
        some (float (Library.decimal literal), rest')
      else none) = some (v, rest) := by
    split at h
    · split at h
      · cases h
      · exact h
    · exact h
  split at hvalue
  · next hint =>
    cases hvalue
    simp only [Bool.and_eq_true] at hint
    exact .int hint.1.2
  · split at hvalue
    · next hfinite =>
      cases hvalue
      exact .float hfinite
    · cases hvalue

private theorem inRange_of_one? [Library] {cs rest : List Char}
    (h : Token.one? cs = some (.scalar v, rest)) : v.InRange := by
  unfold Token.one? at h
  split at h
  case h_11 =>
    obtain ⟨⟨w, rest'⟩, hw, heq⟩ := Option.map_eq_some_iff.mp h
    cases heq
    exact inRange_of_number? hw
  case h_7 =>
    obtain ⟨_, -, heq⟩ := Option.map_eq_some_iff.mp h
    cases heq
  all_goals cases h
  all_goals constructor

private theorem inRange_of_scanUpTo? [Library] {limit : Nat} {cs : List Char} {tokens : List Token}
    (h : Token.scanUpTo? limit cs = some tokens) : ∀ v, .scalar v ∈ tokens → v.InRange := by
  induction limit generalizing cs tokens with
  | zero =>
    rw [Token.scanUpTo?] at h
    split at h
    · cases h
      simp
    · cases h
  | succ limit ih =>
    rw [Token.scanUpTo?] at h
    split at h
    · cases h
      simp
    · simp only [Option.bind_eq_bind, Option.bind_eq_some_iff, Option.pure_def] at h
      obtain ⟨⟨token, rest⟩, htoken, tokens, htokens, heq⟩ := h
      cases heq
      intro v hv
      rcases List.mem_cons.mp hv with rfl | hv
      · exact inRange_of_one? htoken
      · exact ih htokens v hv

/-! ### Readers -/

def Frame.InRange : Frame → Prop
  | .array done => ∀ v ∈ done, v.InRange
  | .object done | .field done _ => ∀ field ∈ done, field.2.InRange

namespace Reader

/-- What has been read so far is in range. -/
structure InRange (r : Reader) : Prop where
  stack : ∀ frame ∈ r.stack, frame.InRange
  result : ∀ v, r.result = some v → v.InRange

variable {r r' : Reader} {stack : List Frame} {frame : Frame} {expecting : Expecting}

private theorem inRange_start : start.InRange :=
  ⟨fun _ h => absurd h List.not_mem_nil, nofun⟩

private theorem inRange_of_give (hstack : ∀ frame ∈ stack, frame.InRange) (hv : v.InRange)
    (h : give stack v = some r) : r.InRange := by
  match stack with
  | [] =>
    cases h
    refine ⟨fun _ h => absurd h List.not_mem_nil, fun w hw => ?_⟩
    cases hw
    exact hv
  | .array done :: stack =>
    cases h
    obtain ⟨hdone, hstack⟩ := List.forall_mem_cons.mp hstack
    exact ⟨List.forall_mem_cons.mpr ⟨List.forall_mem_cons.mpr ⟨hv, hdone⟩, hstack⟩, nofun⟩
  | .field done key :: stack =>
    cases h
    obtain ⟨hdone, hstack⟩ := List.forall_mem_cons.mp hstack
    refine ⟨List.forall_mem_cons.mpr ⟨fun field hfield => ?_, hstack⟩, nofun⟩
    rcases mem_insert hfield with rfl | hfield
    · exact hv
    · exact hdone field hfield
  | .object _ :: _ => cases h

private theorem inRange_of_push (hstack : ∀ frame ∈ stack, frame.InRange) (hframe : frame.InRange)
    (h : push stack frame expecting = some r) : r.InRange := by
  rw [push] at h
  split at h
  · cases h
    exact ⟨List.forall_mem_cons.mpr ⟨hframe, hstack⟩, nofun⟩
  · cases h

private theorem InRange.step (hr : r.InRange) {token : Token}
    (htoken : ∀ v, token = .scalar v → v.InRange) (h : r.step token = some r') :
    r'.InRange := by
  obtain ⟨stack, expecting, result⟩ := r
  have hstack := hr.stack
  cases token with
  | scalar v =>
    rw [Reader.step] at h
    split at h
    · exact inRange_of_give hstack (htoken v rfl) h
    · cases h
  | text s =>
    rw [Reader.step] at h
    dsimp only at h hstack
    split at h
    · exact inRange_of_give hstack (.str s) h
    · exact inRange_of_give hstack (.str s) h
    · cases h
      obtain ⟨hdone, hstack⟩ := List.forall_mem_cons.mp hstack
      exact ⟨List.forall_mem_cons.mpr ⟨hdone, hstack⟩, nofun⟩
    · cases h
      obtain ⟨hdone, hstack⟩ := List.forall_mem_cons.mp hstack
      exact ⟨List.forall_mem_cons.mpr ⟨hdone, hstack⟩, nofun⟩
    · cases h
  | openArray =>
    have hopen : (Frame.array []).InRange := fun _ hv => absurd hv List.not_mem_nil
    rw [Reader.step] at h
    split at h
    · exact inRange_of_push hstack hopen h
    · cases h
  | openObject =>
    have hopen : (Frame.object []).InRange := fun _ hv => absurd hv List.not_mem_nil
    rw [Reader.step] at h
    split at h
    · exact inRange_of_push hstack hopen h
    · cases h
  | closeArray =>
    rw [Reader.step] at h
    dsimp only at h hstack
    split at h
    · obtain ⟨hdone, hstack⟩ := List.forall_mem_cons.mp hstack
      exact inRange_of_give hstack (.arr fun v hv => hdone v (List.mem_reverse.mp hv)) h
    · obtain ⟨hdone, hstack⟩ := List.forall_mem_cons.mp hstack
      exact inRange_of_give hstack (.arr fun v hv => hdone v (List.mem_reverse.mp hv)) h
    · cases h
  | closeObject =>
    rw [Reader.step] at h
    dsimp only at h hstack
    split at h
    · obtain ⟨hdone, hstack⟩ := List.forall_mem_cons.mp hstack
      exact inRange_of_give hstack (.obj hdone) h
    · obtain ⟨hdone, hstack⟩ := List.forall_mem_cons.mp hstack
      exact inRange_of_give hstack (.obj hdone) h
    · cases h
  | comma =>
    rw [Reader.step] at h
    split at h
    · cases h
      exact ⟨hstack, hr.result⟩
    · cases h
      exact ⟨hstack, hr.result⟩
    · cases h
  | colon =>
    rw [Reader.step] at h
    split at h
    · cases h
      exact ⟨hstack, hr.result⟩
    · cases h

private theorem InRange.steps (hr : r.InRange) {tokens : List Token}
    (htokens : ∀ v, .scalar v ∈ tokens → v.InRange)
    (h : tokens.foldlM Reader.step r = some r') : r'.InRange := by
  induction tokens generalizing r with
  | nil =>
    cases h
    exact hr
  | cons token tokens ih =>
    rw [List.foldlM_cons, Option.bind_eq_bind, Option.bind_eq_some_iff] at h
    obtain ⟨next, hnext, hrest⟩ := h
    have hfirst : ∀ v, token = .scalar v → v.InRange := by
      rintro v rfl
      exact htokens v List.mem_cons_self
    exact ih (hr.step hfirst hnext) (fun v hv => htokens v (List.mem_cons_of_mem _ hv)) hrest

end Reader

/-- Reading a text gives numbers in range only. -/
theorem inRange_of_read? [Library] {text : String} (h : read? text = some v) : v.InRange := by
  simp only [read?, Option.bind_eq_bind, Option.bind_eq_some_iff] at h
  obtain ⟨tokens, htokens, reader, hreader, hresult⟩ := h
  exact (Reader.inRange_start.steps (inRange_of_scanUpTo? htokens) hreader).result v hresult

end RollCall.Json
