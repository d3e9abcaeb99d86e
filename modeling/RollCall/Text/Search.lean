/-!
# Searching a text

Whether a text occurs within another, and replacing every occurrence.
-/
namespace RollCall.Text

/-- Whether `part` stands in `cs` at some position. -/
def occursIn (part : List Char) : List Char → Bool
  | [] => part.isEmpty
  | c :: cs => part.isPrefixOf (c :: cs) || occursIn part cs

def contains (s part : String) : Bool :=
  occursIn part.toList s.toList

theorem occursIn_iff {part cs : List Char} :
    occursIn part cs = true ↔ ∃ before after, cs = before ++ part ++ after := by
  induction cs with
  | nil =>
    cases part <;> simp [occursIn]
  | cons c cs ih =>
    simp only [occursIn, Bool.or_eq_true, List.isPrefixOf_iff_prefix, ih]
    constructor
    · rintro (⟨after, h⟩ | ⟨before, after, h⟩)
      · exact ⟨[], after, by simp [h]⟩
      · exact ⟨c :: before, after, by simp [h]⟩
    · rintro ⟨before, after, h⟩
      cases before with
      | nil => exact .inl ⟨after, by simpa using h.symm⟩
      | cons b before =>
        simp only [List.cons_append, List.cons.injEq] at h
        exact .inr ⟨before, after, h.2⟩

/-- `cs` with the occurrences of `part` replaced from left to right, `skip` characters being left of
an occurrence just replaced. -/
def replaceFrom (part replacement : List Char) : Nat → List Char → List Char
  | _, [] => []
  | skip + 1, _ :: cs => replaceFrom part replacement skip cs
  | 0, c :: cs =>
    if part.isPrefixOf (c :: cs) then
      replacement ++ replaceFrom part replacement (part.length - 1) cs
    else
      c :: replaceFrom part replacement 0 cs

def replace (s part replacement : String) : String :=
  String.ofList (replaceFrom part.toList replacement.toList 0 s.toList)

end RollCall.Text
