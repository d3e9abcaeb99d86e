import RollCall.Proofs.Entries
import RollCall.Proofs.RecordRoundTrip
import RollCall.Proofs.RowwiseEvaluation
import RollCall.Proofs.Strict.Basic

/-!
# Written expressions

In an expression that is read every operator has as many operands as it takes, so its evaluation
never fails for their number. Every such expression is read back from the documents that are written
for it, if JSON carries its constants.
-/
namespace RollCall

/-! ### Operators -/

/-- A fault that is not about the number of operands. -/
def ExpressionFault.SparesCounts : ExpressionFault → Prop
  | .wrongCount _ _ => False
  | _ => True

namespace Operator

open Outcome

variable {op : Operator} {n : Nat} {word : String} {operands : List Cell}

/-- Sums and products are of two operands at least, and extremes and connectives of one. -/
def Takes : Operator → Nat → Prop
  | add, n | mul, n => 2 ≤ n
  | sub, n | div, n | pow, n => n = 2
  | neg, n | abs, n => n = 1
  | min, n | max, n | and, n | or, n => 1 ≤ n

theorem allows_iff : op.allows n = true ↔ op.Takes n := by
  cases op <;> simp [allows, Takes]

theorem ofWord_of_asciiLower (h : Text.asciiLower word = op.name) : ofWord word = .ok op := by
  have hfind : all.find? (fun other => other.name = op.name) = some op := by
    cases op <;> decide +kernel
  rw [ofWord, h]
  simp only [hfind]

private theorem truth_sparesCounts (c : Cell) :
    FailsAs ExpressionFault.SparesCounts (op.truth c) := by
  rw [truth.eq_def]
  split
  · exact failsAs_ok _
  · split
    · exact failsAs_ok _
    · exact failsAs_error trivial

theorem number?_sparesCounts (c : Cell) :
    FailsAs ExpressionFault.SparesCounts (op.number? c) := by
  cases c with
  | text s => exact failsAs_error trivial
  | null | bool | int | float => exact failsAs_ok _

/-- The numbers of as many operands as an arithmetic operator takes are enough to compute with. -/
theorem compute_sparesCounts (hop : op ∉ [.and, .or, .min, .max])
    (h : op.Takes operands.length) :
    FailsAs ExpressionFault.SparesCounts (operands.mapM op.number? >>= fun cells =>
      match cells.mapM id with
      | none => .ok .null
      | some numbers =>
        match op.compute? numbers with
        | some n => .ok n.toCell
        | none => .error (.wrongCount op operands.length)) := by
  cases hcells : operands.mapM op.number? with
  | error fault => exact failsAs_error (failsAs_mapM number?_sparesCounts fault hcells)
  | ok cells =>
    cases hnumbers : cells.mapM id with
    | none =>
      simp only [bind, Except.bind, hnumbers]
      exact failsAs_ok _
    | some numbers =>
      have hlength := Strict.length_of_numbers hcells hnumbers
      obtain ⟨n, -, hn⟩ := Strict.exists_compute hop (hlength ▸ allows_iff.mpr h)
      simp only [bind, Except.bind, hnumbers, hn]
      exact failsAs_ok _

/-- An operator with as many operands as it takes may refuse one of them but not their number. -/
theorem apply_sparesCounts (h : op.Takes operands.length) :
    FailsAs ExpressionFault.SparesCounts (op.apply operands) := by
  have hallows := allows_iff.mpr h
  cases op
  case and | or =>
    simp only [apply, hallows]
    exact (failsAs_mapM truth_sparesCounts).bind fun _ => failsAs_ok _
  case min | max =>
    simp only [apply, hallows]
    exact (failsAs_mapM number?_sparesCounts).bind fun _ => failsAs_ok _
  all_goals
    simp only [apply, hallows]
    exact compute_sparesCounts (by decide) h

end Operator

namespace Expression

variable {e : Expression} {op : Operator} {operands : List Expression} {word : String}
  {node : Json} {nodes : List Json} {fields : List (String × Json)} {t : Table}

/-! ### Expressions that fit their operators -/

/-- An expression stands in another one, at some depth. -/
inductive Within (d : Expression) : Expression → Prop
  | self : Within d d
  | operand {e : Expression} {op : Operator} {operands : List Expression} (he : e ∈ operands)
      (h : Within d e) : Within d (.apply op operands)

/-- Every operator in the expression has as many operands as it takes. -/
def FitsOperators (e : Expression) : Prop :=
  ∀ op operands, Within (.apply op operands) e → op.Takes operands.length

/-- No double in the expression is infinite or not a number. -/
def HasFiniteConstants (e : Expression) : Prop :=
  ∀ x, Within (.const (.float x)) e → Binary64.isFinite x = true

theorem fitsOperators_column (name : String) : (column name).FitsOperators :=
  fun _ _ h => nomatch h

theorem fitsOperators_const (c : Cell) : (const c).FitsOperators :=
  fun _ _ h => nomatch h

theorem fitsOperators_apply :
    (apply op operands).FitsOperators ↔
      op.Takes operands.length ∧ ∀ e ∈ operands, e.FitsOperators := by
  constructor
  · intro h
    exact ⟨h op operands .self, fun e he op' operands' hwithin =>
      h op' operands' (.operand he hwithin)⟩
  · rintro ⟨htakes, hoperands⟩ op' operands' hwithin
    cases hwithin with
    | self => exact htakes
    | operand he hwithin => exact hoperands _ he op' operands' hwithin

private theorem HasFiniteConstants.of_apply (h : (apply op operands).HasFiniteConstants) :
    ∀ e ∈ operands, e.HasFiniteConstants :=
  fun _ he x hwithin => h x (.operand he hwithin)

private theorem HasFiniteConstants.carried {c : Cell} (h : (const c).HasFiniteConstants) :
    c.carried = c := by
  cases c with
  | float x => rw [Cell.carried, if_pos (h x .self)]
  | null | bool | int | text => rfl

/-! ### Evaluation -/

open Outcome in
private theorem evalRow_sparesCounts (row : Nat) (h : e.FitsOperators) :
    FailsAs ExpressionFault.SparesCounts (e.evalRow t row) := by
  induction e using inductionOn with
  | column name =>
    rw [evalRow]
    split
    · exact failsAs_ok _
    · exact failsAs_error trivial
  | const c => exact failsAs_ok c
  | apply op operands ih =>
    obtain ⟨htakes, hoperands⟩ := fitsOperators_apply.mp h
    rw [evalRow_apply]
    cases hcells : operands.mapM (evalRow t row) with
    | error fault =>
      obtain ⟨e, he, hfault⟩ := exists_of_mapM_eq_error hcells
      exact failsAs_error (ih e he (hoperands e he) fault hfault)
    | ok cells => exact Operator.apply_sparesCounts (length_eq_of_mapM hcells ▸ htakes)

open Outcome in
private theorem evalColumn_sparesCounts (h : e.FitsOperators) :
    FailsAs ExpressionFault.SparesCounts (e.evalColumn t) := by
  induction e using inductionOn with
  | column name =>
    rw [evalColumn]
    split
    · exact failsAs_ok _
    · exact failsAs_error trivial
  | const c => exact failsAs_ok _
  | apply op operands ih =>
    obtain ⟨htakes, hoperands⟩ := fitsOperators_apply.mp h
    rw [evalColumn_apply]
    cases hcolumns : operands.mapM (evalColumn t) with
    | error fault =>
      obtain ⟨e, he, hfault⟩ := exists_of_mapM_eq_error hcolumns
      exact failsAs_error (ih e he (hoperands e he) fault hfault)
    | ok columns =>
      have hlength := length_eq_of_mapM hcolumns
      refine failsAs_mapM fun i => Operator.apply_sparesCounts ?_
      rw [List.length_map, List.length_map, hlength]
      exact htakes

/-! ### What a node is read as -/

theorem ofNodes_eq_mapM (nodes : List Json) : ofNodes nodes = nodes.mapM ofJson := by
  induction nodes with
  | nil => rw [ofNodes, List.mapM_nil]; rfl
  | cons node nodes ih => rw [ofNodes, ih, List.mapM_cons]

/-- What is read is a column, a constant, or an operator with as many operands as it takes, each of
which is read of a node. -/
theorem ofJson_eq_ok (h : ofJson node = .ok e) :
    (∃ name, e = .column name) ∨ (∃ c, e = .const c) ∨
      ∃ op operands, ∃ nodes : List Json, nodes.mapM ofJson = .ok operands ∧
        op.Takes operands.length ∧ e = .apply op operands := by
  cases node with
  | obj fields =>
    rw [ofJson] at h
    split at h
    · cases h
      exact .inl ⟨_, rfl⟩
    · cases h
    · cases h
      exact .inr (.inl ⟨_, rfl⟩)
    · rw [Outcome.bind_eq_ok] at h
      obtain ⟨op, -, h⟩ := h
      have hread : ∀ {operands} (nodes : List Json), nodes.mapM ofJson = .ok operands →
          (if op.allows operands.length then .ok (.apply op operands)
            else .error (.wrongCount op operands.length) : Except ExpressionFault Expression) =
              .ok e →
          ∃ op operands, ∃ nodes : List Json, nodes.mapM ofJson = .ok operands ∧
            op.Takes operands.length ∧ e = .apply op operands := by
        intro operands nodes hoperands h
        split at h
        · next hallows =>
          cases h
          exact ⟨op, operands, nodes, hoperands, Operator.allows_iff.mp hallows, rfl⟩
        · cases h
      refine .inr (.inr ?_)
      simp only [] at h
      split at h
      · next nodes _ =>
        obtain ⟨operands, hoperands, h⟩ := Outcome.bind_eq_ok.mp h
        exact hread nodes (ofNodes_eq_mapM nodes ▸ hoperands) h
      · cases h
      · exact hread [] rfl h
    · cases h
    · cases h
  | null | bool | int | float | str | arr =>
    rw [ofJson] at h
    · cases h
    all_goals simp

private theorem fitsOperators_of_ofJson (h : ofJson node = .ok e) : e.FitsOperators := by
  induction e using inductionOn generalizing node with
  | column name => exact fitsOperators_column name
  | const c => exact fitsOperators_const c
  | apply op operands ih =>
    rcases ofJson_eq_ok h with ⟨_, heq⟩ | ⟨_, heq⟩ | ⟨_, _, nodes, hnodes, htakes, heq⟩
    · cases heq
    · cases heq
    · cases heq
      refine fitsOperators_apply.mpr ⟨htakes, fun e he => ?_⟩
      obtain ⟨child, -, hchild⟩ := Outcome.exists_of_mem_mapM hnodes he
      exact ih e he hchild

theorem ofJson_column (name : String) :
    ofJson (.obj [("var", .str name)]) = .ok (.column name) := by
  rw [ofJson]
  rfl

theorem ofJson_apply (hop : Operator.ofWord word = .ok op)
    (hfields : fields.Perm [("op", .str word), ("args", .arr nodes)])
    (hnodes : nodes.mapM ofJson = .ok operands) (htakes : op.Takes operands.length) :
    ofJson (.obj fields) = .ok (.apply op operands) := by
  have hlookup := Json.lookup_perm hfields (by simp)
  have hvar : Json.lookup "var" fields = none := hlookup "var"
  have hconst : Json.lookup "const" fields = none := hlookup "const"
  have hword : Json.lookup "op" fields = some (.str word) := hlookup "op"
  have hargs : Json.lookup "args" fields = some (.arr nodes) := hlookup "args"
  rw [ofJson]
  simp only [hvar, hconst, hword, hop]
  split
  · next nodes' h =>
    cases hargs.symm.trans h
    rw [ofNodes_eq_mapM, hnodes]
    exact if_pos (Operator.allows_iff.mpr htakes)
  · next hnot h => exact absurd (Option.some.inj (h.symm.trans hargs)) (hnot nodes)
  · next h => cases hargs.symm.trans h

/-! ### Documents -/

/-- A node that a document may write for an expression. -/
inductive Written : Expression → Json → Prop
  | column (name : String) : Written (.column name) (.obj [("var", .str name)])
  | const (c : Cell) : Written (.const c) (.obj [("const", c.toJson)])
  | apply {op : Operator} {operands : List Expression} {word : String} {nodes : List Json}
      {fields : List (String × Json)} (hword : Text.asciiLower word = op.name)
      (hfields : fields.Perm [("op", .str word), ("args", .arr nodes)])
      (h : List.Forall₂ Written operands nodes) : Written (.apply op operands) (.obj fields)

private theorem exists_written (e : Expression) : ∃ node, Written e node := by
  induction e using inductionOn with
  | column name => exact ⟨_, .column name⟩
  | const c => exact ⟨_, .const c⟩
  | apply op operands ih =>
    obtain ⟨nodes, hnodes⟩ := Outcome.exists_forall₂ ih
    have hword : Text.asciiLower op.name = op.name := by cases op <;> decide +kernel
    exact ⟨_, .apply hword (.refl _) hnodes⟩

private theorem ofJson_of_written (hfits : e.FitsOperators) (hfinite : e.HasFiniteConstants)
    (h : Written e node) : ofJson node = .ok e := by
  induction e using inductionOn generalizing node with
  | column name =>
    cases h
    exact ofJson_column name
  | const c =>
    cases h
    have hcell : Cell.ofJson c.toJson = c := by rw [Cell.ofJson_toJson, hfinite.carried]
    rw [ofJson]
    exact congrArg (fun c => Except.ok (const c)) hcell
  | apply op operands ih =>
    obtain ⟨htakes, hoperands⟩ := fitsOperators_apply.mp hfits
    cases h with
    | apply hword hfields h =>
      have hread : ∀ e ∈ operands, ∀ node, Written e node → ofJson node = .ok e :=
        fun e he _ => ih e he (hoperands e he) (hfinite.of_apply e he)
      exact ofJson_apply (Operator.ofWord_of_asciiLower hword) hfields
        (Outcome.mapM_of_forall₂ hread h) htakes

/-- Exactly the expressions that fit their operators are read, each from every document that is
written for it, and their evaluation never fails for a number of operands. -/
theorem reads_fitting (e : Expression) :
    (∀ node, ofJson node = .ok e → e.FitsOperators ∧ ∀ t : Table, ∀ op count,
      (∀ row, e.evalRow t row ≠ .error (.wrongCount op count)) ∧
        e.evalColumn t ≠ .error (.wrongCount op count)) ∧
    (∃ node, Written e node) ∧
    (e.FitsOperators → e.HasFiniteConstants → ∀ node, Written e node → ofJson node = .ok e) := by
  refine ⟨fun node h => ?_, exists_written e, fun hfits hfinite node => ofJson_of_written hfits
    hfinite⟩
  have hfits := fitsOperators_of_ofJson h
  refine ⟨hfits, fun t op count => ⟨fun row herror => ?_, fun herror => ?_⟩⟩
  · exact evalRow_sparesCounts row hfits _ herror
  · exact evalColumn_sparesCounts hfits _ herror

/-- The negated smaller of half the words and forty-two. -/
def cappedWords : Expression :=
  .apply .neg [.apply .min [.apply .mul [.column "words", .const (.float 0.5)], .const (.int 42)]]

/-- The same with fields in any order and operators in odd cases. -/
def cappedWordsNode : Json :=
  .obj [("args", .arr [.obj [("op", .str "MIN"), ("args", .arr [
      .obj [("args", .arr [.obj [("var", .str "words")], .obj [("const", .float 0.5)]]),
        ("op", .str "Mul")],
      .obj [("const", .int 42)]])]]),
    ("op", .str "nEg")]

private theorem fitsOperators_cappedWords : cappedWords.FitsOperators := by
  simp [cappedWords, fitsOperators_apply, fitsOperators_column, fitsOperators_const,
    Operator.Takes]

private theorem hasFiniteConstants_cappedWords : cappedWords.HasFiniteConstants := by
  intro x h
  have hhalf : x = 0.5 := by
    obtain _ | ⟨hsmaller, h⟩ := h
    obtain rfl := List.mem_singleton.mp hsmaller
    obtain _ | ⟨hbound, h⟩ := h
    obtain rfl | rfl := List.mem_pair.mp hbound
    · obtain _ | ⟨hfactor, h⟩ := h
      obtain rfl | rfl := List.mem_pair.mp hfactor
      · cases h
      · cases h
        rfl
    · cases h
  rw [hhalf]
  decide +kernel

private theorem written_cappedWordsNode : Written cappedWords cappedWordsNode := by
  have hneg : Text.asciiLower "nEg" = Operator.neg.name := by decide +kernel
  have hmin : Text.asciiLower "MIN" = Operator.min.name := by decide +kernel
  have hmul : Text.asciiLower "Mul" = Operator.mul.name := by decide +kernel
  have hhalf : Cell.toJson (.float 0.5) = .float 0.5 := by
    rw [Cell.toJson, Json.ofFloat, if_pos (by decide +kernel)]
  have hproduct : Written (.apply .mul [.column "words", .const (.float 0.5)])
      (.obj [("args", .arr [.obj [("var", .str "words")], .obj [("const", .float 0.5)]]),
        ("op", .str "Mul")]) :=
    .apply hmul (.swap _ _ _) (.cons (.column _) (.cons (hhalf ▸ .const _) .nil))
  exact .apply hneg (.swap _ _ _)
    (.cons (.apply hmin (.refl _) (.cons hproduct (.cons (.const (.int 42)) .nil))) .nil)

theorem reads_fitting_sample :
    ofJson cappedWordsNode = .ok cappedWords ∧
      ∀ (t : Table) row op count, cappedWords.evalRow t row ≠ .error (.wrongCount op count) := by
  obtain ⟨hspares, -, hread⟩ := reads_fitting cappedWords
  have h : ofJson cappedWordsNode = .ok cappedWords :=
    hread fitsOperators_cappedWords hasFiniteConstants_cappedWords cappedWordsNode
      written_cappedWordsNode
  exact ⟨h, fun t row op count => ((hspares cappedWordsNode h).2 t op count).1 row⟩

end Expression

end RollCall
