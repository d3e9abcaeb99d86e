import RollCall.Library.Standard
import RollCall.Proofs.Entries
import RollCall.Proofs.RowwiseConditions

/-!
# Written conditions

A document may write a condition in many shapes, chosen anew at every node: a conjunction as an
object or as a bare list, a negated condition by itself or in a list of its own, a clause flat or
with its parts under `args`, and words in any case. Each of them is read as that condition, and in
what is read no cell is looked for in a literal that is no list.
-/
namespace RollCall

/-! ### Words in any case -/

variable {word : String}

/-- A character is blank or not in lower case as it was. -/
theorem Text.isBlank_toLower {c : Char} (h : isBlank c = true) : isBlank c.toLower = true := by
  have hlower : c.toLower = c := by
    refine dif_neg fun ⟨hle, hge⟩ => ?_
    have hle : 65 ≤ c.toNat := hle
    have hge : c.toNat ≤ 90 := hge
    simp only [isBlank, Bool.or_eq_true, Bool.and_eq_true, decide_eq_true_eq, beq_iff_eq] at h
    omega
  rwa [hlower]

/-- A word without blanks in lower case has none to trim. -/
theorem Text.trim_eq_self_of_lower (h : ∀ c ∈ (asciiLower word).toList, isBlank c = false) :
    trim word = word := by
  have hblank : ∀ c ∈ word.toList, isBlank c = false := by
    intro c hc
    have hlower := h c.toLower (by
      rw [asciiLower, String.toList_map]
      exact List.mem_map_of_mem hc)
    by_contra hne
    rw [isBlank_toLower (by simpa using hne)] at hlower
    cases hlower
  rw [trim, trimChars_eq_self hblank, String.ofList_toList]

def Comparison.aliases : Comparison → List String
  | eq => ["=", "==", "eq"]
  | notEq => ["!=", "<>", "neq", "ne"]
  | lt => ["<", "lt"]
  | le => ["<=", "le"]
  | gt => [">", "gt"]
  | ge => [">=", "ge"]
  | among => ["in"]
  | contains => ["contains"]
  | containsFolded => ["icontains"]
  | lacksFolded => ["noticontains"]
  | matching => ["regex"]
  | missing => ["isnull"]
  | present => ["notnull"]

private theorem Comparison.ofWord_of_mem_aliases {c : Comparison}
    (h : Text.asciiLower word ∈ c.aliases) :
    ofWord word = .ok c := by
  have hall : c.aliases.all fun a => a.toList.all fun ch => !Text.isBlank ch := by
    cases c <;> decide +kernel
  have hblank : ∀ a ∈ c.aliases, ∀ ch ∈ a.toList, Text.isBlank ch = false := by
    simpa using hall
  have hfind : ∀ a ∈ c.aliases, (Comparison.words.find? fun entry => a ∈ entry.2).map Prod.fst =
      some c := by
    cases c <;> decide +kernel
  obtain ⟨entry, hentry, hc⟩ := Option.map_eq_some_iff.mp (hfind _ h)
  rw [ofWord, Text.trim_eq_self_of_lower (hblank _ h)]
  simp only [hentry, ← hc]

/-- No comparison is written by the word of a connective. -/
theorem Comparison.not_connective {c : Comparison} {a : String} (h : a ∈ c.aliases) :
    a ≠ "and" ∧ a ≠ "or" ∧ a ≠ "not" := by
  have hall : ∀ a ∈ c.aliases, a ≠ "and" ∧ a ≠ "or" ∧ a ≠ "not" := by
    cases c <;> decide +kernel
  exact hall a h

namespace Condition

/-! ### The shapes of a condition -/

/-- Fields that name an operator by one of some words, in any case, and have some other fields
besides, in any order. -/
def Names (words : List String) (rest fields : List (String × Json)) : Prop :=
  ∃ key ∈ ["op", "operator"], ∃ word, Text.asciiLower word ∈ words ∧
    fields.Perm ((key, .str word) :: rest)

/-- The fields of a clause besides its operator. A literal that is not needed may be left out. -/
inductive Parts (c : Clause) : List (String × Json) → Prop
  | given (key : String) (hkey : key ∈ ["value", "pattern"]) :
    Parts c [("column", .str c.column), (key, c.literal)]
  | omitted (hnull : c.literal = .null)
      (hcomparison : c.comparison = .missing ∨ c.comparison = .present) :
    Parts c [("column", .str c.column)]

/-- A node that a document may write for a condition. -/
inductive Written : Condition → Json → Prop
  | list {cs : List Condition} {nodes : List Json} (h : List.Forall₂ Written cs nodes) :
    Written (.all cs) (.arr nodes)
  | all {cs : List Condition} {nodes : List Json} {fields : List (String × Json)}
      (hfields : Names ["and"] [("args", .arr nodes)] fields) (h : List.Forall₂ Written cs nodes) :
    Written (.all cs) (.obj fields)
  | any {cs : List Condition} {nodes : List Json} {fields : List (String × Json)}
      (hfields : Names ["or"] [("args", .arr nodes)] fields) (h : List.Forall₂ Written cs nodes) :
    Written (.any cs) (.obj fields)
  | not {c : Condition} {node : Json} {fields : List (String × Json)}
      (hfields : Names ["not"] [("args", node)] fields) (hnode : node.isArray = false)
      (h : Written c node) : Written (.not c) (.obj fields)
  | notOfList {c : Condition} {node : Json} {fields : List (String × Json)}
      (hfields : Names ["not"] [("args", .arr [node])] fields) (h : Written c node) :
    Written (.not c) (.obj fields)
  | flat {c : Clause} {parts fields : List (String × Json)} (hparts : Parts c parts)
      (hfields : Names c.comparison.aliases parts fields) : Written (.clause c) (.obj fields)
  | nested {c : Clause} {parts inner fields : List (String × Json)} (hparts : Parts c parts)
      (hinner : inner.Perm parts)
      (hfields : Names c.comparison.aliases [("args", .obj inner)] fields) :
    Written (.clause c) (.obj fields)

/-- Where cells are looked for, there is a list to look in. -/
def ListsMembers (c : Condition) : Prop :=
  ∀ clause ∈ c.clauses, clause.comparison = .among → ∃ items, clause.literal = .arr items

variable {key : String} {words : List String} {fields rest parts : List (String × Json)}
  {nodes : List Json} {node : Json} {c : Condition} {clause : Clause}

theorem Names.read (h : Names words rest fields)
    (hrest : ("op" :: "operator" :: rest.map Prod.fst).Nodup) :
    ∃ word, Text.asciiLower word ∈ words ∧ field? "op" "operator" fields = some (.str word) ∧
      ∀ key, key ≠ "op" → key ≠ "operator" → Json.lookup key fields = Json.lookup key rest := by
  obtain ⟨key, hkey, word, hword, hfields⟩ := h
  obtain ⟨hop, hoperator, hnodup⟩ :
      "op" ∉ "operator" :: rest.map Prod.fst ∧ "operator" ∉ rest.map Prod.fst ∧
        (rest.map Prod.fst).Nodup := by
    simpa only [List.nodup_cons, and_assoc] using hrest
  have hlookup : ∀ other, Json.lookup other fields =
      Json.lookup other ((key, .str word) :: rest) := by
    refine Json.lookup_perm hfields (List.nodup_cons.mpr ⟨?_, hnodup⟩)
    rcases List.mem_pair.mp hkey with rfl | rfl
    · exact fun hmem => hop (List.mem_cons_of_mem _ hmem)
    · exact hoperator
  have hother : ∀ other, other ≠ key → Json.lookup other fields = Json.lookup other rest := by
    intro other hne
    rw [hlookup, Json.lookup, if_neg (Ne.symm hne)]
  refine ⟨word, hword, ?_, fun other hne hne' => hother other ?_⟩
  · have hfound : Json.lookup key fields = some (.str word) := by
      rw [hlookup, Json.lookup, if_pos rfl]
    rcases List.mem_pair.mp hkey with rfl | rfl
    · rw [field?, hfound]
      rfl
    · rw [field?, hother "op" (by decide), hfound,
        Json.lookup_eq_none fun hmem => hop (List.mem_cons_of_mem _ hmem)]
      rfl
  · rcases List.mem_pair.mp hkey with rfl | rfl
    · exact hne
    · exact hne'

private theorem Names.read_args {v : Json} (h : Names words [("args", v)] fields) :
    ∃ word, Text.asciiLower word ∈ words ∧ field? "op" "operator" fields = some (.str word) ∧
      Json.lookup "args" fields = some v := by
  obtain ⟨word, hword, hop, hrest⟩ := h.read (by simp)
  exact ⟨word, hword, hop, hrest "args" (by decide) (by decide)⟩

/-! ### What a node is read as -/

theorem ofNodes_eq_mapM (nodes : List Json) : ofNodes nodes = nodes.mapM ofJson := by
  induction nodes with
  | nil => rw [ofNodes, List.mapM_nil]; rfl
  | cons node nodes ih => rw [ofNodes, ih, List.mapM_cons]

theorem ofJson_arr (nodes : List Json) :
    ofJson (.arr nodes) = (nodes.mapM ofJson).map .all := by
  rw [ofJson, ofNodes_eq_mapM]
  rfl

private theorem ofJson_connective {make : List Condition → Condition}
    (hmake : Text.asciiLower word = "and" ∧ make = .all ∨ Text.asciiLower word = "or" ∧ make = .any)
    (hop : field? "op" "operator" fields = some (.str word))
    (hargs : Json.lookup "args" fields = some (.arr nodes)) :
    ofJson (.obj fields) = (nodes.mapM ofJson).map make := by
  rw [ofJson]
  rcases hmake with ⟨hword, rfl⟩ | ⟨hword, rfl⟩
  all_goals
    simp only [hop, hword]
    split
    · next nodes' h =>
      cases hargs.symm.trans h
      rw [ofNodes_eq_mapM]
      rfl
    · next h => exact absurd hargs (h _)

/-- What is negated stands under `args`, or alone in a list there. -/
def Negates (fields : List (String × Json)) (node : Json) : Prop :=
  Json.lookup "args" fields = some (.arr [node]) ∨
    Json.lookup "args" fields = some node ∧ node.isArray = false

private theorem ofJson_not (hop : field? "op" "operator" fields = some (.str word))
    (hword : Text.asciiLower word = "not") (hargs : Negates fields node) :
    ofJson (.obj fields) = (ofJson node).map .not := by
  rw [ofJson]
  simp only [hop, hword]
  split
  · next node' h =>
    rcases hargs with hargs | ⟨hargs, hnode⟩
    · cases hargs.symm.trans h
      rfl
    · cases hargs.symm.trans h
      cases hnode
  · next nodes hsingle h =>
    rcases hargs with hargs | ⟨hargs, hnode⟩
    · cases hargs.symm.trans h
      exact absurd rfl (hsingle node)
    · cases hargs.symm.trans h
      cases hnode
  · next node' hnot h =>
    rcases hargs with hargs | ⟨hargs, -⟩
    · cases hargs.symm.trans h
      exact absurd rfl (hnot _)
    · cases hargs.symm.trans h
      rfl
  · next h =>
    rcases hargs with hargs | ⟨hargs, -⟩
    · cases hargs.symm.trans h
    · cases hargs.symm.trans h

private theorem ofJson_clause (hop : field? "op" "operator" fields = some (.str word))
    (hword : Text.asciiLower word ≠ "and" ∧ Text.asciiLower word ≠ "or" ∧
      Text.asciiLower word ≠ "not") :
    ofJson (.obj fields) = (clauseOf word fields).map .clause := by
  rw [ofJson]
  simp only [hop]
  split
  · next h => exact absurd h hword.1
  · next h => exact absurd h hword.2.1
  · next h => exact absurd h hword.2.2
  · rfl

/-- What a node is read as is made of what is read of the nodes below it. -/
theorem ofJson_eq_ok (h : ofJson node = .ok c) :
    (∃ (nodes : List Json) (cs : List Condition), nodes.mapM ofJson = .ok cs ∧
      (c = .all cs ∨ c = .any cs)) ∨
    (∃ child d, ofJson child = .ok d ∧ c = .not d) ∨
    ∃ word fields clause, clauseOf word fields = .ok clause ∧ c = .clause clause := by
  cases node with
  | arr nodes =>
    rw [ofJson_arr, Outcome.map_eq_ok] at h
    obtain ⟨cs, hcs, rfl⟩ := h
    exact .inl ⟨nodes, cs, hcs, .inl rfl⟩
  | obj fields =>
    rw [ofJson] at h
    split at h
    · next word _ =>
      split at h
      · split at h
        · next nodes _ =>
          rw [ofNodes_eq_mapM, Outcome.bind_eq_ok] at h
          obtain ⟨cs, hcs, hc⟩ := h
          cases hc
          exact .inl ⟨nodes, cs, hcs, .inl rfl⟩
        · cases h
      · split at h
        · next nodes _ =>
          rw [ofNodes_eq_mapM, Outcome.bind_eq_ok] at h
          obtain ⟨cs, hcs, hc⟩ := h
          cases hc
          exact .inl ⟨nodes, cs, hcs, .inr rfl⟩
        · cases h
      · split at h
        · next child _ =>
          obtain ⟨d, hd, hc⟩ := Outcome.bind_eq_ok.mp h
          cases hc
          exact .inr (.inl ⟨child, d, hd, rfl⟩)
        · cases h
        · next child _ _ _ =>
          obtain ⟨d, hd, hc⟩ := Outcome.bind_eq_ok.mp h
          cases hc
          exact .inr (.inl ⟨child, d, hd, rfl⟩)
        · cases h
      · obtain ⟨clause, hclause, hc⟩ := Outcome.bind_eq_ok.mp h
        cases hc
        exact .inr (.inr ⟨word, fields, clause, hclause, rfl⟩)
    · cases h
  | null | bool | int | float | str =>
    rw [ofJson] at h
    · cases h
    all_goals simp

/-! ### Clauses -/

/-- A literal that is compared with as a list is one. -/
theorem literal_of_clauseOf (h : clauseOf word fields = .ok clause)
    (hamong : clause.comparison = .among) : ∃ items, clause.literal = .arr items := by
  simp only [clauseOf, Outcome.bind_eq_ok] at h
  obtain ⟨comparison, -, h⟩ := h
  have hread : ∀ {column : String} {literal : Json},
      (if comparison = .among ∧ (!literal.isArray) = true then .error (.valuesNotList column)
        else pure (Clause.mk column comparison literal) : Except ConditionFault Clause) =
          .ok clause → ∃ items, clause.literal = .arr items := by
    intro column literal hclause
    split at hclause
    · cases hclause
    · next hlist =>
      cases hclause
      cases literal <;> simp_all [Json.isArray]
  split at h
  · split at h
    · exact hread h
    · split at h
      · cases h
      · exact hread h
  · cases h

private theorem Parts.nodup (h : Parts clause parts) :
    ("op" :: "operator" :: parts.map Prod.fst).Nodup := by
  cases h with
  | given key hkey => rcases List.mem_pair.mp hkey with rfl | rfl <;> simp
  | omitted => simp

private theorem Parts.lookup_args (h : Parts clause parts) : Json.lookup "args" parts = none := by
  cases h with
  | given key hkey => rcases List.mem_pair.mp hkey with rfl | rfl <;> rfl
  | omitted => rfl

private theorem Parts.read (h : Parts clause parts) :
    field? "column" "lhs" parts = some (.str clause.column) ∧
      ((field? "value" "pattern" parts <|> Json.lookup "rhs" parts) = some clause.literal ∨
        (field? "value" "pattern" parts <|> Json.lookup "rhs" parts) = none ∧
          clause.literal = .null ∧ clause.comparison.takesValue = false) := by
  cases h with
  | given key hkey =>
    rcases List.mem_pair.mp hkey with rfl | rfl
    · exact ⟨rfl, .inl rfl⟩
    · exact ⟨rfl, .inl rfl⟩
  | omitted hnull hcomparison =>
    refine ⟨rfl, .inr ⟨rfl, hnull, ?_⟩⟩
    rcases hcomparison with h | h <;> rw [h] <;> rfl

/-- A clause is read of its parts, which stand under `args` or beside the operator. -/
theorem clauseOf_eq {body : List (String × Json)} (hparts : Parts clause parts)
    (hword : Text.asciiLower word ∈ clause.comparison.aliases)
    (hlists : clause.comparison = .among → ∃ items, clause.literal = .arr items)
    (hargs : Json.lookup "args" fields = some (.obj body) ∨
      Json.lookup "args" fields = none ∧ body = fields)
    (hbody : ∀ key, key ≠ "op" → key ≠ "operator" → Json.lookup key body = Json.lookup key parts) :
    clauseOf word fields = .ok clause := by
  obtain ⟨hcolumn, hliteral⟩ := hparts.read
  have hmember : ¬(clause.comparison = .among ∧ (!clause.literal.isArray) = true) := by
    rintro ⟨hamong, hnot⟩
    obtain ⟨items, hitems⟩ := hlists hamong
    rw [hitems] at hnot
    cases hnot
  have hcolumn' : field? "column" "lhs" body = some (.str clause.column) := by
    rw [← hcolumn, field?, field?, hbody _ (by decide) (by decide), hbody _ (by decide) (by decide)]
  have hliteral' : (field? "value" "pattern" body <|> Json.lookup "rhs" body) =
      (field? "value" "pattern" parts <|> Json.lookup "rhs" parts) := by
    rw [field?, field?, hbody _ (by decide) (by decide), hbody _ (by decide) (by decide),
      hbody _ (by decide) (by decide)]
  rw [← hliteral'] at hliteral
  rw [clauseOf, Comparison.ofWord_of_mem_aliases hword]
  obtain ⟨column, comparison, literal⟩ := clause
  rcases hargs with hargs | ⟨hargs, rfl⟩
  all_goals
    simp only [bind, Except.bind, hargs, hcolumn']
    rcases hliteral with hliteral | ⟨hliteral, rfl, htakes⟩
    · simp only [hliteral, if_neg hmember]
      rfl
    · simp only [hliteral, htakes, Bool.false_eq_true, if_false, if_neg hmember]
      rfl

/-! ### Reading what is written -/

variable {cs : List Condition}

theorem listsMembers_all : (all cs).ListsMembers ↔ ∀ c ∈ cs, c.ListsMembers := by
  simp only [ListsMembers, clauses, mem_clausesOf, forall_exists_index, and_imp]
  exact ⟨fun h c hc clause hclause => h clause c hc hclause,
    fun h clause c hc hclause => h c hc clause hclause⟩

theorem listsMembers_any : (any cs).ListsMembers ↔ ∀ c ∈ cs, c.ListsMembers :=
  listsMembers_all

theorem listsMembers_clause : (Condition.clause clause).ListsMembers ↔
    (clause.comparison = .among → ∃ items, clause.literal = .arr items) := by
  simp [ListsMembers, clauses]

theorem ofJson_of_written (hlists : c.ListsMembers) (h : Written c node) :
    ofJson node = .ok c := by
  induction c using inductionOn generalizing node with
  | all cs ih =>
    have hmembers : ∀ c ∈ cs, ∀ node, Written c node → ofJson node = .ok c :=
      fun c hc _ => ih c hc (listsMembers_all.mp hlists c hc)
    cases h with
    | list h =>
      rw [ofJson_arr, Outcome.mapM_of_forall₂ hmembers h]
      rfl
    | all hfields h =>
      obtain ⟨word, hword, hop, hargs⟩ := hfields.read_args
      rw [ofJson_connective (.inl ⟨List.mem_singleton.mp hword, rfl⟩) hop hargs,
        Outcome.mapM_of_forall₂ hmembers h]
      rfl
  | any cs ih =>
    have hmembers : ∀ c ∈ cs, ∀ node, Written c node → ofJson node = .ok c :=
      fun c hc _ => ih c hc (listsMembers_any.mp hlists c hc)
    cases h with
    | any hfields h =>
      obtain ⟨word, hword, hop, hargs⟩ := hfields.read_args
      rw [ofJson_connective (.inr ⟨List.mem_singleton.mp hword, rfl⟩) hop hargs,
        Outcome.mapM_of_forall₂ hmembers h]
      rfl
  | not c ih =>
    cases h with
    | not hfields hnode h =>
      obtain ⟨word, hword, hop, hargs⟩ := hfields.read_args
      rw [ofJson_not hop (List.mem_singleton.mp hword) (.inr ⟨hargs, hnode⟩), ih hlists h]
      rfl
    | notOfList hfields h =>
      obtain ⟨word, hword, hop, hargs⟩ := hfields.read_args
      rw [ofJson_not hop (List.mem_singleton.mp hword) (.inl hargs), ih hlists h]
      rfl
  | clause clause =>
    have hlists := listsMembers_clause.mp hlists
    cases h with
    | flat hparts hfields =>
      obtain ⟨word, hword, hop, hrest⟩ := hfields.read hparts.nodup
      have hargs := (hrest "args" (by decide) (by decide)).trans hparts.lookup_args
      rw [ofJson_clause hop (Comparison.not_connective hword),
        clauseOf_eq hparts hword hlists (.inr ⟨hargs, rfl⟩) hrest]
      rfl
    | nested hparts hinner hfields =>
      obtain ⟨word, hword, hop, hargs⟩ := hfields.read_args
      rw [ofJson_clause hop (Comparison.not_connective hword),
        clauseOf_eq hparts hword hlists (.inl hargs) fun key _ _ =>
          Json.lookup_perm hinner hparts.nodup.of_cons.of_cons key]
      rfl

private theorem listsMembers_of_ofJson (h : ofJson node = .ok c) : c.ListsMembers := by
  induction c using inductionOn generalizing node with
  | all cs ih =>
    rcases ofJson_eq_ok h with ⟨nodes, cs', hcs, hc | hc⟩ | ⟨_, _, -, hc⟩ | ⟨_, _, _, -, hc⟩
    · cases hc
      refine listsMembers_all.mpr fun c hc => ?_
      obtain ⟨child, -, hchild⟩ := Outcome.exists_of_mem_mapM hcs hc
      exact ih c hc hchild
    all_goals cases hc
  | any cs ih =>
    rcases ofJson_eq_ok h with ⟨nodes, cs', hcs, hc | hc⟩ | ⟨_, _, -, hc⟩ | ⟨_, _, _, -, hc⟩
    · cases hc
    · cases hc
      refine listsMembers_any.mpr fun c hc => ?_
      obtain ⟨child, -, hchild⟩ := Outcome.exists_of_mem_mapM hcs hc
      exact ih c hc hchild
    all_goals cases hc
  | not c ih =>
    rcases ofJson_eq_ok h with ⟨_, _, -, hc | hc⟩ | ⟨child, d, hd, hc⟩ | ⟨_, _, _, -, hc⟩
    case inr.inl =>
      cases hc
      exact ih hd
    all_goals cases hc
  | clause clause =>
    rcases ofJson_eq_ok h with ⟨_, _, -, hc | hc⟩ | ⟨_, _, -, hc⟩ | ⟨_, _, _, hclause, hc⟩
    case inr.inr =>
      cases hc
      exact listsMembers_clause.mpr (literal_of_clauseOf hclause)
    all_goals cases hc

theorem names_op (hword : Text.asciiLower word ∈ words) (rest : List (String × Json)) :
    Names words rest (("op", .str word) :: rest) :=
  ⟨"op", by decide, word, hword, .refl _⟩

private theorem exists_written (c : Condition) : ∃ node, Written c node := by
  induction c using inductionOn with
  | all cs ih =>
    obtain ⟨nodes, hnodes⟩ := Outcome.exists_forall₂ ih
    exact ⟨.arr nodes, .list hnodes⟩
  | any cs ih =>
    obtain ⟨nodes, hnodes⟩ := Outcome.exists_forall₂ ih
    have hword : Text.asciiLower "or" ∈ ["or"] := by decide +kernel
    exact ⟨_, .any (names_op hword _) hnodes⟩
  | not c ih =>
    obtain ⟨node, hnode⟩ := ih
    have hword : Text.asciiLower "not" ∈ ["not"] := by decide +kernel
    exact ⟨_, .notOfList (names_op hword _) hnode⟩
  | clause clause =>
    obtain ⟨word, -, hword⟩ : ∃ word ∈ clause.comparison.aliases,
        Text.asciiLower word ∈ clause.comparison.aliases := by
      cases clause.comparison <;> decide +kernel
    exact ⟨_, .flat (.given "value" (by decide)) (names_op hword _)⟩

/-- Whatever shapes a condition is written in, it is read back, provided that cells are looked for
in lists only. That is so in all conditions that are read, and a cell is then looked for among the
items of its list. -/
theorem reads_written [Library] (c : Condition) :
    (∃ node, Written c node) ∧
    (c.ListsMembers → ∀ node, Written c node → ofJson node = .ok c) ∧
    ∀ node, ofJson node = .ok c → ∀ clause ∈ c.clauses, clause.comparison = .among →
      ∃ items, clause.literal = .arr items ∧
        ∀ x, clause.holds x = (items.map Cell.ofJson).any x.looseEq := by
  refine ⟨exists_written c, fun hlists node => ofJson_of_written hlists,
    fun node h clause hclause hamong => ?_⟩
  obtain ⟨items, hitems⟩ := listsMembers_of_ofJson h clause hclause hamong
  refine ⟨items, hitems, fun x => ?_⟩
  simp only [Clause.holds, Clause.test?, hamong, hitems]
  rfl

/-- Members of two small parties or without a speech that mentions a bar. -/
def quietOrSmall : Condition :=
  .all [.any [.clause ⟨"party", .among, .arr [.str "LD", .str "PC"]⟩,
    .not (.all [.clause ⟨"text", .containsFolded, .str "BAR"⟩])],
    .clause ⟨"words", .present, .null⟩]

/-- The same with shapes mixed, fields in any order and words in odd cases. -/
def quietOrSmallNode : Json :=
  .arr [.obj [("args", .arr [
      .obj [("value", .arr [.str "LD", .str "PC"]), ("operator", .str "IN"),
        ("column", .str "party")],
      .obj [("op", .str "Not"), ("args", .arr [.arr [
        .obj [("op", .str "iContains"),
          ("args", .obj [("pattern", .str "BAR"), ("column", .str "text")])]]])]]),
      ("operator", .str "OR")],
    .obj [("op", .str "NotNull"), ("column", .str "words")]]

private theorem written_quietOrSmallNode : Written quietOrSmall quietOrSmallNode := by
  have hin : Text.asciiLower "IN" ∈ Comparison.aliases .among := by decide +kernel
  have hnot : Text.asciiLower "Not" ∈ ["not"] := by decide +kernel
  have hcontains : Text.asciiLower "iContains" ∈ Comparison.aliases .containsFolded := by
    decide +kernel
  have hor : Text.asciiLower "OR" ∈ ["or"] := by decide +kernel
  have hpresent : Text.asciiLower "NotNull" ∈ Comparison.aliases .present := by decide +kernel
  have hparty : Written (.clause ⟨"party", .among, .arr [.str "LD", .str "PC"]⟩)
      (.obj [("value", .arr [.str "LD", .str "PC"]), ("operator", .str "IN"),
        ("column", .str "party")]) :=
    .flat (.given "value" (by decide))
      ⟨"operator", by decide, "IN", hin, (List.Perm.swap _ _ _).trans (.cons _ (.swap _ _ _))⟩
  have htext : Written (.clause ⟨"text", .containsFolded, .str "BAR"⟩)
      (.obj [("op", .str "iContains"),
        ("args", .obj [("pattern", .str "BAR"), ("column", .str "text")])]) :=
    .nested (.given "pattern" (by decide)) (.swap _ _ _) (names_op hcontains _)
  have hwords : Written (.clause ⟨"words", .present, .null⟩)
      (.obj [("op", .str "NotNull"), ("column", .str "words")]) :=
    .flat (.omitted rfl (.inr rfl)) (names_op hpresent _)
  exact .list (.cons (.any ⟨"operator", by decide, "OR", hor, .swap _ _ _⟩
    (.cons hparty (.cons (.notOfList (names_op hnot _) (.list (.cons htext .nil))) .nil)))
    (.cons hwords .nil))

theorem reads_written_sample :
    ofJson quietOrSmallNode = .ok quietOrSmall ∧
      ∀ x, (Clause.mk "party" .among (.arr [.str "LD", .str "PC"])).holds x =
        [Cell.text "LD", Cell.text "PC"].any x.looseEq := by
  obtain ⟨-, hread, hlists⟩ := reads_written quietOrSmall
  have hmembers : quietOrSmall.ListsMembers := by
    intro clause hclause hamong
    obtain rfl | rfl | rfl : clause = ⟨"party", .among, .arr [.str "LD", .str "PC"]⟩ ∨
        clause = ⟨"text", .containsFolded, .str "BAR"⟩ ∨ clause = ⟨"words", .present, .null⟩ := by
      simpa [quietOrSmall, clauses, clausesOf] using hclause
    · exact ⟨_, rfl⟩
    · cases hamong
    · cases hamong
  have h := hread hmembers quietOrSmallNode written_quietOrSmallNode
  obtain ⟨items, hitems, hholds⟩ := hlists quietOrSmallNode h
    ⟨"party", .among, .arr [.str "LD", .str "PC"]⟩ List.mem_cons_self rfl
  cases hitems
  exact ⟨h, hholds⟩

end Condition
end RollCall
