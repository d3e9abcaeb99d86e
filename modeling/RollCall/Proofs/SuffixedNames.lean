import Mathlib.Data.Nat.Basic
import Mathlib.Order.Basic
import RollCall.Proofs.RuledJoins

/-!
# Suffixed names

A name that both tables of a join have is followed by `_x` on the left and by `_y` on the right,
unless it is that of a key. This keeps the names of the result apart unless a column that keeps its
name bears a suffixed one already, be it an input's own or one of an earlier step; then the join
fails with that name. If no input has such a column, the join fails exactly when four tables have a
name that is no key: the third of them finds both suffixed names in the result and brings back the
plain one, for which the fourth needs the suffixed names again.
-/
namespace RollCall.Join

/-! ### The names of one join -/

def IsSuffixed (other name : String) : Prop :=
  other = name ++ "_x" ∨ other = name ++ "_y"

/-- Both tables have the name, and it is not that of a key. -/
def IsShared (on left right : List String) (name : String) : Prop :=
  name ∈ left ∧ name ∈ right ∧ name ∉ on

def commonNames (on left right : List String) : List String :=
  left.filter fun name => name ∉ on && name ∈ right

def joinedNames (on left right : List String) : List String :=
  left.map (rename (commonNames on left right) "_x") ++
    (right.filter fun name => name ∉ on).map (rename (commonNames on left right) "_y")

/-- No name that is kept is a shared one with a suffix. -/
def KeepsApart (on left right : List String) : Prop :=
  ∀ name, IsShared on left right name → ∀ other, other ∈ left ∨ other ∈ right →
    ¬IsShared on left right other → ¬IsSuffixed other name

variable {on left right names : List String} {name other suffix suffix' : String}

theorem IsSuffixed.inj {name' : String} (h : IsSuffixed other name) (h' : IsSuffixed other name') :
    name = name' := by
  have hlast : ∀ a b : String, a ++ "_x" ≠ b ++ "_y" := by
    intro a b heq
    have hend := congrArg (fun s => s.toList.getLast?) heq
    simp [String.toList_append] at hend
  rcases h with rfl | rfl <;> rcases h' with heq | heq
  · exact (String.append_left_inj _).mp heq
  · exact absurd heq (hlast _ _)
  · exact absurd heq.symm (hlast _ _)
  · exact (String.append_left_inj _).mp heq

theorem IsSuffixed.exists_iff (h : IsSuffixed other name) (p : String → Prop) :
    (∃ name, IsSuffixed other name ∧ p name) ↔ p name := by
  refine ⟨?_, fun hname => ⟨name, h, hname⟩⟩
  rintro ⟨name', h', hname'⟩
  rwa [h.inj h']

theorem mem_commonNames : name ∈ commonNames on left right ↔ IsShared on left right name := by
  simp [commonNames, IsShared, and_comm]

theorem mem_others :
    name ∈ (right.filter fun name => name ∉ on) ↔ name ∈ right ∧ name ∉ on := by
  simp

theorem rename_of_shared (h : IsShared on left right name) :
    rename (commonNames on left right) suffix name = name ++ suffix :=
  if_pos (mem_commonNames.mpr h)

theorem rename_of_kept (h : ¬IsShared on left right name) :
    rename (commonNames on left right) suffix name = name :=
  if_neg (mt mem_commonNames.mp h)

theorem map_name_rules (left right : Table) (on : List String) :
    (rules left right on ("_x", "_y")).map ColumnRule.name =
      joinedNames on left.names right.names := by
  have hshared : commonNames on left.names right.names = sharedNames left right on := by
    refine List.filter_congr fun name _ => ?_
    rw [Table.hasColumn]
    congr 1
    exact Bool.eq_iff_iff.mpr (by simpa using Table.column?_isSome_iff.symm)
  rw [joinedNames, hshared]
  simp only [rules, List.map_append, List.map_map, Table.names, List.filter_map]
  rfl

theorem mem_joinedNames (hkeys : ∀ key ∈ on, key ∈ left) :
    other ∈ joinedNames on left right ↔
      (other ∈ left ∨ other ∈ right) ∧ ¬IsShared on left right other ∨
        ∃ name, IsSuffixed other name ∧ IsShared on left right name := by
  have hof : ∀ {suffix}, (∀ name, IsSuffixed (name ++ suffix) name) → ∀ name,
      name ∈ left ∨ name ∈ right → let other := rename (commonNames on left right) suffix name
      (other ∈ left ∨ other ∈ right) ∧ ¬IsShared on left right other ∨
        ∃ name, IsSuffixed other name ∧ IsShared on left right name := by
    intro suffix hsuffix name hname
    by_cases hshared : IsShared on left right name
    · rw [rename_of_shared hshared]
      exact .inr ⟨name, hsuffix name, hshared⟩
    · rw [rename_of_kept hshared]
      exact .inl ⟨hname, hshared⟩
  rw [joinedNames, List.mem_append, List.mem_map, List.mem_map]
  constructor
  · rintro (⟨name, hname, rfl⟩ | ⟨name, hname, rfl⟩)
    · exact hof (fun _ => .inl rfl) name (.inl hname)
    · exact hof (fun _ => .inr rfl) name (.inr (mem_others.mp hname).1)
  · rintro (⟨hmem, hkept⟩ | ⟨name, hsuffixed, hshared⟩)
    · by_cases hleft : other ∈ left
      · exact .inl ⟨other, hleft, rename_of_kept hkept⟩
      · have hnot : other ∉ on := mt (hkeys other) hleft
        have hright := mem_others.mpr ⟨hmem.resolve_left hleft, hnot⟩
        exact .inr ⟨other, hright, rename_of_kept hkept⟩
    · rcases hsuffixed with rfl | rfl
      · exact .inl ⟨name, hshared.1, rename_of_shared hshared⟩
      · exact .inr ⟨name, mem_others.mpr hshared.2, rename_of_shared hshared⟩

/-- Names kept apart are renamed alike only if they are equal. -/
theorem KeepsApart.eq_of_rename (h : KeepsApart on left right)
    (hsuffix : ∀ name, IsSuffixed (name ++ suffix) name)
    (hsuffix' : ∀ name, IsSuffixed (name ++ suffix') name) (hname : name ∈ left ∨ name ∈ right)
    (hother : other ∈ left ∨ other ∈ right)
    (heq : rename (commonNames on left right) suffix name =
      rename (commonNames on left right) suffix' other) : name = other := by
  by_cases hshared : IsShared on left right name <;>
    by_cases hshared' : IsShared on left right other
  · rw [rename_of_shared hshared, rename_of_shared hshared'] at heq
    exact (hsuffix name).inj (heq ▸ hsuffix' other)
  · rw [rename_of_shared hshared, rename_of_kept hshared'] at heq
    exact absurd (heq ▸ hsuffix name) (h name hshared other hother hshared')
  · rw [rename_of_kept hshared, rename_of_shared hshared'] at heq
    exact absurd (heq ▸ hsuffix' other) (h other hshared' name hname hshared)
  · rwa [rename_of_kept hshared, rename_of_kept hshared'] at heq

private theorem nodup_joinedNames (h : KeepsApart on left right) (hleft : left.Nodup)
    (hright : right.Nodup) : (joinedNames on left right).Nodup := by
  refine List.nodup_append.mpr ⟨?_, ?_, ?_⟩
  · refine (List.nodup_map_iff_inj_on hleft).mpr fun name hname other hother => ?_
    exact h.eq_of_rename (fun _ => .inl rfl) (fun _ => .inl rfl) (.inl hname) (.inl hother)
  · refine (List.nodup_map_iff_inj_on (hright.filter _)).mpr fun name hname other hother => ?_
    exact h.eq_of_rename (fun _ => .inr rfl) (fun _ => .inr rfl)
      (.inr (mem_others.mp hname).1) (.inr (mem_others.mp hother).1)
  · intro a ha b hb heq
    obtain ⟨name, hname, rfl⟩ := List.mem_map.mp ha
    obtain ⟨other, hother, rfl⟩ := List.mem_map.mp hb
    obtain ⟨hother, hnot⟩ := mem_others.mp hother
    obtain rfl := h.eq_of_rename (fun _ => .inl rfl) (fun _ => .inr rfl) (.inl hname)
      (.inr hother) heq
    -- The name is shared, so the two sides give it different suffixes.
    have hshared : IsShared on left right name := ⟨hname, hother, hnot⟩
    rw [rename_of_shared hshared, rename_of_shared hshared, String.append_right_inj] at heq
    exact absurd heq (by decide)

private theorem keepsApart_of_nodup (hkeys : ∀ key ∈ on, key ∈ left)
    (h : (joinedNames on left right).Nodup) : KeepsApart on left right := by
  intro name hshared other hmem hkept hsuffixed
  obtain ⟨hleft, hright, hdisjoint⟩ := List.nodup_append.mp h
  have hne : name ≠ other := by
    rintro rfl
    exact hkept hshared
  have hname := mem_others.mpr hshared.2
  by_cases hother : other ∈ left
  · rcases hsuffixed with heq | heq
    · refine hne (List.inj_on_of_nodup_map hleft hshared.1 hother ?_)
      rw [rename_of_shared hshared, rename_of_kept hkept, heq]
    · refine hdisjoint _ (List.mem_map_of_mem hother) _ (List.mem_map_of_mem hname) ?_
      rw [rename_of_shared hshared, rename_of_kept hkept, heq]
  · have hnot : other ∉ on := mt (hkeys other) hother
    have hother := mem_others.mpr ⟨hmem.resolve_left hother, hnot⟩
    rcases hsuffixed with heq | heq
    · refine hdisjoint _ (List.mem_map_of_mem hshared.1) _ (List.mem_map_of_mem hother) ?_
      rw [rename_of_shared hshared, rename_of_kept hkept, heq]
    · refine hne (List.inj_on_of_nodup_map hright hname hother ?_)
      rw [rename_of_shared hshared, rename_of_kept hkept, heq]

/-- Only the name itself is renamed to a name that is no suffixed one. -/
theorem eq_of_rename_eq (hsuffix : ∀ name, IsSuffixed (name ++ suffix) name)
    (hnone : ¬∃ name, IsSuffixed other name ∧ IsShared on left right name)
    (h : rename (commonNames on left right) suffix name = other) :
    name = other ∧ ¬IsShared on left right name := by
  by_cases hshared : IsShared on left right name
  · rw [rename_of_shared hshared] at h
    exact absurd ⟨name, h ▸ hsuffix name, hshared⟩ hnone
  · exact ⟨(rename_of_kept hshared).symm.trans h, hshared⟩

private theorem count_map_rename_le_one (hsuffix : ∀ name, IsSuffixed (name ++ suffix) name)
    (hnone : ¬∃ name, IsSuffixed other name ∧ IsShared on left right name)
    (hnames : names.Nodup) :
    (names.map (rename (commonNames on left right) suffix)).count other ≤ 1 := by
  calc (names.map (rename (commonNames on left right) suffix)).count other
      = names.countP fun name => rename (commonNames on left right) suffix name == other := by
        rw [List.count_eq_countP, List.countP_map]
        rfl
    _ ≤ names.countP (· == other) := by
        refine List.countP_mono_left fun name _ hname => ?_
        exact beq_iff_eq.mpr (eq_of_rename_eq hsuffix hnone (beq_iff_eq.mp hname)).1
    _ ≤ 1 := List.nodup_iff_count_le_one.mp hnames other

/-- A name that occurs twice is a suffixed one. -/
theorem isSuffixed_of_two_le_count (hleft : left.Nodup) (hright : right.Nodup)
    (h : 2 ≤ (joinedNames on left right).count other) :
    ∃ name, IsSuffixed other name ∧ IsShared on left right name := by
  by_contra hnone
  have hx := count_map_rename_le_one (fun _ => .inl rfl) hnone hleft
  have hy := count_map_rename_le_one (fun _ => .inr rfl) hnone
    (hright.filter fun name => name ∉ on)
  rw [joinedNames, List.count_append] at h
  obtain ⟨hposx, hposy⟩ : 0 < (left.map (rename (commonNames on left right) "_x")).count other ∧
      0 < ((right.filter fun name => name ∉ on).map
        (rename (commonNames on left right) "_y")).count other := by
    omega
  -- It occurs once on either side, and so it would be a shared name that is kept.
  obtain ⟨name, hname, heq⟩ := List.mem_map.mp (List.count_pos_iff.mp hposx)
  obtain ⟨name', hname', heq'⟩ := List.mem_map.mp (List.count_pos_iff.mp hposy)
  obtain ⟨rfl, hkept⟩ := eq_of_rename_eq (fun _ => .inl rfl) hnone heq
  obtain ⟨rfl, -⟩ := eq_of_rename_eq (fun _ => .inr rfl) hnone heq'
  exact hkept ⟨hname, mem_others.mp hname'⟩

/-! ### Joins of tables -/

/-- The keys of a join are columns of the table. -/
def HasKeys (on : List String) (t : Table) : Prop :=
  ∀ key ∈ on, key ∈ t.names

variable {l r t : Table} {inputs : List Table}

theorem joinPair_of_keepsApart (kind : JoinKind) (hl : l.WellFormed) (hr : r.WellFormed)
    (hlkeys : HasKeys on l) (hrkeys : HasKeys on r) (h : KeepsApart on l.names r.names) :
    ∃ t, joinPair l r on kind ("_x", "_y") = .ok t ∧ t.WellFormed ∧
      t.names = joinedNames on l.names r.names := by
  have hnodup : ((rules l r on ("_x", "_y")).map ColumnRule.name).Nodup := by
    rw [map_name_rules]
    exact nodup_joinedNames h hl.nodup hr.nodup
  refine ⟨_, (joinPair_eq_ok_iff hl hr).mpr ⟨fun key hkey => ⟨hlkeys key hkey, hrkeys key hkey⟩,
    hnodup, rfl⟩, Table.tabulate_wellFormed hnodup _, ?_⟩
  rw [Table.names_tabulate, map_name_rules]

/-- A join fails for its names only, for a suffixed one. -/
theorem joinPair_of_not_keepsApart (kind : JoinKind) (hl : l.WellFormed) (hr : r.WellFormed)
    (hlkeys : HasKeys on l) (hrkeys : HasKeys on r) (h : ¬KeepsApart on l.names r.names) :
    ∃ other name, joinPair l r on kind ("_x", "_y") = .error (.table (.duplicate other)) ∧
      IsSuffixed other name ∧ IsShared on l.names r.names name := by
  obtain ⟨leftColumns, hleft⟩ := exists_keyColumns .left hlkeys
  obtain ⟨rightColumns, hright⟩ := exists_keyColumns .right hrkeys
  have hjoin : joinPair l r on kind ("_x", "_y") =
      (Table.ofColumns (joinedColumns l r on ("_x", "_y")
        (rowPairs kind (matchKeys l.rowCount leftColumns)
          (matchKeys r.rowCount rightColumns)))).mapError .table := by
    rw [joinPair, hleft, hright]
    simp only [bind, Except.bind]
    split <;> simp_all [Except.mapError, pure, Except.pure]
  cases htable : joinPair l r on kind ("_x", "_y") with
  | ok t =>
    obtain ⟨-, hnodup, -⟩ := (joinPair_eq_ok_iff hl hr).mp htable
    rw [map_name_rules] at hnodup
    exact absurd (keepsApart_of_nodup hlkeys hnodup) h
  | error e =>
    rw [hjoin, Outcome.mapError_eq_error] at htable
    obtain ⟨fault, hfault, rfl⟩ := htable
    obtain ⟨other, rfl, hcount⟩ :=
      Table.ofColumns_eq_error (fun c hc => length_of_mem_joinedColumns hc) hfault
    have hnames : (joinedColumns l r on ("_x", "_y") (rowPairs kind
        (matchKeys l.rowCount leftColumns) (matchKeys r.rowCount rightColumns))).map Column.name =
          joinedNames on l.names r.names := by
      rw [joinedColumns_eq_rules hl hr, List.map_map, ← map_name_rules]
      rfl
    rw [hnames] at hcount
    obtain ⟨name, hsuffixed, hshared⟩ := isSuffixed_of_two_le_count hl.nodup hr.nodup hcount
    exact ⟨other, name, rfl, hsuffixed, hshared⟩

/-- Every step of a join of many tables keeps its names apart. -/
def Resolves (on : List String) : List String → List (List String) → Prop
  | _, [] => True
  | names, other :: rest =>
    KeepsApart on names other ∧ Resolves on (joinedNames on names other) rest

private theorem key_mem_joinedNames (hkeys : ∀ key ∈ on, key ∈ left) :
    ∀ key ∈ on, key ∈ joinedNames on left right :=
  fun key hkey => (mem_joinedNames hkeys).mpr
    (.inl ⟨.inl (hkeys key hkey), fun hshared => hshared.2.2 hkey⟩)

theorem HasKeys.joined (hkeys : HasKeys on l) (h : t.names = joinedNames on l.names r.names) :
    HasKeys on t := by
  rw [HasKeys, h]
  exact key_mem_joinedNames hkeys

private theorem foldlM_of_resolves (kind : JoinKind) (ht : t.WellFormed) (hkeys : HasKeys on t)
    (hinputs : ∀ u ∈ inputs, u.WellFormed ∧ HasKeys on u)
    (h : Resolves on t.names (inputs.map Table.names)) :
    ∃ u, inputs.foldlM (fun merged u => joinPair merged u on kind ("_x", "_y")) t = .ok u ∧
      u.WellFormed ∧ u.names = (inputs.map Table.names).foldl (joinedNames on) t.names := by
  induction inputs generalizing t with
  | nil => exact ⟨t, rfl, ht, rfl⟩
  | cons next inputs ih =>
    obtain ⟨⟨hnext, hnextKeys⟩, hinputs⟩ := List.forall_mem_cons.mp hinputs
    obtain ⟨hapart, hrest⟩ := h
    obtain ⟨u, hu, huwell, hunames⟩ :=
      joinPair_of_keepsApart kind ht hnext hkeys hnextKeys hapart
    have hukeys : HasKeys on u := hkeys.joined hunames
    rw [← hunames] at hrest
    obtain ⟨v, hv, hvwell, hvnames⟩ := ih huwell hukeys hinputs hrest
    refine ⟨v, ?_, hvwell, ?_⟩
    · rw [List.foldlM_cons, hu]
      exact hv
    · rw [hvnames, hunames]
      rfl

private theorem foldlM_of_not_resolves (kind : JoinKind) (ht : t.WellFormed) (hkeys : HasKeys on t)
    (hinputs : ∀ u ∈ inputs, u.WellFormed ∧ HasKeys on u)
    (h : ¬Resolves on t.names (inputs.map Table.names)) :
    ∃ other name,
      inputs.foldlM (fun merged u => joinPair merged u on kind ("_x", "_y")) t =
        .error (.table (.duplicate other)) ∧
      IsSuffixed other name ∧ name ∉ on ∧ ∃ u ∈ inputs, name ∈ u.names := by
  induction inputs generalizing t with
  | nil => exact absurd trivial h
  | cons next inputs ih =>
    obtain ⟨⟨hnext, hnextKeys⟩, hinputs⟩ := List.forall_mem_cons.mp hinputs
    by_cases hapart : KeepsApart on t.names next.names
    · obtain ⟨u, hu, huwell, hunames⟩ :=
        joinPair_of_keepsApart kind ht hnext hkeys hnextKeys hapart
      have hukeys : HasKeys on u := hkeys.joined hunames
      have hrest : ¬Resolves on u.names (inputs.map Table.names) :=
        fun hrest => h ⟨hapart, hunames ▸ hrest⟩
      obtain ⟨other, name, herror, hsuffixed, hname, v, hv, hmem⟩ :=
        ih huwell hukeys hinputs hrest
      refine ⟨other, name, ?_, hsuffixed, hname, v, List.mem_cons_of_mem _ hv, hmem⟩
      rw [List.foldlM_cons, hu]
      exact herror
    · obtain ⟨other, name, herror, hsuffixed, hshared⟩ :=
        joinPair_of_not_keepsApart kind ht hnext hkeys hnextKeys hapart
      refine ⟨other, name, ?_, hsuffixed, hshared.2.2, next, List.mem_cons_self, hshared.2.1⟩
      rw [List.foldlM_cons, herror]
      rfl

/-! ### Tables without suffixed names -/

def occurrences (name : String) (tables : List (List String)) : Nat :=
  tables.countP fun names => name ∈ names

/-- No table has a name, not that of a key, with a suffix. -/
def LacksSuffixes (on : List String) (tables : List (List String)) : Prop :=
  ∀ names ∈ tables, ∀ name ∈ names, name ∉ on →
    ∀ others ∈ tables, ∀ other ∈ others, ¬IsSuffixed other name

variable {tables seen rest : List (List String)} {next : List String}

theorem occurrences_append_singleton (name : String) (seen : List (List String))
    (next : List String) :
    occurrences name (seen ++ [next]) = occurrences name seen + if name ∈ next then 1 else 0 := by
  simp [occurrences, List.countP_append, List.countP_singleton]

private theorem occurrences_singleton (name : String) (names : List String) :
    occurrences name [names] = if name ∈ names then 1 else 0 := by
  simp [occurrences, List.countP_singleton]

theorem occurrences_pos_iff : 0 < occurrences name seen ↔ ∃ names ∈ seen, name ∈ names := by
  simp [occurrences, List.countP_pos_iff]

theorem occurrences_pos_of_mem (seen : List (List String)) (h : name ∈ next) :
    0 < occurrences name (seen ++ [next]) :=
  occurrences_pos_iff.mpr ⟨next, by simp, h⟩

theorem occurrences_le_append (name : String) (seen rest : List (List String)) :
    occurrences name seen ≤ occurrences name (seen ++ rest) := by
  rw [occurrences, occurrences, List.countP_append]
  exact Nat.le_add_right _ _

/-- The names of a join of some of the tables: the keys, names of one of the tables or of three, and
the suffixed ones of those of two or more. -/
structure Tracks (on : List String) (tables seen : List (List String)) (names : List String) :
    Prop where
  lacksSuffixes : LacksSuffixes on tables
  keys : ∀ table ∈ tables, ∀ key ∈ on, key ∈ table
  subset : seen ⊆ tables
  mem_iff : ∀ other, other ∈ names ↔ other ∈ on ∨
    other ∉ on ∧ (occurrences other seen = 1 ∨ occurrences other seen = 3) ∨
    ∃ name, IsSuffixed other name ∧ name ∉ on ∧ 2 ≤ occurrences name seen
  le_three : ∀ name, name ∉ on → occurrences name seen ≤ 3

private theorem tracks_singleton (hlacks : LacksSuffixes on tables)
    (hkeys : ∀ table ∈ tables, ∀ key ∈ on, key ∈ table) (hnames : names ∈ tables) :
    Tracks on tables [names] names where
  lacksSuffixes := hlacks
  keys := hkeys
  subset := List.cons_subset.mpr ⟨hnames, List.nil_subset _⟩
  mem_iff other := by
    have htwo : ∀ name, ¬2 ≤ occurrences name [names] := by
      intro name
      rw [occurrences_singleton]
      split <;> omega
    have hone : occurrences other [names] = 1 ∨ occurrences other [names] = 3 ↔ other ∈ names := by
      rw [occurrences_singleton]
      split <;> simp_all
    simp only [htwo, hone, and_false, exists_false, or_false]
    have hkey := hkeys names hnames other
    tauto
  le_three name _ := by
    rw [occurrences_singleton]
    split <;> omega

namespace Tracks

/-- A suffixed name is none of the tables' own, and one of those of the join exactly when two tables
have the plain one. -/
theorem of_isSuffixed (h : Tracks on tables seen names) (hnext : next ∈ tables)
    (hname : 0 < occurrences name (seen ++ [next])) (hnot : name ∉ on)
    (hsuffixed : IsSuffixed other name) :
    other ∉ next ∧ other ∉ on ∧ occurrences other seen = 0 ∧
      (other ∈ names ↔ 2 ≤ occurrences name seen) := by
  obtain ⟨table, htable, hmem⟩ := occurrences_pos_iff.mp hname
  have htable : table ∈ tables := by
    rcases List.mem_append.mp htable with htable | htable
    · exact h.subset htable
    · exact List.mem_singleton.mp htable ▸ hnext
  have habsent : ∀ table ∈ tables, other ∉ table := fun table' htable' hother =>
    h.lacksSuffixes table htable name hmem hnot table' htable' other hother hsuffixed
  have hkey : other ∉ on := fun hkey => habsent next hnext (h.keys next hnext other hkey)
  have hzero : occurrences other seen = 0 := by
    by_contra hne
    obtain ⟨table', htable', hother⟩ := occurrences_pos_iff.mp (Nat.pos_of_ne_zero hne)
    exact habsent table' (h.subset htable') hother
  refine ⟨habsent next hnext, hkey, hzero, ?_⟩
  rw [h.mem_iff, hsuffixed.exists_iff, hzero]
  simp [hkey, hnot]

theorem isShared_iff (h : Tracks on tables seen names) (hnext : next ∈ tables) :
    IsShared on names next name ↔
      name ∉ on ∧ name ∈ next ∧ (occurrences name seen = 1 ∨ occurrences name seen = 3) := by
  constructor
  · rintro ⟨hmem, hmem', hnot⟩
    refine ⟨hnot, hmem', ?_⟩
    rcases (h.mem_iff name).mp hmem with hkey | ⟨-, hcount⟩ | ⟨other, hsuffixed, hother, hcount⟩
    · exact absurd hkey hnot
    · exact hcount
    · have hpos : 0 < occurrences other (seen ++ [next]) :=
        (by omega : 0 < occurrences other seen).trans_le (occurrences_le_append _ _ _)
      exact absurd hmem' (h.of_isSuffixed hnext hpos hother hsuffixed).1
  · rintro ⟨hnot, hmem, hcount⟩
    exact ⟨(h.mem_iff name).mpr (.inr (.inl ⟨hnot, hcount⟩)), hmem, hnot⟩

/-- Another table is joined without a clash unless it has a name of three tables before it. -/
theorem keepsApart_iff (h : Tracks on tables seen names) (hnext : next ∈ tables) :
    KeepsApart on names next ↔
      ∀ name, name ∉ on → occurrences name (seen ++ [next]) ≤ 3 := by
  constructor
  · intro hapart name hnot
    have hcount := h.le_three name hnot
    rw [occurrences_append_singleton]
    split
    · next hmem =>
      by_contra hmany
      have hpos := occurrences_pos_of_mem seen hmem
      have hsuffixed : IsSuffixed (name ++ "_x") name := .inl rfl
      obtain ⟨hnotNext, -, -, hiff⟩ := h.of_isSuffixed hnext hpos hnot hsuffixed
      have hshared : IsShared on names next name :=
        (h.isShared_iff hnext).mpr ⟨hnot, hmem, .inr (by omega)⟩
      exact hapart name hshared _ (.inl (hiff.mpr (by omega)))
        (fun hshared => hnotNext hshared.2.1) hsuffixed
    · exact hcount
  · intro hcounts name hname other hmem _ hsuffixed
    obtain ⟨hnot, hmemNext, hcount⟩ := (h.isShared_iff hnext).mp hname
    have hmany := hcounts name hnot
    have hpos := occurrences_pos_of_mem seen hmemNext
    rw [occurrences_append_singleton, if_pos hmemNext] at hmany
    obtain ⟨hnotNext, -, -, hiff⟩ := h.of_isSuffixed hnext hpos hnot hsuffixed
    have htwo := hiff.mp (hmem.resolve_right hnotNext)
    omega

theorem keys_subset (h : Tracks on tables seen names) : ∀ key ∈ on, key ∈ names :=
  fun key hkey => (h.mem_iff key).mpr (.inl hkey)

private theorem suffixed_mem_joinedNames (h : Tracks on tables seen names) (hnext : next ∈ tables)
    (hapart : KeepsApart on names next) (hname : 0 < occurrences name (seen ++ [next]))
    (hnot : name ∉ on) (hsuffixed : IsSuffixed other name) :
    other ∈ joinedNames on names next ↔ 2 ≤ occurrences name (seen ++ [next]) := by
  obtain ⟨hnotNext, -, -, hiff⟩ := h.of_isSuffixed hnext hname hnot hsuffixed
  have hcount := (h.keepsApart_iff hnext).mp hapart name hnot
  have hkept : ¬IsShared on names next other := fun hshared => hnotNext hshared.2.1
  rw [mem_joinedNames h.keys_subset, hsuffixed.exists_iff, and_iff_left hkept,
    or_iff_left hnotNext, hiff, h.isShared_iff hnext]
  rw [occurrences_append_singleton] at hcount ⊢
  by_cases hmem : name ∈ next
  · simp only [hnot, hmem, if_true, not_false_eq_true, true_and] at hcount ⊢
    omega
  · simp [hmem]

private theorem plain_mem_joinedNames (h : Tracks on tables seen names) (hnext : next ∈ tables)
    (hapart : KeepsApart on names next)
    (hplain : ¬∃ name, name ∉ on ∧ 0 < occurrences name (seen ++ [next]) ∧
      IsSuffixed other name) :
    other ∈ joinedNames on names next ↔ other ∈ on ∨ other ∉ on ∧
      (occurrences other (seen ++ [next]) = 1 ∨ occurrences other (seen ++ [next]) = 3) := by
  have hnone : ¬∃ name, IsSuffixed other name ∧ IsShared on names next name := by
    rintro ⟨name, hsuffixed, -, hmem, hnot⟩
    exact hplain ⟨name, hnot, occurrences_pos_of_mem seen hmem, hsuffixed⟩
  have hnone' : ¬∃ name, IsSuffixed other name ∧ name ∉ on ∧ 2 ≤ occurrences name seen := by
    rintro ⟨name, hsuffixed, hnot, htwo⟩
    have hpos : 0 < occurrences name (seen ++ [next]) :=
      (by omega : 0 < occurrences name seen).trans_le (occurrences_le_append _ _ _)
    exact hplain ⟨name, hnot, hpos, hsuffixed⟩
  rw [mem_joinedNames h.keys_subset, h.isShared_iff hnext, h.mem_iff, or_iff_left hnone,
    or_iff_left hnone']
  by_cases hkey : other ∈ on
  · simp [hkey]
  · have hcount := (h.keepsApart_iff hnext).mp hapart other hkey
    rw [occurrences_append_singleton] at hcount ⊢
    by_cases hmem : other ∈ next
    · simp only [hkey, hmem, if_true, not_false_eq_true, true_and, false_or, or_true] at hcount ⊢
      omega
    · simp [hkey, hmem]

/-- Joining another table keeps track of the names. -/
theorem joined (h : Tracks on tables seen names) (hnext : next ∈ tables)
    (hapart : KeepsApart on names next) :
    Tracks on tables (seen ++ [next]) (joinedNames on names next) where
  lacksSuffixes := h.lacksSuffixes
  keys := h.keys
  subset := List.append_subset.mpr ⟨h.subset, List.cons_subset.mpr ⟨hnext, List.nil_subset _⟩⟩
  le_three := (h.keepsApart_iff hnext).mp hapart
  mem_iff other := by
    by_cases hsuffix : ∃ name, name ∉ on ∧ 0 < occurrences name (seen ++ [next]) ∧
        IsSuffixed other name
    · obtain ⟨name, hnot, hpos, hsuffixed⟩ := hsuffix
      obtain ⟨hnotNext, hkey, hzero, -⟩ := h.of_isSuffixed hnext hpos hnot hsuffixed
      rw [h.suffixed_mem_joinedNames hnext hapart hpos hnot hsuffixed, hsuffixed.exists_iff,
        occurrences_append_singleton other, if_neg hnotNext, hzero]
      simp [hkey, hnot]
    · have hnone : ¬∃ name, IsSuffixed other name ∧ name ∉ on ∧
          2 ≤ occurrences name (seen ++ [next]) := by
        rintro ⟨name, hsuffixed, hnot, htwo⟩
        exact hsuffix ⟨name, hnot, by omega, hsuffixed⟩
      rw [h.plain_mem_joinedNames hnext hapart hsuffix, or_iff_left hnone]

end Tracks

private theorem resolves_iff (h : Tracks on tables seen names) (hrest : rest ⊆ tables) :
    Resolves on names rest ↔ ∀ name, name ∉ on → occurrences name (seen ++ rest) ≤ 3 := by
  induction rest generalizing seen names with
  | nil =>
    rw [List.append_nil]
    exact iff_of_true trivial h.le_three
  | cons next rest ih =>
    obtain ⟨hnext, hrest⟩ := List.cons_subset.mp hrest
    rw [Resolves, List.append_cons]
    by_cases hapart : KeepsApart on names next
    · rw [ih (h.joined hnext hapart) hrest]
      exact and_iff_right hapart
    · refine iff_of_false (fun hboth => hapart hboth.1) fun hcounts => hapart ?_
      exact (h.keepsApart_iff hnext).mpr fun name hnot =>
        (occurrences_le_append name _ rest).trans (hcounts name hnot)

/-- Many tables that have the keys are joined if every step keeps its names apart, and else the join
fails for a suffixed name. If no table has a suffixed name to begin with, it fails exactly when more
than three tables have a name that is no key. -/
theorem joinAll_by_names (kind : JoinKind) (first second : Table) (rest : List Table)
    (hon : on ≠ [])
    (hinputs : ∀ t ∈ first :: second :: rest, t.WellFormed ∧ HasKeys on t) :
    let others := (second :: rest).map Table.names
    (Resolves on first.names others →
      ∃ t, joinAll on kind ("_x", "_y") (first :: second :: rest) = .ok t ∧ t.WellFormed ∧
        t.names = others.foldl (joinedNames on) first.names) ∧
    (¬Resolves on first.names others →
      ∃ other name, joinAll on kind ("_x", "_y") (first :: second :: rest) =
          .error (.table (.duplicate other)) ∧
        IsSuffixed other name ∧ name ∉ on ∧ ∃ t ∈ second :: rest, name ∈ t.names) ∧
    (LacksSuffixes on (first.names :: others) →
      (Resolves on first.names others ↔
        ∀ name, name ∉ on → occurrences name (first.names :: others) ≤ 3)) := by
  intro others
  obtain ⟨⟨hfirst, hkeys⟩, hothers⟩ := List.forall_mem_cons.mp hinputs
  have hjoin : joinAll on kind ("_x", "_y") (first :: second :: rest) =
      (second :: rest).foldlM (fun merged t => joinPair merged t on kind ("_x", "_y")) first := by
    rw [joinAll, if_neg (by simpa using hon)]
  rw [hjoin]
  refine ⟨foldlM_of_resolves kind hfirst hkeys hothers,
    foldlM_of_not_resolves kind hfirst hkeys hothers, fun hlacks => ?_⟩
  have hall : ∀ table ∈ first.names :: others, ∀ key ∈ on, key ∈ table := by
    refine List.forall_mem_cons.mpr ⟨hkeys, ?_⟩
    rintro _ htable
    obtain ⟨t, ht, rfl⟩ := List.mem_map.mp htable
    exact (hothers t ht).2
  exact resolves_iff (tracks_singleton hlacks hall List.mem_cons_self) (List.subset_cons_self _ _)

/-- Three tables share a name without a clash, but four do not. -/
theorem joinAll_by_names_sample :
    (∃ t, joinAll ["division"] .outer ("_x", "_y") [sampleVotes, sampleNotes, sampleNotes] =
        .ok t ∧ t.names = ["division", "note_x", "note_y", "note"]) ∧
      ∃ other, joinAll ["division"] .outer ("_x", "_y")
        [sampleVotes, sampleNotes, sampleNotes, sampleVotes] =
          .error (.table (.duplicate other)) := by
  have hvotes : sampleVotes.WellFormed ∧ HasKeys ["division"] sampleVotes :=
    ⟨⟨by decide, by decide⟩, by unfold HasKeys; decide⟩
  have hnotes : sampleNotes.WellFormed ∧ HasKeys ["division"] sampleNotes :=
    ⟨⟨by decide, by decide⟩, by unfold HasKeys; decide⟩
  constructor
  · obtain ⟨hresolves, -, hiff⟩ := joinAll_by_names .outer sampleVotes sampleNotes [sampleNotes]
      (by decide : ["division"] ≠ []) (by simp [hvotes, hnotes])
    have hlacks : LacksSuffixes ["division"]
        [sampleVotes.names, sampleNotes.names, sampleNotes.names] := by
      unfold LacksSuffixes IsSuffixed
      decide +kernel
    obtain ⟨t, ht, -, hnames⟩ :=
      hresolves ((hiff hlacks).mpr fun _ _ => List.countP_le_length)
    exact ⟨t, ht, hnames⟩
  · obtain ⟨-, hfails, hiff⟩ := joinAll_by_names .outer sampleVotes sampleNotes
      [sampleNotes, sampleVotes] (by decide : ["division"] ≠ []) (by simp [hvotes, hnotes])
    have hlacks : LacksSuffixes ["division"]
        [sampleVotes.names, sampleNotes.names, sampleNotes.names, sampleVotes.names] := by
      unfold LacksSuffixes IsSuffixed
      decide +kernel
    have hmany : ¬∀ name, name ∉ ["division"] → occurrences name
        [sampleVotes.names, sampleNotes.names, sampleNotes.names, sampleVotes.names] ≤ 3 :=
      fun h => absurd (h "note" (by decide)) (by decide +kernel)
    obtain ⟨other, -, herror, -⟩ := hfails (mt (hiff hlacks).mp hmany)
    exact ⟨other, herror⟩

/-- Votes with a column whose name is that of another one with a suffix. -/
def suffixedVotes : Table :=
  ⟨[⟨"division", .numeric, [.int 1]⟩, ⟨"note", .text, [.text "a"]⟩,
    ⟨"note_x", .text, [.text "b"]⟩], 1⟩

/-- Suffixes do not keep names apart from those that have a suffix already, and no more than three
tables can share a name. -/
theorem suffixes_clash :
    (suffixedVotes.WellFormed ∧ sampleVotes.WellFormed ∧ sampleNotes.WellFormed) ∧
    (HasKeys ["division"] suffixedVotes ∧ HasKeys ["division"] sampleVotes ∧
      HasKeys ["division"] sampleNotes) ∧
    joinAll ["division"] .inner ("_x", "_y") [suffixedVotes, sampleNotes] =
      .error (.table (.duplicate "note_x")) ∧
    joinAll ["division"] .inner ("_x", "_y")
        [sampleVotes, sampleNotes, sampleVotes, sampleNotes] =
      .error (.table (.duplicate "note_x")) :=
  ⟨⟨⟨by decide, by decide⟩, ⟨by decide, by decide⟩, ⟨by decide, by decide⟩⟩,
    ⟨by unfold HasKeys; decide, by unfold HasKeys; decide, by unfold HasKeys; decide⟩, rfl, rfl⟩

end RollCall.Join
