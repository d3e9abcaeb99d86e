import Mathlib.Data.List.GetD
import RollCall.Proofs.RuledJoins

/-!
# Inner joins

If two tables have only the key columns in common, their inner join renames nothing: its members are
the matching pairs of the members of both, and its columns those of the left table and the others of
the right one. As matching is transitive through a row without missing keys, three tables may be
joined from either end.
-/
namespace RollCall

variable {α β γ : Type}

namespace ColumnRule

/-- The cell of a member in the column of a name. -/
def cellOf? (rs : List (ColumnRule α)) (name : String) (a : α) : Option Cell :=
  (rs.find? fun r => r.name = name).map fun r => r.cell a

private theorem cellOf?_comap (rs : List (ColumnRule α)) (f : β → α) (name : String) (b : β) :
    cellOf? (rs.map (comap f)) name b = cellOf? rs name (f b) := by
  rw [cellOf?, cellOf?, List.find?_map, Option.map_map]
  rfl

private theorem cellOf?_append {rs rs' : List (ColumnRule α)} {name : String}
    (h : name ∈ rs.map ColumnRule.name) (a : α) :
    cellOf? (rs ++ rs') name a = cellOf? rs name a := by
  have hfind : (rs.find? fun r => r.name = name).isSome := by
    obtain ⟨r, hr, rfl⟩ := List.mem_map.mp h
    exact List.find?_isSome.mpr ⟨r, hr, decide_eq_true rfl⟩
  obtain ⟨r, hr⟩ := Option.isSome_iff_exists.mp hfind
  rw [cellOf?, cellOf?, List.find?_append, hr]
  rfl

end ColumnRule

private theorem Table.cell?_tabulate (rs : List (ColumnRule α)) {members : List α} {row : Nat}
    (hrow : row < members.length) (name : String) :
    (tabulate rs members).cell? row name = ColumnRule.cellOf? rs name members[row] := by
  have hcolumn : (tabulate rs members).column? name =
      (rs.find? fun r => r.name = name).map (ColumnRule.column · members) := List.find?_map
  rw [cell?, hcolumn, ColumnRule.cellOf?]
  cases rs.find? fun r => r.name = name with
  | none => rfl
  | some r => simp [ColumnRule.column, hrow]

namespace Join

variable {on : List String} {suffixes : String × String}

/-! ### Matching members -/

def matchingPairs (matching : α → β → Bool) (xs : List α) (ys : List β) : List (α × β) :=
  xs.flatMap fun x => (ys.filter (matching x)).map (x, ·)

def membersMatch (on : List String) (rs : List (ColumnRule α)) (rs' : List (ColumnRule β)) (x : α)
    (y : β) : Bool :=
  on.all fun name => cellsMatch (ColumnRule.cellOf? rs name x) (ColumnRule.cellOf? rs' name y)

/-- The rules of the columns that are no keys. -/
def otherRules (on : List String) (rs : List (ColumnRule α)) : List (ColumnRule α) :=
  rs.filter fun r => r.name ∉ on

private theorem otherRules_comap (on : List String) (f : β → α) (rs : List (ColumnRule α)) :
    otherRules on (rs.map (ColumnRule.comap f)) =
      (otherRules on rs).map (ColumnRule.comap f) := by
  rw [otherRules, List.filter_map]
  rfl

private theorem otherRules_otherRules (on : List String) (rs : List (ColumnRule α)) :
    otherRules on (otherRules on rs) = otherRules on rs := by
  simp [otherRules, List.filter_filter]

private theorem otherRules_append (on : List String) (rs rs' : List (ColumnRule α)) :
    otherRules on (rs ++ rs') = otherRules on rs ++ otherRules on rs' :=
  List.filter_append ..

private theorem map_name_otherRules (on : List String) (rs : List (ColumnRule α)) :
    (otherRules on rs).map ColumnRule.name =
      (rs.map ColumnRule.name).filter fun name => name ∉ on := by
  rw [otherRules, List.filter_map]
  rfl

/-- The columns of an inner join, by rules for matching pairs. -/
def innerRules (on : List String) (rs : List (ColumnRule α)) (rs' : List (ColumnRule β)) :
    List (ColumnRule (α × β)) :=
  rs.map (ColumnRule.comap Prod.fst) ++ (otherRules on rs').map (ColumnRule.comap Prod.snd)

theorem cellOf?_innerRules {rs : List (ColumnRule α)} {rs' : List (ColumnRule β)} {name : String}
    (h : name ∈ rs.map ColumnRule.name) (p : α × β) :
    ColumnRule.cellOf? (innerRules on rs rs') name p = ColumnRule.cellOf? rs name p.1 := by
  rw [innerRules, ColumnRule.cellOf?_append (by simpa using h), ColumnRule.cellOf?_comap]

/-- The key columns are the columns that both have. -/
def ShareKeys (on names names' : List String) : Prop :=
  ∀ name, name ∈ on ↔ name ∈ names ∧ name ∈ names'

private theorem shareKeys_iff {on names names' : List String} :
    ShareKeys on names names' ↔
      (∀ name ∈ on, name ∈ names ∧ name ∈ names') ∧ ∀ name ∈ names, name ∈ names' → name ∈ on := by
  constructor
  · intro h
    exact ⟨fun name => (h name).mp, fun name hleft hright => (h name).mpr ⟨hleft, hright⟩⟩
  · rintro ⟨hkeys, hshared⟩ name
    exact ⟨hkeys name, fun hname => hshared name hname.1 hname.2⟩

instance (on names names' : List String) : Decidable (ShareKeys on names names') :=
  decidable_of_iff _ shareKeys_iff.symm

private theorem cellsMatch_trans {a b : Option Cell} (h : cellsMatch a b) (c : Option Cell) :
    cellsMatch a c = cellsMatch b c := by
  cases a <;> cases b <;> cases c <;> simp_all [cellsMatch]

/-- Members that match agree on which others they match. -/
theorem membersMatch_trans {rs : List (ColumnRule α)} {rs' : List (ColumnRule β)}
    {x : α} {y : β} (h : membersMatch on rs rs' x y) (rs'' : List (ColumnRule γ)) (z : γ) :
    membersMatch on rs rs'' x z = membersMatch on rs' rs'' y z := by
  rw [Bool.eq_iff_iff, membersMatch, membersMatch, List.all_eq_true, List.all_eq_true]
  refine forall₂_congr fun name hname => ?_
  rw [cellsMatch_trans (List.all_eq_true.mp h name hname)]

private theorem membersMatch_innerRules_left {rs : List (ColumnRule α)} {rs' : List (ColumnRule β)}
    (h : ∀ name ∈ on, name ∈ rs.map ColumnRule.name) (rs'' : List (ColumnRule γ)) (p : α × β)
    (z : γ) : membersMatch on (innerRules on rs rs') rs'' p z = membersMatch on rs rs'' p.1 z := by
  rw [Bool.eq_iff_iff, membersMatch, membersMatch, List.all_eq_true, List.all_eq_true]
  refine forall₂_congr fun name hname => ?_
  rw [cellOf?_innerRules (h name hname)]

private theorem membersMatch_innerRules_right {rs : List (ColumnRule α)} {rs' : List (ColumnRule β)}
    (h : ∀ name ∈ on, name ∈ rs.map ColumnRule.name) (rs'' : List (ColumnRule γ)) (z : γ)
    (p : α × β) :
    membersMatch on rs'' (innerRules on rs rs') z p = membersMatch on rs'' rs z p.1 := by
  rw [Bool.eq_iff_iff, membersMatch, membersMatch, List.all_eq_true, List.all_eq_true]
  refine forall₂_congr fun name hname => ?_
  rw [cellOf?_innerRules (h name hname)]

/-- Matching triples are found in the same order from either end. -/
theorem matchingPairs_assoc {M : α → β → Bool} {N : α → γ → Bool} {K : β → γ → Bool}
    (h : ∀ x y, M x y → ∀ z, N x z = K y z) (xs : List α) (ys : List β) (zs : List γ) :
    (matchingPairs (fun p z => N p.1 z) (matchingPairs M xs ys) zs).map
        (fun p => (p.1.1, p.1.2, p.2)) =
      matchingPairs (fun x q => M x q.1) xs (matchingPairs K ys zs) := by
  simp only [matchingPairs, List.flatMap_assoc, List.map_flatMap, List.flatMap_map, List.map_map,
    Function.comp_def]
  refine List.flatMap_congr fun x _ => ?_
  induction ys with
  | nil => rfl
  | cons y ys ih =>
    rw [List.flatMap_cons, List.filter_append, List.map_append, ← ih]
    cases hM : M x y with
    | true =>
      have hzs : zs.filter (N x) = zs.filter (K y) := List.filter_congr fun z _ => h x y hM z
      simp [hM, hzs, List.filter_map, Function.comp_def]
    | false => simp [hM, List.filter_map, Function.comp_def]

private theorem mem_of_mem_matchingPairs {matching : α → β → Bool} {xs : List α} {ys : List β}
    {p : α × β} (h : p ∈ matchingPairs matching xs ys) : p.1 ∈ xs ∧ p.2 ∈ ys := by
  obtain ⟨x, hx, hp⟩ := List.mem_flatMap.mp h
  obtain ⟨y, hy, rfl⟩ := List.mem_map.mp hp
  exact ⟨hx, (List.mem_filter.mp hy).1⟩

/-! ### Joins of tables by rule -/

section Tabulated

variable {rs : List (ColumnRule α)} {rs' : List (ColumnRule β)} {xs : List α} {ys : List β}

theorem map_name_innerRules (on : List String) (rs : List (ColumnRule α))
    (rs' : List (ColumnRule β)) :
    (innerRules on rs rs').map ColumnRule.name =
      rs.map ColumnRule.name ++ (rs'.map ColumnRule.name).filter fun name => name ∉ on := by
  rw [innerRules, List.map_append, List.map_map, List.map_map, ← map_name_otherRules]
  rfl

theorem nodup_innerRules (hrs : (rs.map ColumnRule.name).Nodup)
    (hrs' : (rs'.map ColumnRule.name).Nodup)
    (hkeys : ShareKeys on (rs.map ColumnRule.name) (rs'.map ColumnRule.name)) :
    ((innerRules on rs rs').map ColumnRule.name).Nodup := by
  rw [map_name_innerRules]
  refine List.nodup_append'.mpr ⟨hrs, hrs'.filter _, fun name hleft hright => ?_⟩
  obtain ⟨hright, hother⟩ := List.mem_filter.mp hright
  exact of_decide_eq_true hother ((hkeys name).mpr ⟨hleft, hright⟩)

private theorem leftLoop_false_eq (n m : Nat) (matching : Nat → Nat → Bool) :
    leftLoop false n m matching =
      (matchingPairs matching (List.range n) (List.range m)).map fun p => (some p.1, some p.2) := by
  rw [leftLoop, matchingPairs, List.map_flatMap]
  refine List.flatMap_congr fun l _ => ?_
  rw [List.map_map, pairsOr]
  split
  · next hnone => rw [List.isEmpty_iff.mp hnone]; rfl
  · rfl

/-- The positions of matching members. -/
theorem matchingPairs_range {M : α → β → Bool} {matching : Nat → Nat → Bool} (d : α) (e : β)
    (h : ∀ l, (hl : l < xs.length) → ∀ r, (hr : r < ys.length) → matching l r = M xs[l] ys[r]) :
    (matchingPairs matching (List.range xs.length) (List.range ys.length)).map
        (fun p => (xs.getD p.1 d, ys.getD p.2 e)) = matchingPairs M xs ys := by
  conv_rhs => rw [← map_getD_range xs d, ← map_getD_range ys e]
  rw [matchingPairs, matchingPairs, List.map_flatMap, List.flatMap_map]
  refine List.flatMap_congr fun l hl => ?_
  have hl := List.mem_range.mp hl
  rw [List.filter_map, List.map_map, List.map_map]
  refine congrArg _ (List.filter_congr fun r hr => ?_)
  have hr := List.mem_range.mp hr
  simp [h l hl r hr, hl, hr]

private theorem ShareKeys.innerRules_left {names : List String}
    (h : ShareKeys on (rs.map ColumnRule.name) names)
    (h' : ShareKeys on (rs'.map ColumnRule.name) names) :
    ShareKeys on ((innerRules on rs rs').map ColumnRule.name) names := by
  intro name
  rw [map_name_innerRules, List.mem_append, List.mem_filter, decide_eq_true_eq]
  have hname := h name
  have hname' := h' name
  tauto

private theorem ShareKeys.innerRules_right {names : List String}
    (h : ShareKeys on names (rs.map ColumnRule.name))
    (h' : ShareKeys on names (rs'.map ColumnRule.name)) :
    ShareKeys on names ((innerRules on rs rs').map ColumnRule.name) := by
  intro name
  rw [map_name_innerRules, List.mem_append, List.mem_filter, decide_eq_true_eq]
  have hname := h name
  have hname' := h' name
  tauto

private theorem sharedNames_eq_nil {left right : Table}
    (hkeys : ShareKeys on left.names right.names) :
    sharedNames left right on = [] := by
  refine List.filter_eq_nil_iff.mpr fun name hname hshared => ?_
  simp only [Bool.and_eq_true, decide_eq_true_eq, Table.hasColumn, Table.column?_isSome_iff]
    at hshared
  exact hshared.1 ((hkeys name).mpr ⟨hname, hshared.2⟩)

/-- The columns of a join for pairs of positions, if it renames nothing. -/
theorem tabulate_rules_tabulate [Inhabited α] [Inhabited β]
    (hrs : (rs.map ColumnRule.name).Nodup) (hrs' : (rs'.map ColumnRule.name).Nodup)
    (hshared : sharedNames (Table.tabulate rs xs) (Table.tabulate rs' ys) on = [])
    {positions : List (Nat × Nat)}
    (hrange : ∀ p ∈ positions, p.1 < xs.length ∧ p.2 < ys.length) :
    Table.tabulate (rules (Table.tabulate rs xs) (Table.tabulate rs' ys) on suffixes)
        (positions.map fun p => (some p.1, some p.2)) =
      Table.tabulate (innerRules on rs rs')
        (positions.map fun p => (xs.getD p.1 default, ys.getD p.2 default)) := by
  have hcolumns : (Table.tabulate rs xs).columns = rs.map (ColumnRule.column · xs) := rfl
  have hcolumns' : (Table.tabulate rs' ys).columns = rs'.map (ColumnRule.column · ys) := rfl
  refine congrArg₂ Table.mk ?_ (by rw [List.length_map, List.length_map])
  rw [rules, innerRules, hshared, hcolumns, hcolumns', List.filter_map]
  simp only [List.map_append, List.map_map, Function.comp_def]
  congr 1
  · refine List.map_congr_left fun r hr => congrArg (Column.mk r.name r.kind) ?_
    simp only [List.map_map]
    refine List.map_congr_left fun p hp => ?_
    have hcell := Table.cellAt_tabulate hrs hr (hrange p hp).1
    rw [← List.getD_eq_getElem xs default] at hcell
    rw [Function.comp_apply]
    split <;> exact hcell
  · refine List.map_congr_left fun r hr => congrArg (Column.mk r.name r.kind) ?_
    simp only [List.map_map]
    refine List.map_congr_left fun p hp => ?_
    have hcell := Table.cellAt_tabulate hrs' (List.mem_filter.mp hr).1 (hrange p hp).2
    rwa [← List.getD_eq_getElem ys default] at hcell

/-- An inner join without common columns but the keys. -/
theorem joinPair_tabulate [Inhabited α] [Inhabited β] (hon : on ≠ [])
    (hrs : (rs.map ColumnRule.name).Nodup) (hrs' : (rs'.map ColumnRule.name).Nodup)
    (hkeys : ShareKeys on (rs.map ColumnRule.name) (rs'.map ColumnRule.name)) :
    joinPair (Table.tabulate rs xs) (Table.tabulate rs' ys) on .inner suffixes =
      .ok (Table.tabulate (innerRules on rs rs')
        (matchingPairs (membersMatch on rs rs') xs ys)) := by
  have hleft := Table.names_tabulate rs xs
  have hright := Table.names_tabulate rs' ys
  have hshared : sharedNames (Table.tabulate rs xs) (Table.tabulate rs' ys) on = [] :=
    sharedNames_eq_nil (by rwa [hleft, hright])
  have hnames : (rules (Table.tabulate rs xs) (Table.tabulate rs' ys) on suffixes).map
      ColumnRule.name = (innerRules on rs rs').map ColumnRule.name := by
    simpa only [List.map_nil, Table.names_tabulate] using congrArg Table.names
      (tabulate_rules_tabulate hrs hrs' hshared (List.forall_mem_nil _))
  refine (joinPair_eq_ok_iff (Table.tabulate_wellFormed hrs xs)
    (Table.tabulate_wellFormed hrs' ys)).mpr ⟨fun name hname => ?_, ?_, ?_⟩
  · rw [hleft, hright]
    exact (hkeys name).mp hname
  · rw [hnames]
    exact nodup_innerRules hrs hrs' hkeys
  have hrules : rules (Table.tabulate rs xs) (Table.tabulate rs' ys) on suffixes ≠ [] := by
    obtain ⟨name, hname⟩ := List.exists_mem_of_ne_nil on hon
    intro hnil
    rw [hnil, List.map_nil, map_name_innerRules] at hnames
    exact List.ne_nil_of_mem ((hkeys name).mp hname).1 (List.append_eq_nil_iff.mp hnames.symm).1
  have hmatching : ∀ l, (hl : l < xs.length) → ∀ r, (hr : r < ys.length) →
      rowsMatch (Table.tabulate rs xs) (Table.tabulate rs' ys) on l r =
        membersMatch on rs rs' xs[l] ys[r] := fun l hl r hr => by
    simp only [rowsMatch, membersMatch, Table.cell?_tabulate rs hl, Table.cell?_tabulate rs' hr]
  rw [if_neg hrules, nestedLoop, leftLoop_false_eq, tabulate_rules_tabulate hrs hrs' hshared]
  · exact congrArg (Table.tabulate _) (matchingPairs_range default default hmatching).symm
  · intro p hp
    obtain ⟨hl, hr⟩ := mem_of_mem_matchingPairs hp
    exact ⟨List.mem_range.mp hl, List.mem_range.mp hr⟩

end Tabulated

/-! ### Three tables -/

private theorem innerRules_assoc (on : List String) (rs : List (ColumnRule α))
    (rs' : List (ColumnRule β)) (rs'' : List (ColumnRule γ)) :
    (innerRules on rs (innerRules on rs' rs'')).map
        (ColumnRule.comap fun p => (p.1.1, p.1.2, p.2)) =
      innerRules on (innerRules on rs rs') rs'' := by
  rw [innerRules, innerRules, otherRules_append, otherRules_comap, otherRules_comap,
    otherRules_otherRules, innerRules, innerRules]
  simp only [List.map_append, List.map_map, List.append_assoc]
  rfl

variable {s t u : Table}

private theorem joinPair_inner_assoc (suffixes : String × String) (hs : s.WellFormed)
    (ht : t.WellFormed) (hu : u.WellFormed)
    (hst : ShareKeys on s.names t.names) (hsu : ShareKeys on s.names u.names)
    (htu : ShareKeys on t.names u.names) (hon : on ≠ []) :
    ∃ st tu stu, joinPair s t on .inner suffixes = .ok st ∧
      joinPair st u on .inner suffixes = .ok stu ∧
      joinPair t u on .inner suffixes = .ok tu ∧
      joinPair s tu on .inner suffixes = .ok stu := by
  have hsn : (s.rules.map ColumnRule.name).Nodup := s.map_name_rules ▸ hs.nodup
  have htn : (t.rules.map ColumnRule.name).Nodup := t.map_name_rules ▸ ht.nodup
  have hun : (u.rules.map ColumnRule.name).Nodup := u.map_name_rules ▸ hu.nodup
  rw [← s.map_name_rules, ← t.map_name_rules] at hst
  rw [← s.map_name_rules, ← u.map_name_rules] at hsu
  rw [← t.map_name_rules, ← u.map_name_rules] at htu
  have hleft : membersMatch on (innerRules on s.rules t.rules) u.rules =
      fun p z => membersMatch on s.rules u.rules p.1 z :=
    funext₂ (membersMatch_innerRules_left (fun name hname => ((hst name).mp hname).1) u.rules)
  have hright : membersMatch on s.rules (innerRules on t.rules u.rules) =
      fun x q => membersMatch on s.rules t.rules x q.1 :=
    funext₂ (membersMatch_innerRules_right (fun name hname => ((htu name).mp hname).1) s.rules)
  have htrans : ∀ x y, membersMatch on s.rules t.rules x y → ∀ z,
      membersMatch on s.rules u.rules x z = membersMatch on t.rules u.rules y z :=
    fun x y hxy z => membersMatch_trans hxy u.rules z
  rw [hs.eq_tabulate, ht.eq_tabulate, hu.eq_tabulate]
  refine ⟨_, _, _, joinPair_tabulate hon hsn htn hst,
    joinPair_tabulate hon (nodup_innerRules hsn htn hst) hun (hsu.innerRules_left htu),
    joinPair_tabulate hon htn hun htu, ?_⟩
  rw [joinPair_tabulate hon hsn (nodup_innerRules htn hun htu) (hst.innerRules_right hsu), hleft,
    hright, ← matchingPairs_assoc htrans, Table.tabulate_map, innerRules_assoc]

/-- An inner join of three tables may start from either end if any two of them have just the key
columns in common. Without key columns all joins are refused. -/
theorem inner_join_assoc (suffixes : String × String) (hs : s.WellFormed)
    (ht : t.WellFormed) (hu : u.WellFormed)
    (hst : ShareKeys on s.names t.names) (hsu : ShareKeys on s.names u.names)
    (htu : ShareKeys on t.names u.names) :
    (on ≠ [] → ∃ st tu stu, joinPair s t on .inner suffixes = .ok st ∧
      joinPair st u on .inner suffixes = .ok stu ∧
      joinPair t u on .inner suffixes = .ok tu ∧
      joinPair s tu on .inner suffixes = .ok stu) ∧
    joinAll on .inner suffixes [s, t, u] =
      (joinAll on .inner suffixes [t, u]).bind fun tu => joinAll on .inner suffixes [s, tu] := by
  refine ⟨joinPair_inner_assoc suffixes hs ht hu hst hsu htu, ?_⟩
  by_cases hon : on = []
  · rw [hon]
    rfl
  · obtain ⟨st, tu, stu, hst, hstu, htu, hstu'⟩ :=
      joinPair_inner_assoc suffixes hs ht hu hst hsu htu hon
    simp only [joinAll, List.isEmpty_iff, hon, if_false, List.foldlM_cons, List.foldlM_nil, hst,
      hstu, htu, hstu', bind, Except.bind, pure, Except.pure]

/-- Tellers for the ayes by division, one of them without its division. -/
def ayeTellers : Table :=
  ⟨[⟨"division", .numeric, [.int 1, .float 2, .null]⟩,
    ⟨"ayes", .text, [.text "Adams", .text "Byrne", .text "Clark"]⟩], 3⟩

def noTellers : Table :=
  ⟨[⟨"noes", .text, [.text "Davis", .text "Evans", .text "Field", .text "Green"]⟩,
    ⟨"division", .numeric, [.float 2, .int 1, .float Binary64.nan, .int 2]⟩], 4⟩

def motions : Table :=
  ⟨[⟨"division", .numeric, [.int 2, .float 1, .float 2, .null]⟩,
    ⟨"motion", .categorical,
      [.text "second reading", .text "programme", .null, .text "closure"]⟩], 4⟩

def toldMotions : Table :=
  ⟨[⟨"division", .numeric, [.int 1, .float 2, .float 2, .float 2, .float 2]⟩,
    ⟨"ayes", .text, [.text "Adams", .text "Byrne", .text "Byrne", .text "Byrne", .text "Byrne"]⟩,
    ⟨"noes", .text, [.text "Evans", .text "Davis", .text "Davis", .text "Green", .text "Green"]⟩,
    ⟨"motion", .categorical,
      [.text "programme", .text "second reading", .null, .text "second reading", .null]⟩], 5⟩

theorem inner_join_assoc_sample :
    joinAll ["division"] .inner ("_x", "_y") [ayeTellers, noTellers, motions] = .ok toldMotions ∧
      ((joinAll ["division"] .inner ("_x", "_y") [noTellers, motions]).bind fun tu =>
        joinAll ["division"] .inner ("_x", "_y") [ayeTellers, tu]) = .ok toldMotions := by
  have hjoin : joinAll ["division"] .inner ("_x", "_y") [ayeTellers, noTellers, motions] =
      .ok toldMotions := rfl
  have hst : ShareKeys ["division"] ayeTellers.names noTellers.names := by decide
  have hsu : ShareKeys ["division"] ayeTellers.names motions.names := by decide
  have htu : ShareKeys ["division"] noTellers.names motions.names := by decide
  have hassoc := (inner_join_assoc ("_x", "_y") ⟨by decide, by decide⟩ ⟨by decide, by decide⟩
    ⟨by decide, by decide⟩ hst hsu htu).2
  exact ⟨hjoin, hassoc.symm.trans hjoin⟩

end Join
end RollCall
