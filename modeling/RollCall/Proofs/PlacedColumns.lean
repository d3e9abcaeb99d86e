import RollCall.Proofs.Tables

/-!
# Placed columns

A column that is put into a table takes the place of the one with its name, or stands at the end.
The other columns stay where they are.
-/
namespace RollCall.Table

variable {t u : Table} {c d : Column} {cs : List Column} {name : String}

theorem place_of_notMem (h : c.name ∉ cs.map Column.name) : place c cs = cs ++ [c] := by
  induction cs with
  | nil => rfl
  | cons d cs ih =>
    rw [List.map_cons, List.mem_cons, not_or] at h
    rw [place, if_neg (Ne.symm h.1), ih h.2, List.cons_append]

theorem place_of_mem (hnodup : (cs.map Column.name).Nodup) (h : c.name ∈ cs.map Column.name) :
    place c cs = cs.map fun d => if d.name = c.name then c else d := by
  induction cs with
  | nil => cases h
  | cons d cs ih =>
    obtain ⟨hd, hnodup⟩ := List.nodup_cons.mp hnodup
    rw [place, List.map_cons]
    split
    · next hname =>
      -- No other column has the name.
      have hrest : cs.map (fun d => if d.name = c.name then c else d) = cs := by
        conv_rhs => rw [← List.map_id cs]
        refine List.map_congr_left fun e he => if_neg fun heq => hd ?_
        rw [hname, ← heq]
        exact List.mem_map_of_mem he
      rw [hrest]
    · next hname =>
      rw [ih hnodup ((List.mem_cons.mp h).resolve_left (Ne.symm hname))]

private theorem find?_place (name : String) :
    (place c cs).find? (fun d => d.name = name) =
      if name = c.name then some c else cs.find? fun d => d.name = name := by
  induction cs with
  | nil =>
    rw [place, List.find?_singleton]
    simp only [decide_eq_true_eq, eq_comm (a := name), List.find?_nil]
  | cons d cs ih =>
    rw [place]
    split
    · next hd =>
      rw [List.find?_cons, List.find?_cons, hd]
      by_cases hname : name = c.name
      · simp [hname]
      · simp [hname, Ne.symm hname]
    · next hd =>
      rw [List.find?_cons, List.find?_cons, ih]
      by_cases hname : d.name = name
      · have hne : name ≠ c.name := hname ▸ hd
        simp [hname, hne]
      · simp [hname]

/-- Whether columns agree in what is seen of them is not changed by putting in columns that do, if
the names are seen. -/
theorem map_place_eq {α : Type} {f : Column → α} (hname : ∀ a b, f a = f b → a.name = b.name)
    {ds : List Column} (hcs : cs.map f = ds.map f) (hc : f c = f d) :
    (place c cs).map f = (place d ds).map f := by
  induction cs generalizing ds with
  | nil =>
    rw [List.map_nil, eq_comm, List.map_eq_nil_iff] at hcs
    rw [hcs, place, place, List.map_singleton, List.map_singleton, hc]
  | cons a cs ih =>
    obtain ⟨b, ds, rfl, hab, hrest⟩ := List.map_eq_cons_iff.mp hcs.symm
    have hiff : a.name = c.name ↔ b.name = d.name := by
      rw [hname c d hc, hname b a hab]
    by_cases h : b.name = d.name
    · rw [place, place, if_pos h, if_pos (hiff.mpr h), List.map_cons, List.map_cons, hc, hrest]
    · rw [place, place, if_neg h, if_neg (mt hiff.mp h), List.map_cons, List.map_cons, hab,
        ih hrest.symm]

theorem map_place {g : Column → Column} (hg : ∀ a, (g a).name = a.name) :
    (place c cs).map g = place (g c) (cs.map g) := by
  induction cs with
  | nil => rfl
  | cons a cs ih =>
    rw [List.map_cons, place, place, hg, hg]
    split
    · rfl
    · rw [List.map_cons, ih]

/-- A table takes a column with a cell for each row, and one without rows and columns takes any. -/
theorem withColumn_eq_ok_iff :
    t.withColumn c = .ok u ↔
      (c.length = t.rowCount ∨ t.columns = [] ∧ t.rowCount = 0) ∧
        u = ⟨place c t.columns, c.length⟩ := by
  rw [withColumn]
  split
  · next h =>
    constructor
    · intro h
      cases h
    · rintro ⟨hfits, -⟩
      exact absurd hfits (by tauto)
  · next h =>
    rw [Except.ok.injEq, eq_comm]
    exact (and_iff_right (by tauto)).symm

/-- A column beside another one has a cell for each row. -/
theorem length_of_withColumn (hd : d ∈ t.columns) (h : t.withColumn c = .ok u) :
    c.length = t.rowCount :=
  (withColumn_eq_ok_iff.mp h).1.resolve_right fun hempty => List.ne_nil_of_mem hd hempty.1

theorem column?_withColumn (h : t.withColumn c = .ok u) (name : String) :
    u.column? name = if name = c.name then some c else t.column? name := by
  rw [(withColumn_eq_ok_iff.mp h).2]
  exact find?_place name

end RollCall.Table
