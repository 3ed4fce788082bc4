import Mathlib.Data.List.Pairwise

/-!
Tables of rows with an automatically numbered key and a unique constraint.

A row type says where its id is and which rows its unique constraints exclude
(`Row`). A `Table` keeps its rows in the order of their ids, below the last id
it gave out, with no two rows that exclude each other; the operations build
such tables only. An INSERT that would break a unique constraint changes
nothing and answers with the id 0.
-/
namespace NovaIIM

/-- Rows with an automatic id; `clash` holds of two rows that a unique constraint excludes. -/
class Row (ρ : Type) where
  id : ρ → Int
  withId : Int → ρ → ρ
  clash : ρ → ρ → Bool
  id_withId : ∀ n r, id (withId n r) = n
  clash_comm : ∀ a b, clash a b = clash b a
  clash_withId : ∀ n a b, clash (withId n a) b = clash a b

/-- An update of rows that leaves ids and unique columns alone. -/
structure RowUpdate (ρ : Type) [Row ρ] where
  apply : ρ → ρ
  same_id : ∀ r, Row.id (apply r) = Row.id r
  same_clash : ∀ a b, Row.clash (apply a) b = Row.clash a b

/-- A table: its rows in the order of their ids. -/
structure Table (ρ : Type) [Row ρ] where
  rows : List ρ
  lastId : Nat
  ascending : rows.Pairwise fun a b => Row.id a < Row.id b
  bounded : ∀ r ∈ rows, 1 ≤ Row.id r ∧ Row.id r ≤ lastId
  unique : rows.Pairwise fun a b => Row.clash a b = false

namespace Table
variable {ρ : Type} [Row ρ]

instance : EmptyCollection (Table ρ) where
  emptyCollection := ⟨[], 0, .nil, by simp, .nil⟩

@[simp] theorem rows_empty : (∅ : Table ρ).rows = [] := rfl

theorem ext {t t' : Table ρ} (rows : t.rows = t'.rows) (lastId : t.lastId = t'.lastId) : t = t' := by
  cases t
  cases t'
  simp_all

/-- Some row of the table excludes `r`. -/
def taken (t : Table ρ) (r : ρ) : Bool := t.rows.any (Row.clash r)

/-- The row as an INSERT stores it. -/
def fresh (t : Table ρ) (r : ρ) : ρ := Row.withId (t.lastId + 1) r

/-- INSERT. -/
def insert (t : Table ρ) (r : ρ) : Table ρ :=
  if free : t.taken r then t else
  { rows := t.rows ++ [t.fresh r]
    lastId := t.lastId + 1
    ascending := by
      refine List.pairwise_append.mpr ⟨t.ascending, List.pairwise_singleton _ _, ?_⟩
      intro a inside b new
      have := t.bounded a inside
      rw [List.mem_singleton.mp new, fresh, Row.id_withId]
      omega
    bounded := by
      intro a inside
      obtain old | new := List.mem_append.mp inside
      · have := t.bounded a old
        omega
      · rw [List.mem_singleton.mp new, fresh, Row.id_withId]
        omega
    unique := by
      refine List.pairwise_append.mpr ⟨t.unique, List.pairwise_singleton _ _, ?_⟩
      intro a inside b new
      rw [List.mem_singleton.mp new, Row.clash_comm, fresh, Row.clash_withId]
      simp only [taken, List.any_eq_true, not_exists, not_and, Bool.not_eq_true] at free
      exact free a inside }

/-- The id an INSERT reports, 0 when a unique constraint turns it away. -/
def insertId (t : Table ρ) (r : ρ) : Int := if t.taken r then 0 else t.lastId + 1

/-- UPDATE … WHERE. -/
def update (t : Table ρ) (selected : ρ → Bool) (change : RowUpdate ρ) : Table ρ where
  rows := t.rows.map fun r => if selected r then change.apply r else r
  lastId := t.lastId
  ascending := by
    refine t.ascending.map _ fun a b less => ?_
    split <;> split <;> simpa [change.same_id] using less
  bounded := by
    intro a inside
    obtain ⟨r, old, rfl⟩ := List.mem_map.mp inside
    have := t.bounded r old
    split <;> simpa [change.same_id] using this
  unique := by
    refine t.unique.map _ fun a b apart => ?_
    split <;> split <;>
      simp [change.same_clash, Row.clash_comm _ (change.apply b), apart, Row.clash_comm b]

/-- DELETE … WHERE. -/
def delete (t : Table ρ) (selected : ρ → Bool) : Table ρ where
  rows := t.rows.filter fun r => !selected r
  lastId := t.lastId
  ascending := t.ascending.filter _
  bounded := fun r inside => t.bounded r (List.mem_filter.mp inside).1
  unique := t.unique.filter _

theorem taken_iff (t : Table ρ) (r : ρ) : t.taken r = true ↔ ∃ a ∈ t.rows, Row.clash r a = true := by
  simp [taken]

@[simp] theorem id_fresh (t : Table ρ) (r : ρ) : Row.id (t.fresh r) = t.lastId + 1 := Row.id_withId _ _

theorem fresh_not_mem (t : Table ρ) (r : ρ) : t.fresh r ∉ t.rows := by
  intro inside
  have := (t.bounded _ inside).2
  rw [id_fresh] at this
  omega

theorem rows_insert (t : Table ρ) (r : ρ) :
    (t.insert r).rows = if t.taken r then t.rows else t.rows ++ [t.fresh r] := by
  unfold insert
  split <;> simp_all

theorem insert_taken {t : Table ρ} {r : ρ} (taken : t.taken r = true) : t.insert r = t := by
  simp [insert, taken]

theorem rows_insert_free {t : Table ρ} {r : ρ} (free : t.taken r = false) :
    (t.insert r).rows = t.rows ++ [t.fresh r] := by
  simp [rows_insert, free]

theorem lastId_insert_free {t : Table ρ} {r : ρ} (free : t.taken r = false) :
    (t.insert r).lastId = t.lastId + 1 := by
  simp [insert, free]

theorem lastId_le_insert (t : Table ρ) (r : ρ) : t.lastId ≤ (t.insert r).lastId := by
  unfold insert
  split <;> simp

theorem mem_insert {t : Table ρ} {r a : ρ} :
    a ∈ (t.insert r).rows ↔ a ∈ t.rows ∨ t.taken r = false ∧ a = t.fresh r := by
  rw [rows_insert]
  split <;> simp_all

theorem insertId_eq_zero {t : Table ρ} {r : ρ} : t.insertId r = 0 ↔ t.taken r = true := by
  unfold insertId
  split <;> simp_all
  omega

theorem insertId_free {t : Table ρ} {r : ρ} (free : t.taken r = false) :
    t.insertId r = t.lastId + 1 := by
  simp [insertId, free]

@[simp] theorem rows_update (t : Table ρ) (selected : ρ → Bool) (change : RowUpdate ρ) :
    (t.update selected change).rows = t.rows.map fun r => if selected r then change.apply r else r := rfl

@[simp] theorem lastId_update (t : Table ρ) (selected : ρ → Bool) (change : RowUpdate ρ) :
    (t.update selected change).lastId = t.lastId := rfl

theorem mem_update {t : Table ρ} {selected : ρ → Bool} {change : RowUpdate ρ} {a : ρ} :
    a ∈ (t.update selected change).rows ↔
      ∃ r ∈ t.rows, (if selected r then change.apply r else r) = a := by
  simp

/-- An update that changes no row. -/
theorem update_same {t : Table ρ} {selected : ρ → Bool} {change : RowUpdate ρ}
    (same : ∀ r ∈ t.rows, selected r = true → change.apply r = r) : t.update selected change = t := by
  have rows : (t.rows.map fun r => if selected r then change.apply r else r) = t.rows := by
    refine (List.map_congr_left fun r inside => ?_).trans (List.map_id _)
    by_cases hit : selected r = true
    · rw [if_pos hit, same r inside hit]
      rfl
    · rw [if_neg hit]
      rfl
  obtain ⟨rs, lastId, ascending, bounded, unique⟩ := t
  simp only [update, rows]

@[simp] theorem rows_delete (t : Table ρ) (selected : ρ → Bool) :
    (t.delete selected).rows = t.rows.filter fun r => !selected r := rfl

@[simp] theorem lastId_delete (t : Table ρ) (selected : ρ → Bool) :
    (t.delete selected).lastId = t.lastId := rfl

theorem mem_delete {t : Table ρ} {selected : ρ → Bool} {a : ρ} :
    a ∈ (t.delete selected).rows ↔ a ∈ t.rows ∧ selected a = false := by
  simp

omit [Row ρ] in
private theorem eq_of_pairwise {r : ρ → ρ → Prop} {rows : List ρ} (apart : rows.Pairwise r)
    {a b : ρ} (first : a ∈ rows) (second : b ∈ rows) (close : ¬ r a b) (close' : ¬ r b a) : a = b := by
  by_contra different
  have either : rows.Pairwise fun a b => r a b ∨ r b a := apart.imp Or.inl
  have symm : Std.Symm fun a b => r a b ∨ r b a := ⟨fun _ _ => Or.symm⟩
  exact (either.forall first second different).elim close close'

/-- The id names the row. -/
theorem eq_of_id {t : Table ρ} {a b : ρ} (first : a ∈ t.rows) (second : b ∈ t.rows)
    (same : Row.id a = Row.id b) : a = b :=
  eq_of_pairwise t.ascending first second (by omega) (by omega)

/-- The unique columns name the row. -/
theorem eq_of_clash {t : Table ρ} {a b : ρ} (first : a ∈ t.rows) (second : b ∈ t.rows)
    (clash : Row.clash a b = true) : a = b :=
  eq_of_pairwise t.unique first second (by simp [clash]) (by simp [Row.clash_comm b a, clash])

/-- A search that only one row can answer finds it. -/
theorem find_eq {t : Table ρ} {selected : ρ → Bool} {a : ρ} (inside : a ∈ t.rows)
    (match_ : selected a = true) (only : ∀ b ∈ t.rows, selected b = true → b = a) :
    t.rows.find? selected = some a := by
  cases found : t.rows.find? selected with
  | none => exact absurd match_ (List.find?_eq_none.mp found a inside)
  | some b => rw [only b (List.mem_of_find?_eq_some found) (List.find?_some found)]

end Table

/-! ### Rows over time -/

/-- A later list of rows: those of the earlier one in their places, as they have become, and new ones behind them. -/
inductive Continues {ρ : Type} (becomes : ρ → ρ → Prop) : List ρ → List ρ → Prop where
  | behind (new : List ρ) : Continues becomes [] new
  | keeps {r r' : ρ} {rows rows' : List ρ} (became : becomes r r') (rest : Continues becomes rows rows') :
      Continues becomes (r :: rows) (r' :: rows')

namespace Continues
variable {ρ : Type} {becomes : ρ → ρ → Prop} {rows rows' rows'' : List ρ}

theorem refl (same : ∀ r, becomes r r) (rows : List ρ) : Continues becomes rows rows := by
  induction rows with
  | nil => exact .behind []
  | cons r rows ih => exact .keeps (same r) ih

theorem trans (chain : ∀ a b c, becomes a b → becomes b c → becomes a c) (first : Continues becomes rows rows')
    (second : Continues becomes rows' rows'') : Continues becomes rows rows'' := by
  induction first generalizing rows'' with
  | behind => exact .behind _
  | keeps became rest ih =>
    cases second with
    | keeps became' rest' => exact .keeps (chain _ _ _ became became') (ih rest')

/-- Every row of the earlier list is found in the later one. -/
theorem mem (continues : Continues becomes rows rows') {r : ρ} (inside : r ∈ rows) : ∃ r' ∈ rows', becomes r r' := by
  induction continues with
  | behind => simp at inside
  | @keeps old old' _ _ became rest ih =>
    rcases List.mem_cons.mp inside with rfl | further
    · exact ⟨old', List.mem_cons_self, became⟩
    · obtain ⟨r', there, became'⟩ := ih further
      exact ⟨r', List.mem_cons_of_mem _ there, became'⟩

theorem append (same : ∀ r, becomes r r) (rows new : List ρ) : Continues becomes rows (rows ++ new) := by
  induction rows with
  | nil => exact .behind new
  | cons r rows ih => exact .keeps (same r) ih

theorem map {change : ρ → ρ} (each : ∀ r ∈ rows, becomes r (change r)) : Continues becomes rows (rows.map change) := by
  induction rows with
  | nil => exact .behind []
  | cons r rows ih => exact .keeps (each r List.mem_cons_self) (ih fun r inside => each r (List.mem_cons_of_mem _ inside))

theorem insert [Row ρ] (same : ∀ r, becomes r r) (t : Table ρ) (r : ρ) : Continues becomes t.rows (t.insert r).rows := by
  rw [Table.rows_insert]
  split
  · exact refl same _
  · exact append same _ _

theorem update [Row ρ] (same : ∀ r, becomes r r) {t : Table ρ} {selected : ρ → Bool} {change : RowUpdate ρ}
    (each : ∀ r ∈ t.rows, selected r = true → becomes r (change.apply r)) : Continues becomes t.rows (t.update selected change).rows := by
  refine map fun r inside => ?_
  split
  · rename_i chosen
    exact each r inside chosen
  · exact same r

end Continues
end NovaIIM
