import Mathlib.Data.Finset.Card
import Mathlib.Data.List.Nodup

/-!
The least recently used map, and how long a key survives in it.

A map of this kind is the list of its entries from the least to the most
recently used (`Recency`). `find` and `insert` move the key they name to the
end; `insert` of a new key first drops entries from the front until there is
room. A key is lost only after as many distinct other keys as the capacity have
been used since its own last use: `Holds key value used` says that `key` is
present and that only keys of `used` are more recent, every operation carries it
along, and only an insertion that brings `used` up to the capacity can end it.
-/
namespace NovaIIM

/-- The entries of a map, least recently used first. -/
structure Recency (κ ν : Type) where
  entries : List (κ × ν)
  distinct : (entries.map Prod.fst).Nodup

namespace Recency
variable {κ ν : Type}

instance : EmptyCollection (Recency κ ν) := ⟨⟨[], by simp⟩⟩

@[simp] theorem entries_empty : (∅ : Recency κ ν).entries = [] := rfl

private theorem nodup_sublist {a b : List (κ × ν)} (shorter : a.Sublist b)
    (distinct : (b.map Prod.fst).Nodup) : (a.map Prod.fst).Nodup :=
  distinct.sublist (shorter.map _)

private theorem nodup_snoc {a : List (κ × ν)} {key : κ} (value : ν) (distinct : (a.map Prod.fst).Nodup)
    (absent : ∀ e ∈ a, e.1 ≠ key) : ((a ++ [(key, value)]).map Prod.fst).Nodup := by
  rw [List.map_append, List.nodup_append]
  refine ⟨distinct, by simp, ?_⟩
  intro k inside k' new same
  obtain ⟨e, old, rfl⟩ := List.mem_map.mp inside
  rw [List.map_singleton, List.mem_singleton] at new
  exact absent e old (same.trans new)

/-- `key` is present with `value`, and only keys of `used` are more recent. -/
def Holds (key : κ) (value : ν) (used : Finset κ) (m : Recency κ ν) : Prop :=
  ∃ old fresh, m.entries = old ++ (key, value) :: fresh ∧ ∀ e ∈ fresh, e.1 ∈ used

theorem Holds.mono {key : κ} {value : ν} {used more : Finset κ} {m : Recency κ ν}
    (holds : Holds key value used m) (within : used ⊆ more) : Holds key value more m := by
  obtain ⟨old, fresh, split, recent⟩ := holds
  exact ⟨old, fresh, split, fun e inside => within (recent e inside)⟩

theorem Holds.mem {key : κ} {value : ν} {used : Finset κ} {m : Recency κ ν}
    (holds : Holds key value used m) : (key, value) ∈ m.entries := by
  obtain ⟨old, fresh, split, recent⟩ := holds
  simp [split]

variable [DecidableEq κ]

/-- The entries without the one of `key`. -/
def others (m : Recency κ ν) (key : κ) : List (κ × ν) := m.entries.filter fun e => e.1 ≠ key

/-- The map with `key` as its most recently used entry. -/
def refresh (m : Recency κ ν) (key : κ) (value : ν) : Recency κ ν where
  entries := m.others key ++ [(key, value)]
  distinct := nodup_snoc value (nodup_sublist List.filter_sublist m.distinct) (by simp [others])

/-- Look a key up and make it the most recently used. -/
def find (m : Recency κ ν) (key : κ) : Option ν × Recency κ ν :=
  match m.entries.find? fun e => e.1 = key with
  | none => (none, m)
  | some (_, value) => (some value, m.refresh key value)

/-- Store a value; a new key takes the place of the least recently used entries. -/
def insert (capacity : Nat) (m : Recency κ ν) (key : κ) (value : ν) : Recency κ ν :=
  if capacity = 0 then m
  else if present : key ∈ m.entries.map Prod.fst then m.refresh key value
  else
    { entries := m.entries.drop (m.entries.length + 1 - capacity) ++ [(key, value)]
      distinct := nodup_snoc value (nodup_sublist (List.drop_sublist _ _) m.distinct)
        fun _ inside same => present (same ▸ List.mem_map_of_mem (List.mem_of_mem_drop inside)) }

theorem refresh_entries (m : Recency κ ν) (key : κ) (value : ν) :
    (m.refresh key value).entries = m.others key ++ [(key, value)] := rfl

private theorem length_others {m : Recency κ ν} {key : κ} (present : key ∈ m.entries.map Prod.fst) :
    (m.others key).length + 1 = m.entries.length := by
  have once : (m.entries.map Prod.fst).count key = 1 := m.distinct.count.trans (if_pos present)
  have kept := List.length_eq_countP_add_countP (fun e : κ × ν => decide (e.1 = key)) (l := m.entries)
  rw [List.count, List.countP_map] at once
  have same : m.entries.countP ((fun k => k == key) ∘ Prod.fst) = m.entries.countP fun e => decide (e.1 = key) := rfl
  rw [others, ← List.countP_eq_length_filter, kept, ← same, once, Nat.add_comm]
  simp

theorem length_refresh {m : Recency κ ν} {key : κ} (value : ν) (present : key ∈ m.entries.map Prod.fst) :
    (m.refresh key value).entries.length = m.entries.length := by
  rw [refresh_entries, List.length_append, List.length_singleton, length_others present]

theorem insert_new {capacity : Nat} {m : Recency κ ν} {key : κ} (value : ν) (room : 0 < capacity)
    (absent : key ∉ m.entries.map Prod.fst) :
    (insert capacity m key value).entries =
      m.entries.drop (m.entries.length + 1 - capacity) ++ [(key, value)] := by
  rw [insert, if_neg (by omega), dif_neg absent]

/-- A lookup takes no room. -/
theorem length_find (m : Recency κ ν) (key : κ) : (m.find key).2.entries.length = m.entries.length := by
  unfold find
  split
  · rfl
  · next k v entry =>
    obtain rfl : k = key := by simpa using List.find?_some entry
    exact length_refresh v (List.mem_map_of_mem (List.mem_of_find?_eq_some entry))

/-- An insertion keeps the map within its capacity. -/
theorem length_insert {capacity : Nat} {m : Recency κ ν} {key : κ} {value : ν} (fits : m.entries.length ≤ capacity) :
    (insert capacity m key value).entries.length ≤ capacity := by
  unfold insert
  split
  · exact fits
  split
  · next present =>
    rw [length_refresh value present]
    exact fits
  · simp only [List.length_append, List.length_drop, List.length_singleton]
    omega

/-- A key that is found is present with the value. -/
theorem mem_of_find {key : κ} {value : ν} {m : Recency κ ν} (found : (m.find key).1 = some value) :
    (key, value) ∈ m.entries := by
  unfold find at found
  split at found
  · simp at found
  · rename_i k v entry
    have same : k = key := by simpa using List.find?_some entry
    obtain rfl : v = value := by simpa using found
    exact same ▸ List.mem_of_find?_eq_some entry

/-- A key that is not found is absent. -/
theorem absent_of_find {key : κ} {m : Recency κ ν} (missing : (m.find key).1 = none) :
    ∀ e ∈ m.entries, e.1 ≠ key := by
  intro e inside same
  unfold find at missing
  split at missing
  · rename_i none
    exact absurd same (by simpa using List.find?_eq_none.mp none e inside)
  · simp at missing

/-- A lookup adds nothing. -/
theorem mem_find {key : κ} {m : Recency κ ν} {e : κ × ν} (inside : e ∈ (m.find key).2.entries) :
    e ∈ m.entries := by
  unfold find at inside
  split at inside
  · exact inside
  · rename_i k v entry
    have same : k = key := by simpa using List.find?_some entry
    obtain other | last := List.mem_append.mp inside
    · exact (List.mem_filter.mp other).1
    · rw [List.mem_singleton.mp last, ← same]
      exact List.mem_of_find?_eq_some entry

/-- An insertion adds nothing but its own entry. -/
theorem mem_insert {capacity : Nat} {key : κ} {value : ν} {m : Recency κ ν} {e : κ × ν}
    (inside : e ∈ (insert capacity m key value).entries) : e = (key, value) ∨ e ∈ m.entries := by
  unfold insert at inside
  split at inside
  · exact .inr inside
  split at inside
  · obtain other | last := List.mem_append.mp inside
    · exact .inr (List.mem_filter.mp other).1
    · exact .inl (List.mem_singleton.mp last)
  · obtain other | last := List.mem_append.mp inside
    · exact .inr (List.mem_of_mem_drop other)
    · exact .inl (List.mem_singleton.mp last)

/-! ### Survival -/

theorem holds_refresh (m : Recency κ ν) (key : κ) (value : ν) :
    Holds key value ∅ (m.refresh key value) :=
  ⟨m.others key, [], rfl, by simp⟩

variable {key other : κ} {value : ν} {used : Finset κ} {m : Recency κ ν}

private theorem find_of_mem (inside : (key, value) ∈ m.entries) :
    m.entries.find? (fun e => e.1 = key) = some (key, value) := by
  cases found : m.entries.find? (fun e => e.1 = key) with
  | none => exact absurd (List.find?_eq_none.mp found _ inside) (by simp)
  | some e =>
    have same : e.1 = key := by simpa using List.find?_some found
    rw [List.inj_on_of_nodup_map m.distinct (List.mem_of_find?_eq_some found) inside same]

theorem find_mem (inside : (key, value) ∈ m.entries) : m.find key = (some value, m.refresh key value) := by
  rw [find, find_of_mem inside]

/-- A held key is found, and its use makes it the most recent one. -/
theorem Holds.find_self (holds : Holds key value used m) :
    (m.find key).1 = some value ∧ Holds key value ∅ (m.find key).2 := by
  rw [find_mem holds.mem]
  exact ⟨rfl, holds_refresh m key value⟩

theorem Holds.refresh_other (different : other ≠ key) (holds : Holds key value used m) (new : ν) :
    Holds key value (Insert.insert other used) (m.refresh other new) := by
  obtain ⟨old, fresh, split, recent⟩ := holds
  refine ⟨old.filter fun e => e.1 ≠ other, (fresh.filter fun e => e.1 ≠ other) ++ [(other, new)], ?_, ?_⟩
  · simp [refresh_entries, others, split, Ne.symm different]
  · intro e inside
    obtain before | last := List.mem_append.mp inside
    · exact Finset.mem_insert_of_mem (recent e (List.mem_filter.mp before).1)
    · simp [List.mem_singleton.mp last]

/-- The use of another key leaves a held key where it is. -/
theorem Holds.find_other (different : other ≠ key) (holds : Holds key value used m) :
    Holds key value (Insert.insert other used) (m.find other).2 := by
  unfold find
  split
  · exact holds.mono (Finset.subset_insert _ _)
  · exact holds.refresh_other different _

theorem holds_insert_self {capacity : Nat} (room : 0 < capacity) (m : Recency κ ν) (key : κ) (value : ν) :
    Holds key value ∅ (insert capacity m key value) := by
  by_cases present : key ∈ m.entries.map Prod.fst
  · rw [insert, if_neg (by omega), dif_pos present]
    exact holds_refresh m key value
  · exact ⟨_, [], insert_new value room present, by simp⟩

/-- Storing another key leaves a held key where it is, as long as the keys used
    since are fewer than the capacity. -/
theorem Holds.insert_other {capacity : Nat} (different : other ≠ key) (holds : Holds key value used m)
    (new : ν) (few : (Insert.insert other used).card < capacity) :
    Holds key value (Insert.insert other used) (insert capacity m other new) := by
  have room : 0 < capacity := by omega
  by_cases present : other ∈ m.entries.map Prod.fst
  · rw [insert, if_neg (by omega), dif_pos present]
    exact holds.refresh_other different new
  obtain ⟨old, fresh, split, recent⟩ := holds
  -- the keys more recent than `key`, with `other`, are distinct keys of `used`
  have count : fresh.length + 1 ≤ (Insert.insert other used).card := by
    have distinct : ((other :: fresh.map Prod.fst)).Nodup := by
      have all := m.distinct
      rw [split] at all present
      simp only [List.map_append, List.map_cons, List.nodup_append, List.nodup_cons, List.mem_append,
        List.mem_cons, not_or] at all present
      exact List.nodup_cons.mpr ⟨present.2.2, all.2.1.2⟩
    have inside : (other :: fresh.map Prod.fst).toFinset ⊆ Insert.insert other used := by
      intro k k_inside
      simp only [List.toFinset_cons, Finset.mem_insert, List.mem_toFinset, List.mem_map] at k_inside ⊢
      obtain here | ⟨e, e_inside, rfl⟩ := k_inside
      · exact Or.inl here
      · exact Or.inr (recent e e_inside)
    have := Finset.card_le_card inside
    rwa [List.toFinset_card_of_nodup distinct, List.length_cons, List.length_map] at this
  have few_dropped : m.entries.length + 1 - capacity ≤ old.length := by
    rw [split, List.length_append, List.length_cons]
    omega
  refine ⟨old.drop (m.entries.length + 1 - capacity), fresh ++ [(other, new)], ?_, ?_⟩
  · rw [insert_new new room present]
    conv_lhs => rw [split, List.drop_append_of_le_length (by simpa [split] using few_dropped)]
    simp [split]
  · intro e inside
    obtain before | last := List.mem_append.mp inside
    · exact Finset.mem_insert_of_mem (recent e before)
    · simp [List.mem_singleton.mp last]

/-! ### Uses -/

/-- The keys used since the last use of `key`. -/
def since (key : κ) (uses : List κ) : Finset κ :=
  uses.foldl (fun used k => if k = key then ∅ else Insert.insert k used) ∅

/-- Between two uses of `key` fewer than `capacity` other keys are used. -/
def Spaced (capacity : Nat) (key : κ) (uses : List κ) : Prop :=
  ∀ before between later, uses = before ++ key :: (between ++ key :: later) → key ∉ between →
    between.toFinset.card < capacity

@[simp] theorem since_nil (key : κ) : since key [] = ∅ := rfl

theorem since_snoc (key other : κ) (uses : List κ) :
    since key (uses ++ [other]) = if other = key then ∅ else Insert.insert other (since key uses) := by
  simp [since]

theorem since_last (key : κ) (before : List κ) {between : List κ} (none : key ∉ between) :
    since key (before ++ key :: between) = between.toFinset := by
  induction between using List.reverseRecOn with
  | nil => simp [since_snoc]
  | append_singleton between other ih =>
    simp only [List.mem_append, List.mem_singleton, not_or] at none
    have shape : before ++ key :: (between ++ [other]) = (before ++ key :: between) ++ [other] := by simp
    rw [shape, since_snoc, if_neg (Ne.symm none.2), ih none.1]
    ext k
    simp

theorem Spaced.of_append {capacity : Nat} {uses more : List κ} (spaced : Spaced capacity key (uses ++ more)) :
    Spaced capacity key uses := by
  intro before between later split none
  exact spaced before between (later ++ more) (by simp [split]) none

theorem spaced_of_length {capacity : Nat} {uses : List κ} (few : uses.length ≤ capacity) :
    Spaced capacity key uses := by
  intro before between later split none
  have shorter := between.toFinset_card_le
  simp only [split, List.length_append, List.length_cons] at few
  omega

/-- What is used since the last use of a key is bounded when it is used again. -/
theorem Spaced.since {capacity : Nat} {uses : List κ} (spaced : Spaced capacity key (uses ++ [key]))
    (used : key ∈ uses) : (since key uses).card < capacity := by
  obtain ⟨later, before, split, none⟩ := List.eq_append_cons_of_mem (List.mem_reverse.mpr used)
  have last : uses = before.reverse ++ key :: later.reverse := by
    rw [← List.reverse_reverse uses, split]
    simp
  have absent : key ∉ later.reverse := by simpa using none
  have bound := spaced before.reverse later.reverse [] (by simp [last]) absent
  rwa [last, since_last key _ absent]

/-- A use of another key, or none. -/
inductive Ages (capacity : Nat) (key : κ) (m m' : Recency κ ν) : List κ → Prop where
  | unused (same : m' = m) : Ages capacity key m m' []
  | found (other : κ) (different : other ≠ key) (same : m' = (m.find other).2) : Ages capacity key m m' [other]
  | stored (other : κ) (value : ν) (different : other ≠ key) (same : m' = insert capacity m other value) :
      Ages capacity key m m' [other]

section Ages
variable {capacity : Nat} {m' : Recency κ ν} {new uses : List κ}

theorem Ages.absent (ages : Ages capacity key m m' new) (absent : ∀ e ∈ m.entries, e.1 ≠ key) :
    ∀ e ∈ m'.entries, e.1 ≠ key := by
  intro e inside
  cases ages with
  | unused same => exact absent e (same ▸ inside)
  | found other different same => exact absent e (mem_find (same ▸ inside))
  | stored other value different same =>
    obtain rfl | old := mem_insert (same ▸ inside)
    · exact different
    · exact absent e old

/-- A key that holds until too many others are used goes on so. -/
theorem Ages.holds (ages : Ages capacity key m m' new)
    (holds : (since key uses).card < capacity → Holds key value (since key uses) m) :
    (since key (uses ++ new)).card < capacity → Holds key value (since key (uses ++ new)) m' := by
  intro few
  cases ages with
  | unused same =>
    rw [List.append_nil] at few ⊢
    exact same ▸ holds few
  | found other different same =>
    rw [since_snoc, if_neg different] at few ⊢
    exact same ▸ (holds (lt_of_le_of_lt (Finset.card_le_card (Finset.subset_insert _ _)) few)).find_other different
  | stored other new different same =>
    rw [since_snoc, if_neg different] at few ⊢
    exact same ▸ (holds (lt_of_le_of_lt (Finset.card_le_card (Finset.subset_insert _ _)) few)).insert_other
      different new few

end Ages

end Recency
end NovaIIM
