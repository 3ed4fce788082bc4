import Mathlib.Data.List.AList
import NovaIIM.Protocol
import NovaIIM.Recency

/-!
The dedup cache of `MsgService`: a linked list of acks in the order of their
last use with an index from keys to list nodes (`dedup_order_`,
`dedup_index_`).

A node of a `std::list` keeps its iterator while it moves, so nodes carry a
number and the index holds numbers. `DedupCache` includes that the index finds
exactly the nodes of the list. `view` forgets nodes and index; `dedupFind` and
`dedupInsert` then are `find` and `insert` of a least recently used map
(`dedupFind_view`, `dedupInsert_view`).
-/
namespace NovaIIM

/-- A list node: its iterator, key and ack. -/
structure DedupNode where
  id : Nat
  key : Bytes
  ack : SendMsgAck
deriving DecidableEq, Repr

structure DedupCache where
  order : List DedupNode
  index : AList fun _ : Bytes => Nat
  nextNode : Nat
  nodes : order.Pairwise fun a b => a.id ≠ b.id
  below : ∀ n ∈ order, n.id < nextNode
  indexed : ∀ key it, index.lookup key = some it ↔ ∃ n ∈ order, n.key = key ∧ n.id = it

namespace DedupCache

instance : EmptyCollection DedupCache where
  emptyCollection := ⟨[], ∅, 0, .nil, by simp, by simp⟩

/-- `dedup_order_.splice(dedup_order_.end(), dedup_order_, it)`. -/
def splice (c : DedupCache) (it : Nat) : DedupCache where
  order := c.order.filter (fun n => n.id ≠ it) ++ c.order.filter fun n => n.id = it
  index := c.index
  nextNode := c.nextNode
  nodes := by
    refine List.pairwise_append.mpr ⟨c.nodes.filter _, c.nodes.filter _, ?_⟩
    intro a first b last same
    simp only [List.mem_filter, decide_eq_true_eq] at first last
    exact first.2 (same.trans last.2)
  below := by
    intro n inside
    simp only [List.mem_append, List.mem_filter] at inside
    exact c.below n (inside.elim And.left And.left)
  indexed := by
    intro key found
    rw [c.indexed]
    refine exists_congr fun n => and_congr_left fun _ => ?_
    by_cases here : n.id = it <;> simp [here]

/-- `it->second->second = ack`. -/
def assign (c : DedupCache) (it : Nat) (ack : SendMsgAck) : DedupCache where
  order := c.order.map fun n => if n.id = it then { n with ack := ack } else n
  index := c.index
  nextNode := c.nextNode
  nodes := by
    refine c.nodes.map _ fun a b apart => ?_
    split <;> split <;> simpa using apart
  below := by
    intro n inside
    obtain ⟨old, there, rfl⟩ := List.mem_map.mp inside
    have := c.below old there
    split <;> simpa using this
  indexed := by
    intro key found
    rw [c.indexed]
    constructor
    · rintro ⟨n, there, rfl, rfl⟩
      exact ⟨_, List.mem_map_of_mem there, by split <;> rfl, by split <;> rfl⟩
    · rintro ⟨_, inside, rfl, rfl⟩
      obtain ⟨n, there, rfl⟩ := List.mem_map.mp inside
      exact ⟨n, there, by split <;> rfl, by split <;> rfl⟩

private theorem eq_of_key {c : DedupCache} {a b : DedupNode} (first : a ∈ c.order) (second : b ∈ c.order)
    (same : a.key = b.key) : a.id = b.id := by
  have found := (c.indexed a.key a.id).mpr ⟨a, first, rfl, rfl⟩
  have found' := (c.indexed a.key b.id).mpr ⟨b, second, same.symm, rfl⟩
  exact Option.some.inj (found.symm.trans found')

theorem keys_apart (c : DedupCache) : c.order.Pairwise fun a b => a.key ≠ b.key :=
  c.nodes.imp_of_mem fun first second apart same => apart (eq_of_key first second same)

/-- `dedup_index_.erase(front.first); dedup_order_.pop_front()`. -/
def popFront (c : DedupCache) : DedupCache :=
  match listed : c.order with
  | [] => c
  | oldest :: rest =>
    { order := rest
      index := c.index.erase oldest.key
      nextNode := c.nextNode
      nodes := (List.pairwise_cons.mp (listed ▸ c.nodes)).2
      below := fun n inside => c.below n (by simp [listed, inside])
      indexed := by
        intro key it
        have apart := (List.pairwise_cons.mp (listed ▸ c.keys_apart)).1
        by_cases same : key = oldest.key
        · subst same
          simp only [AList.lookup_erase, reduceCtorEq, false_iff]
          rintro ⟨n, inside, same, _⟩
          exact apart n inside same.symm
        · rw [AList.lookup_erase_ne same, c.indexed, listed]
          simp [Ne.symm same] }

/-- The loop that drops the oldest entries until the index is below the bound.
    Each round removes one entry, so as many rounds as there are entries suffice. -/
def evict (maxSize : Nat) : Nat → DedupCache → DedupCache
  | 0, c => c
  | rounds + 1, c => if maxSize ≤ c.index.keys.length then evict maxSize rounds c.popFront else c

theorem popFront_absent {c : DedupCache} {key : Bytes} (absent : c.index.lookup key = none) :
    c.popFront.index.lookup key = none := by
  unfold popFront
  split
  · exact absent
  · by_cases same : key = ‹DedupNode›.key
    · rw [same]
      exact AList.lookup_erase _ _
    · rw [AList.lookup_erase_ne same]
      exact absent

theorem evict_absent {key : Bytes} (maxSize rounds : Nat) {c : DedupCache}
    (absent : c.index.lookup key = none) : (evict maxSize rounds c).index.lookup key = none := by
  induction rounds generalizing c with
  | zero => exact absent
  | succ rounds ih =>
    unfold evict
    split
    · exact ih (popFront_absent absent)
    · exact absent

/-- `dedup_order_.emplace_back(key, ack); dedup_index_[key] = std::prev(dedup_order_.end())`. -/
def emplaceBack (c : DedupCache) (key : Bytes) (ack : SendMsgAck) (absent : c.index.lookup key = none) :
    DedupCache where
  order := c.order ++ [⟨c.nextNode, key, ack⟩]
  index := c.index.insert key c.nextNode
  nextNode := c.nextNode + 1
  nodes := by
    refine List.pairwise_append.mpr ⟨c.nodes, List.pairwise_singleton _ _, ?_⟩
    intro a inside b last
    have := c.below a inside
    rw [List.mem_singleton.mp last]
    exact Nat.ne_of_lt this
  below := by
    intro n inside
    obtain old | new := List.mem_append.mp inside
    · have := c.below n old
      omega
    · rw [List.mem_singleton.mp new]
      exact Nat.lt_succ_self _
  indexed := by
    intro other it
    by_cases same : other = key
    · subst same
      rw [AList.lookup_insert]
      constructor
      · intro found
        exact ⟨⟨c.nextNode, other, ack⟩, by simp, rfl, Option.some.inj found⟩
      · rintro ⟨n, inside, same, rfl⟩
        obtain old | new := List.mem_append.mp inside
        · rw [(c.indexed _ _).mpr ⟨n, old, same, rfl⟩] at absent
          exact absurd absent (by simp)
        · rw [List.mem_singleton.mp new]
    · rw [AList.lookup_insert_ne same, c.indexed]
      simp [Ne.symm same]

/-- `MsgService::DedupFind`. -/
def dedupFind (c : DedupCache) (key : Bytes) : Option SendMsgAck × DedupCache :=
  match c.index.lookup key with
  | none => (none, c)
  | some it => ((c.order.find? fun n => n.id = it).map DedupNode.ack, c.splice it)

/-- `MsgService::DedupInsert`. -/
def dedupInsert (maxSize : Nat) (c : DedupCache) (key : Bytes) (ack : SendMsgAck) : DedupCache :=
  if maxSize = 0 then c else
  match found : c.index.lookup key with
  | some it => (c.assign it ack).splice it
  | none => (evict maxSize c.order.length c).emplaceBack key ack (evict_absent _ _ found)

/-! ### The cache as a least recently used map -/

/-- The keys and acks of the cache, least recently used first. -/
def view (c : DedupCache) : Recency Bytes SendMsgAck where
  entries := c.order.map fun n => (n.key, n.ack)
  distinct := by
    rw [List.map_map, List.Nodup, List.pairwise_map]
    exact c.keys_apart

/-- `dedup_index_` has one entry for each node. -/
theorem size_index (c : DedupCache) : c.index.keys.length = c.order.length := by
  have same : c.index.keys.Perm (c.order.map DedupNode.key) := by
    refine (List.perm_ext_iff_of_nodup c.index.keys_nodup (List.pairwise_map.mpr c.keys_apart)).mpr fun key => ?_
    rw [← AList.mem_keys, ← AList.lookup_isSome, Option.isSome_iff_exists, List.mem_map]
    constructor
    · rintro ⟨it, found⟩
      obtain ⟨n, inside, same, _⟩ := (c.indexed key it).mp found
      exact ⟨n, inside, same⟩
    · rintro ⟨n, inside, rfl⟩
      exact ⟨n.id, (c.indexed _ _).mpr ⟨n, inside, rfl, rfl⟩⟩
  simpa using same.length_eq

theorem eq_of_id {c : DedupCache} {a b : DedupNode} (first : a ∈ c.order) (second : b ∈ c.order)
    (same : a.id = b.id) : a = b := by
  by_contra different
  have symm : Std.Symm fun a b : DedupNode => a.id ≠ b.id := ⟨fun _ _ => Ne.symm⟩
  exact c.nodes.forall first second different same

private theorem filter_node {c : DedupCache} {n : DedupNode} (inside : n ∈ c.order) :
    c.order.filter (fun m => m.id = n.id) = [n] := by
  have distinct : c.order.Nodup := c.nodes.imp fun apart same => apart (congrArg DedupNode.id same)
  have only : c.order.filter (fun m => m.id = n.id) = c.order.filter fun m => m = n := by
    refine List.filter_congr fun m there => ?_
    by_cases same : m.id = n.id
    · simp [eq_of_id there inside same]
    · simp [same, show m ≠ n from fun equal => same (congrArg DedupNode.id equal)]
  rw [only, List.filter_eq, distinct.count, if_pos inside, List.replicate_one]

private theorem others_view {c : DedupCache} {n : DedupNode} (inside : n ∈ c.order) :
    c.view.others n.key = (c.order.filter fun m => m.id ≠ n.id).map fun m => (m.key, m.ack) := by
  simp only [Recency.others, view, List.filter_map]
  congr 1
  refine List.filter_congr fun m there => ?_
  have : m.key = n.key ↔ m.id = n.id :=
    ⟨eq_of_key there inside, fun same => by rw [eq_of_id there inside same]⟩
  simp [this]

private theorem mem_view {c : DedupCache} {n : DedupNode} (inside : n ∈ c.order) :
    (n.key, n.ack) ∈ c.view.entries := List.mem_map_of_mem inside

theorem ext_view {a b : Recency Bytes SendMsgAck} (same : a.entries = b.entries) : a = b := by
  cases a
  cases b
  simpa using same

private theorem absent_view {c : DedupCache} {key : Bytes} (absent : c.index.lookup key = none) :
    ∀ e ∈ c.view.entries, e.1 ≠ key := by
  rintro e inside rfl
  obtain ⟨n, there, rfl⟩ := List.mem_map.mp inside
  rw [(c.indexed _ _).mpr ⟨n, there, rfl, rfl⟩] at absent
  exact absurd absent (by simp)

/-- `DedupFind` is a lookup in the least recently used map. -/
theorem dedupFind_view (c : DedupCache) (key : Bytes) :
    (c.dedupFind key).1 = (c.view.find key).1 ∧ (c.dedupFind key).2.view = (c.view.find key).2 := by
  unfold dedupFind
  split
  · rename_i absent
    have missing : c.view.entries.find? (fun e => e.1 = key) = none := by
      refine List.find?_eq_none.mpr fun e inside => ?_
      simpa using absent_view absent e inside
    simp [Recency.find, missing]
  · rename_i it found
    obtain ⟨n, inside, rfl, rfl⟩ := (c.indexed key it).mp found
    rw [Recency.find_mem (mem_view inside)]
    have here : c.order.find? (fun m => m.id = n.id) = some n := by
      rw [← List.head?_filter, filter_node inside, List.head?_cons]
    refine ⟨by simp [here], ext_view ?_⟩
    rw [Recency.refresh_entries, others_view inside]
    simp [splice, view, filter_node inside]

/-- A lookup that finds nothing changes nothing. -/
theorem dedupFind_absent {c : DedupCache} {key : Bytes} (absent : (c.dedupFind key).1 = none) :
    (c.dedupFind key).2 = c := by
  unfold dedupFind at absent ⊢
  split
  · rfl
  · rename_i it found
    simp only [found, Option.map_eq_none_iff, List.find?_eq_none, decide_eq_true_eq] at absent
    obtain ⟨n, inside, -, here⟩ := (c.indexed key it).mp found
    exact absurd here (absent n inside)

private theorem popFront_order (c : DedupCache) : c.popFront.order = c.order.tail := by
  unfold popFront
  split <;> simp_all

private theorem evict_order {maxSize : Nat} (room : 0 < maxSize) (rounds : Nat) (c : DedupCache)
    (enough : c.order.length ≤ rounds) :
    (evict maxSize rounds c).order = c.order.drop (c.order.length + 1 - maxSize) := by
  induction rounds generalizing c with
  | zero => simp [evict, List.length_eq_zero_iff.mp (Nat.le_zero.mp enough)]
  | succ rounds ih =>
    unfold evict
    split
    · rename_i full
      rw [size_index] at full
      have shorter : c.popFront.order.length = c.order.length - 1 := by
        rw [popFront_order, List.length_tail]
      rw [ih c.popFront (by omega), shorter, popFront_order, ← List.drop_one, List.drop_drop]
      congr 1
      omega
    · rename_i fits
      rw [size_index] at fits
      rw [show c.order.length + 1 - maxSize = 0 by omega, List.drop_zero]

private theorem assign_view {c : DedupCache} {n : DedupNode} (inside : n ∈ c.order) (ack : SendMsgAck) :
    ((c.assign n.id ack).splice n.id).view.entries = c.view.others n.key ++ [(n.key, ack)] := by
  have elsewhere : ((c.order.map fun m => if m.id = n.id then { m with ack := ack } else m).filter
      fun m => m.id ≠ n.id) = c.order.filter fun m => m.id ≠ n.id := by
    rw [List.filter_map]
    have same_ids : ((fun m : DedupNode => decide (m.id ≠ n.id)) ∘
        fun m => if m.id = n.id then { m with ack := ack } else m) = fun m => decide (m.id ≠ n.id) := by
      funext m
      by_cases here : m.id = n.id <;> simp [here]
    rw [same_ids]
    refine (List.map_congr_left fun m there => ?_).trans (List.map_id _)
    simp [(by simpa using (List.mem_filter.mp there).2 : m.id ≠ n.id)]
  have here : ((c.order.map fun m => if m.id = n.id then { m with ack := ack } else m).filter
      fun m => m.id = n.id) = [{ n with ack := ack }] := by
    rw [List.filter_map]
    have same_ids : ((fun m : DedupNode => decide (m.id = n.id)) ∘
        fun m => if m.id = n.id then { m with ack := ack } else m) = fun m => decide (m.id = n.id) := by
      funext m
      by_cases here : m.id = n.id <;> simp [here]
    rw [same_ids, filter_node inside]
    simp
  rw [others_view inside]
  simp only [splice, assign, view, elsewhere, here, List.map_append]
  rfl

/-- `DedupInsert` is an insertion into the least recently used map. -/
theorem dedupInsert_view (maxSize : Nat) (c : DedupCache) (key : Bytes) (ack : SendMsgAck) :
    (dedupInsert maxSize c key ack).view = Recency.insert maxSize c.view key ack := by
  by_cases room : maxSize = 0
  · simp [dedupInsert, Recency.insert, room]
  refine ext_view ?_
  rw [dedupInsert, if_neg room]
  split
  · rename_i it found
    obtain ⟨n, inside, rfl, rfl⟩ := (c.indexed key it).mp found
    have present : n.key ∈ c.view.entries.map Prod.fst := List.mem_map_of_mem (mem_view inside)
    rw [assign_view inside, Recency.insert, if_neg room, dif_pos present, Recency.refresh_entries]
  · rename_i absent
    have missing : key ∉ c.view.entries.map Prod.fst := by
      intro inside
      obtain ⟨e, there, same⟩ := List.mem_map.mp inside
      exact absent_view absent e there same
    rw [Recency.insert_new ack (by omega) missing]
    simp [emplaceBack, view, evict_order (Nat.pos_of_ne_zero room) _ c le_rfl, List.map_drop]

end DedupCache
end NovaIIM
