import NovaIIM.DedupCache
import NovaIIM.Objects

/-!
The dedup cache over whole runs.

Any sequence of `DedupFind` and `DedupInsert` is answered as a least recently used map
of the same capacity answers it, and leaves the list and the index paired.
-/
namespace NovaIIM

inductive DedupCall where
  | find (key : Bytes)
  | insert (key : Bytes) (ack : SendMsgAck)
deriving DecidableEq, Repr

namespace DedupCache

/-- A call of the cache. -/
def serve (maxSize : Nat) (c : DedupCache) : DedupCall → Option SendMsgAck × DedupCache
  | .find key => c.dedupFind key
  | .insert key ack => (none, dedupInsert maxSize c key ack)

/-- The call as a least recently used map serves it. -/
def serveView (maxSize : Nat) (m : Recency Bytes SendMsgAck) : DedupCall → Option SendMsgAck × Recency Bytes SendMsgAck
  | .find key => m.find key
  | .insert key ack => (none, m.insert maxSize key ack)

/-- Every key of the index leads to one node, which has the key, and every node is led to by one key. -/
structure Paired (c : DedupCache) : Prop where
  node : ∀ key it, c.index.lookup key = some it → ∃ n ∈ c.order, n.key = key ∧ n.id = it ∧ ∀ m ∈ c.order, m.id = it → m = n
  key : ∀ n ∈ c.order, c.index.lookup n.key = some n.id ∧ ∀ key, c.index.lookup key = some n.id → key = n.key

theorem paired (c : DedupCache) : Paired c where
  node key it found := by
    obtain ⟨n, inside, same, rfl⟩ := (c.indexed key it).mp found
    exact ⟨n, inside, same, rfl, fun m there equal => eq_of_id there inside equal⟩
  key n inside := by
    refine ⟨(c.indexed _ _).mpr ⟨n, inside, rfl, rfl⟩, fun key found => ?_⟩
    obtain ⟨m, there, same, equal⟩ := (c.indexed _ _).mp found
    rw [← same, eq_of_id there inside equal]

/-- The cache serves a call as its view does. -/
theorem serve_simulates (maxSize : Nat) :
    Simulation (fun (c : DedupCache) m => c.view = m ∧ m.entries.length ≤ maxSize) (serve maxSize) (serveView maxSize) := by
  rintro c _ call ⟨rfl, fits⟩
  cases call with
  | find key =>
    obtain ⟨answer, next⟩ := c.dedupFind_view key
    exact ⟨answer, next, (Recency.length_find c.view key).trans_le fits⟩
  | insert key ack => exact ⟨rfl, dedupInsert_view maxSize c key ack, Recency.length_insert fits⟩

/-- A new cache of any capacity is a least recently used map of that capacity, over every run. -/
theorem least_recently_used (maxSize : Nat) (calls : List DedupCall) :
    repliesTo (serve maxSize) ∅ calls = repliesTo (serveView maxSize) ∅ calls ∧
      (leftBy (serve maxSize) ∅ calls).view = leftBy (serveView maxSize) ∅ calls ∧
      (leftBy (serve maxSize) ∅ calls).order.length ≤ maxSize ∧
      (leftBy (serve maxSize) ∅ calls).index.keys.length = (leftBy (serve maxSize) ∅ calls).order.length ∧
      Paired (leftBy (serve maxSize) ∅ calls) := by
  have start : (∅ : DedupCache).view = ∅ ∧ (∅ : Recency Bytes SendMsgAck).entries.length ≤ maxSize :=
    ⟨rfl, Nat.zero_le _⟩
  obtain ⟨view, fits⟩ := (serve_simulates maxSize).related_left start calls
  refine ⟨(serve_simulates maxSize).same_replies start calls, view, ?_, size_index _, paired _⟩
  rw [← view] at fits
  simpa [DedupCache.view] using fits

end DedupCache
end NovaIIM
