import NovaIIM.MPMCSafety
import NovaIIM.Objects

/-!
The queue of one thread is a bounded FIFO.

A call that nobody interferes with runs through its steps at once. `Stores` says which
items the queue stores: they are in the cells of the tickets from `tail` to `head`, whose
stamps are one ahead, and the cells of the next round carry the tickets that they wait
for. Positions and stamps are the tickets as words, over any number of laps.
-/
namespace NovaIIM
variable {α : Type}

/-! ### The FIFO -/

/-- A queue of bounded length, the oldest item first. -/
structure Fifo (α : Type) (capacity : Nat) where
  items : List α := []
  fits : items.length ≤ capacity := by exact Nat.zero_le _

/-- A call, with how often its exchange fails although the positions agree. -/
inductive QueueCall (α : Type) where
  | push (item : α) (spurious : Nat)
  | pop (spurious : Nat)
deriving DecidableEq, Repr

/-- What `Push` returns, or what `Pop` returns and leaves in `item`. -/
inductive QueueReply (α : Type) where
  | pushed (result : Bool)
  | popped (item : Option (Option α))
deriving DecidableEq, Repr

namespace Fifo
variable {capacity : Nat}

def serve (f : Fifo α capacity) : QueueCall α → Option (QueueReply α) × Fifo α capacity
  | .push item _ =>
    if room : f.items.length < capacity then
      (some (.pushed true), ⟨f.items ++ [item], by rw [List.length_append]; exact room⟩)
    else (some (.pushed false), f)
  | .pop _ =>
    (some (.popped (f.items.head?.map some)), ⟨f.items.tail, Nat.le_trans (List.tail_sublist _).length_le f.fits⟩)

/-- The item that an answered call put in. -/
def entered : QueueCall α × Option (QueueReply α) → Option α
  | (.push item _, some (.pushed true)) => some item
  | _ => none

/-- The item that an answered call took out. -/
def taken : QueueCall α × Option (QueueReply α) → Option α
  | (_, some (.popped (some item))) => item
  | _ => none

/-- The items that came out and those that are left are the ones that went in, in their order. -/
theorem in_order (f : Fifo α capacity) (calls : List (QueueCall α)) :
    (calls.zip (repliesTo serve f calls)).filterMap taken ++ (leftBy serve f calls).items =
      f.items ++ (calls.zip (repliesTo serve f calls)).filterMap entered := by
  induction calls generalizing f with
  | nil => simp [repliesTo]
  | cons call calls ih =>
    rw [repliesTo, List.zip_cons_cons, leftBy_cons, List.filterMap_cons, List.filterMap_cons]
    cases call with
    | push item spurious =>
      by_cases room : f.items.length < capacity
      · simp only [serve, room, dif_pos, taken, entered, ih, List.append_assoc, List.singleton_append]
      · simp only [serve, room, dif_neg, not_false_iff, taken, entered, ih]
    | pop spurious =>
      cases stored : f.items with
      | nil => simp only [serve, stored, List.head?_nil, Option.map_none, taken, entered, ih, List.tail_nil]
      | cons oldest rest =>
        simp only [serve, stored, List.head?_cons, Option.map_some, taken, entered, ih, List.tail_cons, List.cons_append]

end Fifo

namespace MPMCQueue

/-! ### Calls that nobody interferes with -/

/-- The steps of a call, one for each outcome of an exchange; steps without one ignore it. -/
def steps {φ : Type} (step : MPMCQueue α → Bool → φ → MPMCQueue α × φ) (s : MPMCQueue α × φ) (spurious : List Bool) :
    MPMCQueue α × φ :=
  spurious.foldl (fun s spurious => step s.1 spurious s.2) s

/-- Load, then compare and fail a number of times, then compare and go through. -/
def exchanges (spurious : Nat) : List Bool :=
  false :: ((List.replicate spurious [false, true]).flatten ++ [false, false, false, false])

/-- `Push` from its first step on. -/
def pushCall (q : MPMCQueue α) (item : α) (spurious : Nat) : MPMCQueue α × Pushing α :=
  steps push (q, .load item) (exchanges spurious)

/-- `Pop` from its first step on. -/
def popCall (q : MPMCQueue α) (spurious : Nat) : MPMCQueue α × Popping α :=
  steps pop (q, .load) (exchanges spurious)

/-- What a call has returned, if it has. -/
def pushReply : Pushing α → Option (QueueReply α)
  | .done pushed => some (.pushed pushed)
  | _ => none

def popReply : Popping α → Option (QueueReply α)
  | .done popped => some (.popped popped)
  | _ => none

def serve (q : MPMCQueue α) : QueueCall α → Option (QueueReply α) × MPMCQueue α
  | .push item spurious => (pushReply (q.pushCall item spurious).2, (q.pushCall item spurious).1)
  | .pop spurious => (popReply (q.popCall spurious).2, (q.popCall spurious).1)

/-- The queue stores the items from a ticket on. -/
structure Stores (capacity : Capacity) (first : Nat) (items : List α) (q : MPMCQueue α) : Prop where
  sized : q.capacity = capacity
  fits : items.length ≤ capacity.size
  tail : q.tail = word first
  head : q.head = word (first + items.length)
  stored : ∀ i (inside : i < items.length),
    q.buffer ((first + i) % capacity.size) = ⟨word (first + i + 1), some items[i]⟩
  free : ∀ i, items.length ≤ i → i < capacity.size → (q.buffer ((first + i) % capacity.size)).seq = word (first + i)

variable {capacity : Capacity} {first : Nat} {items : List α} {q : MPMCQueue α} {item : α}

/-- A stamp that is behind a position is less than it, as a difference of words. -/
theorem behind_neg {a b : Nat} (behind : a < b) (near : b < a + 2 ^ 63) : (word a - word b).toInt < 0 := by
  rw [BitVec.toInt_eq_toNat_bmod, BitVec.toNat_sub]
  simp only [BitVec.toNat_ofNat, Int.bmod]
  omega

theorem behind_ne {a b : Nat} (behind : a < b) (near : b < a + 2 ^ 63) : word a - word b ≠ 0 := by
  intro same
  have := word_inj (word_sub same) (by omega) (by omega)
  omega

/-- The cells of a round are apart. -/
theorem cells_apart {i j : Nat} (inside : i < capacity.size) (inside' : j < capacity.size) (apart : i ≠ j) :
    (first + i) % capacity.size ≠ (first + j) % capacity.size := by
  intro same
  obtain before | after := Nat.lt_or_gt_of_ne apart
  · have := Ring.same_round same (by omega) (by omega)
    omega
  · have := Ring.same_round same.symm (by omega) (by omega)
    omega

theorem stores_make (capacity : Capacity) : Stores capacity 0 [] (make capacity : MPMCQueue α) where
  sized := rfl
  fits := Nat.zero_le _
  tail := rfl
  head := rfl
  stored i inside := by simp at inside
  free i _ inside := by
    rw [Nat.zero_add, Nat.mod_eq_of_lt inside]
    rfl

/-- The cell of a ticket, where the queue looks for it. -/
theorem Stores.cell (stores : Stores capacity first items q) (n : Nat) :
    q.cell (word n) = q.buffer (n % capacity.size) := by
  rw [MPMCQueue.cell, index_word, stores.sized]

/-! ### Steps -/

section Steps
variable {φ : Type} {step : MPMCQueue α → Bool → φ → MPMCQueue α × φ} {phase next : φ}

theorem steps_cons (flag : Bool) (flags : List Bool) :
    steps step (q, phase) (flag :: flags) = steps step (step q flag phase) flags := rfl

theorem steps_append (s : MPMCQueue α × φ) (flags more : List Bool) :
    steps step s (flags ++ more) = steps step (steps step s flags) more := List.foldl_append

theorem steps_stay (stays : ∀ flag, step q flag phase = (q, phase)) (flags : List Bool) :
    steps step (q, phase) flags = (q, phase) := by
  induction flags with
  | nil => rfl
  | cons flag flags ih => rw [steps_cons, stays, ih]

/-- A call that leaves where it compares has left for good. -/
theorem steps_leave {left : φ} (loads : step q false phase = (q, next)) (leaves : ∀ flag, step q flag next = (q, left))
    (stays : ∀ flag, step q flag left = (q, left)) (spurious : Nat) :
    steps step (q, phase) (exchanges spurious) = (q, left) := by
  rw [exchanges, steps_cons, loads]
  cases spurious with
  | zero =>
    rw [List.replicate_zero, List.flatten_nil, List.nil_append, steps_cons, leaves]
    exact steps_stay stays _
  | succ spurious =>
    rw [List.replicate_succ, List.flatten_cons, List.cons_append, List.cons_append, steps_cons, leaves]
    exact steps_stay stays _

/-- An exchange that fails is tried again, until it goes through. -/
theorem steps_through {left : MPMCQueue α × φ} {mid : φ} (loads : step q false phase = (q, next))
    (compares : step q false next = (q, mid)) (again : step q true mid = (q, next))
    (through : steps step (q, mid) [false, false, false] = left) (spurious : Nat) :
    steps step (q, phase) (exchanges spurious) = left := by
  have back : steps step (q, next) (List.replicate spurious [false, true]).flatten = (q, next) := by
    induction spurious with
    | zero => rfl
    | succ spurious ih =>
      rw [List.replicate_succ, List.flatten_cons, steps_append, steps_cons, compares, steps_cons, again]
      exact ih
  rw [exchanges, steps_cons, loads, steps_append, back, steps_cons, compares, through]

end Steps

/-! ### Push -/

/-- The queue with an item in the cell of a ticket. -/
def filled (q : MPMCQueue α) (n : Nat) (item : α) : MPMCQueue α :=
  (({ q with head := word (n + 1) } : MPMCQueue α).setData (word n) (some item)).setSeq (word n) (word (n + 1))

theorem buffer_filled_self (sized : q.capacity = capacity) (n : Nat) :
    (q.filled n item).buffer (n % capacity.size) = ⟨word (n + 1), some item⟩ := by
  subst sized
  exact (buffer_setSeq_self _ n _).trans (congrArg (fun cell : Cell α => { cell with seq := word (n + 1) })
    (buffer_setData_self { q with head := word (n + 1) } n (some item)))

theorem buffer_filled_other (sized : q.capacity = capacity) {n c : Nat} (other : c ≠ n % capacity.size) :
    (q.filled n item).buffer c = q.buffer c := by
  subst sized
  have seq := buffer_setSeq_other (({ q with head := word (n + 1) } : MPMCQueue α).setData (word n) (some item))
    (word (n + 1)) other
  exact seq.trans (buffer_setData_other { q with head := word (n + 1) } (some item) other)

/-- `Push` on a full queue. -/
theorem pushCall_full (stores : Stores capacity first items q) (full : items.length = capacity.size) (spurious : Nat) :
    q.pushCall item spurious = (q, .done false) := by
  have two := capacity.two_le
  have near := capacity.size_le
  have oldest := stores.stored 0 (by omega)
  -- the cell of the next ticket still holds the oldest item
  have stamp : (q.cell (word (first + items.length))).seq = word (first + 1) := by
    rw [stores.cell, full, Nat.add_mod_right]
    exact congrArg Cell.seq oldest
  have nonzero : word (first + 1) - word (first + items.length) ≠ 0 := behind_ne (by omega) (by omega)
  have negative : (word (first + 1) - word (first + items.length)).toInt < 0 := behind_neg (by omega) (by omega)
  have loads : q.push false (.load item) = (q, .check item (word (first + items.length))) := by
    rw [← stores.head]
    rfl
  have leaves : ∀ flag, q.push flag (.check item (word (first + items.length))) = (q, .done false) := fun flag => by
    simp only [push, stamp, if_neg nonzero, if_pos negative]
  exact steps_leave loads leaves (fun _ => rfl) spurious

/-- `Push` on a queue with room. -/
theorem pushCall_room (stores : Stores capacity first items q) (room : items.length < capacity.size) (spurious : Nat) :
    q.pushCall item spurious = (q.filled (first + items.length) item, .done true) := by
  have opened : (q.cell (word (first + items.length))).seq - word (first + items.length) = 0 := by
    rw [stores.cell, stores.free _ (Nat.le_refl _) room]
    exact BitVec.sub_self _
  have loads : q.push false (.load item) = (q, .check item (word (first + items.length))) := by
    rw [← stores.head]
    rfl
  refine steps_through loads (if_pos opened) ?_ ?_ spurious
  · simp only [push, Bool.true_eq_false, and_false, if_false, stores.head]
  · simp only [steps, List.foldl_cons, List.foldl_nil, push, stores.head, and_self, if_true, word_succ]
    rfl

theorem stores_filled (stores : Stores capacity first items q) (room : items.length < capacity.size) :
    Stores capacity first (items ++ [item]) (q.filled (first + items.length) item) := by
  have elsewhere : ∀ i, i < capacity.size → i ≠ items.length →
      (q.filled (first + items.length) item).buffer ((first + i) % capacity.size) =
        q.buffer ((first + i) % capacity.size) := fun i inside other =>
    buffer_filled_other stores.sized (cells_apart inside room other)
  refine ⟨stores.sized, ?_, stores.tail, ?_, fun i inside => ?_, fun i behind inside => ?_⟩
  · rw [List.length_append]
    exact room
  · rw [List.length_append, List.length_singleton, ← Nat.add_assoc]
    rfl
  · rw [List.length_append, List.length_singleton] at inside
    obtain before | rfl : i < items.length ∨ i = items.length := by omega
    · rw [elsewhere i (by omega) (by omega), stores.stored i before, List.getElem_append_left before]
    · rw [buffer_filled_self stores.sized, List.getElem_concat_length rfl]
  · rw [List.length_append, List.length_singleton] at behind
    rw [elsewhere i inside (by omega)]
    exact stores.free i (by omega) inside

/-! ### Pop -/

/-- The queue with the cell of a ticket given to the next round. -/
def emptied (q : MPMCQueue α) (n : Nat) : MPMCQueue α :=
  (({ q with tail := word (n + 1) } : MPMCQueue α).setData (word n) none).setSeq (word n)
    (word (n + q.capacity.size))

theorem seq_emptied_self (sized : q.capacity = capacity) (n : Nat) :
    ((q.emptied n).buffer (n % capacity.size)).seq = word (n + capacity.size) := by
  subst sized
  exact congrArg Cell.seq (buffer_setSeq_self _ n _)

theorem buffer_emptied_other (sized : q.capacity = capacity) {n c : Nat} (other : c ≠ n % capacity.size) :
    (q.emptied n).buffer c = q.buffer c := by
  subst sized
  have seq := buffer_setSeq_other (({ q with tail := word (n + 1) } : MPMCQueue α).setData (word n) none)
    (word (n + q.capacity.size)) other
  exact seq.trans (buffer_setData_other { q with tail := word (n + 1) } none other)

/-- `Pop` on an empty queue. -/
theorem popCall_empty (stores : Stores capacity first ([] : List α) q) (spurious : Nat) :
    q.popCall spurious = (q, .done none) := by
  have two := capacity.two_le
  have stamp : (q.cell (word first)).seq = word first := by
    rw [stores.cell]
    exact stores.free 0 (Nat.le_refl _) (by omega)
  have nonzero : word first - word (first + 1) ≠ 0 := behind_ne (by omega) (by omega)
  have negative : (word first - word (first + 1)).toInt < 0 := behind_neg (by omega) (by omega)
  have loads : q.pop false .load = (q, .check (word first)) := by
    rw [← stores.tail]
    rfl
  have leaves : ∀ flag, q.pop flag (.check (word first)) = (q, .done none) := fun flag => by
    simp only [pop, stamp, word_succ, if_neg nonzero, if_pos negative]
  exact steps_leave loads leaves (fun _ => rfl) spurious

/-- `Pop` takes the oldest item. -/
theorem popCall_stored {rest : List α} (stores : Stores capacity first (item :: rest) q) (spurious : Nat) :
    q.popCall spurious = (q.emptied first, .done (some (some item))) := by
  have cell : q.cell (word first) = ⟨word (first + 1), some item⟩ := by
    rw [stores.cell]
    exact stores.stored 0 (Nat.succ_pos _)
  have ready : (q.cell (word first)).seq - (word first + 1) = 0 := by
    rw [cell, word_succ]
    exact BitVec.sub_self _
  have data : (({ q with tail := word (first + 1) } : MPMCQueue α).cell (word first)).data = some item :=
    congrArg Cell.data cell
  have round : word first + (({ q with tail := word (first + 1) } : MPMCQueue α).setData (word first) none).mask + 1 =
      word (first + q.capacity.size) := word_round q first
  have loads : q.pop false .load = (q, .check (word first)) := by
    rw [← stores.tail]
    rfl
  refine steps_through loads (if_pos ready) ?_ ?_ spurious
  · simp only [pop, Bool.true_eq_false, and_false, if_false, stores.tail]
  · simp only [steps, List.foldl_cons, List.foldl_nil, pop, stores.tail, and_self, if_true, word_succ, data, round]
    rfl

theorem stores_emptied {rest : List α} (stores : Stores capacity first (item :: rest) q) :
    Stores capacity (first + 1) rest (q.emptied first) := by
  have two := capacity.two_le
  have fits := stores.fits
  rw [List.length_cons] at fits
  have elsewhere : ∀ i, 0 < i → i < capacity.size →
      (q.emptied first).buffer ((first + i) % capacity.size) = q.buffer ((first + i) % capacity.size) :=
    fun i positive inside => by
      have apart := @cells_apart capacity first i 0 inside (by omega) (by omega)
      exact buffer_emptied_other stores.sized apart
  refine ⟨stores.sized, by omega, rfl, ?_, fun i inside => ?_, fun i behind inside => ?_⟩
  · refine stores.head.trans (congrArg word ?_)
    rw [List.length_cons]
    omega
  · have shifted : first + 1 + i = first + (i + 1) := by omega
    rw [shifted, elsewhere (i + 1) (by omega) (by omega), stores.stored (i + 1) (Nat.succ_lt_succ inside)]
    rfl
  · have shifted : first + 1 + i = first + (i + 1) := by omega
    obtain within | last : i + 1 < capacity.size ∨ i + 1 = capacity.size := by omega
    · rw [shifted, elsewhere (i + 1) (by omega) within]
      exact stores.free (i + 1) (Nat.succ_le_succ behind) within
    · rw [shifted, last, Nat.add_mod_right, seq_emptied_self stores.sized]

/-! ### Runs -/

/-- A call on a queue is the call on the FIFO of its items. -/
theorem serve_simulates (capacity : Capacity) :
    Simulation (fun (q : MPMCQueue α) (f : Fifo α capacity.size) => ∃ first, Stores capacity first f.items q)
      serve Fifo.serve := by
  rintro q f call ⟨first, stores⟩
  cases call with
  | push item spurious =>
    by_cases room : f.items.length < capacity.size
    · simp only [serve, Fifo.serve, pushCall_room stores room, room, dif_pos]
      exact ⟨rfl, first, stores_filled stores room⟩
    · have full : f.items.length = capacity.size := Nat.le_antisymm stores.fits (Nat.not_lt.mp room)
      simp only [serve, Fifo.serve, pushCall_full stores full, room, dif_neg, not_false_iff]
      exact ⟨rfl, first, stores⟩
  | pop spurious =>
    obtain ⟨items, fits⟩ := f
    cases items with
    | nil =>
      simp only [serve, Fifo.serve, popCall_empty stores]
      exact ⟨rfl, first, stores⟩
    | cons oldest rest =>
      simp only [serve, Fifo.serve, popCall_stored stores]
      exact ⟨rfl, first + 1, stores_emptied stores⟩

/-- A new queue of any capacity answers every sequence of calls, however often its exchanges fail,
    as a FIFO of that capacity does; and the items that came out of it, followed by the ones it
    still stores, are the ones that went in, in their order. -/
theorem bounded_fifo (capacity : Capacity) (calls : List (QueueCall α)) :
    repliesTo serve (make capacity) calls = repliesTo Fifo.serve ({} : Fifo α capacity.size) calls ∧
      ∃ first items, Stores capacity first items (leftBy serve (make capacity) calls) ∧
        (calls.zip (repliesTo serve (make capacity) calls)).filterMap Fifo.taken ++ items =
          (calls.zip (repliesTo serve (make capacity) calls)).filterMap Fifo.entered := by
  have simulates := @serve_simulates α capacity
  have start : ∃ first, Stores capacity first ({} : Fifo α capacity.size).items (make capacity) :=
    ⟨0, stores_make capacity⟩
  have same := simulates.same_replies start calls
  obtain ⟨first, stores⟩ := simulates.related_left start calls
  refine ⟨same, first, _, stores, ?_⟩
  rw [same]
  exact Fifo.in_order {} calls

end MPMCQueue
end NovaIIM
