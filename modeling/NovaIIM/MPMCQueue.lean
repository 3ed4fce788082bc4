import Mathlib.Algebra.Group.Nat.Defs
import Mathlib.Logic.Function.Basic
import NovaIIM.Runs

/-!
The bounded queue between the network threads and the workers (`core/mpmc_queue.h`).

`Push` and `Pop` are sequences of atomic steps, so each is a phase that a thread is
in and a function that takes the next step. Positions and stamps are `size_t`: words
of 64 bits that wrap around. A `Traffic` is a queue with any number of threads that
call `Push` and `Pop` on it, in any interleaving.
-/
namespace NovaIIM

/-- The capacities that the constructor admits: the powers of two from 2 on, in a `size_t`. -/
structure Capacity where
  log : Nat
  two : 1 ≤ log
  fits : log < 64

def Capacity.size (capacity : Capacity) : Nat := 2 ^ capacity.log

/-- `buffer_[i]`. The data of a cell that was never written, or was moved out of, is none. -/
structure Cell (α : Type) where
  seq : BitVec 64
  data : Option α := none

structure MPMCQueue (α : Type) where
  capacity : Capacity
  buffer : Nat → Cell α
  head : BitVec 64
  tail : BitVec 64

/-- A thread inside `PushImpl`, by the atomic step that it takes next. -/
inductive Pushing (α : Type) where
  | load (item : α)
  | check (item : α) (pos : BitVec 64)
  | swap (item : α) (pos : BitVec 64)
  | write (item : α) (pos : BitVec 64)
  | publish (pos : BitVec 64)
  | done (pushed : Bool)
deriving DecidableEq

/-- A thread inside `Pop`. The item is what was in the cell when it was moved out. -/
inductive Popping (α : Type) where
  | load
  | check (pos : BitVec 64)
  | swap (pos : BitVec 64)
  | read (pos : BitVec 64)
  | release (pos : BitVec 64) (item : Option α)
  | done (popped : Option (Option α))
deriving DecidableEq

namespace MPMCQueue
variable {α : Type}

/-- The constructor. -/
def make (capacity : Capacity) : MPMCQueue α where
  capacity := capacity
  buffer i := { seq := BitVec.ofNat 64 i }
  head := 0
  tail := 0

/-- `mask_` -/
def mask (q : MPMCQueue α) : BitVec 64 := BitVec.ofNat 64 (q.capacity.size - 1)

/-- `pos & mask_` -/
def index (q : MPMCQueue α) (pos : BitVec 64) : Nat := (pos &&& q.mask).toNat

def cell (q : MPMCQueue α) (pos : BitVec 64) : Cell α := q.buffer (q.index pos)

def setData (q : MPMCQueue α) (pos : BitVec 64) (data : Option α) : MPMCQueue α :=
  { q with buffer := Function.update q.buffer (q.index pos) { q.cell pos with data := data } }

def setSeq (q : MPMCQueue α) (pos seq : BitVec 64) : MPMCQueue α :=
  { q with buffer := Function.update q.buffer (q.index pos) { q.cell pos with seq := seq } }

/-- The next step of `PushImpl`. The weak exchange can fail although the positions agree. -/
def push (q : MPMCQueue α) (spurious : Bool) : Pushing α → MPMCQueue α × Pushing α
  | .load item => (q, .check item q.head)
  | .check item pos =>
    let diff := (q.cell pos).seq - pos
    if diff = 0 then (q, .swap item pos)
    else if diff.toInt < 0 then (q, .done false)
    else (q, .load item)
  | .swap item pos =>
    if q.head = pos ∧ spurious = false then ({ q with head := pos + 1 }, .write item pos)
    else (q, .check item q.head)
  | .write item pos => (q.setData pos (some item), .publish pos)
  | .publish pos => (q.setSeq pos (pos + 1), .done true)
  | .done pushed => (q, .done pushed)

/-- The next step of `Pop`. -/
def pop (q : MPMCQueue α) (spurious : Bool) : Popping α → MPMCQueue α × Popping α
  | .load => (q, .check q.tail)
  | .check pos =>
    let diff := (q.cell pos).seq - (pos + 1)
    if diff = 0 then (q, .swap pos)
    else if diff.toInt < 0 then (q, .done none)
    else (q, .load)
  | .swap pos =>
    if q.tail = pos ∧ spurious = false then ({ q with tail := pos + 1 }, .read pos)
    else (q, .check q.tail)
  | .read pos => (q.setData pos none, .release pos (q.cell pos).data)
  | .release pos item => (q.setSeq pos (pos + q.mask + 1), .done (some item))
  | .done popped => (q, .done popped)

end MPMCQueue

/-! ### Threads on a queue -/

/-- What a thread does with the queue; at first nothing. -/
inductive Operation (α : Type) where
  | idle
  | pushing (phase : Pushing α)
  | popping (phase : Popping α)
deriving DecidableEq

/-- The thread can make another call. -/
def Operation.Returned {α : Type} : Operation α → Prop
  | idle | pushing (.done _) | popping (.done _) => True
  | _ => False

instance {α : Type} : DecidablePred (@Operation.Returned α) := fun operation => by
  unfold Operation.Returned
  split <;> infer_instance

/-- Records of what the threads did, that no step reads. Each claim gets the next ticket. -/
structure History (α : Type) where
  /-- The item of each ticket that a producer claimed. -/
  pushed : List α := []
  /-- The number of tickets that consumers claimed. -/
  popped : Nat := 0
  /-- The ticket that a thread claimed last. -/
  ticket : Nat → Nat := fun _ => 0
  /-- The tickets that were published. -/
  published : List Nat := []
  /-- The tickets whose `Pop` has returned, with what it returned. -/
  returned : List (Nat × Option α) := []
  /-- How many tickets producers and consumers had claimed at a thread's last step. -/
  seen : Nat → Nat × Nat := fun _ => (0, 0)

namespace History
variable {α : Type} (h : History α) (thread : Nat)

/-- A producer claims the next ticket. -/
def claimHead (item : α) : History α :=
  { h with
    pushed := h.pushed ++ [item]
    ticket := Function.update h.ticket thread h.pushed.length }

/-- A consumer claims the next ticket. -/
def claimTail : History α :=
  { h with
    popped := h.popped + 1
    ticket := Function.update h.ticket thread h.popped }

/-- The producer of a ticket publishes it. -/
def publish : History α := { h with published := h.published ++ [h.ticket thread] }

/-- The consumer of a ticket releases its cell and returns. -/
def release (item : Option α) : History α := { h with returned := h.returned ++ [(h.ticket thread, item)] }

/-- What a step of a thread adds to the records. -/
def note : Operation α → Operation α → History α
  | .pushing (.swap item _), .pushing (.write _ _) => h.claimHead thread item
  | .popping (.swap _), .popping (.read _) => h.claimTail thread
  | .pushing (.publish _), _ => h.publish thread
  | .popping (.release _ item), _ => h.release thread item
  | _, _ => h

/-- The thread has taken a step just now. -/
def look : History α := { h with seen := Function.update h.seen thread (h.pushed.length, h.popped) }

end History

structure Traffic (α : Type) where
  queue : MPMCQueue α
  threads : Nat → Operation α := fun _ => .idle
  history : History α := {}

/-- A thread calls `Push` or `Pop`, or takes the next step of the call it is in. -/
inductive Access (α : Type) where
  | push (item : α)
  | pop
  | go (spurious : Bool)

namespace Traffic
variable {α : Type}

def start (capacity : Capacity) : Traffic α := { queue := .make capacity }

/-- The next step of what a thread does. -/
def operate (q : MPMCQueue α) (spurious : Bool) : Operation α → MPMCQueue α × Operation α
  | .idle => (q, .idle)
  | .pushing phase => ((q.push spurious phase).1, .pushing (q.push spurious phase).2)
  | .popping phase => ((q.pop spurious phase).1, .popping (q.pop spurious phase).2)

/-- A thread enters `Push` or `Pop`. -/
def enter (s : Traffic α) (thread : Nat) (operation : Operation α) : Traffic α :=
  { s with
    threads := Function.update s.threads thread operation
    history := s.history.look thread }

@[simp] theorem enter_threads (s : Traffic α) (thread : Nat) (operation : Operation α) :
    (s.enter thread operation).threads thread = operation := Function.update_self ..

/-- A thread that is in no call begins one. -/
def call (s : Traffic α) (thread : Nat) (operation : Operation α) : Traffic α :=
  if (s.threads thread).Returned then s.enter thread operation else s

/-- A thread takes its next step. -/
def advance (s : Traffic α) (thread : Nat) (spurious : Bool) : Traffic α :=
  let (queue, next) := operate s.queue spurious (s.threads thread)
  { queue := queue
    threads := Function.update s.threads thread next
    history := (s.history.note thread (s.threads thread) next).look thread }

def step (s : Traffic α) : Nat × Access α → Traffic α
  | (thread, .push item) => s.call thread (.pushing (.load item))
  | (thread, .pop) => s.call thread (.popping .load)
  | (thread, .go spurious) => s.advance thread spurious

/-- Between two steps of one call, fewer than 2^63 tickets were claimed on either side. -/
def Brisk (s : Traffic α) : Nat × Access α → Prop
  | (thread, .go _) =>
    s.history.pushed.length < (s.history.seen thread).1 + 2 ^ 63 ∧
      s.history.popped < (s.history.seen thread).2 + 2 ^ 63
  | _ => True

instance (s : Traffic α) : DecidablePred s.Brisk := fun access => by
  unfold Brisk
  split <;> infer_instance

end Traffic
end NovaIIM
