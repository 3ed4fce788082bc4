import NovaIIM.MPMCQueue
import NovaIIM.TicketRing

/-!
The queue is a ring of tickets.

The words of the queue are the claims and stamps of a `Ring` modulo 2^64 (`Ledger`). A
thread that has seen a stamp long ago cannot mistake a later one for it: while it was
away, fewer than 2^63 tickets were claimed. So each exchange that succeeds is a claim of
the ring, and each store of a stamp a publication or a release (`serves_step`).
-/
namespace NovaIIM
variable {α : Type}

/-! ### Words -/

/-- A position or a stamp as the `size_t` that holds it. -/
abbrev word (n : Nat) : BitVec 64 := BitVec.ofNat 64 n

theorem word_inj {a b : Nat} (same : word a = word b) (lo : a < b + 2 ^ 64) (hi : b < a + 2 ^ 64) : a = b := by
  have mods := congrArg BitVec.toNat same
  simp only [BitVec.toNat_ofNat] at mods
  omega

theorem word_succ (n : Nat) : word n + 1 = word (n + 1) := by
  apply BitVec.eq_of_toNat_eq
  simp

theorem word_sub {a b : Nat} (same : word a - word b = 0) : word a = word b := by
  have := BitVec.sub_add_cancel (word a) (word b)
  rw [same] at this
  simpa using this.symm

namespace Capacity

theorem two_le (capacity : Capacity) : 2 ≤ capacity.size := by
  have := Nat.pow_le_pow_right Nat.zero_lt_two capacity.two
  simpa [size] using this

theorem size_le (capacity : Capacity) : capacity.size ≤ 2 ^ 63 :=
  Nat.pow_le_pow_right Nat.zero_lt_two (Nat.le_of_lt_succ capacity.fits)

theorem mod_mod (capacity : Capacity) (n : Nat) : n % 2 ^ 64 % capacity.size = n % capacity.size :=
  Nat.mod_mod_of_dvd n (Nat.pow_dvd_pow 2 (Nat.le_of_lt capacity.fits))

end Capacity

namespace MPMCQueue
variable {q : MPMCQueue α}

theorem index_word (q : MPMCQueue α) (n : Nat) : q.index (word n) = n % q.capacity.size := by
  have le := q.capacity.size_le
  have ge := q.capacity.two_le
  have mask : (q.capacity.size - 1) % 2 ^ 64 = q.capacity.size - 1 := Nat.mod_eq_of_lt (by omega)
  rw [index, MPMCQueue.mask, BitVec.toNat_and, BitVec.toNat_ofNat, BitVec.toNat_ofNat, mask]
  rw [Capacity.size, Nat.and_two_pow_sub_one_eq_mod, ← Capacity.size, Capacity.mod_mod]

theorem word_round (q : MPMCQueue α) (n : Nat) : word n + q.mask + 1 = word (n + q.capacity.size) := by
  have ge := q.capacity.two_le
  rw [BitVec.add_assoc, mask, word_succ, Nat.sub_add_cancel (by omega)]
  apply BitVec.eq_of_toNat_eq
  simp

theorem buffer_setData_self (q : MPMCQueue α) (n : Nat) (data : Option α) :
    (q.setData (word n) data).buffer (n % q.capacity.size) =
      { q.buffer (n % q.capacity.size) with data := data } := by
  simp [setData, cell, index_word]

theorem buffer_setData_other (q : MPMCQueue α) {n c : Nat} (data : Option α) (other : c ≠ n % q.capacity.size) :
    (q.setData (word n) data).buffer c = q.buffer c := by
  simp [setData, index_word, other]

theorem buffer_setSeq_self (q : MPMCQueue α) (n : Nat) (seq : BitVec 64) :
    (q.setSeq (word n) seq).buffer (n % q.capacity.size) =
      { q.buffer (n % q.capacity.size) with seq := seq } := by
  simp [setSeq, cell, index_word]

theorem buffer_setSeq_other (q : MPMCQueue α) {n c : Nat} (seq : BitVec 64) (other : c ≠ n % q.capacity.size) :
    (q.setSeq (word n) seq).buffer c = q.buffer c := by
  simp [setSeq, index_word, other]

/-- The seqs do not see a store of data. -/
@[simp] theorem seq_setData (q : MPMCQueue α) (n c : Nat) (data : Option α) :
    ((q.setData (word n) data).buffer c).seq = (q.buffer c).seq := by
  by_cases here : c = n % q.capacity.size
  · rw [here, buffer_setData_self]
  · rw [buffer_setData_other q data here]

/-- Nor the data a store of a seq. -/
@[simp] theorem data_setSeq (q : MPMCQueue α) (n c : Nat) (seq : BitVec 64) :
    ((q.setSeq (word n) seq).buffer c).data = (q.buffer c).data := by
  by_cases here : c = n % q.capacity.size
  · rw [here, buffer_setSeq_self]
  · rw [buffer_setSeq_other q seq here]

end MPMCQueue

/-! ### The queue as a ring -/

/-- The item that the producer of a ticket pushes. -/
def History.Holds (h : History α) (n : Nat) (data : Option α) : Prop :=
  ∃ item, data = some item ∧ h.pushed[n]? = some item

theorem History.Holds.mono {h h' : History α} {n : Nat} {data : Option α} (holds : h.Holds n data)
    (longer : h.pushed <+: h'.pushed) : h'.Holds n data := by
  obtain ⟨item, stored, pushed⟩ := holds
  obtain ⟨inside, here⟩ := List.getElem?_eq_some_iff.mp pushed
  obtain ⟨rest, all⟩ := longer
  exact ⟨item, stored, by rw [← all, List.getElem?_append_left inside, pushed]⟩

/-- The words of a queue and the records of its threads are those of a ring. -/
structure Ledger (capacity : Capacity) (r : Ring capacity.size) (q : MPMCQueue α) (h : History α) : Prop where
  sized : q.capacity = capacity
  head : q.head = word r.head
  tail : q.tail = word r.tail
  seqs : ∀ c < capacity.size, (q.buffer c).seq = word (r.turn c + (r.full c).toNat)
  pushed : h.pushed.length = r.head
  popped : h.popped = r.tail
  stored : ∀ n, r.tail ≤ n → r.stamp n = n + 1 → h.Holds n (q.buffer (n % capacity.size)).data
  vacant : ∀ n, r.head ≤ n → r.stamp n = n → (q.buffer (n % capacity.size)).data = none
  published : ∀ n, n ∈ h.published ↔ n < r.stamp n
  released : ∀ n, n ∈ h.returned.map Prod.fst ↔ n < r.turn (n % capacity.size)
  once : (h.returned.map Prod.fst).Nodup
  items : ∀ e ∈ h.returned, h.Holds e.1 e.2

/-- The thread has claimed a ticket of a producer that it has not published. -/
def Operation.Writes : Operation α → Prop
  | .pushing (.write _ _) | .pushing (.publish _) => True
  | _ => False

/-- The thread has claimed a ticket of a consumer whose cell it has not released. -/
def Operation.Reads : Operation α → Prop
  | .popping (.read _) | .popping (.release _ _) => True
  | _ => False

/-- What is known of a thread by what it does. -/
def Sound {capacity : Capacity} (r : Ring capacity.size) (q : MPMCQueue α) (h : History α) (thread : Nat) :
    Operation α → Prop
  | .pushing (.check _ pos) => pos = word (h.seen thread).1 ∧ (h.seen thread).1 ≤ r.head
  | .pushing (.swap _ pos) => ∃ p, pos = word p ∧ p ≤ (h.seen thread).1 ∧ (h.seen thread).1 < p + 2 ^ 63 ∧
      (h.seen thread).1 ≤ r.head ∧ p ≤ r.stamp p
  | .pushing (.write item pos) => pos = word (h.ticket thread) ∧ h.ticket thread < r.head ∧
      r.stamp (h.ticket thread) = h.ticket thread ∧ h.pushed[h.ticket thread]? = some item ∧
      (q.buffer (h.ticket thread % capacity.size)).data = none
  | .pushing (.publish pos) => pos = word (h.ticket thread) ∧ h.ticket thread < r.head ∧
      r.stamp (h.ticket thread) = h.ticket thread ∧
      h.Holds (h.ticket thread) (q.buffer (h.ticket thread % capacity.size)).data
  | .popping (.check pos) => pos = word (h.seen thread).2 ∧ (h.seen thread).2 ≤ r.tail
  | .popping (.swap pos) => ∃ p, pos = word p ∧ p ≤ (h.seen thread).2 ∧ (h.seen thread).2 < p + 2 ^ 63 ∧
      (h.seen thread).2 ≤ r.tail ∧ p + 1 ≤ r.stamp p
  | .popping (.read pos) => pos = word (h.ticket thread) ∧ h.ticket thread < r.tail ∧
      r.stamp (h.ticket thread) = h.ticket thread + 1 ∧
      h.Holds (h.ticket thread) (q.buffer (h.ticket thread % capacity.size)).data
  | .popping (.release pos item) => pos = word (h.ticket thread) ∧ h.ticket thread < r.tail ∧
      r.stamp (h.ticket thread) = h.ticket thread + 1 ∧ h.Holds (h.ticket thread) item ∧
      (q.buffer (h.ticket thread % capacity.size)).data = none
  | .popping (.done (some item)) => (h.ticket thread, item) ∈ h.returned
  | _ => True

/-- The invariant of a queue with its threads. -/
structure Serves (capacity : Capacity) (r : Ring capacity.size) (s : Traffic α) : Prop where
  ledger : Ledger capacity r s.queue s.history
  sound : ∀ thread, Sound r s.queue s.history thread (s.threads thread)
  writers : ∀ thread other, thread ≠ other → (s.threads thread).Writes → (s.threads other).Writes →
    s.history.ticket thread ≠ s.history.ticket other
  readers : ∀ thread other, thread ≠ other → (s.threads thread).Reads → (s.threads other).Reads →
    s.history.ticket thread ≠ s.history.ticket other

/-- What a step of another thread leaves to a thread. -/
structure Undisturbed {capacity : Capacity} (r r' : Ring capacity.size) (q q' : MPMCQueue α) (h h' : History α)
    (thread : Nat) (operation : Operation α) : Prop where
  head : r.head ≤ r'.head
  tail : r.tail ≤ r'.tail
  stamps : ∀ n, r.stamp n ≤ r'.stamp n
  pushed : h.pushed <+: h'.pushed
  returned : h.returned ⊆ h'.returned
  seen : h'.seen thread = h.seen thread
  ticket : h'.ticket thread = h.ticket thread
  owned : operation.Writes ∨ operation.Reads → r'.stamp (h.ticket thread) = r.stamp (h.ticket thread) ∧
    (q'.buffer (h.ticket thread % capacity.size)).data = (q.buffer (h.ticket thread % capacity.size)).data

section Steps
variable {capacity : Capacity} {r r' : Ring capacity.size} {q q' : MPMCQueue α} {h h' : History α} {thread : Nat}
  {operation : Operation α}

theorem Sound.frame (sound : Sound r q h thread operation) (kept : Undisturbed r r' q q' h h' thread operation) :
    Sound r' q' h' thread operation := by
  have head := kept.head
  have tail := kept.tail
  cases operation with
  | idle => trivial
  | pushing phase =>
    cases phase with
    | load => trivial
    | done => trivial
    | check item pos =>
      obtain ⟨here, le⟩ := sound
      exact ⟨by rw [kept.seen]; exact here, by rw [kept.seen]; omega⟩
    | swap item pos =>
      obtain ⟨p, here, le, near, seen, reached⟩ := sound
      refine ⟨p, here, ?_⟩
      rw [kept.seen]
      exact ⟨le, near, by omega, reached.trans (kept.stamps p)⟩
    | write item pos =>
      obtain ⟨here, claimed, opened, pushed, empty⟩ := sound
      obtain ⟨stamp, data⟩ := kept.owned (.inl trivial)
      obtain ⟨inside, named⟩ := List.getElem?_eq_some_iff.mp pushed
      obtain ⟨rest, longer⟩ := kept.pushed
      refine ⟨?_, ?_, ?_, ?_, ?_⟩ <;> rw [kept.ticket]
      · exact here
      · omega
      · rw [stamp, opened]
      · rw [← longer, List.getElem?_append_left inside, pushed]
      · rw [data, empty]
    | publish pos =>
      obtain ⟨here, claimed, opened, holds⟩ := sound
      obtain ⟨stamp, data⟩ := kept.owned (.inl trivial)
      refine ⟨?_, ?_, ?_, ?_⟩ <;> rw [kept.ticket]
      · exact here
      · omega
      · rw [stamp, opened]
      · rw [data]
        exact holds.mono kept.pushed
  | popping phase =>
    cases phase with
    | load => trivial
    | done popped =>
      cases popped with
      | none => trivial
      | some item =>
        change (h'.ticket thread, item) ∈ h'.returned
        rw [kept.ticket]
        exact kept.returned sound
    | check pos =>
      obtain ⟨here, le⟩ := sound
      exact ⟨by rw [kept.seen]; exact here, by rw [kept.seen]; omega⟩
    | swap pos =>
      obtain ⟨p, here, le, near, seen, reached⟩ := sound
      refine ⟨p, here, ?_⟩
      rw [kept.seen]
      exact ⟨le, near, by omega, reached.trans (kept.stamps p)⟩
    | read pos =>
      obtain ⟨here, claimed, ready, holds⟩ := sound
      obtain ⟨stamp, data⟩ := kept.owned (.inr trivial)
      refine ⟨?_, ?_, ?_, ?_⟩ <;> rw [kept.ticket]
      · exact here
      · omega
      · rw [stamp, ready]
      · rw [data]
        exact holds.mono kept.pushed
    | release pos item =>
      obtain ⟨here, claimed, ready, holds, empty⟩ := sound
      obtain ⟨stamp, data⟩ := kept.owned (.inr trivial)
      refine ⟨?_, ?_, ?_, ?_, ?_⟩ <;> rw [kept.ticket]
      · exact here
      · omega
      · rw [stamp, ready]
      · exact holds.mono kept.pushed
      · rw [data, empty]

theorem Sound.writes (sound : Sound r q h thread operation) (writes : operation.Writes) :
    r.turn (h.ticket thread % capacity.size) = h.ticket thread ∧ r.full (h.ticket thread % capacity.size) = false := by
  cases operation with
  | idle => exact writes.elim
  | popping phase => exact writes.elim
  | pushing phase =>
    cases phase with
    | write item pos => exact r.stamp_eq_self.mp sound.2.2.1
    | publish pos => exact r.stamp_eq_self.mp sound.2.2.1
    | _ => exact writes.elim

theorem Sound.reads (sound : Sound r q h thread operation) (reads : operation.Reads) :
    r.turn (h.ticket thread % capacity.size) = h.ticket thread ∧ r.full (h.ticket thread % capacity.size) = true := by
  cases operation with
  | idle => exact reads.elim
  | pushing phase => exact reads.elim
  | popping phase =>
    cases phase with
    | read pos => exact r.stamp_eq_succ.mp sound.2.2.1
    | release pos item => exact r.stamp_eq_succ.mp sound.2.2.1
    | _ => exact reads.elim

variable {s : Traffic α}

/-- Two threads that own tickets own different cells. -/
theorem Serves.apart (serves : Serves capacity r s) {thread other : Nat} (different : thread ≠ other)
    (mine : (s.threads thread).Writes ∨ (s.threads thread).Reads)
    (its : (s.threads other).Writes ∨ (s.threads other).Reads) :
    s.history.ticket other % capacity.size ≠ s.history.ticket thread % capacity.size := by
  have sound := serves.sound thread
  have sound' := serves.sound other
  rcases mine with writes | reads
  · rcases its with writes' | reads'
    · refine r.served_apart (sound'.writes writes').1 (sound.writes writes).1 (serves.writers _ _ different.symm writes' writes)
    · intro cell
      have full := (sound'.reads reads').2
      rw [cell, (sound.writes writes).2] at full
      exact Bool.false_ne_true full
  · rcases its with writes' | reads'
    · intro cell
      have full := (sound'.writes writes').2
      rw [cell, (sound.reads reads).2] at full
      exact Bool.false_ne_true full.symm
    · refine r.served_apart (sound'.reads reads').1 (sound.reads reads).1 (serves.readers _ _ different.symm reads' reads)

/-- The invariant after a step of one thread, from what the step did. -/
theorem Serves.moved (serves : Serves capacity r s) (next : Operation α) (ledger : Ledger capacity r' q' h')
    (sound : Sound r' q' h' thread next)
    (others : ∀ other ≠ thread, Undisturbed r r' s.queue q' s.history h' other (s.threads other))
    (writers : ∀ other ≠ thread, next.Writes → (s.threads other).Writes → h'.ticket thread ≠ s.history.ticket other)
    (readers : ∀ other ≠ thread, next.Reads → (s.threads other).Reads → h'.ticket thread ≠ s.history.ticket other) :
    Serves capacity r' ⟨q', Function.update s.threads thread next, h'⟩ := by
  refine ⟨ledger, fun other => ?_, fun t u different => ?_, fun t u different => ?_⟩
  · by_cases here : other = thread
    · simpa only [here, Function.update_self] using sound
    · simp only [Function.update_of_ne here]
      exact (serves.sound other).frame (others other here)
  · by_cases here : t = thread
    · have there : u ≠ thread := by rw [← here]; exact different.symm
      simp only [here, Function.update_self, Function.update_of_ne there, (others u there).ticket]
      exact writers u there
    · simp only [Function.update_of_ne here, (others t here).ticket]
      by_cases there : u = thread
      · simp only [there, Function.update_self]
        exact fun mine its => (writers t here its mine).symm
      · simp only [Function.update_of_ne there, (others u there).ticket]
        exact serves.writers t u different
  · by_cases here : t = thread
    · have there : u ≠ thread := by rw [← here]; exact different.symm
      simp only [here, Function.update_self, Function.update_of_ne there, (others u there).ticket]
      exact readers u there
    · simp only [Function.update_of_ne here, (others t here).ticket]
      by_cases there : u = thread
      · simp only [there, Function.update_self]
        exact fun mine its => (readers t here its mine).symm
      · simp only [Function.update_of_ne there, (others u there).ticket]
        exact serves.readers t u different

/-! ### Each step -/

theorem Ledger.look (ledger : Ledger capacity r q h) (thread : Nat) : Ledger capacity r q (h.look thread) :=
  ⟨ledger.sized, ledger.head, ledger.tail, ledger.seqs, ledger.pushed, ledger.popped, ledger.stored, ledger.vacant,
    ledger.published, ledger.released, ledger.once, ledger.items⟩

theorem Ledger.seq_cell (ledger : Ledger capacity r q h) (n : Nat) : (q.cell (word n)).seq = word (r.stamp n) := by
  rw [MPMCQueue.cell, MPMCQueue.index_word, ledger.sized, ledger.seqs _ (r.cell_lt n), Ring.stamp]

/-- A step that only looks at the words. -/
theorem Serves.looked (serves : Serves capacity r s) (next : Operation α) (quiet : ¬next.Writes ∧ ¬next.Reads)
    (sound : Sound r s.queue (s.history.look thread) thread next) :
    Serves capacity r ⟨s.queue, Function.update s.threads thread next, s.history.look thread⟩ := by
  refine serves.moved next (serves.ledger.look thread) sound (fun other different => ?_)
    (fun _ _ writes => absurd writes quiet.1) fun _ _ reads => absurd reads quiet.2
  exact
    { head := Nat.le_refl _
      tail := Nat.le_refl _
      stamps := fun _ => Nat.le_refl _
      pushed := List.prefix_refl _
      returned := List.Subset.refl _
      seen := Function.update_of_ne different _ _
      ticket := rfl
      owned := fun _ => ⟨rfl, rfl⟩ }

theorem Sound.writes_lt (sound : Sound r q h thread operation) (writes : operation.Writes) :
    h.ticket thread < r.head := by
  cases operation with
  | idle => exact writes.elim
  | popping phase => exact writes.elim
  | pushing phase =>
    cases phase with
    | write item pos => exact sound.2.1
    | publish pos => exact sound.2.1
    | _ => exact writes.elim

theorem Sound.reads_lt (sound : Sound r q h thread operation) (reads : operation.Reads) :
    h.ticket thread < r.tail := by
  cases operation with
  | idle => exact reads.elim
  | pushing phase => exact reads.elim
  | popping phase =>
    cases phase with
    | read pos => exact sound.2.1
    | release pos item => exact sound.2.1
    | _ => exact reads.elim

/-- A producer's exchange that succeeds. -/
theorem Serves.claimHead (serves : Serves capacity r s) {item : α} (opened : r.stamp r.head = r.head) :
    Serves capacity (r.claimHead opened)
      ⟨{ s.queue with head := word (r.head + 1) },
        Function.update s.threads thread (.pushing (.write item (word r.head))),
        (s.history.claimHead thread item).look thread⟩ := by
  have ledger := serves.ledger
  have longer : s.history.pushed <+: s.history.pushed ++ [item] := List.prefix_append _ _
  have mine : ((s.history.claimHead thread item).look thread).ticket thread = r.head := by
    simp [History.look, History.claimHead, ledger.pushed]
  refine serves.moved _ ?_ ?_ (fun other different => ?_) (fun other _ _ writes => ?_) fun _ _ => nofun
  · refine Ledger.look ?_ thread
    exact
      { ledger with
        head := rfl
        pushed := by simp [History.claimHead, Ring.claimHead, ledger.pushed]
        stored := fun n le ready => (ledger.stored n le ready).mono longer
        vacant := fun n le empty => ledger.vacant n (Nat.le_of_succ_le le) empty
        items := fun e inside => (ledger.items e inside).mono longer }
  · refine ⟨?_, ?_, ?_, ?_, ?_⟩ <;> rw [mine]
    · exact Nat.lt_succ_self _
    · exact opened
    · simp [History.look, History.claimHead, ← ledger.pushed]
    · exact ledger.vacant _ (Nat.le_refl _) opened
  · exact
      { head := Nat.le_succ _
        tail := Nat.le_refl _
        stamps := fun _ => Nat.le_refl _
        pushed := longer
        returned := List.Subset.refl _
        seen := Function.update_of_ne different _ _
        ticket := Function.update_of_ne different _ _
        owned := fun _ => ⟨rfl, rfl⟩ }
  · rw [mine]
    exact ((serves.sound other).writes_lt writes).ne'

/-- A consumer's exchange that succeeds. -/
theorem Serves.claimTail (serves : Serves capacity r s) (ready : r.stamp r.tail = r.tail + 1) :
    Serves capacity (r.claimTail ready)
      ⟨{ s.queue with tail := word (r.tail + 1) },
        Function.update s.threads thread (.popping (.read (word r.tail))),
        (s.history.claimTail thread).look thread⟩ := by
  have ledger := serves.ledger
  have mine : ((s.history.claimTail thread).look thread).ticket thread = r.tail := by
    simp [History.look, History.claimTail, ledger.popped]
  refine serves.moved _ ?_ ?_ (fun other different => ?_) (fun _ _ => nofun) fun other _ _ reads => ?_
  · refine Ledger.look ?_ thread
    exact
      { ledger with
        tail := rfl
        popped := congrArg (· + 1) ledger.popped
        stored := fun n le ready => ledger.stored n (Nat.le_of_succ_le le) ready
        items := ledger.items }
  · refine ⟨?_, ?_, ?_, ?_⟩ <;> rw [mine]
    · exact Nat.lt_succ_self _
    · exact ready
    · exact ledger.stored _ (Nat.le_refl _) ready
  · exact
      { head := Nat.le_refl _
        tail := Nat.le_succ _
        stamps := fun _ => Nat.le_refl _
        pushed := List.prefix_refl _
        returned := List.Subset.refl _
        seen := Function.update_of_ne different _ _
        ticket := Function.update_of_ne different _ _
        owned := fun _ => ⟨rfl, rfl⟩ }
  · rw [mine]
    exact ((serves.sound other).reads_lt reads).ne'

/-- A producer's store of the data. -/
theorem Serves.write (serves : Serves capacity r s) {item : α} {pos : BitVec 64}
    (here : s.threads thread = .pushing (.write item pos)) :
    Serves capacity r
      ⟨s.queue.setData pos (some item), Function.update s.threads thread (.pushing (.publish pos)),
        s.history.look thread⟩ := by
  have ledger := serves.ledger
  have mine := serves.sound thread
  have writing : (s.threads thread).Writes := here ▸ trivial
  obtain ⟨turn, empty⟩ := mine.writes writing
  rw [here] at mine
  obtain ⟨rfl, claimed, opened, pushed, -⟩ := mine
  have away : ∀ {n}, n ≠ s.history.ticket thread → r.turn (n % capacity.size) = n →
      (s.queue.setData (word (s.history.ticket thread)) (some item)).buffer (n % capacity.size) =
        s.queue.buffer (n % capacity.size) := fun different served =>
    s.queue.buffer_setData_other _ (ledger.sized ▸ r.served_apart served turn different)
  refine serves.moved _ ?_ ?_ (fun other different => ?_) (fun other different _ writes => ?_) fun _ _ => nofun
  · refine Ledger.look ?_ thread
    exact
      { ledger with
        seqs := fun c inside => by
          rw [MPMCQueue.seq_setData]
          exact ledger.seqs c inside
        stored := fun n le ready => by
          obtain ⟨served, full⟩ := r.stamp_eq_succ.mp ready
          rw [away ?_ served]
          · exact ledger.stored n le ready
          · rintro rfl
            exact Bool.false_ne_true (empty.symm.trans full)
        vacant := fun n le ready => by
          rw [away (by omega) (r.stamp_eq_self.mp ready).1]
          exact ledger.vacant n le ready }
  · refine ⟨rfl, claimed, opened, item, ?_, pushed⟩
    have own := s.queue.buffer_setData_self (s.history.ticket thread) (some item)
    rw [ledger.sized] at own
    exact congrArg Cell.data own
  · refine
      { head := Nat.le_refl _
        tail := Nat.le_refl _
        stamps := fun _ => Nat.le_refl _
        pushed := List.prefix_refl _
        returned := List.Subset.refl _
        seen := Function.update_of_ne different _ _
        ticket := rfl
        owned := fun owns => ⟨rfl, ?_⟩ }
    have apart := serves.apart different.symm (.inl writing) owns
    rw [s.queue.buffer_setData_other _ (ledger.sized ▸ apart)]
  · exact serves.writers thread other different.symm writing writes

/-- A consumer moves the data out. -/
theorem Serves.read (serves : Serves capacity r s) {pos : BitVec 64}
    (here : s.threads thread = .popping (.read pos)) :
    Serves capacity r
      ⟨s.queue.setData pos none, Function.update s.threads thread (.popping (.release pos (s.queue.cell pos).data)),
        s.history.look thread⟩ := by
  have ledger := serves.ledger
  have mine := serves.sound thread
  have reading : (s.threads thread).Reads := here ▸ trivial
  obtain ⟨turn, full⟩ := mine.reads reading
  rw [here] at mine
  obtain ⟨rfl, claimed, ready, holds⟩ := mine
  have away : ∀ {n}, n ≠ s.history.ticket thread → r.turn (n % capacity.size) = n →
      (s.queue.setData (word (s.history.ticket thread)) none).buffer (n % capacity.size) =
        s.queue.buffer (n % capacity.size) := fun different served =>
    s.queue.buffer_setData_other _ (ledger.sized ▸ r.served_apart served turn different)
  refine serves.moved _ ?_ ?_ (fun other different => ?_) (fun _ _ => nofun) fun other different _ reads => ?_
  · refine Ledger.look ?_ thread
    exact
      { ledger with
        seqs := fun c inside => by
          rw [MPMCQueue.seq_setData]
          exact ledger.seqs c inside
        stored := fun n le ready => by
          rw [away (by omega) (r.stamp_eq_succ.mp ready).1]
          exact ledger.stored n le ready
        vacant := fun n le opened => by
          obtain ⟨served, empty⟩ := r.stamp_eq_self.mp opened
          rw [away ?_ served]
          · exact ledger.vacant n le opened
          · rintro rfl
            exact Bool.false_ne_true (empty.symm.trans full) }
  · refine ⟨rfl, claimed, ready, ?_, ?_⟩
    · rw [MPMCQueue.cell, MPMCQueue.index_word, ledger.sized]
      exact holds
    · have own := s.queue.buffer_setData_self (s.history.ticket thread) none
      rw [ledger.sized] at own
      exact congrArg Cell.data own
  · refine
      { head := Nat.le_refl _
        tail := Nat.le_refl _
        stamps := fun _ => Nat.le_refl _
        pushed := List.prefix_refl _
        returned := List.Subset.refl _
        seen := Function.update_of_ne different _ _
        ticket := rfl
        owned := fun owns => ⟨rfl, ?_⟩ }
    have apart := serves.apart different.symm (.inr reading) owns
    rw [s.queue.buffer_setData_other _ (ledger.sized ▸ apart)]
  · exact serves.readers thread other different.symm reading reads

/-- A producer's store of the stamp. -/
theorem Serves.publish (serves : Serves capacity r s) {pos : BitVec 64}
    (here : s.threads thread = .pushing (.publish pos)) :
    ∃ r', Serves capacity r'
      ⟨s.queue.setSeq pos (pos + 1), Function.update s.threads thread (.pushing (.done true)),
        (s.history.publish thread).look thread⟩ := by
  have ledger := serves.ledger
  have mine := serves.sound thread
  have writing : (s.threads thread).Writes := here ▸ trivial
  obtain ⟨turn, -⟩ := mine.writes writing
  rw [here] at mine
  obtain ⟨rfl, claimed, opened, holds⟩ := mine
  obtain ⟨n, ticket⟩ : ∃ n, s.history.ticket thread = n := ⟨_, rfl⟩
  rw [ticket] at turn claimed opened holds ⊢
  refine ⟨r.publish n claimed opened, serves.moved _ ?_ trivial (fun other different => ?_) (fun _ _ => nofun) fun _ _ => nofun⟩
  · refine Ledger.look ?_ thread
    exact
      { ledger with
        seqs := fun c inside => by
          by_cases cell : c = n % capacity.size
          · have own := s.queue.buffer_setSeq_self n (word n + 1)
            rw [ledger.sized] at own
            rw [cell, own, word_succ]
            simp [Ring.publish, turn]
          · rw [s.queue.buffer_setSeq_other _ (ledger.sized ▸ cell), ledger.seqs c inside]
            simp [Ring.publish, cell]
        stored := fun m le ready => by
          rw [MPMCQueue.data_setSeq]
          by_cases cell : m % capacity.size = n % capacity.size
          · rw [Ring.stamp_publish_self claimed opened cell] at ready
            rw [← Nat.succ.inj ready]
            exact holds
          · rw [Ring.stamp_publish_other claimed opened cell] at ready
            exact ledger.stored m le ready
        vacant := fun m le empty => by
          rw [MPMCQueue.data_setSeq]
          by_cases cell : m % capacity.size = n % capacity.size
          · have served := (Ring.stamp_eq_self _).mp empty
            simp [Ring.publish, cell] at served
          · rw [Ring.stamp_publish_other claimed opened cell] at empty
            exact ledger.vacant m le empty
        published := fun m => by
          rw [History.publish, List.mem_append, List.mem_singleton, ticket, ledger.published m]
          by_cases cell : m % capacity.size = n % capacity.size
          · rw [Ring.stamp_publish_self claimed opened cell, Ring.stamp_eq_of_cell cell, opened]
            omega
          · rw [Ring.stamp_publish_other claimed opened cell, or_iff_left]
            rintro rfl
            exact cell rfl }
  · refine
      { head := Nat.le_refl _
        tail := Nat.le_refl _
        stamps := Ring.stamp_le_publish claimed opened
        pushed := List.prefix_refl _
        returned := List.Subset.refl _
        seen := Function.update_of_ne different _ _
        ticket := rfl
        owned := fun owns => ⟨?_, by rw [MPMCQueue.data_setSeq]⟩ }
    exact Ring.stamp_publish_other claimed opened (ticket ▸ serves.apart different.symm (.inl writing) owns)

/-- A consumer's store of the stamp. -/
theorem Serves.release (serves : Serves capacity r s) {pos : BitVec 64} {item : Option α}
    (here : s.threads thread = .popping (.release pos item)) :
    ∃ r', Serves capacity r'
      ⟨s.queue.setSeq pos (pos + s.queue.mask + 1), Function.update s.threads thread (.popping (.done (some item))),
        (s.history.release thread item).look thread⟩ := by
  have ledger := serves.ledger
  have mine := serves.sound thread
  have reading : (s.threads thread).Reads := here ▸ trivial
  obtain ⟨turn, full⟩ := mine.reads reading
  rw [here] at mine
  obtain ⟨rfl, claimed, ready, holds, moved⟩ := mine
  obtain ⟨n, ticket⟩ : ∃ n, s.history.ticket thread = n := ⟨_, rfl⟩
  rw [ticket] at turn full claimed ready holds moved ⊢
  have released : ∀ m, m < r.turn (m % capacity.size) ∨ m = n ↔
      m < (r.release n claimed ready).turn (m % capacity.size) := by
    intro m
    by_cases cell : m % capacity.size = n % capacity.size
    · rw [Ring.turn_release_self claimed ready cell, r.lt_round_iff cell, cell, turn]
      omega
    · rw [Ring.turn_release_other claimed ready cell, or_iff_left]
      rintro rfl
      exact cell rfl
  have noted : ((s.history.release thread item).look thread).ticket thread = n := ticket
  refine ⟨r.release n claimed ready, serves.moved _ ?_ ?_ (fun other different => ?_) (fun _ _ => nofun) fun _ _ => nofun⟩
  · refine Ledger.look ?_ thread
    exact
      { ledger with
        seqs := fun c inside => by
          by_cases cell : c = n % capacity.size
          · have own := s.queue.buffer_setSeq_self n (word n + s.queue.mask + 1)
            rw [ledger.sized] at own
            rw [cell, own, MPMCQueue.word_round, ledger.sized]
            simp [Ring.release]
          · rw [s.queue.buffer_setSeq_other _ (ledger.sized ▸ cell), ledger.seqs c inside]
            simp [Ring.release, cell]
        stored := fun m le ready' => by
          rw [MPMCQueue.data_setSeq]
          by_cases cell : m % capacity.size = n % capacity.size
          · have served := (Ring.stamp_eq_succ _).mp ready'
            simp [Ring.release, cell] at served
          · rw [Ring.stamp_release_other claimed ready cell] at ready'
            exact ledger.stored m le ready'
        vacant := fun m le empty => by
          rw [MPMCQueue.data_setSeq]
          by_cases cell : m % capacity.size = n % capacity.size
          · rw [cell]
            exact moved
          · rw [Ring.stamp_release_other claimed ready cell] at empty
            exact ledger.vacant m le empty
        published := fun m => by
          refine (ledger.published m).trans ?_
          by_cases cell : m % capacity.size = n % capacity.size
          · rw [Ring.stamp_release_self claimed ready cell, Ring.stamp_eq_of_cell cell, ready, r.lt_round_iff cell]
            omega
          · rw [Ring.stamp_release_other claimed ready cell]
        released := fun m => by
          rw [History.release, List.map_append, List.mem_append, ledger.released m, ← released m, ticket]
          simp
        once := by
          rw [History.release, List.map_append, List.nodup_append]
          refine ⟨ledger.once, by simp, fun m before k last => ?_⟩
          rw [List.map_singleton, List.mem_singleton, ticket] at last
          rintro rfl
          have := (ledger.released _).mp before
          rw [last, turn] at this
          omega
        items := fun e inside => by
          rw [History.release, List.mem_append, List.mem_singleton] at inside
          rcases inside with before | last
          · exact ledger.items e before
          · rw [last, ticket]
            exact holds }
  · refine List.mem_append_right _ (List.mem_singleton.mpr ?_)
    rw [noted, ticket]
  · refine
      { head := Nat.le_refl _
        tail := Nat.le_refl _
        stamps := Ring.stamp_le_release claimed ready
        pushed := List.prefix_refl _
        returned := List.subset_append_left _ _
        seen := Function.update_of_ne different _ _
        ticket := rfl
        owned := fun owns => ⟨?_, by rw [MPMCQueue.data_setSeq]⟩ }
    exact Ring.stamp_release_other claimed ready (ticket ▸ serves.apart different.symm (.inr reading) owns)

/-! ### Runs -/

theorem advance_eq (here : s.threads thread = operation) (spurious : Bool) :
    s.advance thread spurious =
      ⟨(Traffic.operate s.queue spurious operation).1,
        Function.update s.threads thread (Traffic.operate s.queue spurious operation).2,
        (s.history.note thread operation (Traffic.operate s.queue spurious operation).2).look thread⟩ := by
  rw [Traffic.advance, here]

theorem serves_pushing (serves : Serves capacity r s) {phase : Pushing α}
    (here : s.threads thread = .pushing phase) (spurious : Bool)
    (brisk : s.history.pushed.length < (s.history.seen thread).1 + 2 ^ 63) :
    ∃ r', Serves capacity r' (s.advance thread spurious) := by
  have ledger := serves.ledger
  have mine := serves.sound thread
  have looking : ((s.history.look thread).seen thread).1 = r.head := by simp [History.look, ledger.pushed]
  rw [here] at mine
  rw [advance_eq here]
  rw [ledger.pushed] at brisk
  cases phase with
  | load item =>
    refine ⟨r, serves.looked _ ⟨nofun, nofun⟩ ⟨?_, Nat.le_of_eq looking⟩⟩
    rw [looking]
    exact ledger.head
  | check item pos =>
    obtain ⟨rfl, le⟩ := mine
    simp only [Traffic.operate, MPMCQueue.push]
    split
    · rename_i zero
      rw [ledger.seq_cell] at zero
      have lt := r.stamp_lt (s.history.seen thread).1
      have ge := r.le_stamp le
      have small := capacity.size_le
      have stamp := word_inj (word_sub zero) (by omega) (by omega)
      refine ⟨r, serves.looked _ ⟨nofun, nofun⟩ ⟨_, rfl, ?_⟩⟩
      rw [looking]
      exact ⟨le, brisk, Nat.le_refl _, stamp.ge⟩
    · split
      · exact ⟨r, serves.looked _ ⟨nofun, nofun⟩ trivial⟩
      · exact ⟨r, serves.looked _ ⟨nofun, nofun⟩ trivial⟩
  | swap item pos =>
    obtain ⟨p, rfl, le, near, behind, reached⟩ := mine
    simp only [Traffic.operate, MPMCQueue.push]
    split
    · rename_i exchanged
      have same := exchanged.1
      rw [ledger.head] at same
      obtain rfl := word_inj same (by omega) (by omega)
      rw [word_succ]
      exact ⟨_, serves.claimHead (r.head_open reached)⟩
    · refine ⟨r, serves.looked _ ⟨nofun, nofun⟩ ⟨?_, Nat.le_of_eq looking⟩⟩
      rw [looking]
      exact ledger.head
  | write item pos => exact ⟨r, serves.write here⟩
  | publish pos => exact serves.publish here
  | done pushed => exact ⟨r, serves.looked _ ⟨nofun, nofun⟩ trivial⟩

theorem serves_popping (serves : Serves capacity r s) {phase : Popping α}
    (here : s.threads thread = .popping phase) (spurious : Bool)
    (brisk : s.history.popped < (s.history.seen thread).2 + 2 ^ 63) :
    ∃ r', Serves capacity r' (s.advance thread spurious) := by
  have ledger := serves.ledger
  have mine := serves.sound thread
  have looking : ((s.history.look thread).seen thread).2 = r.tail := by simp [History.look, ledger.popped]
  rw [here] at mine
  rw [advance_eq here]
  rw [ledger.popped] at brisk
  cases phase with
  | load =>
    refine ⟨r, serves.looked _ ⟨nofun, nofun⟩ ⟨?_, Nat.le_of_eq looking⟩⟩
    rw [looking]
    exact ledger.tail
  | check pos =>
    obtain ⟨rfl, le⟩ := mine
    simp only [Traffic.operate, MPMCQueue.pop]
    split
    · rename_i zero
      rw [ledger.seq_cell, word_succ] at zero
      have lt := r.stamp_le (s.history.seen thread).2
      have ge := r.le_stamp (le.trans r.behind)
      have small := capacity.size_le
      have stamp := word_inj (word_sub zero) (by omega) (by omega)
      refine ⟨r, serves.looked _ ⟨nofun, nofun⟩ ⟨_, rfl, ?_⟩⟩
      rw [looking]
      exact ⟨le, brisk, Nat.le_refl _, stamp.ge⟩
    · split
      · exact ⟨r, serves.looked _ ⟨nofun, nofun⟩ trivial⟩
      · exact ⟨r, serves.looked _ ⟨nofun, nofun⟩ trivial⟩
  | swap pos =>
    obtain ⟨p, rfl, le, near, behind, reached⟩ := mine
    simp only [Traffic.operate, MPMCQueue.pop]
    split
    · rename_i exchanged
      have same := exchanged.1
      rw [ledger.tail] at same
      obtain rfl := word_inj same (by omega) (by omega)
      rw [word_succ]
      exact ⟨_, serves.claimTail (r.tail_ready reached)⟩
    · refine ⟨r, serves.looked _ ⟨nofun, nofun⟩ ⟨?_, Nat.le_of_eq looking⟩⟩
      rw [looking]
      exact ledger.tail
  | read pos => exact ⟨r, serves.read here⟩
  | release pos item => exact serves.release here
  | done popped =>
    refine ⟨r, serves.looked _ ⟨nofun, nofun⟩ ?_⟩
    cases popped with
    | none => trivial
    | some item => exact mine

/-- A thread enters a call. -/
theorem Serves.enter (serves : Serves capacity r s) (next : Operation α) (quiet : ¬next.Writes ∧ ¬next.Reads)
    (sound : Sound r s.queue (s.history.look thread) thread next) : Serves capacity r (s.enter thread next) :=
  serves.looked next quiet sound

theorem Serves.call (serves : Serves capacity r s) (next : Operation α) (quiet : ¬next.Writes ∧ ¬next.Reads)
    (sound : Sound r s.queue (s.history.look thread) thread next) : Serves capacity r (s.call thread next) := by
  unfold Traffic.call
  split
  · exact serves.enter next quiet sound
  · exact serves

/-- What one step preserves. -/
theorem serves_step (serves : Serves capacity r s) (access : Nat × Access α) (brisk : s.Brisk access) :
    ∃ r', Serves capacity r' (s.step access) := by
  obtain ⟨thread, move⟩ := access
  cases move with
  | push item => exact ⟨r, serves.call _ ⟨nofun, nofun⟩ trivial⟩
  | pop => exact ⟨r, serves.call _ ⟨nofun, nofun⟩ trivial⟩
  | go spurious =>
    cases here : s.threads thread with
    | idle =>
      rw [Traffic.step, advance_eq here]
      exact ⟨r, serves.looked _ ⟨nofun, nofun⟩ trivial⟩
    | pushing phase => exact serves_pushing serves here spurious brisk.1
    | popping phase => exact serves_popping serves here spurious brisk.2

theorem serves_start (capacity : Capacity) : Serves capacity (.start capacity.two_le) (Traffic.start capacity : Traffic α) where
  ledger :=
    { sized := rfl
      head := rfl
      tail := rfl
      seqs := fun _ _ => rfl
      pushed := rfl
      popped := rfl
      stored := fun n _ ready => by simp [Ring.stamp_eq_succ, Ring.start] at ready
      vacant := fun _ _ _ => rfl
      published := fun n => by
        have := Nat.mod_le n capacity.size
        simp [Traffic.start, Ring.stamp, Ring.start, this]
      released := fun n => by
        have := Nat.mod_le n capacity.size
        simp [Traffic.start, Ring.start, this]
      once := .nil
      items := fun _ none => absurd none List.not_mem_nil }
  sound _ := trivial
  writers _ _ _ := False.elim
  readers _ _ _ := False.elim

end Steps

/-! ### Safety -/

/-- What is promised of a queue at every moment. -/
structure Traffic.Safe (capacity : Capacity) (s : Traffic α) : Prop where
  /-- A `Pop` that returns an item is on record with its ticket. -/
  recorded : ∀ thread item, s.threads thread = .popping (.done (some item)) →
    (s.history.ticket thread, item) ∈ s.history.returned
  /-- A ticket returns the item that was pushed for it. -/
  returned : ∀ e ∈ s.history.returned, ∃ item, e.2 = some item ∧ s.history.pushed[e.1]? = some item
  /-- No ticket returns twice. -/
  once : (s.history.returned.map Prod.fst).Nodup
  /-- The positions are the numbers of claims, so claims get their tickets in order. -/
  head : s.queue.head = word s.history.pushed.length
  tail : s.queue.tail = word s.history.popped
  behind : s.history.popped ≤ s.history.pushed.length
  /-- A producer writes the cell of its ticket, and only when nothing is in it. -/
  write : ∀ thread item pos, s.threads thread = .pushing (.write item pos) →
    pos = word (s.history.ticket thread) ∧ s.history.pushed[s.history.ticket thread]? = some item ∧
      (s.queue.cell pos).data = none
  /-- A consumer reads the cell of its ticket, and only when the producer has published it. -/
  read : ∀ thread pos, s.threads thread = .popping (.read pos) →
    pos = word (s.history.ticket thread) ∧ s.history.ticket thread ∈ s.history.published ∧
      ∃ item, (s.queue.cell pos).data = some item ∧ s.history.pushed[s.history.ticket thread]? = some item
  /-- The claimed tickets that consumers have not released. -/
  bounded : ((Finset.range s.history.pushed.length).filter fun n => n ∉ s.history.returned.map Prod.fst).card ≤
    capacity.size

theorem Serves.safe {capacity : Capacity} {r : Ring capacity.size} {s : Traffic α} (serves : Serves capacity r s) :
    s.Safe capacity := by
  have ledger := serves.ledger
  have cells : ∀ n, s.queue.cell (word n) = s.queue.buffer (n % capacity.size) := fun n => by
    rw [MPMCQueue.cell, MPMCQueue.index_word, ledger.sized]
  refine ⟨fun thread item here => ?_, ledger.items, ledger.once, ?_, ?_, ?_, fun thread item pos here => ?_,
    fun thread pos here => ?_, ?_⟩
  · have mine := serves.sound thread
    rwa [here] at mine
  · rw [ledger.pushed, ledger.head]
  · rw [ledger.popped, ledger.tail]
  · rw [ledger.pushed, ledger.popped]
    exact r.behind
  · have mine := serves.sound thread
    rw [here] at mine
    obtain ⟨rfl, claimed, opened, pushed, empty⟩ := mine
    exact ⟨rfl, pushed, by rw [cells, empty]⟩
  · have mine := serves.sound thread
    rw [here] at mine
    obtain ⟨rfl, claimed, ready, item, stored, pushed⟩ := mine
    refine ⟨rfl, (ledger.published _).mpr ?_, item, by rw [cells, stored], pushed⟩
    rw [ready]
    exact Nat.lt_succ_self _
  · simp only [ledger.pushed, ledger.released]
    exact r.card_held

/-- In every state of every run the queue is safe. -/
theorem mpmc_queue_safe (capacity : Capacity) (accesses : List (Nat × Access α))
    (brisk : Along Traffic.step Traffic.Brisk (.start capacity) accesses) :
    (after Traffic.step (.start capacity) accesses).Safe capacity := by
  suffices runs : ∃ r, Serves capacity r (after Traffic.step (.start capacity) accesses) from
    runs.elim fun _ serves => serves.safe
  exact @after_invariant _ _ _ _ (fun s => ∃ r, Serves capacity r s)
    (fun s access brisk ⟨_, serves⟩ => serves_step serves access brisk) _ ⟨_, serves_start capacity⟩ _ brisk

/-- Two cells. -/
def twoCells : Capacity := ⟨1, Nat.le_refl 1, by decide⟩

/-- Two producers compete for a ticket, and a consumer takes the first item that was published. -/
def competing : List (Nat × Access Nat) :=
  [(1, .push 7), (2, .push 8), (1, .go false), (2, .go false), (1, .go false), (2, .go false), (2, .go false),
    (1, .go false), (1, .go false), (1, .go false), (1, .go false), (2, .go false), (2, .go false), (3, .pop),
    (3, .go false), (3, .go false), (3, .go true), (3, .go false), (3, .go false), (3, .go false), (3, .go false)]

theorem mpmc_queue_safe_competing :
    (after Traffic.step (.start twoCells) competing).history.returned = [(0, some 8)] ∧
      (after Traffic.step (.start twoCells) competing).Safe twoCells :=
  ⟨by decide +kernel, mpmc_queue_safe twoCells competing (by decide +kernel)⟩

end NovaIIM
