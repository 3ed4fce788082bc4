import Mathlib.Data.Finset.Card

/-!
A ring of cells that is handed out by tickets.

Producers claim the tickets `0, 1, 2, …` in order, and so do consumers. The cell
of ticket `n` is `n % capacity`: each cell serves one ticket at a time, first to
the producer, who publishes it, then to the consumer, who releases the cell to the
ticket one round later. The fields of `Ring` say how far the claims can run ahead
of the cells; the four operations keep them. `Allotted` follows the tickets through
the hands of those who claimed them.
-/
namespace NovaIIM

/-- The claims so far, and for each cell the ticket it serves and whether that is published. -/
structure Ring (capacity : Nat) where
  head : Nat
  tail : Nat
  turn : Nat → Nat
  full : Nat → Bool
  two : 2 ≤ capacity
  lane : ∀ c < capacity, turn c % capacity = c
  room : ∀ c < capacity, head ≤ turn c + capacity
  free : ∀ c < capacity, turn c < tail + capacity
  claimed : ∀ c < capacity, full c = true → turn c < head
  awaited : ∀ c < capacity, full c = false → tail ≤ turn c
  behind : tail ≤ head

namespace Ring
variable {capacity : Nat}

theorem positive (r : Ring capacity) : 0 < capacity := Nat.lt_of_lt_of_le Nat.zero_lt_two r.two

theorem cell_lt (r : Ring capacity) (n : Nat) : n % capacity < capacity := Nat.mod_lt n r.positive

/-- The ring on which nothing was claimed. -/
def start (two : 2 ≤ capacity) : Ring capacity where
  head := 0
  tail := 0
  turn c := c
  full _ := false
  two := two
  lane _ := Nat.mod_eq_of_lt
  room _ _ := Nat.zero_le _
  free _ inside := by omega
  claimed _ _ := nofun
  awaited _ _ _ := Nat.zero_le _
  behind := Nat.le_refl 0

variable (r : Ring capacity)

/-- The stamp of the cell of a ticket: the ticket it serves, and one more once that is published. -/
def stamp (n : Nat) : Nat := r.turn (n % capacity) + (r.full (n % capacity)).toNat

/-- Two tickets of one cell are less than a round apart only if they are the same. -/
theorem same_round {a b : Nat} (cell : a % capacity = b % capacity) (le : a ≤ b) (near : b < a + capacity) : a = b := by
  have lt : b - a < capacity := by omega
  have dvd : (b - a) % capacity = 0 := Nat.sub_mod_eq_zero_of_mod_eq cell.symm
  rw [Nat.mod_eq_of_lt lt] at dvd
  omega

theorem turn_cell (n : Nat) : r.turn (n % capacity) % capacity = n % capacity := r.lane _ (r.cell_lt n)

/-- A cell that carries the stamp of a ticket serves that ticket to its producer. -/
theorem stamp_eq_self {n : Nat} :
    r.stamp n = n ↔ r.turn (n % capacity) = n ∧ r.full (n % capacity) = false := by
  rw [stamp]
  cases full : r.full (n % capacity) with
  | false => simp
  | true =>
    suffices r.turn (n % capacity) + 1 ≠ n by simpa
    intro next
    have := same_round (r.turn_cell n) (by omega) (by have := r.two; omega)
    omega

/-- A cell whose stamp is one more than a ticket serves that ticket to its consumer. -/
theorem stamp_eq_succ {n : Nat} :
    r.stamp n = n + 1 ↔ r.turn (n % capacity) = n ∧ r.full (n % capacity) = true := by
  rw [stamp]
  cases full : r.full (n % capacity) with
  | true => simp
  | false =>
    suffices r.turn (n % capacity) ≠ n + 1 by simpa
    intro next
    have := same_round (r.turn_cell n).symm (by omega) (by have := r.two; omega)
    omega

/-- A stamp is never far ahead of the claims. -/
theorem stamp_lt (n : Nat) : r.stamp n < r.head + capacity := by
  have claimed := r.claimed _ (r.cell_lt n)
  have free := r.free _ (r.cell_lt n)
  have := r.two
  have := r.behind
  rw [stamp]
  cases full : r.full (n % capacity) with
  | false =>
    simp only [Bool.toNat_false]
    omega
  | true =>
    have := claimed full
    simp only [Bool.toNat_true]
    omega

theorem stamp_le (n : Nat) : r.stamp n ≤ r.tail + capacity := by
  have free := r.free _ (r.cell_lt n)
  have := Bool.toNat_le (r.full (n % capacity))
  rw [stamp]
  omega

/-- A stamp is at most a round behind a claimed ticket. -/
theorem le_stamp {n : Nat} (le : n ≤ r.head) : n ≤ r.stamp n + capacity := by
  have := r.room _ (r.cell_lt n)
  rw [stamp]
  omega

/-- The cell of the next producer's ticket, once its stamp has come so far. -/
theorem head_open (reached : r.head ≤ r.stamp r.head) : r.stamp r.head = r.head := by
  have claimed := r.claimed _ (r.cell_lt r.head)
  have free := r.free _ (r.cell_lt r.head)
  have behind := r.behind
  rw [stamp] at reached
  cases full : r.full (r.head % capacity) with
  | true =>
    have := claimed full
    have := same_round (r.turn_cell r.head) (by omega) (by simp [full] at reached; have := r.two; omega)
    omega
  | false =>
    rw [full, Bool.toNat_false] at reached
    exact r.stamp_eq_self.mpr ⟨(same_round (r.turn_cell r.head).symm (by omega) (by omega)).symm, full⟩

/-- The cell of the next consumer's ticket, once its stamp has come so far. -/
theorem tail_ready (reached : r.tail + 1 ≤ r.stamp r.tail) : r.stamp r.tail = r.tail + 1 := by
  have free := r.free _ (r.cell_lt r.tail)
  rw [stamp] at reached
  cases full : r.full (r.tail % capacity) with
  | false =>
    rw [full, Bool.toNat_false] at reached
    have := same_round (r.turn_cell r.tail).symm (by omega) (by omega)
    omega
  | true =>
    rw [full, Bool.toNat_true] at reached
    exact r.stamp_eq_succ.mpr ⟨(same_round (r.turn_cell r.tail).symm (by omega) (by omega)).symm, full⟩

/-- A published ticket that no consumer has claimed was claimed by its producer. -/
theorem ready_lt {n : Nat} (ready : r.stamp n = n + 1) : n < r.head := by
  obtain ⟨turn, full⟩ := r.stamp_eq_succ.mp ready
  have := r.claimed _ (r.cell_lt n) full
  omega

/-- Two tickets that cells serve at present have different cells. -/
theorem served_apart {m n : Nat} (served : r.turn (m % capacity) = m) (served' : r.turn (n % capacity) = n)
    (different : m ≠ n) : m % capacity ≠ n % capacity := by
  intro cell
  rw [cell] at served
  exact different (served.symm.trans served')

/-! ### The operations -/

/-- A producer claims the next ticket. -/
def claimHead (opened : r.stamp r.head = r.head) : Ring capacity :=
  { r with
    head := r.head + 1
    room := fun c inside => by
      have room := r.room c inside
      rcases Nat.lt_or_eq_of_le room with less | last
      · omega
      · have cell : r.head % capacity = c := by
          rw [last, Nat.add_mod_right]
          exact r.lane c inside
        have := (r.stamp_eq_self.mp opened).1
        rw [cell] at this
        have := r.two
        omega
    claimed := fun c inside full => Nat.lt_succ_of_lt (r.claimed c inside full)
    behind := Nat.le_succ_of_le r.behind }

/-- The producer of a ticket publishes it. -/
def publish (n : Nat) (claim : n < r.head) (opened : r.stamp n = n) : Ring capacity :=
  { r with
    full := Function.update r.full (n % capacity) true
    claimed := fun c inside full => by
      by_cases here : c = n % capacity
      · rw [here, (r.stamp_eq_self.mp opened).1]
        exact claim
      · exact r.claimed c inside (by simpa [here] using full)
    awaited := fun c inside empty => by
      by_cases here : c = n % capacity
      · simp [here] at empty
      · exact r.awaited c inside (by simpa [here] using empty) }

/-- A consumer claims the next ticket. -/
def claimTail (ready : r.stamp r.tail = r.tail + 1) : Ring capacity :=
  { r with
    tail := r.tail + 1
    free := fun c inside => by
      have := r.free c inside
      omega
    awaited := fun c inside empty => by
      rcases Nat.lt_or_eq_of_le (r.awaited c inside empty) with less | last
      · exact less
      · have cell : r.tail % capacity = c := by
          rw [last]
          exact r.lane c inside
        have := (r.stamp_eq_succ.mp ready).2
        rw [cell, empty] at this
        exact absurd this Bool.false_ne_true
    behind := r.ready_lt ready }

/-- The consumer of a ticket releases the cell to the ticket one round later. -/
def release (n : Nat) (claim : n < r.tail) (ready : r.stamp n = n + 1) : Ring capacity :=
  { r with
    turn := Function.update r.turn (n % capacity) (n + capacity)
    full := Function.update r.full (n % capacity) false
    lane := fun c inside => by
      by_cases here : c = n % capacity
      · simp [here]
      · simpa [here] using r.lane c inside
    room := fun c inside => by
      by_cases here : c = n % capacity
      · have := r.room _ (r.cell_lt n)
        rw [(r.stamp_eq_succ.mp ready).1] at this
        simp [here]
        omega
      · simpa [here] using r.room c inside
    free := fun c inside => by
      by_cases here : c = n % capacity
      · simpa [here] using claim
      · simpa [here] using r.free c inside
    claimed := fun c inside full => by
      by_cases here : c = n % capacity
      · simp [here] at full
      · simp only [here, ne_eq, not_false_eq_true, Function.update_of_ne] at full ⊢
        exact r.claimed c inside full
    awaited := fun c inside empty => by
      by_cases here : c = n % capacity
      · have := r.room _ (r.cell_lt n)
        rw [(r.stamp_eq_succ.mp ready).1] at this
        have := r.behind
        simp [here]
        omega
      · simp only [here, ne_eq, not_false_eq_true, Function.update_of_ne] at empty ⊢
        exact r.awaited c inside empty }

@[simp] theorem stamp_claimHead (opened : r.stamp r.head = r.head) (m : Nat) :
    (r.claimHead opened).stamp m = r.stamp m := rfl

@[simp] theorem stamp_claimTail (ready : r.stamp r.tail = r.tail + 1) (m : Nat) :
    (r.claimTail ready).stamp m = r.stamp m := rfl

variable {r}

theorem stamp_publish_self {n : Nat} (claim : n < r.head) (opened : r.stamp n = n) {m : Nat}
    (cell : m % capacity = n % capacity) : (r.publish n claim opened).stamp m = n + 1 := by
  simp [stamp, publish, cell, (r.stamp_eq_self.mp opened).1]

theorem stamp_publish_other {n : Nat} (claim : n < r.head) (opened : r.stamp n = n) {m : Nat}
    (cell : m % capacity ≠ n % capacity) : (r.publish n claim opened).stamp m = r.stamp m := by
  simp [stamp, publish, cell]

theorem stamp_release_self {n : Nat} (claim : n < r.tail) (ready : r.stamp n = n + 1) {m : Nat}
    (cell : m % capacity = n % capacity) : (r.release n claim ready).stamp m = n + capacity := by
  simp [stamp, release, cell]

theorem stamp_release_other {n : Nat} (claim : n < r.tail) (ready : r.stamp n = n + 1) {m : Nat}
    (cell : m % capacity ≠ n % capacity) : (r.release n claim ready).stamp m = r.stamp m := by
  simp [stamp, release, cell]

theorem turn_release_self {n : Nat} (claim : n < r.tail) (ready : r.stamp n = n + 1) {m : Nat}
    (cell : m % capacity = n % capacity) : (r.release n claim ready).turn (m % capacity) = n + capacity := by
  simp [release, cell]

theorem turn_release_other {n : Nat} (claim : n < r.tail) (ready : r.stamp n = n + 1) {m : Nat}
    (cell : m % capacity ≠ n % capacity) :
    (r.release n claim ready).turn (m % capacity) = r.turn (m % capacity) := by
  simp [release, cell]

/-- A ticket of a cell is not after `n` before it is a round later. -/
theorem lt_round_iff (r : Ring capacity) {m n : Nat} (cell : m % capacity = n % capacity) : m < n + capacity ↔ m ≤ n := by
  refine ⟨fun near => ?_, fun le => ?_⟩
  · by_contra later
    have := same_round cell.symm (by omega) near
    omega
  · have := r.positive
    omega

theorem stamp_eq_of_cell {m n : Nat} (cell : m % capacity = n % capacity) : r.stamp m = r.stamp n := by
  rw [stamp, stamp, cell]

/-- Publishing only raises stamps. -/
theorem stamp_le_publish {n : Nat} (claim : n < r.head) (opened : r.stamp n = n) (m : Nat) :
    r.stamp m ≤ (r.publish n claim opened).stamp m := by
  by_cases cell : m % capacity = n % capacity
  · rw [stamp_publish_self claim opened cell, stamp_eq_of_cell cell, opened]
    exact Nat.le_succ n
  · rw [stamp_publish_other claim opened cell]

/-- So does releasing. -/
theorem stamp_le_release {n : Nat} (claim : n < r.tail) (ready : r.stamp n = n + 1) (m : Nat) :
    r.stamp m ≤ (r.release n claim ready).stamp m := by
  by_cases cell : m % capacity = n % capacity
  · rw [stamp_release_self claim ready cell, stamp_eq_of_cell cell, ready]
    have := r.two
    omega
  · rw [stamp_release_other claim ready cell]

/-- At most one ticket for each cell is claimed and not yet released. -/
theorem card_held (r : Ring capacity) :
    ((Finset.range r.head).filter fun n => ¬n < r.turn (n % capacity)).card ≤ capacity := by
  have served : ∀ n ∈ (Finset.range r.head).filter fun n => ¬n < r.turn (n % capacity),
      r.turn (n % capacity) = n := by
    intro n held
    rw [Finset.mem_filter, Finset.mem_range] at held
    have := r.room _ (r.cell_lt n)
    exact same_round (r.turn_cell n) (by omega) (by omega)
  calc _ ≤ (Finset.range capacity).card := by
        refine Finset.card_le_card_of_injOn (· % capacity) (fun n _ => ?_) fun m inside n inside' cell => ?_
        · exact Finset.mem_coe.mpr (Finset.mem_range.mpr (r.cell_lt n))
        · by_contra different
          exact r.served_apart (served m inside) (served n inside') different cell
    _ = capacity := Finset.card_range capacity

end Ring
/-! ### Tickets in hand -/

/-- Each ticket that was given out is filed, once, or in the hands of one holder. -/
structure Allotted (given : Nat) (filed : List Nat) (holds : Nat → Prop) (ticket : Nat → Nat) : Prop where
  once : filed.Nodup
  issued : ∀ n ∈ filed, n < given
  held : ∀ t, holds t → ticket t < given ∧ ticket t ∉ filed
  apart : ∀ t u, t ≠ u → holds t → holds u → ticket t ≠ ticket u
  covered : ∀ n < given, n ∈ filed ∨ ∃ t, holds t ∧ ticket t = n

namespace Allotted
variable {given : Nat} {filed : List Nat} {holds holds' : Nat → Prop} {ticket ticket' : Nat → Nat}

theorem none (quiet : ∀ t, ¬holds t) : Allotted 0 [] holds ticket :=
  ⟨.nil, fun _ inside => absurd inside List.not_mem_nil, fun t held => absurd held (quiet t),
    fun t _ _ held => absurd held (quiet t), fun n less => absurd less (Nat.not_lt_zero n)⟩

/-- The same holders have the same tickets. -/
theorem keep (allotted : Allotted given filed holds ticket) (same : ∀ t, holds' t ↔ holds t)
    (tickets : ∀ t, holds t → ticket' t = ticket t) : Allotted given filed holds' ticket' := by
  refine ⟨allotted.once, allotted.issued, fun t held => ?_, fun t u different held held' => ?_, fun n less => ?_⟩
  · have old := (same t).mp held
    rw [tickets t old]
    exact allotted.held t old
  · rw [tickets t ((same t).mp held), tickets u ((same u).mp held')]
    exact allotted.apart t u different ((same t).mp held) ((same u).mp held')
  · obtain filed | ⟨t, held, rfl⟩ := allotted.covered n less
    · exact .inl filed
    · exact .inr ⟨t, (same t).mpr held, tickets t held⟩

/-- The next ticket is given to a new holder. -/
theorem give (allotted : Allotted given filed holds ticket) {t : Nat} (free : ¬holds t) (now : holds' t)
    (same : ∀ u, u ≠ t → (holds' u ↔ holds u)) (tickets : ∀ u, u ≠ t → ticket' u = ticket u)
    (new : ticket' t = given) : Allotted (given + 1) filed holds' ticket' := by
  refine ⟨allotted.once, fun n inside => Nat.lt_succ_of_lt (allotted.issued n inside), fun u held => ?_,
    fun u v different held held' => ?_, fun n less => ?_⟩
  · by_cases here : u = t
    · rw [here, new]
      exact ⟨Nat.lt_succ_self _, fun inside => Nat.lt_irrefl _ (allotted.issued _ inside)⟩
    · rw [tickets u here]
      have old := allotted.held u ((same u here).mp held)
      exact ⟨Nat.lt_succ_of_lt old.1, old.2⟩
  · by_cases here : u = t
    · have there : v ≠ t := fun both => different (here.trans both.symm)
      rw [here, new, tickets v there]
      exact (allotted.held v ((same v there).mp held')).1.ne'
    · rw [tickets u here]
      by_cases there : v = t
      · rw [there, new]
        exact (allotted.held u ((same u here).mp held)).1.ne
      · rw [tickets v there]
        exact allotted.apart u v different ((same u here).mp held) ((same v there).mp held')
  · rcases Nat.lt_or_eq_of_le (Nat.le_of_lt_succ less) with before | last
    · obtain filed | ⟨u, held, rfl⟩ := allotted.covered n before
      · exact .inl filed
      · have different : u ≠ t := fun here => free (here ▸ held)
        exact .inr ⟨u, (same u different).mpr held, tickets u different⟩
    · exact .inr ⟨t, now, last ▸ new⟩

/-- A holder files the ticket. -/
theorem file (allotted : Allotted given filed holds ticket) {t : Nat} (held : holds t)
    (same : ∀ u, holds' u ↔ u ≠ t ∧ holds u) (tickets : ∀ u, u ≠ t → ticket' u = ticket u) :
    Allotted given (filed ++ [ticket t]) holds' ticket' := by
  refine ⟨?_, fun n inside => ?_, fun u its => ?_, fun u v different its its' => ?_, fun n less => ?_⟩
  · refine List.nodup_append.mpr ⟨allotted.once, List.nodup_singleton _, fun n before m last => ?_⟩
    rw [List.mem_singleton.mp last]
    rintro rfl
    exact (allotted.held t held).2 before
  · obtain before | last := List.mem_append.mp inside
    · exact allotted.issued n before
    · rw [List.mem_singleton.mp last]
      exact (allotted.held t held).1
  · obtain ⟨different, old⟩ := (same u).mp its
    rw [tickets u different]
    refine ⟨(allotted.held u old).1, fun inside => ?_⟩
    obtain before | last := List.mem_append.mp inside
    · exact (allotted.held u old).2 before
    · exact allotted.apart u t different old held (List.mem_singleton.mp last)
  · obtain ⟨away, old⟩ := (same u).mp its
    obtain ⟨away', old'⟩ := (same v).mp its'
    rw [tickets u away, tickets v away']
    exact allotted.apart u v different old old'
  · obtain filed | ⟨u, its, rfl⟩ := allotted.covered n less
    · exact .inl (List.mem_append_left _ filed)
    · by_cases here : u = t
      · rw [here]
        exact .inl (List.mem_append_right _ (List.mem_singleton_self _))
      · exact .inr ⟨u, (same u).mpr ⟨here, its⟩, tickets u here⟩

end Allotted
end NovaIIM
