import NovaIIM.RateLimiter

/-!
Purging cannot be noticed.

`MaybePurge` drops entries whose window has passed, of any key, when the table is large
or enough failures have been counted. `live` is what the entries say at a time: nothing,
once the window has passed. All that the operations answer and all that they leave
behind is a function of it, so two limiters whose entries say the same at one time
answer alike from then on.
-/
namespace NovaIIM

/-- A call of the limiter. -/
inductive LimiterCall where
  | allow (key : Bytes)
  | recordFailure (key : Bytes)
  | reset (key : Bytes)
deriving DecidableEq, Repr

namespace RateLimiter

/-- `RecordFailure` without `MaybePurge`. -/
def countFailure (l : RateLimiter) (key : Bytes) (now : Nat) : RateLimiter :=
  let e := (l.entries.lookup key).getD {}
  let counted : RateEntry :=
    if e.count = 0 ∨ l.window ≤ now - e.windowStart then ⟨now, 1⟩ else { e with count := e.count + 1 }
  { l with entries := l.entries.insert key counted }

/-- A call at a time, with what `Allow` answers. -/
def call (record : RateLimiter → Bytes → Nat → RateLimiter) (l : RateLimiter) (now : Nat) :
    LimiterCall → Option Bool × RateLimiter
  | .allow key => ((l.allow key now).1, (l.allow key now).2)
  | .recordFailure key => (none, record l key now)
  | .reset key => (none, l.reset key)

/-- The answers to calls at given times. -/
def answers (record : RateLimiter → Bytes → Nat → RateLimiter) : RateLimiter → List (Nat × LimiterCall) → List (Option Bool)
  | _, [] => []
  | l, (now, c) :: calls => (l.call record now c).1 :: answers record (l.call record now c).2 calls

/-- The entry of a key. -/
def entryOf (l : RateLimiter) (key : Bytes) : Option RateEntry := l.entries.lookup key

/-- The entry of a key, if its window has not passed. -/
def live (l : RateLimiter) (now : Nat) (key : Bytes) : Option RateEntry :=
  (l.entryOf key).filter fun e => now - e.windowStart < l.window

/-- The limits are the same and the entries say the same at a time. -/
structure LooksLike (now : Nat) (l l' : RateLimiter) : Prop where
  maxAttempts : l'.maxAttempts = l.maxAttempts
  window : l'.window = l.window
  live : ∀ key, l'.live now key = l.live now key

variable {l l' : RateLimiter} {key other : Bytes} {now later : Nat}

/-- A failure is counted after a purge. -/
theorem recordFailure_eq : l.recordFailure key now = (l.maybePurge now).countFailure key now := rfl

theorem live_none (missing : l.entryOf key = none) : l.live now key = none := by
  rw [live, missing, Option.filter_none]

theorem live_some {e : RateEntry} (found : l.entryOf key = some e) (inside : now - e.windowStart < l.window) :
    l.live now key = some e := by
  simp [live, found, inside]

theorem live_passed {e : RateEntry} (found : l.entryOf key = some e) (passed : l.window ≤ now - e.windowStart) :
    l.live now key = none := by
  simp [live, found, passed]

theorem live_erase : ({ l with entries := l.entries.erase key } : RateLimiter).live now other =
    if other = key then none else l.live now other := by
  split
  · next same => exact live_none (same ▸ AList.lookup_erase ..)
  · next apart =>
    have kept : ({ l with entries := l.entries.erase key } : RateLimiter).entryOf other = l.entryOf other :=
      AList.lookup_erase_ne apart
    rw [live, live, kept]

/-- With time, entries can only drop out. -/
theorem live_later (after : now ≤ later) :
    l.live later key = (l.live now key).filter fun e => later - e.windowStart < l.window := by
  rw [live, live, Option.filter_filter]
  congr 1
  funext e
  have still : later - e.windowStart < l.window → now - e.windowStart < l.window := fun open' => by omega
  by_cases open' : later - e.windowStart < l.window
  · simp [open', still open']
  · simp [open']

/-! ### What a call answers and leaves behind -/

/-- `Allow` decides on the live entry. -/
theorem allow_answer : (l.allow key now).1 = ((l.live now key).map fun e => decide (e.count < l.maxAttempts)).getD true := by
  cases found : l.entryOf key with
  | none =>
    have here : l.entries.lookup key = none := found
    rw [allow, here, live_none found]
    rfl
  | some e =>
    have here : l.entries.lookup key = some e := found
    rw [allow, here]
    dsimp only
    split
    · next passed =>
      rw [live_passed found passed]
      rfl
    · next inside =>
      rw [live_some found (Nat.not_le.mp inside)]
      rfl

theorem live_allow : (l.allow key now).2.live now other = l.live now other := by
  rw [allow]
  split
  · rfl
  · next e found =>
    split
    · next passed =>
      rw [live_erase]
      split
      · next same =>
        -- what is dropped says nothing any more
        rw [same, live_passed found passed]
      · rfl
    · rfl

theorem allow_limits : (l.allow key now).2.maxAttempts = l.maxAttempts ∧ (l.allow key now).2.window = l.window := by
  rw [allow]
  split
  · exact ⟨rfl, rfl⟩
  · split <;> exact ⟨rfl, rfl⟩

/-- The entry after one more failure. -/
def counted (now : Nat) : Option RateEntry → RateEntry
  | some e => if e.count = 0 then ⟨now, 1⟩ else { e with count := e.count + 1 }
  | none => ⟨now, 1⟩

/-- A failure counts in the live entry, or opens a window. -/
theorem entryOf_countFailure : (l.countFailure key now).entryOf other =
    if other = key then some (counted now (l.live now key)) else l.entryOf other := by
  split
  case isTrue same =>
    have stored : (l.countFailure key now).entryOf key = some (if ((l.entryOf key).getD {}).count = 0 ∨
        l.window ≤ now - ((l.entryOf key).getD {}).windowStart then ⟨now, 1⟩
        else { (l.entryOf key).getD {} with count := ((l.entryOf key).getD {}).count + 1 }) := AList.lookup_insert _
    rw [same, stored]
    cases found : l.entryOf key with
    | none =>
      rw [live_none found]
      rfl
    | some e =>
      dsimp only [Option.getD_some]
      by_cases passed : l.window ≤ now - e.windowStart
      · rw [live_passed found passed]
        simp [passed, counted]
      · rw [live_some found (Nat.not_le.mp passed)]
        simp [passed, counted]
  case isFalse apart => exact AList.lookup_insert_ne apart

private theorem lookup_foldl_erase (keys : List Bytes) (entries : AList fun _ : Bytes => RateEntry) :
    (keys.foldl (fun entries key => entries.erase key) entries).lookup other =
      if other ∈ keys then none else entries.lookup other := by
  induction keys generalizing entries with
  | nil => rfl
  | cons first keys ih =>
    rw [List.foldl_cons, ih]
    by_cases same : other = first
    · subst same
      simp [AList.lookup_erase]
    · simp [same, AList.lookup_erase_ne same]

theorem live_maybePurge : (l.maybePurge now).live now other = l.live now other := by
  rw [maybePurge]
  dsimp only
  split
  · rfl
  · rw [live, entryOf, lookup_foldl_erase]
    split
    case isTrue expired =>
      obtain ⟨-, passed⟩ := List.mem_filter.mp expired
      cases found : l.entryOf other with
      | none => exact (live_none found).symm
      | some e =>
        have here : l.entries.lookup other = some e := found
        rw [here] at passed
        exact (live_passed found (of_decide_eq_true passed)).symm
    case isFalse => rfl

theorem maybePurge_limits : (l.maybePurge now).maxAttempts = l.maxAttempts ∧ (l.maybePurge now).window = l.window := by
  rw [maybePurge]
  dsimp only
  split <;> exact ⟨rfl, rfl⟩

/-! ### Two limiters -/

theorem looksLike_later (same : LooksLike now l l') (after : now ≤ later) : LooksLike later l l' where
  maxAttempts := same.maxAttempts
  window := same.window
  live key := by rw [live_later after, live_later after, same.live, same.window]

theorem looksLike_trans {l'' : RateLimiter} (first : LooksLike now l l') (second : LooksLike now l' l'') :
    LooksLike now l l'' where
  maxAttempts := second.maxAttempts.trans first.maxAttempts
  window := second.window.trans first.window
  live key := (second.live key).trans (first.live key)

theorem looksLike_countFailure (same : LooksLike now l l') :
    LooksLike now (l.countFailure key now) (l'.countFailure key now) where
  maxAttempts := same.maxAttempts
  window := same.window
  live other := by
    have window : (l'.countFailure key now).window = (l.countFailure key now).window := same.window
    rw [live, live, entryOf_countFailure, entryOf_countFailure, same.live key, window]
    split
    · rfl
    · have alike := same.live other
      rw [live, live, same.window] at alike
      exact alike

theorem looksLike_maybePurge : LooksLike now (l.maybePurge now) l where
  maxAttempts := maybePurge_limits.1.symm
  window := maybePurge_limits.2.symm
  live _ := live_maybePurge.symm

/-- Alike limiters answer a call alike, with or without a purge, and stay alike. -/
theorem looksLike_call (same : LooksLike now l l') (c : LimiterCall) :
    (l.call recordFailure now c).1 = (l'.call countFailure now c).1 ∧
      LooksLike now (l.call recordFailure now c).2 (l'.call countFailure now c).2 := by
  cases c with
  | allow key =>
    refine ⟨?_, ?_, ?_, fun other => ?_⟩
    · show some _ = some _
      rw [allow_answer, allow_answer, same.live, same.maxAttempts]
    · exact allow_limits.1.trans (same.maxAttempts.trans allow_limits.1.symm)
    · exact allow_limits.2.trans (same.window.trans allow_limits.2.symm)
    · exact live_allow.trans ((same.live other).trans live_allow.symm)
  | recordFailure key => exact ⟨rfl, looksLike_countFailure (looksLike_trans looksLike_maybePurge same)⟩
  | reset key =>
    refine ⟨rfl, same.maxAttempts, same.window, fun other => ?_⟩
    show RateLimiter.live { l' with entries := _ } now other = RateLimiter.live { l with entries := _ } now other
    rw [live_erase, live_erase, same.live]

/-- Alike limiters answer calls alike for as long as the clock does not go back. -/
theorem answers_of_looksLike {calls : List (Nat × LimiterCall)} (same : LooksLike now l l')
    (after : ∀ c ∈ calls, now ≤ c.1) (monotone : calls.Pairwise fun first second => first.1 ≤ second.1) :
    answers recordFailure l calls = answers countFailure l' calls := by
  induction calls generalizing now l l' with
  | nil => rfl
  | cons first calls ih =>
    obtain ⟨time, c⟩ := first
    obtain ⟨behind, monotone⟩ := List.pairwise_cons.mp monotone
    have reached : LooksLike time l l' := looksLike_later same (after _ List.mem_cons_self)
    obtain ⟨answer, alike⟩ := looksLike_call reached c
    rw [answers, answers, answer, ih alike behind monotone]

/-- No purge changes what `Allow` answers, for any limits and any calls under a clock that does not go back. -/
theorem purging_invisible (l : RateLimiter) (calls : List (Nat × LimiterCall))
    (monotone : calls.Pairwise fun first second => first.1 ≤ second.1) :
    answers recordFailure l calls = answers countFailure l calls :=
  answers_of_looksLike ⟨rfl, rfl, fun _ => rfl⟩ (fun _ _ => Nat.zero_le _) monotone

/-- A table of one entry that purges at every failure. -/
theorem purging_invisible_small :
    answers recordFailure { maxAttempts := 1, window := 10, maxEntries := 1 }
        [(0, .recordFailure [1]), (5, .recordFailure [2]), (9, .allow [1]), (12, .recordFailure [2]), (13, .allow [1])] =
      [none, none, some false, none, some true] ∧
    answers recordFailure { maxAttempts := 1, window := 10, maxEntries := 1 }
        [(0, .recordFailure [1]), (5, .recordFailure [2]), (9, .allow [1]), (12, .recordFailure [2]), (13, .allow [1])] =
      answers countFailure { maxAttempts := 1, window := 10, maxEntries := 1 }
        [(0, .recordFailure [1]), (5, .recordFailure [2]), (9, .allow [1]), (12, .recordFailure [2]), (13, .allow [1])] :=
  ⟨by decide, purging_invisible _ _ (by decide)⟩

end RateLimiter
end NovaIIM
