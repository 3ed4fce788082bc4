import NovaIIM.LimiterPurge
import NovaIIM.Runs

/-!
What the limiter admits in an interval.

A window that slides would count, at every failure, all that are less than its length
old. The limiter counts from the first failure of a window on and starts again at zero
when the window has passed, so the failures of the window before are left out although
some of them may still be young. Failures of attempts that were let through beside one
another are all counted, but only after each of them had been let through, so a failure may
be recorded where the limiter no longer has room. Without either the limiter slides
(`slides_of_room`).
-/
namespace NovaIIM

/-! ### Times in order -/

/-- At most so many of the times lie in any interval shorter than the window. -/
def Slides (window : Nat) (limit : Int) (times : List Nat) : Prop :=
  ∀ first last, first ≤ last → last < first + window →
    (times.countP (fun t => first ≤ t ∧ t ≤ last) : Int) ≤ limit

/-- At each of the times, the latest first, at most so many up to it are younger than the window. -/
def YoungAtMost (window limit : Nat) : List Nat → Prop
  | [] => True
  | now :: earlier => (now :: earlier).countP (fun t => now < t + window) ≤ limit ∧ YoungAtMost window limit earlier

/-- It is enough to look back from each of the times. -/
theorem slides_iff_youngAtMost {window limit : Nat} {times : List Nat}
    (sorted : times.Pairwise fun later earlier => earlier ≤ later) :
    Slides window limit times ↔ YoungAtMost window limit times := by
  induction times with
  | nil => exact iff_of_true (fun _ _ _ _ => by simp) trivial
  | cons now earlier ih =>
    obtain ⟨behind, sorted⟩ := List.pairwise_cons.mp sorted
    rw [YoungAtMost, ← ih sorted]
    constructor
    · refine fun slides => ⟨?_, fun first last order short => ?_⟩
      · obtain rfl | wide := Nat.eq_zero_or_pos window
        · have none' : (now :: earlier).countP (fun t => now < t + 0) = 0 := by
            rw [List.countP_eq_zero]
            intro t inside
            obtain rfl | inside := List.mem_cons.mp inside
            · simp
            · simpa using behind t inside
          omega
        · have bounded := slides (now + 1 - window) now (by omega) (by omega)
          have fewer : (now :: earlier).countP (fun t => now < t + window) ≤
              (now :: earlier).countP (fun t => now + 1 - window ≤ t ∧ t ≤ now) := by
            refine List.countP_mono_left fun t inside young => ?_
            have young := of_decide_eq_true young
            have upper : t ≤ now := by
              obtain rfl | inside := List.mem_cons.mp inside
              · exact Nat.le_refl _
              · exact behind t inside
            simp only [decide_eq_true_eq]
            omega
          omega
      · have fewer := (List.sublist_cons_self now earlier).countP_le (p := fun t => decide (first ≤ t ∧ t ≤ last))
        have bounded := slides first last order short
        omega
    · rintro ⟨young, slides⟩ first last order short
      by_cases inside : first ≤ now ∧ now ≤ last
      · -- all that are in the interval are young at its latest failure
        have fewer : (now :: earlier).countP (fun t => first ≤ t ∧ t ≤ last) ≤
            (now :: earlier).countP (fun t => now < t + window) := by
          refine List.countP_mono_left fun t _ within => ?_
          simp only [decide_eq_true_eq] at within ⊢
          omega
        omega
      · have same : (now :: earlier).countP (fun t => first ≤ t ∧ t ≤ last) =
            earlier.countP (fun t => first ≤ t ∧ t ≤ last) := List.countP_cons_of_neg (by simpa using inside)
        rw [same]
        exact slides first last order short

/-! ### Timelines -/

/-- A recorded failure: how many its window has with it, how many of earlier windows are
    younger than a window, and whether `Allow` still let attempts through just before it was
    recorded. -/
structure LimitedFailure where
  time : Nat
  start : Nat
  count : Nat
  young : Nat
  admitted : Bool
deriving DecidableEq, Repr

/-- A failure behind others, the latest first. It opens a window if that of the last one has passed. -/
def LimitedFailure.behind (window : Nat) (earlier : List LimitedFailure) (now : Nat) (admitted : Bool) : LimitedFailure :=
  let start := match earlier with
    | [] => now
    | last :: _ => if window ≤ now - last.start then now else last.start
  { time := now
    start := start
    count := earlier.countP (fun f => f.start = start) + 1
    young := earlier.countP (fun f => f.start ≠ start ∧ now < f.time + window)
    admitted := admitted }

/-- The limiter over time, seen from one key: how many attempts were let through and have not
    failed, and the failures, the latest first. -/
structure LimitedKey where
  limiter : RateLimiter
  now : Nat := 0
  waiting : Nat := 0
  failures : List LimitedFailure := []

/-- Time passes, an attempt asks, one that was let through fails, or another key is used. -/
inductive LimitedEvent where
  | pass (time : Nat)
  | allow
  | fail
  | other (call : LimiterCall)
deriving DecidableEq, Repr

def LimiterCall.key : LimiterCall → Bytes
  | .allow key | .recordFailure key | .reset key => key

namespace LimitedKey
open RateLimiter LimitedFailure

/-- `RecordFailure` is called for attempts that were let through, and never `Reset` for the key. -/
def step (key : Bytes) (s : LimitedKey) : LimitedEvent → LimitedKey
  | .pass time => { s with now := s.now + time }
  | .allow =>
    { s with
      limiter := (s.limiter.allow key s.now).2
      waiting := if (s.limiter.allow key s.now).1 then s.waiting + 1 else s.waiting }
  | .fail =>
    match s.waiting with
    | 0 => s
    | waiting + 1 =>
      { s with
        limiter := s.limiter.recordFailure key s.now
        waiting := waiting
        failures := behind s.limiter.window s.failures s.now (s.limiter.allow key s.now).1 :: s.failures }
  | .other call => if call.key = key then s else { s with limiter := (s.limiter.call recordFailure s.now call).2 }

/-! ### The failures of a key -/

/-- Failures that were recorded one behind the other. -/
inductive Successive (window : Nat) : List LimitedFailure → Prop where
  | none : Successive window []
  | behind {earlier : List LimitedFailure} (now : Nat) (admitted : Bool) (past : ∀ f ∈ earlier, f.time ≤ now)
      (before : Successive window earlier) : Successive window (behind window earlier now admitted :: earlier)

variable {key : Bytes} {window now : Nat} {limit : Int} {admitted : Bool} {failures earlier : List LimitedFailure}

theorem start_behind_le (past : ∀ f ∈ earlier, f.start ≤ f.time ∧ f.time ≤ now) :
    (behind window earlier now admitted).start ≤ now := by
  cases earlier with
  | nil => exact Nat.le_refl _
  | cons last rest =>
    obtain ⟨started, ended⟩ := past last List.mem_cons_self
    show (if window ≤ now - last.start then now else last.start) ≤ now
    split <;> omega

theorem Successive.start_le (succ : Successive window failures) : ∀ f ∈ failures, f.start ≤ f.time := by
  induction succ with
  | none => simp
  | behind now admitted past before ih =>
    intro f inside
    obtain rfl | inside := List.mem_cons.mp inside
    · exact start_behind_le fun f inside => ⟨ih f inside, past f inside⟩
    · exact ih f inside

theorem Successive.sorted (succ : Successive window failures) :
    (failures.map LimitedFailure.time).Pairwise fun later earlier => earlier ≤ later := by
  induction succ with
  | none => exact .nil
  | behind now admitted past before ih =>
    refine .cons (fun t inside => ?_) ih
    obtain ⟨f, there, rfl⟩ := List.mem_map.mp inside
    exact past f there

/-- The last window is the latest. -/
theorem Successive.starts {last : LimitedFailure} (succ : Successive window (last :: earlier)) :
    ∀ f ∈ earlier, f.start ≤ last.start := by
  generalize whole : last :: earlier = failures at succ
  induction succ generalizing last earlier with
  | none => cases whole
  | @behind earlier' now admitted past before ih =>
    obtain ⟨rfl, rfl⟩ := List.cons_eq_cons.mp whole
    intro f inside
    cases earlier with
    | nil => cases inside
    | cons last rest =>
      have atMost : f.start ≤ last.start := by
        obtain rfl | inside := List.mem_cons.mp inside
        · exact Nat.le_refl _
        · exact ih rfl f inside
      have ended := past last List.mem_cons_self
      have started := before.start_le last List.mem_cons_self
      show f.start ≤ if window ≤ now - last.start then now else last.start
      split <;> omega

/-- What the entry of the key is, going by its failures. -/
def shown (window now : Nat) : List LimitedFailure → Option RateEntry
  | [] => none
  | last :: _ => if now - last.start < window then some ⟨last.start, last.count⟩ else none

theorem count_head {last : LimitedFailure} (succ : Successive window (last :: earlier)) :
    last.count = earlier.countP (fun f => f.start = last.start) + 1 := by
  cases succ
  rfl

/-- A failure in an open window is one more of it. -/
theorem behind_open {last : LimitedFailure} (succ : Successive window (last :: earlier))
    (opened : now - last.start < window) :
    (behind window (last :: earlier) now admitted).start = last.start ∧
      (behind window (last :: earlier) now admitted).count = last.count + 1 := by
  have same : (behind window (last :: earlier) now admitted).start = last.start := if_neg (Nat.not_le.mpr opened)
  refine ⟨same, ?_⟩
  show (last :: earlier).countP (fun f => f.start = (behind window (last :: earlier) now admitted).start) + 1 = _
  rw [same, count_head succ, List.countP_cons_of_pos (by simp)]

/-- A failure counts as the limiter counts it. -/
theorem counted_shown (wide : 0 < window) (succ : Successive window earlier) (past : ∀ f ∈ earlier, f.time ≤ now) :
    counted now (shown window now earlier) =
      ⟨(behind window earlier now admitted).start, (behind window earlier now admitted).count⟩ := by
  cases earlier with
  | nil => rfl
  | cons last rest =>
    have opened := count_head succ
    by_cases passed : window ≤ now - last.start
    · -- no earlier window starts now
      have first : (behind window (last :: rest) now admitted).start = now := if_pos passed
      have fresh : (last :: rest).countP (fun f => f.start = now) = 0 := by
        rw [List.countP_eq_zero]
        intro f inside
        have atMost : f.start ≤ last.start := by
          obtain rfl | inside := List.mem_cons.mp inside
          · exact Nat.le_refl _
          · exact succ.starts f inside
        simp only [decide_eq_true_eq]
        omega
      have one : (behind window (last :: rest) now admitted).count = 1 := by
        show (last :: rest).countP (fun f => f.start = (behind window (last :: rest) now admitted).start) + 1 = 1
        rw [first, fresh]
      rw [shown, if_neg (by omega), first, one]
      rfl
    · obtain ⟨same, more⟩ := @behind_open window now admitted rest last succ (by omega)
      have counts : ((last.count : Nat) : Int) ≠ 0 := by omega
      rw [shown, if_pos (by omega), same, more, counted, if_neg counts]
      simp

private theorem countP_split (earlier : List LimitedFailure) {p q : LimitedFailure → Prop} [DecidablePred p]
    [DecidablePred q] (within : ∀ f ∈ earlier, p f → q f) :
    earlier.countP (fun f => p f) + earlier.countP (fun f => ¬p f ∧ q f) = earlier.countP (fun f => q f) := by
  induction earlier with
  | nil => rfl
  | cons f rest ih =>
    have rest := ih fun g inside => within g (List.mem_cons_of_mem _ inside)
    have here := within f List.mem_cons_self
    simp only [List.countP_cons, decide_eq_true_eq]
    by_cases hp : p f
    · simp only [hp, here hp, not_true, false_and, if_true, if_false]
      omega
    · simp only [hp, not_false_iff, true_and, if_false]
      omega

/-- The window of a failure is open. -/
theorem short_behind (wide : 0 < window) : now - (behind window earlier now admitted).start < window := by
  cases earlier with
  | nil => show now - now < window; omega
  | cons last rest =>
    show now - (if window ≤ now - last.start then now else last.start) < window
    split <;> omega

/-- The count of the window and the young of the windows before are all the young there are. -/
theorem count_young (wide : 0 < window) (succ : Successive window earlier) (past : ∀ f ∈ earlier, f.time ≤ now) :
    (behind window earlier now admitted).count + (behind window earlier now admitted).young =
      (now :: earlier.map LimitedFailure.time).countP (fun t => now < t + window) := by
  have short := @short_behind window now admitted earlier wide
  have within : ∀ f ∈ earlier, f.start = (behind window earlier now admitted).start → now < f.time + window := by
    intro f inside same
    have started := succ.start_le f inside
    have began := @start_behind_le window now admitted earlier fun f inside => ⟨succ.start_le f inside, past f inside⟩
    omega
  have parts := countP_split earlier within
  have count : (behind window earlier now admitted).count =
      earlier.countP (fun f => f.start = (behind window earlier now admitted).start) + 1 := rfl
  have young : (behind window earlier now admitted).young = earlier.countP (fun f =>
      ¬f.start = (behind window earlier now admitted).start ∧ now < f.time + window) := rfl
  have times : (earlier.map LimitedFailure.time).countP (fun t => now < t + window) =
      earlier.countP (fun f => now < f.time + window) := List.countP_map
  rw [List.countP_cons_of_pos (by simpa using wide), times, ← parts, count, young]
  omega

/-- At every failure, what the code counts and what it leaves out. -/
theorem youngAtMost_iff (wide : 0 < window) {limit : Nat} (succ : Successive window failures) :
    YoungAtMost window limit (failures.map LimitedFailure.time) ↔ ∀ f ∈ failures, f.count + f.young ≤ limit := by
  induction succ with
  | none => simp [YoungAtMost]
  | behind now admitted past before ih =>
    rw [List.map_cons, YoungAtMost, ih, List.forall_mem_cons, count_young wide before past]
    exact Iff.rfl

theorem shown_later {later : Nat} (after : now ≤ later) : shown window later failures =
    (shown window now failures).filter fun e => later - e.windowStart < window := by
  cases failures with
  | nil => rfl
  | cons last rest =>
    by_cases open' : later - last.start < window
    · have still : now - last.start < window := by omega
      rw [shown, shown, if_pos open', if_pos still, Option.filter_some_pos]
      exact decide_eq_true open'
    · rw [shown, shown, if_neg open']
      split
      · exact (Option.filter_some_neg (by simpa using open')).symm
      · rfl

/-! ### Runs -/

/-- The entry of the key is what its failures make of it, and no window has more failures than
    the limit where there was room for the last of them. -/
structure InLimits (key : Bytes) (limit : Int) (window : Nat) (s : LimitedKey) : Prop where
  maxAttempts : s.limiter.maxAttempts = limit
  length : s.limiter.window = window
  succ : Successive window s.failures
  past : ∀ f ∈ s.failures, f.time ≤ s.now
  live : s.limiter.live s.now key = shown window s.now s.failures
  within : 1 ≤ limit → ∀ f ∈ s.failures, f.admitted = true → f.count ≤ limit
  /-- where there was no room, the window has more -/
  beyond : ∀ f ∈ s.failures, f.admitted = false → limit < f.count

variable {s : LimitedKey} {l : RateLimiter}

theorem recordFailure_limits :
    (l.recordFailure key now).maxAttempts = l.maxAttempts ∧ (l.recordFailure key now).window = l.window :=
  maybePurge_limits

theorem live_recordFailure {other : Bytes} (apart : other ≠ key) :
    (l.recordFailure key now).live now other = l.live now other := by
  have same : (l.recordFailure key now).entryOf other = (l.maybePurge now).entryOf other := by
    rw [recordFailure_eq, entryOf_countFailure, if_neg apart]
  rw [RateLimiter.live, same, recordFailure_limits.2, ← @live_maybePurge l other now, RateLimiter.live,
    maybePurge_limits.2]

/-- A call for one key leaves the limits and the entries of the others. -/
theorem call_other {call : LimiterCall} (apart : call.key ≠ key) :
    (l.call recordFailure now call).2.maxAttempts = l.maxAttempts ∧
      (l.call recordFailure now call).2.window = l.window ∧
      (l.call recordFailure now call).2.live now key = l.live now key := by
  cases call with
  | allow other => exact ⟨allow_limits.1, allow_limits.2, live_allow⟩
  | recordFailure other =>
    exact ⟨recordFailure_limits.1, recordFailure_limits.2, live_recordFailure (Ne.symm apart)⟩
  | reset other =>
    refine ⟨rfl, rfl, ?_⟩
    exact live_erase.trans (if_neg (Ne.symm apart))

theorem live_recordFailure_self : (l.recordFailure key now).live now key =
    (some (counted now (l.live now key))).filter fun e => now - e.windowStart < l.window := by
  have stored : (l.recordFailure key now).entryOf key = some (counted now (l.live now key)) := by
    rw [recordFailure_eq, entryOf_countFailure, if_pos rfl, live_maybePurge]
  rw [RateLimiter.live, stored, recordFailure_limits.2]

/-- A failure at which `Allow` answers in one way or the other counts so many. -/
theorem count_admitted (wide : 0 < window) (lim : InLimits key limit window s) :
    ((behind window s.failures s.now (s.limiter.allow key s.now).1).count : Int) =
      (((s.limiter.live s.now key).map RateEntry.count).getD 0) + 1 := by
  have counts := @counted_shown window s.now (s.limiter.allow key s.now).1 s.failures wide lim.succ lim.past
  have count : (counted s.now (shown window s.now s.failures)).count =
      (behind window s.failures s.now (s.limiter.allow key s.now).1).count := by rw [counts]
  rw [← count, ← lim.live]
  cases s.limiter.live s.now key with
  | none => rfl
  | some e =>
    show (if e.count = 0 then (⟨s.now, 1⟩ : RateEntry) else { e with count := e.count + 1 }).count = e.count + 1
    split
    · next zero => rw [zero]; rfl
    · rfl

theorem inLimits_fail (wide : 0 < window) (lim : InLimits key limit window s) (waiting : Nat) :
    InLimits key limit window
      { s with
        limiter := s.limiter.recordFailure key s.now
        waiting := waiting
        failures := behind window s.failures s.now (s.limiter.allow key s.now).1 :: s.failures } := by
  have counts := @counted_shown window s.now (s.limiter.allow key s.now).1 s.failures wide lim.succ lim.past
  have count := count_admitted wide lim
  refine ⟨recordFailure_limits.1.trans lim.maxAttempts, recordFailure_limits.2.trans lim.length,
    .behind s.now _ lim.past lim.succ, ?_, ?_, fun positive f inside admitted => ?_, fun f inside full => ?_⟩
  · exact List.forall_mem_cons.mpr ⟨Nat.le_refl _, lim.past⟩
  · show (s.limiter.recordFailure key s.now).live s.now key = _
    rw [live_recordFailure_self, lim.live, lim.length, counts, shown]
    split
    · next inside => exact Option.filter_some_pos (decide_eq_true inside)
    · next passed => exact Option.filter_some_neg (by simpa using passed)
  · obtain rfl | inside := List.mem_cons.mp inside
    · have admitted : (s.limiter.allow key s.now).1 = true := admitted
      rw [allow_answer, lim.maxAttempts] at admitted
      rw [count]
      cases found : s.limiter.live s.now key with
      | none => exact positive
      | some e =>
        have below : e.count < limit := by simpa [found] using admitted
        show e.count + 1 ≤ limit
        omega
    · exact lim.within positive f inside admitted
  · obtain rfl | inside := List.mem_cons.mp inside
    · have full : (s.limiter.allow key s.now).1 = false := full
      rw [allow_answer, lim.maxAttempts] at full
      rw [count]
      cases found : s.limiter.live s.now key with
      | none => simp [found] at full
      | some e =>
        have reached : limit ≤ e.count := by simpa [found] using full
        show limit < e.count + 1
        omega
    · exact lim.beyond f inside full

/-- Every event keeps a key in its limits. -/
theorem inLimits_step (wide : 0 < window) (event : LimitedEvent) (lim : InLimits key limit window s) :
    InLimits key limit window (step key s event) := by
  cases event with
  | pass time =>
    have later : s.limiter.live (s.now + time) key = (s.limiter.live s.now key).filter fun e =>
        s.now + time - e.windowStart < s.limiter.window := live_later (Nat.le_add_right ..)
    refine ⟨lim.maxAttempts, lim.length, lim.succ, fun f inside => ?_, ?_, lim.within, lim.beyond⟩
    · exact Nat.le_add_right_of_le (lim.past f inside)
    · show s.limiter.live (s.now + time) key = shown window (s.now + time) s.failures
      rw [later, lim.live, lim.length, shown_later (Nat.le_add_right ..)]
  | allow =>
    exact ⟨allow_limits.1.trans lim.maxAttempts, allow_limits.2.trans lim.length, lim.succ, lim.past,
      live_allow.trans lim.live, lim.within, lim.beyond⟩
  | fail =>
    rw [step]
    split
    · exact lim
    · rw [lim.length]
      exact inLimits_fail wide lim _
  | other call =>
    rw [step]
    split
    · exact lim
    · next apart =>
      obtain ⟨limits, length, same⟩ := @call_other key s.now s.limiter call apart
      exact ⟨limits.trans lim.maxAttempts, length.trans lim.length, lim.succ, lim.past, same.trans lim.live,
        lim.within, lim.beyond⟩

/-- A key of a new limiter. -/
def fresh (maxAttempts : Int) (window maxEntries : Nat) : LimitedKey where
  limiter := { maxAttempts := maxAttempts, window := window, maxEntries := maxEntries }

theorem inLimits_after (wide : 0 < window) (maxEntries : Nat) (events : List LimitedEvent) :
    InLimits key limit window (after (step key) (fresh limit window maxEntries) events) :=
  after_invariant_always (fun _ event => inLimits_step wide event)
    ⟨rfl, rfl, .none, by simp [fresh], rfl, by simp [fresh], by simp [fresh]⟩ events

/-- In the limits, an interval is too full if the failures of a window and those left out are too many. -/
theorem slides_iff_counts (wide : 0 < window) (lim : InLimits key limit window s) :
    Slides window limit (s.failures.map LimitedFailure.time) ↔
      0 ≤ limit ∧ ∀ f ∈ s.failures, ((f.count + f.young : Nat) : Int) ≤ limit := by
  obtain negative | positive := Int.lt_or_le limit 0
  · refine iff_of_false (fun slides => ?_) (by omega)
    have bounded := slides 0 0 (Nat.le_refl _) (by omega)
    omega
  · obtain ⟨n, rfl⟩ := Int.eq_ofNat_of_zero_le positive
    rw [slides_iff_youngAtMost lim.succ.sorted, youngAtMost_iff wide lim.succ]
    simp only [Int.ofNat_le, positive, true_and]

/-- In every timeline, all intervals shorter than the window hold at most `maxAttempts` failures
    if there is no window, or if the limit is positive (or there is nothing to count) and at every
    failure `Allow` still let attempts through just before and no failure of an earlier window is
    young. -/
theorem slides_of_room (maxAttempts : Int) (window maxEntries : Nat) (key : Bytes) (events : List LimitedEvent)
    (room : window = 0 ∨
      (1 ≤ maxAttempts ∨
        maxAttempts = 0 ∧ (after (step key) (fresh maxAttempts window maxEntries) events).failures = []) ∧
      ∀ f ∈ (after (step key) (fresh maxAttempts window maxEntries) events).failures,
        f.admitted = true ∧ f.young = 0) :
    Slides window maxAttempts
      ((after (step key) (fresh maxAttempts window maxEntries) events).failures.map LimitedFailure.time) := by
  obtain rfl | wide := Nat.eq_zero_or_pos window
  · exact fun first last order short => absurd short (by omega)
  · have lim := @inLimits_after key window maxAttempts wide maxEntries events
    obtain rfl | ⟨positive | ⟨rfl, nothing⟩, admitted⟩ := room
    · exact absurd wide (Nat.lt_irrefl 0)
    · refine (slides_iff_counts wide lim).mpr ⟨by omega, fun f inside => ?_⟩
      obtain ⟨allowed, none'⟩ := admitted f inside
      rw [none']
      exact lim.within positive f inside allowed
    · exact (slides_iff_counts wide lim).mpr ⟨Int.le_refl 0, by simp [nothing]⟩

/-- Five failures within a minute, and a sixth attempt that is turned away until the minute is over. -/
def spread : List LimitedEvent :=
  (List.replicate 5 [.allow, .fail]).flatten ++ [.allow, .fail, .pass 60000, .allow, .fail]

/-- They are all admitted, and the sixth opens a window of its own. -/
theorem slides_of_room_spread :
    Slides 60000 5 ((after (step [1]) (fresh 5 60000 100000) spread).failures.map LimitedFailure.time) ∧
      (after (step [1]) (fresh 5 60000 100000) spread).failures.map LimitedFailure.time = [60000, 0, 0, 0, 0, 0] :=
  ⟨slides_of_room 5 60000 100000 [1] spread (.inr ⟨.inl (by decide), by decide⟩), by decide⟩

/-- Without room at one of the failures, an interval is too full. -/
theorem admitted_of_slides (wide : 0 < window) (lim : InLimits key limit window s)
    (slides : Slides window limit (s.failures.map LimitedFailure.time)) : ∀ f ∈ s.failures, f.admitted = true := by
  intro f inside
  by_contra full
  have more := lim.beyond f inside (Bool.eq_false_iff.mpr full)
  have few := ((slides_iff_counts wide lim).mp slides).2 f inside
  omega

/-- The limiter admits one attempt more at the time of a failure of a window that is not full. -/
private theorem attempt_open (wide : 0 < window) (lim : InLimits key limit window s) {last : LimitedFailure}
    (failures : s.failures = last :: earlier) (latest : last.time = s.now) (few : (last.count : Int) < limit) :
    ∃ next, (after (step key) s [.allow, .fail]).failures = next :: last :: earlier ∧
      next.time = (after (step key) s [.allow, .fail]).now ∧ next.count = last.count + 1 ∧ next.young = last.young := by
  have succ := lim.succ
  rw [failures] at succ
  have opened : s.now - last.start < window := by
    rw [← latest]
    cases succ with
    | behind now admitted past before => exact short_behind wide
  have allowed : (s.limiter.allow key s.now).1 = true := by
    rw [allow_answer, lim.live, failures, shown, if_pos opened, lim.maxAttempts]
    simpa using few
  have window_eq : (s.limiter.allow key s.now).2.window = window := allow_limits.2.trans lim.length
  generalize still : ((s.limiter.allow key s.now).2.allow key s.now).1 = admitted
  obtain ⟨same, more⟩ := @behind_open window s.now admitted earlier last succ opened
  refine ⟨behind window (last :: earlier) s.now admitted, ?_, ?_, more, ?_⟩
  · simp [after, step, allowed, window_eq, failures, still]
  · simp [after, step, allowed, LimitedFailure.behind]
  · have young : last.young = earlier.countP fun f => f.start ≠ last.start ∧ last.time < f.time + window := by
      cases succ with
      | behind now admitted past before => rfl
    show (last :: earlier).countP (fun f =>
      f.start ≠ (behind window (last :: earlier) s.now admitted).start ∧ s.now < f.time + window) = last.young
    rw [same, young, latest, List.countP_cons_of_neg (by simp)]

/-- Where the last failure has left young ones of an earlier window behind, attempts at the
    same moment overfill an interval. -/
theorem crowds_of_young (wide : 0 < window) (lim : InLimits key limit window s) {last : LimitedFailure}
    (failures : s.failures = last :: earlier) (latest : last.time = s.now) (young : 0 < last.young) :
    ∃ attempts : Nat, ¬Slides window limit
      ((after (step key) s (List.replicate attempts [.allow, .fail]).flatten).failures.map LimitedFailure.time) := by
  -- by induction on the room that the window has left
  obtain ⟨room, left⟩ : ∃ room : Nat, limit ≤ last.count + room := ⟨limit.toNat, by omega⟩
  induction room generalizing s last earlier with
  | zero =>
    refine ⟨0, fun slides => ?_⟩
    have few := ((slides_iff_counts wide lim).mp slides).2 last (failures ▸ List.mem_cons_self)
    omega
  | succ room ih =>
    by_cases few : (last.count : Int) < limit
    · obtain ⟨next, failures', latest', more, same⟩ := attempt_open wide lim failures latest few
      have lim' : InLimits key limit window (after (step key) s [.allow, .fail]) :=
        after_invariant_always (fun _ event => inLimits_step wide event) lim _
      obtain ⟨attempts, crowded⟩ := ih lim' failures' latest' (by omega) (by omega)
      refine ⟨attempts + 1, ?_⟩
      rwa [List.replicate_succ, List.flatten_cons, after_append]
    · exact ih lim failures latest young (by omega)

/-- A failure in the first millisecond of a minute, four in the last and five in the next. -/
def straddling : List LimitedEvent :=
  [.allow, .fail, .pass 59000] ++ (List.replicate 4 [.allow, .fail]).flatten ++ [.pass 1000] ++
    (List.replicate 5 [.allow, .fail]).flatten

/-- Nine failures within a second, where five a minute are meant. -/
theorem straddling_crowds :
    ¬∀ (maxAttempts : Int) (window maxEntries : Nat) (key : Bytes) (events : List LimitedEvent),
      Slides window maxAttempts
        ((after (step key) (fresh maxAttempts window maxEntries) events).failures.map LimitedFailure.time) := by
  intro always
  have crowded := always 5 60000 100000 [1] straddling 59000 60000 (by decide) (by decide)
  revert crowded
  decide

end LimitedKey
end NovaIIM
