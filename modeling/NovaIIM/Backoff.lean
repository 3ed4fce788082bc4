import Mathlib.Algebra.Group.Nat.Defs
import Mathlib.Data.List.Induction
import NovaIIM.Reconnect

/-!
The delays of the reconnection (`ReconnectManager::NextDelay` and `Reset` in
`core/reconnect_manager.cpp`).

The base delay grows by the multiplier up to the maximum (`base_after`), but the
jitter is added to the base that has already been capped. So a delay exceeds the
maximum as soon as the base can come within a quarter of itself of the maximum
(`within_iff`), which is what growth leads to whenever the maximum is 4 or more
(`delays_within_iff`).
-/
namespace NovaIIM.Client

/-- `std::uniform_int_distribution` between two bounds; `draw` stands for what the generator yields. -/
def uniform (low high : Int) (draw : Nat) : Int := low + draw % (high - low + 1)

namespace ReconnectManager

/-- The jitter of `NextDelay`. -/
def jittered (delay : UInt32) (draw : Nat) : UInt32 :=
  if 0 < delay then
    let jitterRange := delay / 4
    if 0 < jitterRange then
      let offset := uniform (-(jitterRange.toNat : Int)) jitterRange.toNat draw
      let jittered := (delay.toNat : Int) + offset
      UInt32.ofInt (if jittered < 0 then 0 else jittered)
    else delay
  else delay

/-- `ReconnectManager::NextDelay`. -/
def nextDelay (config : ClientConfig) (m : ReconnectManager) (draw : Nat) : UInt32 × ReconnectManager :=
  let delay := m.currentDelayMs
  let m := { m with
    attemptCount := m.attemptCount + 1
    currentDelayMs := min (config.scaled delay) config.reconnectMaxMs }
  (jittered delay draw, m)

/-- `ScheduleReconnect` takes its delay from `NextDelay`. -/
theorem scheduleReconnect_eq (config : ClientConfig) (m : ReconnectManager) (draw : Nat) (going : m.stopped = false) :
    m.scheduleReconnect config = { (m.nextDelay config draw).2 with pendingTimer := some m.currentDelayMs } := by
  rw [scheduleReconnect, if_neg (by simp [going])]
  rfl

end ReconnectManager

/-- What concerns the delays: a connection is lost, or a login has succeeded. -/
inductive BackoffEvent where
  | disconnect (draw : Nat)
  | reset
deriving DecidableEq, Repr

/-- The manager after an event. -/
def backoff (config : ClientConfig) (m : ReconnectManager) : BackoffEvent → ReconnectManager
  | .disconnect draw => (m.nextDelay config draw).2
  | .reset => m.reset config

/-- One more failure in a row, or none any more. -/
def countFailures (failures : Nat) : BackoffEvent → Nat
  | .disconnect _ => failures + 1
  | .reset => 0

/-- The manager as it is constructed. -/
def ReconnectManager.start (config : ClientConfig) : ReconnectManager := { currentDelayMs := config.reconnectInitialMs }

/-- A configuration with a whole multiplier and no product out of range; the multiplication of
    `double` values is exact there. -/
structure WholeMultiplier (config : ClientConfig) (factor : Nat) : Prop where
  positive : 1 ≤ config.reconnectInitialMs.toNat
  ordered : config.reconnectInitialMs.toNat ≤ config.reconnectMaxMs.toNat
  grows : 1 ≤ factor
  fits : config.reconnectMaxMs.toNat * factor < 2 ^ 32
  exact : ∀ delay : UInt32, delay.toNat * factor < 2 ^ 32 → (config.scaled delay).toNat = delay.toNat * factor

/-- A delay that the configuration allows. -/
def Within (config : ClientConfig) (delay : UInt32) : Prop :=
  1 ≤ delay.toNat ∧ delay.toNat ≤ config.reconnectMaxMs.toNat

/-! ### The jitter -/

/-- The delay is drawn from the base delay, a quarter of it less to a quarter of it more. -/
theorem jittered_toNat (delay : UInt32) (draw : Nat) :
    (ReconnectManager.jittered delay draw).toNat =
      (delay.toNat - delay.toNat / 4 + draw % (2 * (delay.toNat / 4) + 1)) % 2 ^ 32 := by
  have small : delay.toNat < 2 ^ 32 := delay.toNat_lt
  have quarter : (delay / 4).toNat = delay.toNat / 4 := by simp
  have unchanged : delay.toNat / 4 = 0 → delay.toNat =
      (delay.toNat - delay.toNat / 4 + draw % (2 * (delay.toNat / 4) + 1)) % 2 ^ 32 := by
    intro none
    rw [none, Nat.mod_one, Nat.sub_zero, Nat.add_zero, Nat.mod_eq_of_lt small]
  unfold ReconnectManager.jittered
  split
  · dsimp only
    split
    · -- the offset is no less than a quarter of the delay below zero
      have offset : (delay.toNat : Int) + uniform (-((delay / 4).toNat : Int)) (delay / 4).toNat draw =
          (delay.toNat - delay.toNat / 4 + draw % (2 * (delay.toNat / 4) + 1) : Nat) := by
        have range : ((delay.toNat / 4 : Nat) : Int) - -((delay.toNat / 4 : Nat) : Int) + 1 =
            (2 * (delay.toNat / 4) + 1 : Nat) := by
          omega
        rw [uniform, quarter, range, ← Int.natCast_emod]
        omega
      rw [offset, if_neg (Int.not_lt.mpr (Int.natCast_nonneg _)), UInt32.ofInt, UInt32.toNat_ofNat']
      omega
    · rename_i none
      rw [UInt32.lt_iff_toNat_lt, quarter] at none
      exact unchanged (by simpa using none)
  · rename_i none
    rw [UInt32.lt_iff_toNat_lt] at none
    have zero : delay.toNat = 0 := by simpa using none
    exact unchanged (by omega)

/-- Every delay drawn from a base delay is allowed exactly if the largest one is. -/
theorem within_iff {config : ClientConfig} {base : UInt32} (positive : 1 ≤ base.toNat)
    (capped : base.toNat ≤ config.reconnectMaxMs.toNat) :
    (∀ draw, Within config (ReconnectManager.jittered base draw)) ↔
      base.toNat + base.toNat / 4 ≤ config.reconnectMaxMs.toNat := by
  have bound : config.reconnectMaxMs.toNat < 2 ^ 32 := config.reconnectMaxMs.toNat_lt
  unfold Within
  simp only [jittered_toNat]
  generalize base.toNat = base at *
  generalize config.reconnectMaxMs.toNat = cap at *
  constructor
  · intro within
    refine Nat.le_of_not_lt fun exceeds => ?_
    -- this draw would give one more than the maximum, which is 0 where it does not fit
    have drawn := within (cap + 1 - base + base / 4)
    rw [Nat.mod_eq_of_lt (show cap + 1 - base + base / 4 < 2 * (base / 4) + 1 by omega)] at drawn
    have next : base - base / 4 + (cap + 1 - base + base / 4) = cap + 1 := by omega
    rw [next] at drawn
    omega
  · intro largest draw
    have drawn : draw % (2 * (base / 4) + 1) < 2 * (base / 4) + 1 := Nat.mod_lt _ (by omega)
    rw [Nat.mod_eq_of_lt (by omega)]
    omega

/-! ### The base delay -/

section Base
variable {config : ClientConfig} {factor : Nat}

theorem toNat_min (a b : UInt32) : (min a b).toNat = min a.toNat b.toNat := by
  show (if a ≤ b then a else b).toNat = if a.toNat ≤ b.toNat then a.toNat else b.toNat
  rw [apply_ite UInt32.toNat]
  rfl

/-- The next base delay of the exponential growth. -/
theorem capped_growth (whole : WholeMultiplier config factor) {base : UInt32} {failures : Nat}
    (at_base : base.toNat =
      min (config.reconnectInitialMs.toNat * factor ^ failures) config.reconnectMaxMs.toNat) :
    (min (config.scaled base) config.reconnectMaxMs).toNat =
      min (config.reconnectInitialMs.toNat * factor ^ (failures + 1)) config.reconnectMaxMs.toNat := by
  have capped : base.toNat ≤ config.reconnectMaxMs.toNat := at_base ▸ Nat.min_le_right ..
  have product : base.toNat * factor < 2 ^ 32 :=
    Nat.lt_of_le_of_lt (Nat.mul_le_mul_right factor capped) whole.fits
  have larger : config.reconnectMaxMs.toNat ≤ config.reconnectMaxMs.toNat * factor :=
    Nat.le_mul_of_pos_right _ whole.grows
  calc (min (config.scaled base) config.reconnectMaxMs).toNat
      = min (base.toNat * factor) config.reconnectMaxMs.toNat := by
        rw [toNat_min, whole.exact base product]
    _ = min (min (config.reconnectInitialMs.toNat * factor ^ failures * factor)
          (config.reconnectMaxMs.toNat * factor)) config.reconnectMaxMs.toNat := by
        rw [at_base, Nat.mul_min_mul_right]
    _ = min (config.reconnectInitialMs.toNat * factor ^ failures * factor) config.reconnectMaxMs.toNat := by
        rw [Nat.min_assoc, Nat.min_eq_right larger]
    _ = _ := by rw [Nat.pow_succ, Nat.mul_assoc]

/-- The base delay after a number of failures in a row. -/
theorem base_after (whole : WholeMultiplier config factor) (events : List BackoffEvent) :
    (after (backoff config) (.start config) events).currentDelayMs.toNat =
      min (config.reconnectInitialMs.toNat * factor ^ after countFailures 0 events) config.reconnectMaxMs.toNat := by
  induction events using List.reverseRecOn with
  | nil =>
    show config.reconnectInitialMs.toNat = min (config.reconnectInitialMs.toNat * factor ^ 0) config.reconnectMaxMs.toNat
    rw [Nat.pow_zero, Nat.mul_one, Nat.min_eq_left whole.ordered]
  | append_singleton events event ih =>
    rw [after_snoc, after_snoc]
    cases event with
    | disconnect draw => exact capped_growth whole ih
    | reset =>
      show config.reconnectInitialMs.toNat = min (config.reconnectInitialMs.toNat * factor ^ 0) config.reconnectMaxMs.toNat
      rw [Nat.pow_zero, Nat.mul_one, Nat.min_eq_left whole.ordered]

theorem base_positive (whole : WholeMultiplier config factor) (events : List BackoffEvent) :
    1 ≤ (after (backoff config) (.start config) events).currentDelayMs.toNat := by
  rw [base_after whole]
  exact Nat.le_min.mpr ⟨Nat.mul_pos whole.positive (Nat.pow_pos whole.grows), Nat.le_trans whole.positive whole.ordered⟩

theorem base_capped (whole : WholeMultiplier config factor) (events : List BackoffEvent) :
    (after (backoff config) (.start config) events).currentDelayMs.toNat ≤ config.reconnectMaxMs.toNat := by
  rw [base_after whole]
  exact Nat.min_le_right ..

theorem countFailures_replicate (failures : Nat) :
    after countFailures 0 (List.replicate failures (.disconnect 0)) = failures := by
  induction failures with
  | zero => rfl
  | succ n ih =>
    rw [List.replicate_succ', after_snoc, ih]
    rfl

/-- A multiplier above 1 leads to the maximum. -/
theorem base_reaches_cap (whole : WholeMultiplier config factor) (more : 2 ≤ factor) :
    ∃ events, (after (backoff config) (.start config) events).currentDelayMs = config.reconnectMaxMs := by
  refine ⟨List.replicate config.reconnectMaxMs.toNat (.disconnect 0), UInt32.toNat_inj.mp ?_⟩
  rw [base_after whole, countFailures_replicate]
  refine Nat.min_eq_right ?_
  calc config.reconnectMaxMs.toNat
      ≤ factor ^ config.reconnectMaxMs.toNat := Nat.le_of_lt (Nat.lt_pow_self more)
    _ ≤ config.reconnectInitialMs.toNat * factor ^ config.reconnectMaxMs.toNat :=
        Nat.le_mul_of_pos_left _ whole.positive

/-- The base delay is the exponential one in every state, and every delay is allowed exactly if
    the base delay never comes close to the maximum: it is too small for jitter, or it does not
    grow and leaves room for the jitter. -/
theorem delays_within_iff (config : ClientConfig) (factor : Nat) (whole : WholeMultiplier config factor) :
    (∀ events : List BackoffEvent,
      let m := after (backoff config) (.start config) events
      (∀ draw, Within config (m.nextDelay config draw).1) ∧
        m.currentDelayMs.toNat =
          min (config.reconnectInitialMs.toNat * factor ^ after countFailures 0 events) config.reconnectMaxMs.toNat) ↔
      config.reconnectMaxMs.toNat < 4 ∨
        factor = 1 ∧
          config.reconnectInitialMs.toNat + config.reconnectInitialMs.toNat / 4 ≤ config.reconnectMaxMs.toNat := by
  constructor
  · intro claim
    rcases Nat.eq_or_lt_of_le whole.grows with one | more
    · exact .inr ⟨one.symm, (within_iff whole.positive whole.ordered).mp (claim []).1⟩
    · obtain ⟨events, reached⟩ := base_reaches_cap whole more
      have full := (within_iff (base_positive whole events) (base_capped whole events)).mp (claim events).1
      rw [reached] at full
      exact .inl (by omega)
  · intro room events
    refine ⟨(within_iff (base_positive whole events) (base_capped whole events)).mpr ?_, base_after whole events⟩
    rcases room with small | ⟨rfl, room⟩
    · have capped := base_capped whole events
      omega
    · rw [base_after whole, Nat.one_pow, Nat.mul_one, Nat.min_eq_left whole.ordered]
      exact room

end Base

/-- The default settings. -/
theorem wholeMultiplier_default : WholeMultiplier {} 2 where
  positive := by decide
  ordered := by decide
  grows := by decide
  fits := by decide
  exact delay small := by
    show (delay * 2).toNat = delay.toNat * 2
    rw [UInt32.toNat_mul]
    exact Nat.mod_eq_of_lt small

theorem delays_within_default :
    WholeMultiplier {} 2 ∧
      ¬∀ events : List BackoffEvent,
        let m := after (backoff {}) (.start {}) events
        (∀ draw, Within {} (m.nextDelay {} draw).1) ∧
          m.currentDelayMs.toNat = min (1000 * 2 ^ after countFailures 0 events) 30000 :=
  ⟨wholeMultiplier_default, fun claim =>
    absurd ((delays_within_iff {} 2 wholeMultiplier_default).mp claim) (by decide)⟩

/-- With the default settings the sixth delay may be longer than 30 s. -/
theorem delay_over_cap :
    ¬∀ (config : ClientConfig) (factor : Nat), WholeMultiplier config factor → ∀ events : List BackoffEvent,
      let m := after (backoff config) (.start config) events
      (∀ draw, Within config (m.nextDelay config draw).1) ∧
        m.currentDelayMs.toNat =
          min (config.reconnectInitialMs.toNat * factor ^ after countFailures 0 events)
            config.reconnectMaxMs.toNat := by
  intro claim
  have sixth := (claim {} 2 wholeMultiplier_default (List.replicate 5 (.disconnect 0))).1 15000
  exact absurd sixth.2 (by decide)

end NovaIIM.Client
