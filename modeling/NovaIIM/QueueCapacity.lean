import Mathlib.Algebra.Ring.Int.Defs
import Mathlib.Order.Bounds.Defs
import NovaIIM.MPMCQueue
import NovaIIM.Types
import NovaIIM.WordPowers

/-!
The size of the queue in front of the workers (`LoadConfig` in
`core/app_config.cpp`, `RoundUpPow2` in `core/application.cpp`, the constructor of
`MPMCQueue`).

`LoadConfig` checks the ports, the secret and the pool, but not `queue_capacity`.
Each capacity from 0 on is rounded up to the least power of two that a queue can
have (`roundUpPow2_rounds`). A negative one is a size above the highest power of
two, and for it the loop never ends (`roundUpPow2_diverges`).
-/
namespace NovaIIM.Application
open WordPowers

structure ServerConfig where
  port : Int32 := 9090
  queueCapacity : Int32 := 8192
  wsPort : Int32 := 0

structure DatabaseConfig where
  type : Bytes := ascii "sqlite"
  poolSize : Int32 := 4

structure AdminConfig where
  enabled : Bool := false
  port : Int32 := 9091
  jwtSecret : Bytes := []

structure AppConfig where
  server : ServerConfig := {}
  db : DatabaseConfig := {}
  admin : AdminConfig := {}

/-- What the YAML reader makes of the file. -/
inductive Parsed where
  | missing (path : String)
  | unreadable (path : String)
  | malformed (message : String)
  | parsed (cfg : AppConfig)

def inPorts (port : Int32) : Bool := 0 < port && port ≤ 65535

/-- `LoadConfig`, with the line that it prints where it fails. -/
def loadConfig : Parsed → Except String AppConfig
  | .missing path => .error ("AppConfig file not found: " ++ path)
  | .unreadable path => .error ("Failed to open config: " ++ path)
  | .malformed message => .error ("Failed to parse config: " ++ message)
  | .parsed cfg =>
    if !inPorts cfg.server.port then
      .error ("server.port must be in range 1-65535, got " ++ toString cfg.server.port)
    else if cfg.server.wsPort < 0 ∨ 65535 < cfg.server.wsPort then
      .error ("server.ws_port must be in range 0-65535, got " ++ toString cfg.server.wsPort)
    else if 0 < cfg.server.wsPort ∧ cfg.server.wsPort = cfg.server.port then
      .error "server.ws_port must differ from server.port"
    else if 0 < cfg.server.wsPort ∧ cfg.admin.enabled ∧ cfg.server.wsPort = cfg.admin.port then
      .error "server.ws_port must differ from admin.port"
    else if cfg.admin.enabled ∧ !inPorts cfg.admin.port then
      .error ("admin.port must be in range 1-65535, got " ++ toString cfg.admin.port)
    else if cfg.admin.enabled ∧ cfg.admin.port = cfg.server.port then
      .error "admin.port must differ from server.port"
    else if cfg.admin.enabled ∧ cfg.admin.jwtSecret = [] then
      .error "admin.enabled but jwt_secret is empty"
    else if cfg.db.type = ascii "mysql" ∧ cfg.db.poolSize ≤ 0 then
      .error ("db.pool_size must be > 0, got " ++ toString cfg.db.poolSize)
    else .ok cfg

/-- `static_cast<size_t>` of an `int`. -/
def toSize (n : Int32) : BitVec 64 := BitVec.ofInt 64 n.toInt

/-- `RoundUpPow2`, whose loop takes at most so many rounds. -/
def roundUpPow2 (fuel : Nat) (n : BitVec 64) : Option (BitVec 64) :=
  if n < 2 then some 2
  else if n &&& (n - 1) = 0 then some n
  else doubleTo n fuel 1

/-- The assertion in the constructor of `MPMCQueue`. -/
def constructorAccepts (capacity : BitVec 64) : Bool := 2 ≤ capacity && capacity &&& (capacity - 1) = 0

/-! ### Rounding -/

/-- The constructor accepts exactly what the type of capacities holds. -/
theorem constructorAccepts_iff (capacity : BitVec 64) :
    constructorAccepts capacity = true ↔ ∃ c : Capacity, c.size = capacity.toNat := by
  unfold constructorAccepts
  rw [Bool.and_eq_true, decide_eq_true_iff, decide_eq_true_iff, BitVec.le_def]
  show 2 ≤ capacity.toNat ∧ _ ↔ _
  constructor
  · rintro ⟨two, power⟩
    obtain ⟨log, is⟩ := (isPowerOfTwo_iff (by omega)).mp power
    refine ⟨⟨log, ?_, ?_⟩, is.symm⟩
    · rcases Nat.eq_zero_or_pos log with rfl | positive
      · rw [is] at two
        exact absurd two (by decide)
      · exact positive
    · exact (Nat.pow_lt_pow_iff_right (by decide)).mp (is ▸ capacity.isLt)
  · rintro ⟨c, is⟩
    have two : 2 ^ 1 ≤ capacity.toNat := is ▸ Nat.pow_le_pow_right (by decide) c.two
    exact ⟨two, (isPowerOfTwo_iff (by omega)).mpr ⟨c.log, is.symm⟩⟩

/-- The exponent of the least capacity for a size. -/
def exponent (n : Nat) : Nat := Nat.clog 2 (max n 2)

theorem exponent_pos (n : Nat) : 1 ≤ exponent n := Nat.clog_pos (by decide) (by omega)

/-- A size for which a power of two exists is rounded up to the least one. -/
theorem roundUpPow2_rounds {n : BitVec 64} (fits : exponent n.toNat < 64) :
    roundUpPow2 65 n = some (BitVec.twoPow 64 (exponent n.toNat)) := by
  unfold roundUpPow2
  split
  · rename_i small
    have small : n.toNat < 2 := small
    rw [exponent, Nat.max_eq_right (by omega)]
    decide
  · rename_i two
    have two : 2 ≤ n.toNat := Nat.not_lt.mp two
    rw [exponent, Nat.max_eq_left two] at fits ⊢
    split
    · rename_i power
      obtain ⟨log, is⟩ := (isPowerOfTwo_iff (by omega)).mp power
      have same : Nat.clog 2 n.toNat = log := by rw [is, Nat.clog_pow 2 log (by decide)]
      refine congrArg some (BitVec.eq_of_toNat_eq ?_)
      rw [toNat_twoPow fits, same, is]
    · -- the loop begins at the power that is furthest from the bound
      have start := doubleTo_least fits (Nat.clog 2 n.toNat) (Nat.le_refl _)
      rw [Nat.sub_self] at start
      exact doubleTo_enough start (by omega)

/-- A size above every power of two is never rounded. -/
theorem roundUpPow2_diverges {n : BitVec 64} (high : 64 ≤ exponent n.toNat) (fuel : Nat) : roundUpPow2 fuel n = none := by
  have two : 2 ≤ n.toNat := by
    refine Nat.le_of_not_lt fun small => ?_
    rw [exponent, Nat.max_eq_right (by omega)] at high
    exact absurd high (by decide)
  have high : 64 ≤ Nat.clog 2 n.toNat := by rwa [exponent, Nat.max_eq_left two] at high
  have mixed : ¬n &&& (n - 1) = 0 := by
    intro power
    obtain ⟨log, is⟩ := (isPowerOfTwo_iff (by omega)).mp power
    rw [is, Nat.clog_pow 2 log (by decide)] at high
    have bound := n.isLt
    rw [is] at bound
    exact absurd ((Nat.pow_lt_pow_iff_right (by decide)).mp bound) (by omega)
  rw [roundUpPow2, if_neg (show ¬n < 2 from Nat.not_lt.mpr two), if_neg mixed]
  exact doubleTo_diverges (by decide) high fuel 0

/-! ### The capacity of a configuration -/

/-- The rounding of a capacity ends, at the least power of two from it and from 2 on, and the queue accepts that. -/
def Rounded (queueCapacity : Int32) : Prop :=
  ∃ fuel size, roundUpPow2 fuel (toSize queueCapacity) = some size ∧
    IsLeast {s : Nat | s.isPowerOfTwo ∧ max queueCapacity.toInt 2 ≤ s} size.toNat ∧ constructorAccepts size = true

theorem toSize_nonneg {n : Int32} (nonneg : 0 ≤ n.toInt) : ((toSize n).toNat : Int) = n.toInt := by
  have bound := n.toInt_lt
  rw [toSize, BitVec.toNat_ofInt]
  omega

theorem toSize_neg {n : Int32} (negative : n.toInt < 0) : ((toSize n).toNat : Int) = 2 ^ 64 + n.toInt := by
  have bound := n.le_toInt
  rw [toSize, BitVec.toNat_ofInt]
  omega

theorem rounded_of_nonneg {n : Int32} (nonneg : 0 ≤ n.toInt) : Rounded n := by
  have size := toSize_nonneg nonneg
  have bound := n.toInt_lt
  have fits : exponent (toSize n).toNat < 64 := by
    refine Nat.lt_of_le_of_lt (Nat.clog_le_of_le_pow (show _ ≤ 2 ^ 31 from ?_)) (by decide)
    omega
  have power := toNat_twoPow fits
  refine ⟨65, _, roundUpPow2_rounds fits, ⟨⟨⟨_, power⟩, ?_⟩, ?_⟩, ?_⟩
  · have reached : max (toSize n).toNat 2 ≤ 2 ^ exponent (toSize n).toNat := Nat.le_pow_clog (by decide) _
    rw [power]
    omega
  · rintro s ⟨⟨log, rfl⟩, reached⟩
    rw [power]
    refine Nat.pow_le_pow_right (by decide) (Nat.clog_le_of_le_pow ?_)
    have reached : max n.toInt 2 ≤ ((2 ^ log : Nat) : Int) := reached
    omega
  · exact (constructorAccepts_iff _).mpr ⟨⟨_, exponent_pos _, fits⟩, power.symm⟩

theorem rounds_only_nonneg {n : Int32} (rounded : Rounded n) : 0 ≤ n.toInt := by
  refine Int.not_lt.mp fun negative => ?_
  obtain ⟨fuel, size, ends, -⟩ := rounded
  have high : 64 ≤ exponent (toSize n).toNat := by
    refine Nat.lt_clog_iff_pow_lt (by decide) |>.mpr ?_
    have bound := n.le_toInt
    have size := toSize_neg negative
    omega
  rw [roundUpPow2_diverges high] at ends
  cases ends

/-- Whatever capacity a configuration has, it is rounded exactly from 0 on. -/
theorem queueCapacity_rounded_iff (cfg : AppConfig) :
    Rounded cfg.server.queueCapacity ↔ 0 ≤ cfg.server.queueCapacity.toInt :=
  ⟨rounds_only_nonneg, rounded_of_nonneg⟩

/-- The default is. -/
theorem queueCapacity_rounded_default : loadConfig (.parsed {}) = .ok {} ∧ Rounded 8192 :=
  ⟨rfl, (queueCapacity_rounded_iff {}).mpr (by decide)⟩

/-- A capacity of -1 passes all checks and is never rounded. -/
theorem queueCapacity_negative :
    ¬∀ (file : Parsed) (cfg : AppConfig), loadConfig file = .ok cfg → Rounded cfg.server.queueCapacity := by
  intro claim
  have rounded := claim (.parsed { server := { queueCapacity := -1 } }) _ rfl
  exact absurd (rounds_only_nonneg rounded) (by decide)

end NovaIIM.Application
