import NovaIIM.Runs

/-!
The connections of the MySQL backend (`dao/mysql/mysql_db_manager.cpp`).

A connection is idle in the pool, or taken out of it and not yet tested, or lent to a thread.
One that is found dead when it is taken is replaced; when the replacement fails, or when it
is found dead as it comes back, its place in the pool is gone for good (`Loses`).
-/
namespace NovaIIM

/-- A connection with the thread that has it; a session pins it to the thread. -/
structure Lease where
  thread : Nat
  pinned : Bool
  conn : Nat
deriving DecidableEq, Repr

/-- `MysqlDbManager` between `Open` and `Close`; connections are numbered as they are made. -/
structure MysqlDbManager where
  poolSize : Nat
  pool : List Nat
  acquiring : List Lease := []
  lent : List Lease := []
  nextConn : Nat

/-- What a thread does with the pool. -/
inductive PoolEvent where
  /-- `CreateSession` -/
  | openSession (thread : Nat)
  /-- `DB` -/
  | guard (thread : Nat)
  /-- The test of a connection that was taken, and of the one that replaces it. -/
  | ping (lease : Lease) (alive reconnected : Bool)
  /-- A session or a guard ends. -/
  | giveBack (lease : Lease) (alive : Bool)

namespace MysqlDbManager

/-- `Open`, when every connection could be made. -/
def opened (poolSize : Nat) : MysqlDbManager :=
  { poolSize := poolSize, pool := List.range poolSize, nextConn := poolSize }

/-- `g_pinned` of a thread. -/
def hasPinned (m : MysqlDbManager) (thread : Nat) : Bool := m.lent.any fun l => l.thread = thread && l.pinned

/-- The first part of `AcquireFromPool`; with an empty pool the thread times out. -/
def take (m : MysqlDbManager) (thread : Nat) (pinned : Bool) : MysqlDbManager :=
  match m.pool with
  | [] => m
  | conn :: rest => { m with pool := rest, acquiring := ⟨thread, pinned, conn⟩ :: m.acquiring }

/-- The second part of `AcquireFromPool`, without the lock. -/
def tested (m : MysqlDbManager) (lease : Lease) (alive reconnected : Bool) : MysqlDbManager :=
  let m := { m with acquiring := m.acquiring.erase lease }
  if alive then { m with lent := lease :: m.lent }
  else if reconnected then
    { m with lent := { lease with conn := m.nextConn } :: m.lent, nextConn := m.nextConn + 1 }
  else m

/-- `ReturnConn`. -/
def returnConn (m : MysqlDbManager) (lease : Lease) (alive : Bool) : MysqlDbManager :=
  let m := { m with lent := m.lent.erase lease }
  if alive then { m with pool := m.pool ++ [lease.conn] } else m

/-- One step. A thread that has a pinned connection borrows it, and one that is waiting for a
    connection does nothing else. -/
def step (m : MysqlDbManager) : PoolEvent → MysqlDbManager
  | .openSession thread =>
    if m.hasPinned thread || m.acquiring.any fun l => l.thread = thread then m else m.take thread true
  | .guard thread =>
    if m.hasPinned thread || m.acquiring.any fun l => l.thread = thread then m else m.take thread false
  | .ping lease alive reconnected => if lease ∈ m.acquiring then m.tested lease alive reconnected else m
  | .giveBack lease alive => if lease ∈ m.lent then m.returnConn lease alive else m

/-- The connections there are. -/
def count (m : MysqlDbManager) : Nat := m.pool.length + m.acquiring.length + m.lent.length

end MysqlDbManager

/-- The database answers. -/
def PoolEvent.Healthy : PoolEvent → Prop
  | .ping _ alive _ | .giveBack _ alive => alive = true
  | _ => True

/-- No connection is missing, and once the database answers there is one for whoever waits. -/
structure PoolLaw (m : MysqlDbManager) : Prop where
  conserved : m.count = m.poolSize
  served : 0 < m.poolSize → ∃ events, (∀ e ∈ events, PoolEvent.Healthy e) ∧ (after MysqlDbManager.step m events).pool ≠ []

/-- A connection is dead when it comes back, or is dead when it is taken and cannot be replaced. -/
def Loses (m : MysqlDbManager) : PoolEvent → Prop
  | .ping lease alive reconnected => lease ∈ m.acquiring ∧ alive = false ∧ reconnected = false
  | .giveBack lease alive => lease ∈ m.lent ∧ alive = false
  | _ => False

variable {m : MysqlDbManager}

theorem count_take (thread : Nat) (pinned : Bool) :
    (m.take thread pinned).count = m.count ∧ (m.take thread pinned).poolSize = m.poolSize := by
  unfold MysqlDbManager.take
  split
  · exact ⟨rfl, rfl⟩
  · rename_i conn rest front
    refine ⟨?_, rfl⟩
    simp only [MysqlDbManager.count, front, List.length_cons]
    omega

/-- A step keeps the number of connections, or it loses one. -/
theorem count_step (event : PoolEvent) :
    (m.step event).poolSize = m.poolSize ∧
      ((m.step event).count = m.count ∧ ¬Loses m event ∨ (m.step event).count + 1 = m.count ∧ Loses m event) := by
  cases event with
  | openSession thread =>
    simp only [MysqlDbManager.step]
    split
    · exact ⟨rfl, .inl ⟨rfl, id⟩⟩
    · exact ⟨(count_take thread true).2, .inl ⟨(count_take thread true).1, id⟩⟩
  | guard thread =>
    simp only [MysqlDbManager.step]
    split
    · exact ⟨rfl, .inl ⟨rfl, id⟩⟩
    · exact ⟨(count_take thread false).2, .inl ⟨(count_take thread false).1, id⟩⟩
  | ping lease alive reconnected =>
    simp only [MysqlDbManager.step]
    split
    · rename_i there
      have fewer := List.length_erase_of_mem there
      have some_there := List.length_pos_of_mem there
      cases alive <;> cases reconnected <;>
        simp [MysqlDbManager.tested, MysqlDbManager.count, Loses, there, fewer] <;> omega
    · rename_i missing
      exact ⟨rfl, .inl ⟨rfl, fun loses => missing loses.1⟩⟩
  | giveBack lease alive =>
    simp only [MysqlDbManager.step]
    split
    · rename_i there
      have fewer := List.length_erase_of_mem there
      have some_there := List.length_pos_of_mem there
      cases alive <;> simp [MysqlDbManager.returnConn, MysqlDbManager.count, Loses, there, fewer] <;> omega
    · rename_i missing
      exact ⟨rfl, .inl ⟨rfl, fun loses => missing loses.1⟩⟩

/-- A lease that is given back alive is in the pool. -/
theorem pool_giveBack {lease : Lease} (there : lease ∈ m.lent) : (m.step (.giveBack lease true)).pool ≠ [] := by
  simp [MysqlDbManager.step, there, MysqlDbManager.returnConn]

/-- Where no connection is missing, whoever waits can be served. -/
theorem poolLaw_of_conserved (conserved : m.count = m.poolSize) : PoolLaw m := by
  refine ⟨conserved, fun positive => ?_⟩
  by_cases idle : m.pool = []
  · cases lent : m.lent with
    | cons lease rest => exact ⟨[.giveBack lease true], by simp [PoolEvent.Healthy], pool_giveBack (by simp [lent])⟩
    | nil =>
      cases acquiring : m.acquiring with
      | nil =>
        simp [MysqlDbManager.count, idle, lent, acquiring] at conserved
        omega
      | cons lease rest =>
        refine ⟨[.ping lease true true, .giveBack lease true], by simp [PoolEvent.Healthy], ?_⟩
        refine pool_giveBack ?_
        simp [MysqlDbManager.step, acquiring, MysqlDbManager.tested]
  · exact ⟨[], fun e inside => absurd inside List.not_mem_nil, idle⟩

theorem poolLaw_step (event : PoolEvent) (law : PoolLaw m) : PoolLaw (m.step event) ↔ ¬Loses m event := by
  obtain ⟨size, ⟨same, keeps⟩ | ⟨fewer, loses⟩⟩ := count_step event (m := m)
  · exact iff_of_true (poolLaw_of_conserved (by rw [same, size, law.conserved])) keeps
  · refine iff_of_false (fun still => ?_) (fun keeps => keeps loses)
    have := still.conserved
    have := law.conserved
    omega

theorem count_opened (poolSize : Nat) : (MysqlDbManager.opened poolSize).count = poolSize := by
  simp [MysqlDbManager.opened, MysqlDbManager.count]

/-- In every run of the pool no connection is ever missing, exactly if none is found dead on its
    way back and every dead one that is taken can be replaced. -/
theorem pool_conserved (poolSize : Nat) (events : List PoolEvent) :
    (∀ before, before <+: events → PoolLaw (after MysqlDbManager.step (.opened poolSize) before)) ↔
      Along MysqlDbManager.step (fun m event => ¬Loses m event) (.opened poolSize) events :=
  @prefixes_iff_along _ _ MysqlDbManager.step (fun m event => ¬Loses m event) (fun _ => True) PoolLaw events
    (fun _ _ _ _ => trivial) (fun _ event _ _ law => poolLaw_step event law) (.opened poolSize) trivial
    (poolLaw_of_conserved (count_opened poolSize))

/-- A handler opens a session, the database goes away, and the handler ends: the only connection
    of the pool is gone, whether or not the database comes back. -/
theorem returned_dead :
    ¬∀ before, before <+: [.openSession 1, .ping ⟨1, true, 0⟩ true false, .giveBack ⟨1, true, 0⟩ false] →
      PoolLaw (after MysqlDbManager.step (.opened 1) before) := by
  intro law
  exact absurd (law _ (List.prefix_refl _)).conserved (by decide)

end NovaIIM
