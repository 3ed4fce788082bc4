import Mathlib.Data.List.AList
import NovaIIM.Types

/-!
The table of logged-in connections (`net/conn_manager.cpp`).

The sixteen shards split one map by user id for the sake of their locks; the
model is that one map. `add` answers with the connections it dropped, which the
caller closes once the lock is released.
-/
namespace NovaIIM

/-- A `ConnectionPtr`. -/
abbrev ConnId := Nat

structure ConnManager where
  conns : AList (fun _ : Int => List ConnId) := ∅
  onlineCount : Int := 0

namespace ConnManager

def kMaxConnsPerUser : Nat := 10

/-- `ConnManager::GetConns`. -/
def getConns (m : ConnManager) (userId : Int) : List ConnId := (m.conns.lookup userId).getD []

/-- `ConnManager::GetConn`. -/
def getConn (m : ConnManager) (deviceOf : ConnId → Bytes) (userId : Int) (deviceId : Bytes) : Option ConnId :=
  (m.getConns userId).find? fun c => deviceOf c = deviceId

/-- `ConnManager::IsOnline`. -/
def isOnline (m : ConnManager) (userId : Int) : Bool := !(m.getConns userId).isEmpty

/-- `ConnManager::Add`: the table with the connection, and the connections to close. -/
def add (m : ConnManager) (deviceOf : ConnId → Bytes) (userId : Int) (conn : ConnId) :
    ConnManager × List ConnId :=
  let vec := m.getConns userId
  let wasOffline := vec.isEmpty
  let sameDevice := fun c => !(deviceOf conn).isEmpty && deviceOf c = deviceOf conn
  let replaced := vec.filter sameDevice
  let kept := vec.filter fun c => !sameDevice c
  let surplus := kept.length + 1 - kMaxConnsPerUser
  ({ conns := m.conns.insert userId (kept.drop surplus ++ [conn])
     onlineCount := if wasOffline then m.onlineCount + 1 else m.onlineCount },
    replaced ++ kept.take surplus)

/-- `ConnManager::Remove`. -/
def remove (m : ConnManager) (userId : Int) (conn : ConnId) : ConnManager :=
  match m.conns.lookup userId with
  | none => m
  | some vec =>
    let rest := vec.filter fun c => c ≠ conn
    if rest.isEmpty then { conns := m.conns.erase userId, onlineCount := m.onlineCount - 1 }
    else { m with conns := m.conns.insert userId rest }

theorem mem_getConns_add {m : ConnManager} {deviceOf : ConnId → Bytes} {userId other : Int}
    {conn c : ConnId} (inside : c ∈ (m.add deviceOf userId conn).1.getConns other) :
    c ∈ m.getConns other ∨ other = userId ∧ c = conn := by
  by_cases same : other = userId
  · subst same
    simp only [add, getConns, AList.lookup_insert, Option.getD_some, List.mem_append,
      List.mem_singleton] at inside
    obtain old | new := inside
    · exact Or.inl (List.mem_filter.mp (List.mem_of_mem_drop old)).1
    · exact Or.inr ⟨rfl, new⟩
  · rw [getConns, add, AList.lookup_insert_ne same] at inside
    exact Or.inl inside

theorem mem_getConns_remove {m : ConnManager} {userId other : Int} {conn c : ConnId} :
    c ∈ (m.remove userId conn).getConns other ↔
      c ∈ m.getConns other ∧ ¬ (other = userId ∧ c = conn) := by
  unfold remove
  split
  · rename_i absent
    by_cases same : other = userId
    · subst same
      simp [getConns, absent]
    · simp [same]
  · rename_i vec found
    dsimp only
    split
    · rename_i empty
      have all : ∀ c ∈ vec, c = conn := by simpa using empty
      by_cases same : other = userId
      · subst same
        simpa [getConns, found] using all c
      · simp [getConns, same]
    · by_cases same : other = userId
      · subst same
        simp [getConns, found]
      · simp [getConns, same]

end ConnManager
end NovaIIM
