import NovaIIM.Sessions

/-!
The connection table in every state of every run.

A user in the table has connections, at most ten, on different devices and on different types
of devices, and no connection is there twice; the counter counts the users (`TableInv`). A
login keeps that because it first evicts the user's session on the same type of device.
-/
namespace NovaIIM
open Relation (ReflTransGen)

/-- No two connections have the same value of a field, unless it is empty. -/
def Differing (field : ConnId → Bytes) (vec : List ConnId) : Prop :=
  ∀ c ∈ vec, ∀ d ∈ vec, field c ≠ [] → field c = field d → c = d

/-- The connections listed for one user. -/
structure Tidy (connections : ConnId → Connection) (vec : List ConnId) : Prop where
  online : vec ≠ []
  bounded : vec.length ≤ ConnManager.kMaxConnsPerUser
  once : vec.Nodup
  devices : Differing (fun c => (connections c).deviceId) vec
  types : Differing (fun c => (connections c).deviceType) vec

/-- What holds of the connection table. -/
structure TableInv (seen : Sessions) : Prop where
  tidy : ∀ userId vec, seen.connManager.conns.lookup userId = some vec → Tidy seen.connections vec
  apart : ∀ userId other c, c ∈ seen.connManager.getConns userId → c ∈ seen.connManager.getConns other → userId = other
  count : seen.connManager.onlineCount = seen.connManager.conns.keys.length

section Tables
variable {connections connections' : ConnId → Connection} {vec vec' : List ConnId}

theorem Differing.sublist {field : ConnId → Bytes} (differing : Differing field vec) (fewer : vec'.Sublist vec) :
    Differing field vec' := fun c inside d inside' => differing c (fewer.subset inside) d (fewer.subset inside')

theorem Differing.congr {field field' : ConnId → Bytes} (differing : Differing field vec)
    (same : ∀ c ∈ vec, field' c = field c) : Differing field' vec := by
  intro c inside d inside'
  rw [same c inside, same d inside']
  exact differing c inside d inside'

theorem Differing.append {field : ConnId → Bytes} {conn : ConnId} (differing : Differing field vec)
    (new : ∀ c ∈ vec, field conn ≠ [] → field c ≠ field conn) : Differing field (vec ++ [conn]) := by
  intro c inside d inside' named same
  rcases List.mem_append.mp inside with old | last <;> rcases List.mem_append.mp inside' with old' | last'
  · exact differing c old d old' named same
  · rw [List.mem_singleton.mp last'] at same
    exact absurd same (new c old (same ▸ named))
  · rw [List.mem_singleton.mp last] at same named
    exact absurd same.symm (new d old' named)
  · rw [List.mem_singleton.mp last, List.mem_singleton.mp last']

/-- The fields of other connections do not matter. -/
theorem Tidy.congr (tidy : Tidy connections vec) (same : ∀ c ∈ vec, connections' c = connections c) :
    Tidy connections' vec :=
  { tidy with
    devices := tidy.devices.congr fun c inside => by rw [same c inside]
    types := tidy.types.congr fun c inside => by rw [same c inside] }

/-- Some of the connections, as long as there is one left. -/
theorem Tidy.sublist (tidy : Tidy connections vec) (some_ : vec' ≠ []) (fewer : vec'.Sublist vec) :
    Tidy connections vec' where
  online := some_
  bounded := fewer.length_le.trans tidy.bounded
  once := tidy.once.sublist fewer
  devices := tidy.devices.sublist fewer
  types := tidy.types.sublist fewer

namespace ConnManager
variable {m : ConnManager} {userId other : Int} {conn : ConnId}

theorem getConns_lookup {vec : List ConnId} (found : m.conns.lookup userId = some vec) : m.getConns userId = vec := by
  rw [getConns, found]
  rfl

/-- What a removal leaves of the list of a user. -/
theorem lookup_remove (left : (m.remove userId conn).conns.lookup other = some vec') :
    ∃ vec, m.conns.lookup other = some vec ∧ vec'.Sublist vec ∧ (vec ≠ [] → vec' ≠ []) := by
  unfold remove at left
  cases found : m.conns.lookup userId with
  | none =>
    rw [found] at left
    exact ⟨vec', left, .refl _, id⟩
  | some vec =>
    rw [found] at left
    dsimp only at left
    by_cases empty : (vec.filter fun c => c ≠ conn).isEmpty = true
    · rw [if_pos empty] at left
      by_cases same : other = userId
      · rw [same, AList.lookup_erase] at left
        cases left
      · rw [AList.lookup_erase_ne same] at left
        exact ⟨vec', left, .refl _, id⟩
    · rw [if_neg empty] at left
      by_cases same : other = userId
      · rw [same, AList.lookup_insert, Option.some.injEq] at left
        refine ⟨vec, same ▸ found, left ▸ List.filter_sublist, fun _ none_ => empty ?_⟩
        rw [left, none_, List.isEmpty_nil]
      · rw [AList.lookup_insert_ne same] at left
        exact ⟨vec', left, .refl _, id⟩

theorem keys_length_insert {vec : List ConnId} (found : m.conns.lookup userId ≠ none) :
    (m.conns.insert userId vec).keys.length = m.conns.keys.length := by
  have known : userId ∈ m.conns.keys := by
    rw [← AList.mem_keys, ← AList.lookup_isSome]
    exact Option.isSome_iff_ne_none.mpr found
  have some_ := List.length_pos_of_mem known
  rw [AList.keys_insert, List.length_cons, List.length_erase_of_mem known]
  omega

/-- The counter follows the number of users. -/
theorem count_remove (count : m.onlineCount = m.conns.keys.length) :
    (m.remove userId conn).onlineCount = (m.remove userId conn).conns.keys.length := by
  unfold remove
  cases found : m.conns.lookup userId with
  | none => exact count
  | some vec =>
    dsimp only
    have known : userId ∈ m.conns.keys := by
      rw [← AList.mem_keys, ← AList.lookup_isSome, found]
      rfl
    split
    · have some_ := List.length_pos_of_mem known
      show m.onlineCount - 1 = (m.conns.erase userId).keys.length
      rw [AList.keys_erase, List.length_erase_of_mem known, count]
      omega
    · show m.onlineCount = (m.conns.insert userId _).keys.length
      rw [keys_length_insert (by simp [found]), count]

variable {deviceOf : ConnId → Bytes}

/-- The list of a user who is online is not empty. -/
theorem count_add (online : ∀ vec, m.conns.lookup userId = some vec → vec ≠ [])
    (count : m.onlineCount = m.conns.keys.length) :
    (m.add deviceOf userId conn).1.onlineCount = (m.add deviceOf userId conn).1.conns.keys.length := by
  obtain ⟨vec', insert⟩ : ∃ vec', (m.add deviceOf userId conn).1.conns = m.conns.insert userId vec' := ⟨_, rfl⟩
  rw [insert]
  show (if (m.getConns userId).isEmpty then m.onlineCount + 1 else m.onlineCount) = _
  cases found : m.conns.lookup userId with
  | none =>
    have absent : userId ∉ m.conns.keys := by
      rw [← AList.mem_keys, ← AList.lookup_isSome, found]
      exact Bool.false_ne_true
    rw [AList.keys_insert, List.erase_of_not_mem absent, List.length_cons, count]
    simp [getConns, found]
  | some vec =>
    have some_ := online vec found
    rw [keys_length_insert (by simp [found]), count]
    simp [getConns, found, some_]

/-- What a login leaves of the list of its user: some of the old connections on other devices,
    and the new one. -/
theorem lookup_add_self : ∃ old, (m.add deviceOf userId conn).1.conns.lookup userId = some (old ++ [conn]) ∧
    old.Sublist (m.getConns userId) ∧ old.length < kMaxConnsPerUser ∧
    ∀ c ∈ old, deviceOf conn ≠ [] → deviceOf c ≠ deviceOf conn := by
  refine ⟨_, AList.lookup_insert _, ?_, ?_, fun c inside named same => ?_⟩
  · exact (List.drop_sublist _ _).trans List.filter_sublist
  · rw [List.length_drop]
    unfold kMaxConnsPerUser
    omega
  · obtain ⟨-, kept⟩ := List.mem_filter.mp (List.mem_of_mem_drop inside)
    simp [named, same] at kept

theorem lookup_add_ne (different : other ≠ userId) :
    (m.add deviceOf userId conn).1.conns.lookup other = m.conns.lookup other := AList.lookup_insert_ne different

end ConnManager
end Tables

/-! ### Steps -/

section Steps
variable {users : List User} {seen seen' : Sessions}

theorem tableInv_dropped (userId : Int) (conn : ConnId) (inv : TableInv seen) : TableInv (seen.dropped userId conn) where
  tidy other vec left := by
    obtain ⟨old, found, fewer, some_⟩ := ConnManager.lookup_remove left
    have tidy := inv.tidy other old found
    exact tidy.sublist (some_ tidy.online) fewer
  apart a b c inside inside' :=
    inv.apart a b c (ConnManager.mem_getConns_remove.mp inside).1 (ConnManager.mem_getConns_remove.mp inside').1
  count := ConnManager.count_remove inv.count

/-- The connection whose session ends is not listed any more. -/
theorem tableInv_ended (conn : ConnId) (listed : Listed seen) (inv : TableInv seen) : TableInv (seen.ended conn) := by
  have dropped := tableInv_dropped (seen.connections conn).userId conn inv
  refine { dropped with tidy := fun other vec left => (dropped.tidy other vec left).congr fun c inside => ?_ }
  refine Function.update_of_ne ?_ _ _
  rintro rfl
  have list : (seen.dropped (seen.connections c).userId c).connManager.getConns other = vec :=
    ConnManager.getConns_lookup left
  have there : c ∈ (seen.dropped (seen.connections c).userId c).connManager.getConns other := by rwa [list]
  obtain ⟨before, other_⟩ := ConnManager.mem_getConns_remove.mp there
  exact other_ ⟨(listed other c before).2.symm, rfl⟩

/-- The table after a login. -/
theorem begun_connManager (seen : Sessions) (conn : ConnId) (fields : Connection) : (seen.begun conn fields).connManager =
    (seen.connManager.add (fun c => (Function.update seen.connections conn fields c).deviceId) fields.userId conn).1 := rfl

theorem tableInv_began {conn : ConnId} {fields : Connection} (free : (seen.connections conn).userId = 0)
    (evicted : ∀ c ∈ seen.connManager.getConns fields.userId, fields.deviceType ≠ [] →
      (seen.connections c).deviceType ≠ fields.deviceType)
    (listed : Listed seen) (inv : TableInv seen) (apart : Listed (seen.begun conn fields)) :
    TableInv (seen.begun conn fields) := by
  have unlisted : ∀ userId, conn ∉ seen.connManager.getConns userId := fun userId inside =>
    (listed userId conn inside).1 ((listed userId conn inside).2.symm.trans free)
  have other : ∀ {c}, c ≠ conn → (seen.begun conn fields).connections c = seen.connections c := fun different =>
    Function.update_of_ne different _ _
  have mine : (seen.begun conn fields).connections conn = fields := Function.update_self ..
  constructor
  case apart => exact fun a b c inside inside' => (apart a c inside).2.symm.trans (apart b c inside').2
  case count =>
    rw [begun_connManager]
    exact ConnManager.count_add (fun vec found => (inv.tidy _ vec found).online) inv.count
  case tidy =>
    intro userId vec found
    rw [begun_connManager] at found
    by_cases same : userId = fields.userId
    · rw [same] at found
      obtain ⟨old, lookup, fewer, room, devices⟩ := @ConnManager.lookup_add_self seen.connManager fields.userId conn
        (fun c => (Function.update seen.connections conn fields c).deviceId)
      cases found.symm.trans lookup
      have away : ∀ c ∈ old, c ≠ conn := by
        rintro c inside rfl
        exact unlisted _ (fewer.subset inside)
      have before : ∀ c ∈ old, (seen.begun conn fields).connections c = seen.connections c := fun c inside => other (away c inside)
      have kept : old.Nodup ∧ Differing (fun c => (seen.connections c).deviceId) old ∧
          Differing (fun c => (seen.connections c).deviceType) old := by
        cases listing : seen.connManager.conns.lookup fields.userId with
        | none =>
          rw [ConnManager.getConns, listing] at fewer
          rw [List.sublist_nil.mp fewer]
          exact ⟨.nil, fun c none => absurd none List.not_mem_nil, fun c none => absurd none List.not_mem_nil⟩
        | some vec =>
          rw [ConnManager.getConns_lookup listing] at fewer
          have tidy := inv.tidy _ vec listing
          exact ⟨tidy.once.sublist fewer, tidy.devices.sublist fewer, tidy.types.sublist fewer⟩
      obtain ⟨once, apart, kinds⟩ := kept
      refine ⟨by simp, ?_, ?_, ?_, ?_⟩
      · rw [List.length_append, List.length_singleton]
        exact room
      · rw [List.nodup_append]
        refine ⟨once, List.nodup_singleton conn, fun c inside d last => ?_⟩
        rw [List.mem_singleton.mp last]
        exact away c inside
      · refine (apart.congr fun c inside => by rw [before c inside]).append fun c inside named => ?_
        exact devices c inside named
      · refine (kinds.congr fun c inside => by rw [before c inside]).append fun c inside named => ?_
        rw [before c inside, mine]
        rw [mine] at named
        exact evicted c (fewer.subset inside) named
    · rw [ConnManager.lookup_add_ne same] at found
      refine (inv.tidy userId vec found).congr fun c inside => other ?_
      rintro rfl
      exact unlisted userId (by rwa [ConnManager.getConns_lookup found])

theorem tableInv_step (step : SessionStep users seen seen') (numbered : ∀ user ∈ users, user.id ≠ 0)
    (listed : Listed seen) (inv : TableInv seen) : TableInv seen' := by
  have listed' := listed_step step numbered listed
  cases step with
  | dropped userId conn => exact tableInv_dropped userId conn inv
  | ended conn => exact tableInv_ended conn listed inv
  | began conn user fields known normal named free evicted =>
    exact tableInv_began free (named ▸ evicted) listed inv listed'

end Steps

/-! ### Runs -/

/-- One input keeps the table. -/
theorem tableInv_received (w : World) (arrival : Arrival) (listed : Listed (sessions w.mem)) (inv : TableInv (sessions w.mem)) :
    TableInv (sessions (receive sqliteDaoFactory w arrival).mem) := by
  have numbered : ∀ user ∈ w.tables.users.rows, user.id ≠ 0 := fun user inside => by
    have := (w.tables.users.bounded user inside).1
    exact (Int.lt_of_lt_of_le Int.zero_lt_one this).ne'
  suffices both : Listed (sessions (receive sqliteDaoFactory w arrival).mem) ∧
      TableInv (sessions (receive sqliteDaoFactory w arrival).mem) from both.2
  have steps := received_steps w arrival
  generalize sessions (receive sqliteDaoFactory w arrival).mem = seen' at steps ⊢
  induction steps with
  | refl => exact ⟨listed, inv⟩
  | tail _ step ih => exact ⟨listed_step step numbered ih.1, tableInv_step step numbered ih.1 ih.2⟩

theorem tableInv_empty {seen : Sessions} (empty : seen.connManager = {}) : TableInv seen := by
  refine ⟨fun userId vec found => ?_, fun a b c inside => ?_, ?_⟩
  · rw [empty] at found
    cases found
  · rw [empty] at inside
    cases inside
  · rw [empty]
    rfl

/-- What is registered and how holds in every state of a run from an empty connection table. -/
theorem listed_run {w : World} (empty : w.mem.connManager = {}) (arrivals : List Arrival) :
    Listed (sessions (after (receive sqliteDaoFactory) w arrivals).mem) ∧
      TableInv (sessions (after (receive sqliteDaoFactory) w arrivals).mem) := by
  have keeps : ∀ (w : World) (arrival : Arrival), Listed (sessions w.mem) ∧ TableInv (sessions w.mem) →
      Listed (sessions (receive sqliteDaoFactory w arrival).mem) ∧ TableInv (sessions (receive sqliteDaoFactory w arrival).mem) :=
    fun w arrival ⟨listed, inv⟩ => ⟨listed_received w arrival listed, tableInv_received w arrival listed inv⟩
  exact after_invariant_always keeps ⟨listed_empty empty, tableInv_empty empty⟩ arrivals

/-- In every state of every run from an empty connection table: a user in the table has
    connections, at most ten, no connection is there twice, no two of a user have the same
    device or the same type of device unless it is empty, and the counter counts the users. -/
theorem connection_table (w : World) (empty : w.mem.connManager = {}) (arrivals : List Arrival) :
    TableInv (sessions (after (receive sqliteDaoFactory) w arrivals).mem) := (listed_run empty arrivals).2

/-- Two logins of one user on the same type of device. -/
theorem connection_table_relogin :
    let accept : Tables := { users := (∅ : Table User).insert { uid := [1], email := ascii "a@b.c", passwordHash := [1] } }
    let w : World := { tables := accept, mem := { config := { passwordVerify := fun _ _ => true } } }
    let login := fun conn : ConnId => ({ input := .packet (.user (.login conn 0
      (some { email := ascii "a@b.c", password := [1], deviceId := [], deviceType := ascii "pc" }))) } : Arrival)
    TableInv (sessions (after (receive sqliteDaoFactory) w [login 1, login 2]).mem) ∧
      (after (receive sqliteDaoFactory) w [login 1, login 2]).mem.connManager.getConns 1 = [2] := by
  refine ⟨connection_table _ rfl _, ?_⟩
  decide

end NovaIIM
