import NovaIIM.LockOut
import NovaIIM.RoleStatements

/-!
What a change of roles or rights stores when one of its statements fails.

The lemmas follow a program to the tables it leaves. A failed round of the loops leaves its
element out, so that the loop has run over the list without it (`List.eraseIdx`).
-/
namespace NovaIIM.RbacStatements
open Store RbacDao
variable {t : AdminTables} {roleId id : Int} {code : Bytes} {codes : List Bytes} {n : Nat}

theorem carries_execute (effect : AdminTables → AdminTables) (t : AdminTables) (faults : List Bool) :
    Carries (execute effect : RbacProgram Bool) t faults (if faults.headD false then t else effect t) faults.tail :=
  carries_statement false _ effect

/-! ### The permissions of a role -/

/-- A round of a code that no permission has does nothing. -/
private theorem grant_unknown (unknown : t.permissions.rows.find? (fun p => p.code = code) = none) (faults : List Bool) :
    Carries (grant roleId code) t faults t faults.tail := by
  refine carries_query ?_
  rw [unknown, ite_self]
  exact carries_ret ()

/-- A round of a known code is left out if its SELECT or its INSERT fails. -/
private theorem grant_known {p : Permission} (found : t.permissions.rows.find? (fun p => p.code = code) = some p)
    (faults : List Bool) :
    Carries (grant roleId code) t faults
      (if faults.headD false ∨ faults.tail.headD false then t else RbacDao.grant roleId t code)
      (if faults.headD false then faults.tail else faults.tail.tail) := by
  have granted : RbacDao.grant roleId t code = insertRolePermission { roleId := roleId, permissionId := p.id } t := by
    simp only [RbacDao.grant, found]
    rfl
  refine carries_query ?_
  cases first : faults.headD false with
  | true =>
    simp only [if_true, true_or]
    exact carries_ret ()
  | false =>
    simp only [Bool.false_eq_true, if_false, found, false_or, granted]
    exact (carries_execute _ t faults.tail).bind fun _ => carries_ret ()

/-- Whatever fails, a round grants its code or nothing. -/
private theorem grant_either (t : AdminTables) (faults : List Bool) :
    ∃ t' faults', Carries (grant roleId code) t faults t' faults' ∧ (t' = t ∨ t' = RbacDao.grant roleId t code) := by
  cases found : t.permissions.rows.find? fun p => p.code = code with
  | none => exact ⟨t, _, grant_unknown found faults, .inl rfl⟩
  | some p =>
    refine ⟨_, _, grant_known found faults, ?_⟩
    split
    · exact .inl rfl
    · exact .inr rfl

private theorem grants_either (codes : List Bytes) : ∀ (t : AdminTables) (faults : List Bool),
    ∃ t' faults', Carries (.forEach codes (grant roleId)) t faults t' faults' ∧ SameButGrants t t' := by
  induction codes with
  | nil => exact fun t faults => ⟨t, faults, carries_ret (), ⟨rfl, rfl, rfl, rfl, rfl⟩⟩
  | cons code codes ih =>
    intro t faults
    obtain ⟨t₁, faults₁, first, either⟩ := @grant_either roleId code t faults
    obtain ⟨t₂, faults₂, rest, others⟩ := ih t₁ faults₁
    refine ⟨t₂, faults₂, first.bind fun _ => rest, ?_⟩
    obtain rfl | rfl := either
    · exact others
    · exact (grant_others roleId t code).trans others

/-- Whatever fails, nothing but the grants of roles is written. -/
theorem setRolePermissions_others (roleId : Int) (codes : List Bytes) (faults : List Bool) (t : AdminTables) :
    SameButGrants t ((setRolePermissions roleId codes).tables faults t) := by
  have cleared : SameButGrants t (if faults.headD false then t else deleteRolePermissions roleId t) := by
    split <;> exact ⟨rfl, rfl, rfl, rfl, rfl⟩
  obtain ⟨t', faults', rest, others⟩ := @grants_either roleId codes _ faults.tail
  have stored : (setRolePermissions roleId codes).tables faults t = t' :=
    RbacProgram.tables_eq ((carries_execute _ t faults).bind fun _ => rest.bind fun _ => carries_ret true)
  rw [stored]
  exact cleared.trans others

private theorem find_known (known : code ∈ listPermissions t) :
    ∃ p, t.permissions.rows.find? (fun p => p.code = code) = some p := by
  obtain ⟨p, inside, named⟩ := List.mem_map.mp known
  exact Option.isSome_iff_exists.mp (List.find?_isSome.mpr ⟨p, inside, by simpa using named⟩)

/-- The loop without a failure. -/
private theorem grants_sound (codes : List Bytes) :
    ∀ t : AdminTables, Carries (.forEach codes (grant roleId)) t [] (codes.foldl (RbacDao.grant roleId) t) [] := by
  induction codes with
  | nil => exact fun t => carries_ret ()
  | cons code codes ih =>
    intro t
    have first : Carries (grant roleId code) t [] (RbacDao.grant roleId t code) [] := by
      cases found : t.permissions.rows.find? fun p => p.code = code with
      | none =>
        have unchanged : RbacDao.grant roleId t code = t := by simp [RbacDao.grant, found]
        rw [unchanged]
        exact grant_unknown found []
      | some p => exact grant_known found []
    exact first.bind fun _ => ih _

/-- A round of a known code is two statements, and the one with the failure is left out. -/
private theorem grants_failing (codes : List Bytes) : ∀ (t : AdminTables) (n : Nat),
    (∀ code ∈ codes, code ∈ listPermissions t) →
      ∃ faults', Carries (.forEach codes (grant roleId)) t (failingAt n)
        ((codes.eraseIdx (n / 2)).foldl (RbacDao.grant roleId) t) faults' := by
  induction codes with
  | nil => exact fun t n _ => ⟨_, carries_ret ()⟩
  | cons code codes ih =>
    intro t n known
    obtain ⟨p, found⟩ := find_known (known code (.head _))
    match n with
    | 0 => exact ⟨_, (grant_known found [true]).bind fun _ => grants_sound codes t⟩
    | 1 => exact ⟨_, (grant_known found [false, true]).bind fun _ => grants_sound codes t⟩
    | n + 2 =>
      have later : ∀ code' ∈ codes, code' ∈ listPermissions (RbacDao.grant roleId t code) := by
        intro code' asked
        rw [listPermissions, (grant_others roleId t code).permissions]
        exact known code' (.tail _ asked)
      obtain ⟨faults', rest⟩ := ih (RbacDao.grant roleId t code) n later
      have half : (n + 2) / 2 = n / 2 + 1 := by omega
      rw [half]
      exact ⟨faults', (grant_known found (failingAt (n + 2))).bind fun _ => rest⟩

/-- When the DELETE fails the grants of the codes come to the old ones. -/
theorem setRolePermissions_first (roleId : Int) (codes : List Bytes) (t : AdminTables) :
    (setRolePermissions roleId codes).tables (failingAt 0) t = codes.foldl (RbacDao.grant roleId) t :=
  RbacProgram.tables_eq ((carries_execute _ t [true]).bind fun _ => (grants_sound codes t).bind fun _ => carries_ret true)

/-- When another statement fails its code is left out. -/
theorem setRolePermissions_later (known : ∀ code ∈ codes, code ∈ listPermissions t) :
    (setRolePermissions roleId codes).tables (failingAt (n + 1)) t =
      RbacDao.setRolePermissions roleId (codes.eraseIdx (n / 2)) t := by
  obtain ⟨faults', rest⟩ := @grants_failing roleId codes (deleteRolePermissions roleId t) n known
  exact RbacProgram.tables_eq
    ((carries_execute _ t (failingAt (n + 1))).bind fun _ => rest.bind fun _ => carries_ret true)

theorem setRolePermissions_sound (roleId : Int) (codes : List Bytes) (t : AdminTables) :
    (setRolePermissions roleId codes).tables [] t = RbacDao.setRolePermissions roleId codes t :=
  RbacProgram.tables_eq ((carries_execute _ t []).bind fun _ =>
    (grants_sound codes (deleteRolePermissions roleId t)).bind fun _ => carries_ret true)

/-! ### The end of a role -/

/-- Each of the three statements may be the one that fails. -/
theorem deleteRole_tables (roleId : Int) (faults : List Bool) (t : AdminTables) :
    (deleteRole roleId).tables faults t =
      { t with
        rolePermissions := if faults.headD false then t.rolePermissions
          else t.rolePermissions.delete fun rp => rp.roleId = roleId
        adminRoles := if faults.tail.headD false then t.adminRoles
          else t.adminRoles.delete fun ar => ar.roleId = roleId
        roles := if faults.tail.tail.headD false then t.roles else t.roles.delete fun r => r.id = roleId } := by
  have stored := RbacProgram.tables_eq <| (carries_execute (deleteRolePermissions roleId) t faults).bind fun _ =>
    (carries_execute (deleteHolders roleId) _ faults.tail).bind fun _ =>
      (carries_execute (deleteRoleRow roleId) _ faults.tail.tail).bind fun _ => carries_ret true
  refine Eq.trans stored ?_
  split <;> split <;> split <;> simp_all [deleteRolePermissions, deleteHolders, deleteRoleRow]

/-! ### The roles of an admin -/

private theorem remove_round (id : Int) (r : RoleWithPermissions) (t : AdminTables) (faults : List Bool) :
    Carries (do let _ ← removeAdminRole id r.id; return () : RbacProgram Unit) t faults
      (if faults.headD false then t else RbacDao.removeAdminRole id r.id t) faults.tail :=
  ((carries_execute _ t faults).bind fun _ => carries_ret true).bind fun _ => carries_ret ()

/-- How many statements the rounds of some roles are, for an admin that has others: the SELECT,
    and the INSERT of a role it does not have. -/
def assignStatements (has : List Int) : List Int → Nat
  | [] => 0
  | roleId :: roleIds =>
    if roleId ∈ has then 1 + assignStatements has roleIds else 2 + assignStatements (roleId :: has) roleIds

/-- The round that fails is the only one of its role, at its INSERT. -/
def Lost (has roleIds : List Int) (n : Nat) (roleId : Int) : Prop :=
  ∃ before later, roleIds = before ++ roleId :: later ∧ n = assignStatements has before + 1 ∧
    roleId ∉ has ∧ roleId ∉ before ∧ roleId ∉ later

private theorem existing_iff {id roleId : Int} :
    (t.adminRoles.rows.any fun ar => ar.adminId = id && ar.roleId = roleId) = true ↔ Holds t id roleId := by
  simp only [List.any_eq_true, Bool.and_eq_true, decide_eq_true_eq, Holds]

private theorem taken_of_holds {id roleId : Int} (held : Holds t id roleId) :
    t.adminRoles.taken { adminId := id, roleId := roleId } = true := by
  obtain ⟨ar, inside, rfl, rfl⟩ := held
  exact (Table.taken_iff _ _).mpr ⟨ar, inside, by simp [Row.clash]⟩

private theorem carries_insert (ar : AdminRole) (t : AdminTables) (faults : List Bool) :
    Carries (statement false (fun t => !t.adminRoles.taken ar) (insertAdminRole ar) : RbacProgram Bool) t faults
      (if faults.headD false then t else insertAdminRole ar t) faults.tail :=
  carries_statement false _ _

/-- A round of a role that is held leaves it held: the row is found, or refused. -/
private theorem assign_held (held : Holds t id roleId) (faults : List Bool) :
    Carries (do let _ ← assignAdminRole id roleId; return () : RbacProgram Unit) t faults t
      (if faults.headD false then faults.tail.tail else faults.tail) := by
  have refused : insertAdminRole { adminId := id, roleId := roleId } t = t := by
    rw [insertAdminRole, Table.insert_taken (taken_of_holds held)]
  have assigned : Carries (assignAdminRole id roleId) t faults t
      (if faults.headD false then faults.tail.tail else faults.tail) := by
    refine carries_query ?_
    rw [existing_iff.mpr held]
    cases first : faults.headD false with
    | true =>
      have inserted := carries_insert { adminId := id, roleId := roleId } t faults.tail
      rw [refused, ite_self] at inserted
      exact inserted
    | false => exact carries_ret true
  exact assigned.bind fun _ => carries_ret ()

/-- A round of a role that is not held is lost if its INSERT fails. -/
private theorem assign_new (missing : ¬Holds t id roleId) (faults : List Bool) :
    Carries (do let _ ← assignAdminRole id roleId; return () : RbacProgram Unit) t faults
      (if faults.tail.headD false then t else RbacDao.assignAdminRole id roleId t) faults.tail.tail := by
  have unlisted := fun there => missing (existing_iff.mp there)
  have inserted : RbacDao.assignAdminRole id roleId t = insertAdminRole { adminId := id, roleId := roleId } t := by
    rw [RbacDao.assignAdminRole, if_neg unlisted]
    rfl
  rw [inserted]
  refine Carries.bind ?_ fun _ => carries_ret ()
  refine carries_query ?_
  rw [Bool.eq_false_iff.mpr unlisted, ite_self]
  exact carries_insert _ t faults.tail

private theorem assigns_sound (roleIds : List Int) : ∀ t : AdminTables,
    Carries (.forEach roleIds fun roleId => do let _ ← assignAdminRole id roleId; return () : RbacProgram Unit) t []
      (roleIds.foldl (fun t roleId => RbacDao.assignAdminRole id roleId t) t) [] := by
  induction roleIds with
  | nil => exact fun t => carries_ret ()
  | cons roleId roleIds ih =>
    intro t
    by_cases held : Holds t id roleId
    · have unchanged : RbacDao.assignAdminRole id roleId t = t := by
        rw [RbacDao.assignAdminRole, if_pos (existing_iff.mpr held)]
      rw [List.foldl_cons, unchanged]
      exact (assign_held held []).bind fun _ => ih t
    · exact (assign_new held []).bind fun _ => ih _

variable {has : List Int} {roleIds : List Int}

private theorem not_lost_zero {r : Int} : ¬Lost has roleIds 0 r := by
  rintro ⟨before, later, -, number, -⟩
  omega

private theorem lost_held {r : Int} (held : roleId ∈ has) :
    Lost has (roleId :: roleIds) (n + 1) r ↔ Lost has roleIds n r := by
  constructor
  · rintro ⟨before, later, split, number, new, first, only⟩
    cases before with
    | nil =>
      obtain ⟨rfl, -⟩ := List.cons.inj split
      exact absurd held new
    | cons head before =>
      obtain ⟨rfl, rfl⟩ := List.cons.inj split
      rw [assignStatements, if_pos held] at number
      exact ⟨before, later, rfl, by omega, new, fun inside => first (.tail _ inside), only⟩
  · rintro ⟨before, later, rfl, rfl, new, first, only⟩
    refine ⟨roleId :: before, later, rfl, ?_, new, ?_, only⟩
    · rw [assignStatements, if_pos held]
      omega
    · intro inside
      obtain rfl | inside := List.mem_cons.mp inside
      · exact new held
      · exact first inside

private theorem lost_insert {r : Int} (missing : roleId ∉ has) :
    Lost has (roleId :: roleIds) 1 r ↔ r = roleId ∧ roleId ∉ roleIds := by
  constructor
  · rintro ⟨before, later, split, number, -, -, only⟩
    cases before with
    | nil =>
      obtain ⟨rfl, rfl⟩ := List.cons.inj split
      exact ⟨rfl, only⟩
    | cons head before =>
      obtain ⟨rfl, rfl⟩ := List.cons.inj split
      rw [assignStatements, if_neg missing] at number
      omega
  · rintro ⟨rfl, only⟩
    exact ⟨[], roleIds, rfl, rfl, missing, List.not_mem_nil, only⟩

private theorem lost_new {r : Int} (missing : roleId ∉ has) :
    Lost has (roleId :: roleIds) (n + 2) r ↔ Lost (roleId :: has) roleIds n r := by
  constructor
  · rintro ⟨before, later, split, number, new, first, only⟩
    cases before with
    | nil =>
      rw [assignStatements] at number
      omega
    | cons head before =>
      obtain ⟨rfl, rfl⟩ := List.cons.inj split
      rw [assignStatements, if_neg missing] at number
      rw [List.mem_cons, not_or] at first
      refine ⟨before, later, rfl, by omega, ?_, first.2, only⟩
      rw [List.mem_cons, not_or]
      exact ⟨first.1, new⟩
  · rintro ⟨before, later, rfl, rfl, new, first, only⟩
    rw [List.mem_cons, not_or] at new
    refine ⟨roleId :: before, later, rfl, ?_, new.2, ?_, only⟩
    · rw [assignStatements, if_neg missing]
      omega
    · rw [List.mem_cons, not_or]
      exact ⟨new.1, first⟩

/-- The admin gets the roles asked for, without one that is lost. -/
private theorem assigns_failing (roleIds : List Int) : ∀ (has : List Int) (t : AdminTables) (n : Nat),
    (∀ r, r ∈ has ↔ Holds t id r) → ∃ t' faults',
      Carries (.forEach roleIds fun roleId => do let _ ← assignAdminRole id roleId; return () : RbacProgram Unit) t
        (failingAt n) t' faults' ∧
      ∀ r, Holds t' id r ↔ Holds t id r ∨ r ∈ roleIds ∧ ¬Lost has roleIds n r := by
  induction roleIds with
  | nil => exact fun has t n _ => ⟨t, _, carries_ret (), fun r => by simp⟩
  | cons roleId roleIds ih =>
    intro has t n known
    have sound := fun t => @assigns_sound id roleIds t
    have assigned := fun t r => (@holds_assigning id roleIds t).2 id r
    by_cases held : Holds t id roleId
    · have inside := (known roleId).mpr held
      cases n with
      | zero =>
        refine ⟨_, _, (assign_held held [true]).bind fun _ => sound t, fun r => ?_⟩
        simp only [assigned, not_lost_zero, not_false_eq_true, and_true, List.mem_cons]
        grind
      | succ n =>
        obtain ⟨t', faults', rest, holds⟩ := ih has t n known
        refine ⟨t', faults', (assign_held held (failingAt (n + 1))).bind fun _ => rest, fun r => ?_⟩
        rw [holds, lost_held inside, List.mem_cons]
        grind
    · have outside := fun inside => held ((known roleId).mp inside)
      match n with
      | 0 =>
        refine ⟨_, _, (assign_new held [true]).bind fun _ => sound _, fun r => ?_⟩
        simp only [assigned, not_lost_zero, not_false_eq_true, and_true, List.mem_cons]
        have added := @holds_assignAdminRole t id roleId id r
        simp only [true_and] at added
        grind
      | 1 =>
        refine ⟨_, _, (assign_new held [false, true]).bind fun _ => sound t, fun r => ?_⟩
        rw [assigned, lost_insert outside, List.mem_cons]
        grind
      | n + 2 =>
        have added : ∀ r, Holds (RbacDao.assignAdminRole id roleId t) id r ↔ Holds t id r ∨ r = roleId :=
          fun r => holds_assignAdminRole.trans (by simp)
        have known' : ∀ r, r ∈ roleId :: has ↔ Holds (RbacDao.assignAdminRole id roleId t) id r := by
          intro r
          rw [List.mem_cons, known, added, or_comm]
        obtain ⟨t', faults', rest, holds⟩ := ih (roleId :: has) (RbacDao.assignAdminRole id roleId t) n known'
        refine ⟨t', faults', (assign_new held (failingAt (n + 2))).bind fun _ => rest, fun r => ?_⟩
        have spared : r = roleId → ¬Lost (roleId :: has) roleIds n r := by
          rintro rfl ⟨before, later, -, -, new, -⟩
          exact new (.head _)
        rw [holds, added, lost_new outside, List.mem_cons]
        grind

/-- The roles of an admin that are in no list of roles, so that the first loop passes them by. -/
def unlisted (t : AdminTables) (id : Int) : List Int :=
  (t.adminRoles.rows.filter fun ar => ar.adminId = id && !decide (IsRole t ar.roleId)).map AdminRole.roleId

theorem mem_unlisted {r : Int} : r ∈ unlisted t id ↔ Holds t id r ∧ ¬IsRole t r := by
  simp only [unlisted, List.mem_map, List.mem_filter, Bool.and_eq_true, decide_eq_true_eq, Bool.not_eq_true',
    decide_eq_false_iff_not, Holds]
  constructor
  · rintro ⟨ar, ⟨inside, admin, none_⟩, rfl⟩
    exact ⟨⟨ar, inside, admin, rfl⟩, none_⟩
  · rintro ⟨⟨ar, inside, admin, rfl⟩, none_⟩
    exact ⟨ar, ⟨inside, admin, none_⟩, rfl⟩

/-- Without the role of one round, the list has all the others. -/
private theorem listed_eraseIdx {role : Role} (there : t.roles.rows[n]? = some role) {r : Int} :
    (∃ other ∈ (listRoles t).eraseIdx n, other.id = r) ↔ IsRole t r ∧ r ≠ role.id := by
  have ascending := List.pairwise_iff_getElem.mp t.roles.ascending
  obtain ⟨short, rfl⟩ := List.getElem?_eq_some_iff.mp there
  simp only [List.mem_eraseIdx_iff_getElem?, listRoles, List.getElem?_map, Option.map_eq_some_iff, IsRole]
  constructor
  · rintro ⟨other, ⟨i, apart, row, found, rfl⟩, rfl⟩
    obtain ⟨short', rfl⟩ := List.getElem?_eq_some_iff.mp found
    refine ⟨⟨_, List.getElem_mem short', rfl⟩, fun same => ?_⟩
    obtain before | behind := Nat.lt_or_gt_of_ne apart
    · exact absurd same (Int.ne_of_lt (ascending i n short' short before))
    · exact absurd same (Int.ne_of_gt (ascending n i short short' behind))
  · rintro ⟨⟨row, inside, rfl⟩, apart⟩
    obtain ⟨i, short', rfl⟩ := List.getElem_of_mem inside
    refine ⟨_, ⟨i, ?_, _, List.getElem?_eq_getElem short', rfl⟩, rfl⟩
    rintro rfl
    exact apart rfl

/-- A DELETE that fails leaves the admin its role. -/
theorem replaceRoles_deleting {role : Role} (there : t.roles.rows[n]? = some role) {r : Int} :
    Holds ((replaceRoles id (listRoles t) roleIds).tables (failingAt n) t) id r ↔
      r ∈ roleIds ∨ Holds t id r ∧ (¬IsRole t r ∨ r = role.id) := by
  obtain ⟨short, -⟩ := List.getElem?_eq_some_iff.mp there
  have spent : (failingAt n).drop (listRoles t).length = [] := by
    rw [drop_failingAt, listRoles, List.length_map, if_neg (by omega)]
  have removing := @carries_forEach _ _ _ _ _ _ (@remove_round id) (listRoles t) t n
  rw [spent] at removing
  have stored := RbacProgram.tables_eq (removing.bind fun _ => @assigns_sound id roleIds _)
  have removed := @holds_removing id ((listRoles t).eraseIdx n)
  have listed := @listed_eraseIdx t n role there r
  rw [replaceRoles, stored, (holds_assigning _ _).2, (removed t).2, listed]
  grind

/-- Behind the DELETEs only an INSERT can be missed. -/
theorem replaceRoles_inserting (behind : t.roles.rows.length ≤ n) {r : Int} :
    Holds ((replaceRoles id (listRoles t) roleIds).tables (failingAt n) t) id r ↔
      r ∈ roleIds ∧ ¬Lost (unlisted t id) roleIds (n - t.roles.rows.length) r ∨ Holds t id r ∧ ¬IsRole t r := by
  have length : (listRoles t).length = t.roles.rows.length := List.length_map _
  have removing := @carries_forEach _ _ _ _ _ _ (@remove_round id) (listRoles t) t n
  rw [drop_failingAt, length, if_pos behind, List.eraseIdx_of_length_le (by omega)] at removing
  have left : ∀ r, Holds ((listRoles t).foldl (fun t r => RbacDao.removeAdminRole id r.id t) t) id r ↔
      Holds t id r ∧ ¬IsRole t r := by
    intro r
    rw [(holds_removing _ t).2]
    simp [listRoles, IsRole]
  obtain ⟨t', faults', assigning, holds⟩ := @assigns_failing id roleIds (unlisted t id) _ (n - t.roles.rows.length)
    fun r => mem_unlisted.trans (left r).symm
  rw [replaceRoles, RbacProgram.tables_eq (removing.bind fun _ => assigning), holds, left, or_comm]

theorem replaceRoles_sound (id : Int) (roleIds : List Int) (t : AdminTables) :
    (replaceRoles id (listRoles t) roleIds).tables [] t = AdminHandlers.replaceRoles id roleIds t :=
  RbacProgram.tables_eq <| (carries_forEach_sound (@remove_round id) (listRoles t) t).bind fun _ =>
    @assigns_sound id roleIds _

end NovaIIM.RbacStatements
