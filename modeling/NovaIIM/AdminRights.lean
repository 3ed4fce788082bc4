import NovaIIM.AdminTables
import NovaIIM.AdminAuth

/-!
Roles and rights.

The link tables are two relations: `Holds`, which roles an admin has, and `Grants`, which
permissions a role has. The lemmas say what every write to these tables makes of them.
-/
namespace NovaIIM
open RbacDao

/-- An admin has a role. -/
def Holds (t : AdminTables) (adminId roleId : Int) : Prop :=
  ∃ ar ∈ t.adminRoles.rows, ar.adminId = adminId ∧ ar.roleId = roleId

/-- A role has a permission. -/
def Grants (t : AdminTables) (roleId permissionId : Int) : Prop :=
  ∃ rp ∈ t.rolePermissions.rows, rp.roleId = roleId ∧ rp.permissionId = permissionId

instance (t : AdminTables) (adminId roleId : Int) : Decidable (Holds t adminId roleId) :=
  inferInstanceAs (Decidable (∃ ar ∈ t.adminRoles.rows, _))

instance (t : AdminTables) (roleId permissionId : Int) : Decidable (Grants t roleId permissionId) :=
  inferInstanceAs (Decidable (∃ rp ∈ t.rolePermissions.rows, _))

/-- A permission has one of the codes. -/
def Coded (t : AdminTables) (codes : List Bytes) (permissionId : Int) : Prop :=
  ∃ p ∈ t.permissions.rows, p.id = permissionId ∧ p.code ∈ codes

instance (t : AdminTables) (codes : List Bytes) (permissionId : Int) : Decidable (Coded t codes permissionId) :=
  inferInstanceAs (Decidable (∃ p ∈ t.permissions.rows, _))

variable {t : AdminTables}

theorem granted_iff {userId permissionId : Int} :
    granted t userId permissionId = true ↔ ∃ roleId, Holds t userId roleId ∧ Grants t roleId permissionId := by
  simp only [granted, List.any_eq_true, Bool.and_eq_true, decide_eq_true_eq, Holds, Grants]
  constructor
  · rintro ⟨rp, inside, named, ar, inside', role, admin⟩
    exact ⟨ar.roleId, ⟨ar, inside', admin, rfl⟩, rp, inside, role.symm, named⟩
  · rintro ⟨roleId, ⟨ar, inside', admin, role⟩, rp, inside, role', named⟩
    exact ⟨rp, inside, named, ar, inside', role.trans role'.symm, admin⟩

/-! ### The writes to the link tables -/

/-- A grant adds the permission of its code, if there is one. -/
private theorem grants_grant {roleId : Int} {code : Bytes} {r p : Int} :
    Grants (grant roleId t code) r p ↔ Grants t r p ∨ r = roleId ∧ Coded t [code] p := by
  unfold grant
  cases found : t.permissions.rows.find? fun p => p.code = code with
  | none =>
    have uncoded : ¬Coded t [code] p := by
      rintro ⟨row, inside, -, named⟩
      simpa [List.mem_singleton.mp named] using List.find?_eq_none.mp found row inside
    simp [uncoded]
  | some row =>
    have inside := List.mem_of_find?_eq_some found
    have named : row.code = code := by simpa using List.find?_some found
    have coded : Coded t [code] p ↔ p = row.id := by
      constructor
      · rintro ⟨other, there, rfl, same⟩
        have : other = row := Table.eq_of_clash there inside (by simp [Row.clash, List.mem_singleton.mp same, named])
        rw [this]
      · rintro rfl
        exact ⟨row, inside, rfl, by simp [named]⟩
    rw [coded]
    constructor
    · rintro ⟨rp, there, rfl, rfl⟩
      obtain old | ⟨-, rfl⟩ := Table.mem_insert.mp there
      · exact .inl ⟨rp, old, rfl, rfl⟩
      · exact .inr ⟨rfl, rfl⟩
    · rintro (⟨rp, there, same⟩ | ⟨rfl, rfl⟩)
      · exact ⟨rp, Table.mem_insert.mpr (.inl there), same⟩
      · cases taken : t.rolePermissions.taken { roleId := r, permissionId := row.id } with
        | false => exact ⟨_, Table.mem_insert.mpr (.inr ⟨taken, rfl⟩), rfl, rfl⟩
        | true =>
          obtain ⟨rp, there, clash⟩ := (Table.taken_iff _ _).mp taken
          simp only [Row.clash, Bool.and_eq_true, decide_eq_true_eq] at clash
          exact ⟨rp, Table.mem_insert.mpr (.inl there), clash.1.symm, clash.2.symm⟩

/-- Two states agree on everything but which roles have which permissions. -/
structure SameButGrants (t t' : AdminTables) : Prop where
  permissions : t'.permissions = t.permissions
  admins : t'.admins = t.admins
  roles : t'.roles = t.roles
  adminRoles : t'.adminRoles = t.adminRoles
  adminSessions : t'.adminSessions = t.adminSessions

theorem grant_others (roleId : Int) (t : AdminTables) (code : Bytes) : SameButGrants t (grant roleId t code) := by
  unfold grant
  split <;> exact ⟨rfl, rfl, rfl, rfl, rfl⟩

theorem SameButGrants.trans {a b c : AdminTables} (first : SameButGrants a b) (second : SameButGrants b c) :
    SameButGrants a c :=
  ⟨second.permissions.trans first.permissions, second.admins.trans first.admins, second.roles.trans first.roles,
    second.adminRoles.trans first.adminRoles, second.adminSessions.trans first.adminSessions⟩

theorem grants_foldl {roleId : Int} (codes : List Bytes) :
    ∀ (t : AdminTables), SameButGrants t (codes.foldl (grant roleId) t) ∧
      ∀ r p, Grants (codes.foldl (grant roleId) t) r p ↔ Grants t r p ∨ r = roleId ∧ Coded t codes p := by
  induction codes with
  | nil => exact fun t => ⟨⟨rfl, rfl, rfl, rfl, rfl⟩, fun r p => by simp [Coded]⟩
  | cons code codes ih =>
    intro t
    obtain ⟨others, grants⟩ := ih (grant roleId t code)
    have first := grant_others roleId t code
    refine ⟨first.trans others, fun r p => ?_⟩
    have coded : Coded t (code :: codes) p ↔ Coded t [code] p ∨ Coded (grant roleId t code) codes p := by
      simp only [Coded, first.permissions, List.mem_cons, List.not_mem_nil, or_false]
      grind
    rw [List.foldl_cons, grants r p, grants_grant, coded, and_or_left, or_assoc]

theorem setRolePermissions_others (roleId : Int) (codes : List Bytes) (t : AdminTables) :
    SameButGrants t (setRolePermissions roleId codes t) := by
  have cleared : SameButGrants t
      { t with rolePermissions := t.rolePermissions.delete fun rp => rp.roleId = roleId } := ⟨rfl, rfl, rfl, rfl, rfl⟩
  exact cleared.trans (grants_foldl codes _).1

/-- A role gets exactly the permissions of the codes, the others keep theirs. -/
theorem grants_setRolePermissions {roleId : Int} {codes : List Bytes} {r p : Int} :
    Grants (setRolePermissions roleId codes t) r p ↔ if r = roleId then Coded t codes p else Grants t r p := by
  have cleared : Grants { t with rolePermissions := t.rolePermissions.delete fun rp => rp.roleId = roleId } r p ↔
      Grants t r p ∧ r ≠ roleId := by
    simp only [Grants, Table.mem_delete, decide_eq_false_iff_not]
    grind
  have coded : Coded { t with rolePermissions := t.rolePermissions.delete fun rp => rp.roleId = roleId } codes p ↔
      Coded t codes p := Iff.rfl
  rw [setRolePermissions, (grants_foldl codes _).2 r p, cleared, coded]
  split <;> simp [*]

theorem holds_assignAdminRole {adminId roleId a r : Int} :
    Holds (assignAdminRole adminId roleId t) a r ↔ Holds t a r ∨ a = adminId ∧ r = roleId := by
  unfold assignAdminRole
  split
  · rename_i there
    obtain ⟨ar, inside, same⟩ := List.any_eq_true.mp there
    simp only [Bool.and_eq_true, decide_eq_true_eq] at same
    refine ⟨.inl, ?_⟩
    rintro (held | ⟨rfl, rfl⟩)
    · exact held
    · exact ⟨ar, inside, same⟩
  · rename_i missing
    have free : t.adminRoles.taken { adminId := adminId, roleId := roleId } = false := by
      rw [Bool.eq_false_iff]
      intro taken
      obtain ⟨ar, inside, clash⟩ := (Table.taken_iff _ _).mp taken
      simp only [Row.clash, Bool.and_eq_true, decide_eq_true_eq] at clash
      exact missing (List.any_eq_true.mpr ⟨ar, inside, by simp [clash.1.symm, clash.2.symm]⟩)
    constructor
    · rintro ⟨ar, inside, rfl, rfl⟩
      obtain old | ⟨-, rfl⟩ := Table.mem_insert.mp inside
      · exact .inl ⟨ar, old, rfl, rfl⟩
      · exact .inr ⟨rfl, rfl⟩
    · rintro (⟨ar, inside, same⟩ | ⟨rfl, rfl⟩)
      · exact ⟨ar, Table.mem_insert.mpr (.inl inside), same⟩
      · exact ⟨_, Table.mem_insert.mpr (.inr ⟨free, rfl⟩), rfl, rfl⟩

theorem holds_removeAdminRole {adminId roleId a r : Int} :
    Holds (removeAdminRole adminId roleId t) a r ↔ Holds t a r ∧ ¬(a = adminId ∧ r = roleId) := by
  simp only [Holds, removeAdminRole, Table.mem_delete, Bool.and_eq_false_iff, decide_eq_false_iff_not]
  grind

/-- Two states agree on everything but which admins have which roles. -/
structure SameButRoles (t t' : AdminTables) : Prop where
  permissions : t'.permissions = t.permissions
  admins : t'.admins = t.admins
  roles : t'.roles = t.roles
  rolePermissions : t'.rolePermissions = t.rolePermissions
  adminSessions : t'.adminSessions = t.adminSessions

theorem SameButRoles.trans {a b c : AdminTables} (first : SameButRoles a b) (second : SameButRoles b c) :
    SameButRoles a c :=
  ⟨second.permissions.trans first.permissions, second.admins.trans first.admins, second.roles.trans first.roles,
    second.rolePermissions.trans first.rolePermissions, second.adminSessions.trans first.adminSessions⟩

private theorem assign_others (adminId roleId : Int) (t : AdminTables) :
    SameButRoles t (assignAdminRole adminId roleId t) := by
  unfold assignAdminRole
  split <;> exact ⟨rfl, rfl, rfl, rfl, rfl⟩

theorem holds_removing {id : Int} (roles : List RoleWithPermissions) :
    ∀ (t : AdminTables), SameButRoles t (roles.foldl (fun t r => removeAdminRole id r.id t) t) ∧
      ∀ a r, Holds (roles.foldl (fun t r => removeAdminRole id r.id t) t) a r ↔
        Holds t a r ∧ ¬(a = id ∧ ∃ role ∈ roles, role.id = r) := by
  induction roles with
  | nil => exact fun t => ⟨⟨rfl, rfl, rfl, rfl, rfl⟩, fun a r => by simp⟩
  | cons role roles ih =>
    intro t
    obtain ⟨others, holds⟩ := ih (removeAdminRole id role.id t)
    have first : SameButRoles t (removeAdminRole id role.id t) := ⟨rfl, rfl, rfl, rfl, rfl⟩
    refine ⟨first.trans others, fun a r => ?_⟩
    rw [List.foldl_cons, holds a r, holds_removeAdminRole]
    simp only [List.mem_cons, exists_eq_or_imp]
    grind

theorem holds_assigning {id : Int} (roleIds : List Int) :
    ∀ (t : AdminTables), SameButRoles t (roleIds.foldl (fun t roleId => assignAdminRole id roleId t) t) ∧
      ∀ a r, Holds (roleIds.foldl (fun t roleId => assignAdminRole id roleId t) t) a r ↔
        Holds t a r ∨ a = id ∧ r ∈ roleIds := by
  induction roleIds with
  | nil => exact fun t => ⟨⟨rfl, rfl, rfl, rfl, rfl⟩, fun a r => by simp⟩
  | cons roleId roleIds ih =>
    intro t
    obtain ⟨others, holds⟩ := ih (assignAdminRole id roleId t)
    refine ⟨(assign_others id roleId t).trans others, fun a r => ?_⟩
    rw [List.foldl_cons, holds a r, holds_assignAdminRole, List.mem_cons, and_or_left, or_assoc]

theorem replaceRoles_others (id : Int) (roleIds : List Int) (t : AdminTables) :
    SameButRoles t (AdminHandlers.replaceRoles id roleIds t) :=
  (holds_removing _ t).1.trans (holds_assigning _ _).1

/-- An admin has the roles asked for, and those that are in no list of roles. -/
theorem holds_replaceRoles {id : Int} {roleIds : List Int} {a r : Int} :
    Holds (AdminHandlers.replaceRoles id roleIds t) a r ↔
      if a = id then r ∈ roleIds ∨ Holds t a r ∧ ∀ role ∈ t.roles.rows, role.id ≠ r else Holds t a r := by
  have listed : (∃ role ∈ listRoles t, role.id = r) ↔ ∃ role ∈ t.roles.rows, role.id = r := by
    simp [listRoles]
  rw [AdminHandlers.replaceRoles, (holds_assigning _ _).2, (holds_removing _ _).2, listed]
  split <;> grind

theorem holds_deleteRole {id a r : Int} : Holds (deleteRole id t) a r ↔ Holds t a r ∧ r ≠ id := by
  simp only [Holds, deleteRole, Table.mem_delete, decide_eq_false_iff_not]
  grind

theorem grants_deleteRole {id r p : Int} : Grants (deleteRole id t) r p ↔ Grants t r p ∧ r ≠ id := by
  simp only [Grants, deleteRole, Table.mem_delete, decide_eq_false_iff_not]
  grind

end NovaIIM
