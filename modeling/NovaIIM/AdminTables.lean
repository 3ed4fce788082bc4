import NovaIIM.Calendar
import NovaIIM.Types

/-!
The tables behind the admin server, its data access objects
(`dao/impl/rbac_dao_impl.cpp`, `admin_account_dao_impl.cpp`, `admin_session_dao_impl.cpp`)
and their first rows (`dao/seed.h`).

The admin server serves one request at a time, so a call is a function of the tables.
A query answers with the rows of its table in the order of their ids.
-/
namespace NovaIIM

structure Admin where
  id : Int := 0
  uid : Bytes
  passwordHash : Bytes
  nickname : Bytes
  status : AccountStatus := .normal
deriving DecidableEq, Repr

structure Role where
  id : Int := 0
  name : Bytes
  code : Bytes
  description : Bytes
deriving DecidableEq, Repr

structure Permission where
  id : Int := 0
  code : Bytes
deriving DecidableEq, Repr

structure RolePermission where
  id : Int := 0
  roleId : Int
  permissionId : Int
deriving DecidableEq, Repr

structure AdminRole where
  id : Int := 0
  adminId : Int
  roleId : Int
deriving DecidableEq, Repr

structure AdminSession where
  id : Int := 0
  adminId : Int
  tokenHash : Bytes
  expiresAt : Bytes
  revoked : Bool := false
deriving DecidableEq, Repr

/-- `ormpp_unique{{"uid"}}`. -/
instance : Row Admin where
  id := Admin.id
  withId n r := { r with id := n }
  clash a b := a.uid = b.uid
  id_withId _ _ := rfl
  clash_comm a b := by simp [eq_comm]
  clash_withId _ _ _ := rfl

/-- `ormpp_unique{{"code"}}`. -/
instance : Row Role where
  id := Role.id
  withId n r := { r with id := n }
  clash a b := a.code = b.code
  id_withId _ _ := rfl
  clash_comm a b := by simp [eq_comm]
  clash_withId _ _ _ := rfl

/-- `ormpp_unique{{"code"}}`. -/
instance : Row Permission where
  id := Permission.id
  withId n r := { r with id := n }
  clash a b := a.code = b.code
  id_withId _ _ := rfl
  clash_comm a b := by simp [eq_comm]
  clash_withId _ _ _ := rfl

/-- `ormpp_unique{{"role_id", "permission_id"}}`. -/
instance : Row RolePermission where
  id := RolePermission.id
  withId n r := { r with id := n }
  clash a b := a.roleId = b.roleId && a.permissionId = b.permissionId
  id_withId _ _ := rfl
  clash_comm a b := by simp [eq_comm]
  clash_withId _ _ _ := rfl

/-- `ormpp_unique{{"admin_id", "role_id"}}`. -/
instance : Row AdminRole where
  id := AdminRole.id
  withId n r := { r with id := n }
  clash a b := a.adminId = b.adminId && a.roleId = b.roleId
  id_withId _ _ := rfl
  clash_comm a b := by simp [eq_comm]
  clash_withId _ _ _ := rfl

instance : Row AdminSession where
  id := AdminSession.id
  withId n r := { r with id := n }
  clash _ _ := false
  id_withId _ _ := rfl
  clash_comm _ _ := rfl
  clash_withId _ _ _ := rfl

/-- The tables that the admin server keeps for itself. -/
structure AdminTables where
  admins : Table Admin := ∅
  roles : Table Role := ∅
  permissions : Table Permission := ∅
  rolePermissions : Table RolePermission := ∅
  adminRoles : Table AdminRole := ∅
  adminSessions : Table AdminSession := ∅

namespace RbacDao

/-- An admin has a permission through one of its roles. -/
def granted (t : AdminTables) (userId permissionId : Int) : Bool :=
  t.rolePermissions.rows.any fun rp => rp.permissionId = permissionId &&
    t.adminRoles.rows.any fun ar => ar.roleId = rp.roleId && ar.adminId = userId

/-- `GetUserPermissions`; DISTINCT leaves one of each code. -/
def getUserPermissions (userId : Int) (t : AdminTables) : List Bytes :=
  (t.permissions.rows.filter fun p => granted t userId p.id).map Permission.code

def hasPermission (userId : Int) (code : Bytes) (t : AdminTables) : Bool :=
  t.permissions.rows.any fun p => p.code = code && granted t userId p.id

structure RoleWithPermissions where
  id : Int
  name : Bytes
  description : Bytes
  permissions : List Bytes
deriving DecidableEq, Repr

/-- The codes that a role grants. -/
def rolePermissions (roleId : Int) (t : AdminTables) : List Bytes :=
  (t.permissions.rows.filter fun p => t.rolePermissions.rows.any fun rp =>
    rp.permissionId = p.id && rp.roleId = roleId).map Permission.code

def listRoles (t : AdminTables) : List RoleWithPermissions :=
  t.roles.rows.map fun r => ⟨r.id, r.name, r.description, rolePermissions r.id t⟩

/-- The role that `CreateRole` stores: its code is its name. -/
def newRole (name description : Bytes) : Role := { name := name, code := name, description := description }

def createRole (name description : Bytes) (t : AdminTables) : Bool × AdminTables :=
  (0 < t.roles.insertId (newRole name description), { t with roles := t.roles.insert (newRole name description) })

def updateRole (roleId : Int) (description : Bytes) (t : AdminTables) : AdminTables :=
  { t with
    roles := t.roles.update (fun r => r.id = roleId)
      ⟨fun r => { r with description := description }, fun _ => rfl, fun _ _ => rfl⟩ }

def deleteRole (roleId : Int) (t : AdminTables) : AdminTables :=
  { t with
    rolePermissions := t.rolePermissions.delete fun rp => rp.roleId = roleId
    adminRoles := t.adminRoles.delete fun ar => ar.roleId = roleId
    roles := t.roles.delete fun r => r.id = roleId }

/-- One round of the loop of `SetRolePermissions`; a code that no permission has is skipped. -/
def grant (roleId : Int) (t : AdminTables) (code : Bytes) : AdminTables :=
  match t.permissions.rows.find? fun p => p.code = code with
  | none => t
  | some p => { t with rolePermissions := t.rolePermissions.insert { roleId := roleId, permissionId := p.id } }

def setRolePermissions (roleId : Int) (permCodes : List Bytes) (t : AdminTables) : AdminTables :=
  permCodes.foldl (grant roleId) { t with rolePermissions := t.rolePermissions.delete fun rp => rp.roleId = roleId }

def listPermissions (t : AdminTables) : List Bytes := t.permissions.rows.map Permission.code

/-- `AssignAdminRole`; a pair that is there already is left alone. -/
def assignAdminRole (adminId roleId : Int) (t : AdminTables) : AdminTables :=
  if t.adminRoles.rows.any fun ar => ar.adminId = adminId && ar.roleId = roleId then t
  else { t with adminRoles := t.adminRoles.insert { adminId := adminId, roleId := roleId } }

def removeAdminRole (adminId roleId : Int) (t : AdminTables) : AdminTables :=
  { t with adminRoles := t.adminRoles.delete fun ar => ar.adminId = adminId && ar.roleId = roleId }

end RbacDao

namespace AdminAccountDao

def findByUid (uid : Bytes) (t : AdminTables) : Option Admin :=
  t.admins.rows.find? fun a => a.uid = uid && a.status ≠ .deleted

def findById (id : Int) (t : AdminTables) : Option Admin :=
  t.admins.rows.find? fun a => a.id = id && a.status ≠ .deleted

/-- `Insert`: the id of the new admin. -/
def insert (admin : Admin) (t : AdminTables) : Option Int × AdminTables :=
  (if t.admins.insertId admin = 0 then none else some (t.admins.insertId admin),
    { t with admins := t.admins.insert admin })

/-- `UpdatePassword`: a SELECT, then an UPDATE of the hash. -/
def updatePassword (id : Int) (passwordHash : Bytes) (t : AdminTables) : Bool × AdminTables :=
  match findById id t with
  | none => (false, t)
  | some _ =>
    (true, { t with
      admins := t.admins.update (fun a => a.id = id)
        ⟨fun a => { a with passwordHash := passwordHash }, fun _ => rfl, fun _ _ => rfl⟩ })

/-- `UpdateStatus`: a SELECT, then an UPDATE of the status. -/
def updateStatus (id : Int) (status : AccountStatus) (t : AdminTables) : Bool × AdminTables :=
  match findById id t with
  | none => (false, t)
  | some _ =>
    (true, { t with
      admins := t.admins.update (fun a => a.id = id)
        ⟨fun a => { a with status := status }, fun _ => rfl, fun _ _ => rfl⟩ })

end AdminAccountDao

/-- SQLite compares texts byte by byte. -/
def textLess : Bytes → Bytes → Bool
  | _, [] => false
  | [], _ :: _ => true
  | a :: as, b :: bs => a < b || a = b && textLess as bs

namespace AdminSessionDao

def insert (session : AdminSession) (t : AdminTables) : AdminTables :=
  { t with adminSessions := t.adminSessions.insert session }

/-- The first session with a hash. -/
def find (tokenHash : Bytes) (t : AdminTables) : Option AdminSession :=
  t.adminSessions.rows.find? fun r => r.tokenHash = tokenHash

def isRevoked (tokenHash : Bytes) (t : AdminTables) : Bool := (find tokenHash t).elim true AdminSession.revoked

/-- `RevokeByTokenHash`: the first session with the hash. -/
def revokeByTokenHash (tokenHash : Bytes) (t : AdminTables) : AdminTables :=
  match find tokenHash t with
  | none => t
  | some session =>
    { t with
      adminSessions := t.adminSessions.update (fun r => r.id = session.id)
        ⟨fun r => { r with revoked := true }, fun _ => rfl, fun _ _ => rfl⟩ }

/-- `PurgeExpired`: the column is text, so the number in the statement is compared as text. -/
def purgeExpired (nowSec : Int) (t : AdminTables) : AdminTables :=
  { t with adminSessions := t.adminSessions.delete fun r => textLess r.expiresAt (decimalText nowSec) }

end AdminSessionDao

/-! ### The first rows -/

namespace Seed

/-- The codes of `kPerms`. -/
def kPerms : List Bytes :=
  [ascii "admin.login", ascii "admin.dashboard", ascii "admin.audit", ascii "admin.manage", ascii "admin.config",
    ascii "user.view", ascii "user.create", ascii "user.edit", ascii "user.delete", ascii "user.ban",
    ascii "msg.view", ascii "msg.recall", ascii "msg.delete_all"]

/-- The name of the super role, in UTF-8. -/
def superName : Bytes := [232, 182, 133, 231, 186, 167, 231, 174, 161, 231, 144, 134, 229, 145, 152]

def superRole : Role where
  name := superName
  code := ascii "super_admin"
  description := [230, 139, 165, 230, 156, 137, 230, 137, 128, 230, 156, 137, 230, 157, 131, 233, 153, 144]

def superAdmin (hash : Bytes) : Admin where
  uid := ascii "admin"
  passwordHash := hash
  nickname := ascii "Administrator"

/-- `SeedSuperAdmin` on a database whose tables are empty. -/
def tables (hash : Bytes) : AdminTables :=
  let permissions := kPerms.foldl (fun (p : Table Permission) code => p.insert { code := code }) ∅
  { admins := (∅ : Table Admin).insert (superAdmin hash)
    roles := (∅ : Table Role).insert superRole
    permissions := permissions
    rolePermissions := permissions.rows.foldl
      (fun (rp : Table RolePermission) p => rp.insert { roleId := 1, permissionId := p.id }) ∅
    adminRoles := (∅ : Table AdminRole).insert { adminId := 1, roleId := 1 } }

end Seed
end NovaIIM
