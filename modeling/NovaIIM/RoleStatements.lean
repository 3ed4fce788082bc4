import NovaIIM.AdminRights
import NovaIIM.AdminWrites
import NovaIIM.SingleFailure

/-!
The changes of roles and rights, one statement after the other (`dao/impl/rbac_dao_impl.cpp`).

None of them runs in a transaction, and none looks at what its statements report. The
handlers are those of `AdminHandlers` with statements that may fail inside of these calls.
-/
namespace NovaIIM
open Store

/-- A program over the tables of the admin server. -/
abbrev RbacProgram := Prog (Store AdminTables Unit) Empty

/-- The tables that a program leaves under failures. -/
def RbacProgram.tables {α : Type} (p : RbacProgram α) (faults : List Bool) (t : AdminTables) : AdminTables :=
  (p.run { tables := t, faults := faults, mem := () }).state.tables

theorem RbacProgram.tables_eq {α : Type} {p : RbacProgram α} {t t' : AdminTables} {faults faults' : List Bool}
    (carries : Carries p t faults t' faults') : p.tables faults t = t' := by
  have stored := carries { tables := t, mem := () }
  exact congrArg Store.tables stored

namespace RbacStatements

/-- `DELETE FROM role_permissions WHERE role_id = …`. -/
def deleteRolePermissions (roleId : Int) (t : AdminTables) : AdminTables :=
  { t with rolePermissions := t.rolePermissions.delete fun rp => rp.roleId = roleId }

/-- `DELETE FROM admin_roles WHERE role_id = …`. -/
def deleteHolders (roleId : Int) (t : AdminTables) : AdminTables :=
  { t with adminRoles := t.adminRoles.delete fun ar => ar.roleId = roleId }

/-- `DELETE FROM roles WHERE id = …`. -/
def deleteRoleRow (roleId : Int) (t : AdminTables) : AdminTables :=
  { t with roles := t.roles.delete fun r => r.id = roleId }

def insertRolePermission (rp : RolePermission) (t : AdminTables) : AdminTables :=
  { t with rolePermissions := t.rolePermissions.insert rp }

def insertAdminRole (ar : AdminRole) (t : AdminTables) : AdminTables :=
  { t with adminRoles := t.adminRoles.insert ar }

def deleteRole (roleId : Int) : RbacProgram Bool := do
  let _ ← execute (deleteRolePermissions roleId)
  let _ ← execute (deleteHolders roleId)
  let _ ← execute (deleteRoleRow roleId)
  return true

/-- One round of the loop of `SetRolePermissions`. -/
def grant (roleId : Int) (code : Bytes) : RbacProgram Unit := do
  let perm ← query none fun t => t.permissions.rows.find? fun p => p.code = code
  match perm with
  | none => return ()
  | some p => do
    let _ ← execute (insertRolePermission { roleId := roleId, permissionId := p.id })
    return ()

def setRolePermissions (roleId : Int) (permCodes : List Bytes) : RbacProgram Bool := do
  let _ ← execute (deleteRolePermissions roleId)
  .forEach permCodes (grant roleId)
  return true

/-- `AssignAdminRole`; its answer is true as well for a pair that is there already. -/
def assignAdminRole (adminId roleId : Int) : RbacProgram Bool := do
  let existing ← query false fun t => t.adminRoles.rows.any fun ar => ar.adminId = adminId && ar.roleId = roleId
  let ar : AdminRole := { adminId := adminId, roleId := roleId }
  if existing then return true
  else statement false (fun t => !t.adminRoles.taken ar) (insertAdminRole ar)

def removeAdminRole (adminId roleId : Int) : RbacProgram Bool := do
  let _ ← execute (RbacDao.removeAdminRole adminId roleId)
  return true

/-- The two loops of `HandleSetAdminRoles`. -/
def replaceRoles (id : Int) (allRoles : List RbacDao.RoleWithPermissions) (roleIds : List Int) : RbacProgram Unit := do
  .forEach allRoles fun r => do
    let _ ← removeAdminRole id r.id
    return ()
  .forEach roleIds fun roleId => do
    let _ ← assignAdminRole id roleId
    return ()

/-! ### The handlers -/

open AdminHandlers

/-- `AdminServer::HandleSetAdminRoles`. -/
def handleSetAdminRoles (faults : List Bool) (s : AdminState) (who : Identity) (id : Int) (body : Option Json) :
    AdminState × HttpReply :=
  if !who.hasPermission kManage then (s, .error apiErr.kPermissionDenied)
  else if id ≤ 0 then (s, .error apiErr.kInvalidParam)
  else match (body.bind (Json.field (ascii "role_ids"))).bind Json.array? with
  | none => (s, .error apiErr.kInvalidParam)
  | some items =>
    if (AdminAccountDao.findById id s.tables).isNone then (s, .error apiErr.kAdminNotFound)
    else
    let loops := replaceRoles id (RbacDao.listRoles s.tables) (items.filterMap Json.int64?)
    ({ s with tables := loops.tables faults s.tables, rbacCache := RbacCache.invalidate s.rbacCache id }, .ok .nothing)

/-- `AdminServer::HandleCreateRole`. -/
def handleCreateRole (faults : List Bool) (s : AdminState) (who : Identity) (body : Option Json) :
    AdminState × HttpReply :=
  if !who.hasPermission kManage then (s, .error apiErr.kPermissionDenied)
  else match body with
  | none => (s, .error apiErr.kInvalidParam)
  | some body =>
    if (body.field (ascii "name")).isNone then (s, .error apiErr.kInvalidParam)
    else match body.value (ascii "name") [], body.value (ascii "description") [] with
    | some name, some description =>
      let name := UserService.trim name
      if name.isEmpty then (s, .error apiErr.kInvalidParam)
      else match RbacDao.createRole name description s.tables with
      | (false, tables) => ({ s with tables := tables }, .error apiErr.kDatabaseError)
      | (true, tables) =>
        let newRoleId := roleNamed name tables
        let tables := match body.strings? (ascii "permissions") with
          | some perms => if 0 < newRoleId then (setRolePermissions newRoleId perms).tables faults tables else tables
          | none => tables
        ({ s with tables := tables }, .ok (.id newRoleId))
    | _, _ => (s, .raised)

/-- `AdminServer::HandleUpdateRole`. -/
def handleUpdateRole (faults : List Bool) (s : AdminState) (who : Identity) (id : Int) (body : Option Json) :
    AdminState × HttpReply :=
  if !who.hasPermission kManage then (s, .error apiErr.kPermissionDenied)
  else if id ≤ 0 then (s, .error apiErr.kInvalidParam)
  else match body with
  | none => (s, .error apiErr.kInvalidParam)
  | some body =>
    let tables := match (body.field (ascii "description")).bind Json.string? with
      | some description => RbacDao.updateRole id description s.tables
      | none => s.tables
    let tables := match body.strings? (ascii "permissions") with
      | some perms => (setRolePermissions id perms).tables faults tables
      | none => tables
    ({ s with tables := tables, rbacCache := [] }, .ok .nothing)

/-- `AdminServer::HandleDeleteRole`. -/
def handleDeleteRole (faults : List Bool) (s : AdminState) (who : Identity) (id : Int) : AdminState × HttpReply :=
  if !who.hasPermission kManage then (s, .error apiErr.kPermissionDenied)
  else if id ≤ 0 then (s, .error apiErr.kInvalidParam)
  else ({ s with tables := (deleteRole id).tables faults s.tables, rbacCache := [] }, .ok .nothing)

end RbacStatements

/-- A request that changes roles or rights. -/
inductive RoleRequest where
  | createRole (body : Option Json)
  | updateRole (id : Int) (body : Option Json)
  | deleteRole (id : Int)
  | setAdminRoles (id : Int) (body : Option Json)

namespace RoleRequest

def route : RoleRequest → Route
  | createRole body => .createRole body
  | updateRole id body => .updateRole id body
  | deleteRole id => .deleteRole id
  | setAdminRoles id body => .setAdminRoles id body

/-- The handler of a request, under failures inside of its `RbacDao` call or its loops. -/
def handle (faults : List Bool) (s : AdminState) (who : Identity) : RoleRequest → AdminState × HttpReply
  | createRole body => RbacStatements.handleCreateRole faults s who body
  | updateRole id body => RbacStatements.handleUpdateRole faults s who id body
  | deleteRole id => RbacStatements.handleDeleteRole faults s who id
  | setAdminRoles id body => RbacStatements.handleSetAdminRoles faults s who id body

/-- The write that a request asks for. -/
def write (c : AdminConfig) (s : AdminState) (who : Identity) (request : RoleRequest) : AdminWrite :=
  if who.hasPermission AdminHandlers.kManage then AdminHandlers.managed c s who request.route else .nothing

end RoleRequest

end NovaIIM
