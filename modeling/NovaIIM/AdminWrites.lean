import NovaIIM.AdminAuth

/-!
What the admin server writes.

`AdminState.command` is the write that an event asks for and is let through with, and
`step_tables` and `step_cache` say that a step makes this write and no other.
-/
namespace NovaIIM
open RbacDao

theorem RbacDao.createRole_taken {name description : Bytes} {t : AdminTables}
    (taken : t.roles.taken (newRole name description) = true) : createRole name description t = (false, t) := by
  simp [createRole, Table.insertId, Table.insert_taken taken, taken]

theorem RbacDao.createRole_free {name description : Bytes} {t : AdminTables}
    (free : t.roles.taken (newRole name description) = false) :
    createRole name description t = (true, { t with roles := t.roles.insert (newRole name description) }) := by
  refine Prod.ext ?_ rfl
  simp only [createRole, Table.insertId_free free, decide_eq_true_eq]
  omega

/-- A write of the admin server. -/
inductive AdminWrite where
  | nothing
  | session (row : AdminSession)
  | revoke (tokenHash : Bytes)
  | purge (now : Int)
  | account (row : Admin)
  | password (id : Int) (passwordHash : Bytes)
  | status (id : Int) (value : AccountStatus)
  | roles (id : Int) (roleIds : List Int)
  | role (name description : Bytes) (perms : Option (List Bytes))
  | rights (id : Int) (description : Option Bytes) (perms : Option (List Bytes))
  | dropRole (id : Int)

namespace AdminWrite

/-- The role whose permissions `HandleCreateRole` sets. -/
def target (name description : Bytes) (t : AdminTables) : Int :=
  AdminHandlers.roleNamed name (createRole name description t).2

/-- The tables that a write leaves. -/
def tables : AdminWrite → AdminTables → AdminTables
  | nothing, t => t
  | session row, t => AdminSessionDao.insert row t
  | revoke tokenHash, t => AdminSessionDao.revokeByTokenHash tokenHash t
  | purge now, t => AdminSessionDao.purgeExpired now t
  | account row, t => (AdminAccountDao.insert row t).2
  | password id passwordHash, t => (AdminAccountDao.updatePassword id passwordHash t).2
  | status id value, t => (AdminAccountDao.updateStatus id value t).2
  | roles id roleIds, t => AdminHandlers.replaceRoles id roleIds t
  | role name description none, t => (createRole name description t).2
  | role name description (some perms), t =>
    setRolePermissions (target name description t) perms (createRole name description t).2
  | rights id description perms, t =>
    let t := description.elim t fun description => updateRole id description t
    perms.elim t fun perms => setRolePermissions id perms t
  | dropRole id, t => deleteRole id t

/-- The first role in the list with a name. -/
theorem roleNamed_eq {name : Bytes} {t : AdminTables} {row : Role}
    (found : t.roles.rows.find? (fun r => r.name = name) = some row) : AdminHandlers.roleNamed name t = row.id := by
  have listed : (listRoles t).find? (fun r => r.name = name) =
      some ⟨row.id, row.name, row.description, rolePermissions row.id t⟩ := by
    rw [listRoles, List.find?_map]
    have same : ((fun r : RoleWithPermissions => decide (r.name = name)) ∘
        fun r : Role => ⟨r.id, r.name, r.description, rolePermissions r.id t⟩) = fun r => decide (r.name = name) := rfl
    rw [same, found]
    rfl
  rw [AdminHandlers.roleNamed, listed]
  rfl

/-- A role of the name that was there already comes before the new one. -/
theorem target_old {name description : Bytes} {t : AdminTables} {row : Role}
    (free : t.roles.taken (newRole name description) = false)
    (found : t.roles.rows.find? (fun r => r.name = name) = some row) : target name description t = row.id := by
  refine roleNamed_eq ?_
  rw [createRole_free free, Table.rows_insert_free free, List.find?_append, found]
  rfl

/-- Without such a role it is the new one. -/
theorem target_new {name description : Bytes} {t : AdminTables}
    (free : t.roles.taken (newRole name description) = false)
    (unnamed : t.roles.rows.find? (fun r => r.name = name) = none) :
    target name description t = t.roles.lastId + 1 := by
  rw [← Table.id_fresh t.roles (newRole name description)]
  refine roleNamed_eq ?_
  rw [createRole_free free, Table.rows_insert_free free, List.find?_append, unnamed]
  have named : (t.roles.fresh (newRole name description)).name = name := rfl
  simp [named]

theorem target_pos {name description : Bytes} {t : AdminTables}
    (free : t.roles.taken (newRole name description) = false) : 0 < target name description t := by
  cases found : t.roles.rows.find? fun r => r.name = name with
  | none =>
    rw [target_new free found]
    omega
  | some row =>
    rw [target_old free found]
    have := t.roles.bounded row (List.mem_of_find?_eq_some found)
    exact this.1

/-- What the handler of a write drops from the cache. -/
def cache : AdminWrite → List RbacCacheEntry → List RbacCacheEntry
  | status id _, cache | roles id _, cache => RbacCache.invalidate cache id
  | rights .., _ | dropRole _, _ => []
  | _, cache => cache

end AdminWrite

namespace AdminHandlers

/-- The admin that a login lets in. -/
def loginAdmin (c : AdminConfig) (s : AdminState) (req : HttpRequest) (body : Option Json) : Option Admin :=
  match body.bind (Json.field (ascii "uid")), body.bind (Json.field (ascii "password")) with
  | some uid, some password =>
    match uid.string?, password.string? with
    | some uid, some password => (AdminAccountDao.findByUid uid s.tables).filter fun admin =>
      decide (req.bodySize ≤ kAdminMaxBodySize) && (s.loginLimiter.allow req.clientIp s.steady).1 &&
        c.verify password admin.passwordHash && decide (admin.status = .normal) &&
        hasPermission admin.id (ascii "admin.login") s.tables &&
        !(JwtUtils.sign c admin.id req.readings.issued req.readings.expires).isEmpty
    | _, _ => none
  | _, _ => none

/-- The new account that a request asks for. -/
def accountOf (c : AdminConfig) (t : AdminTables) (body : Json) : Option Admin :=
  if (body.field (ascii "uid")).isNone ∨ (body.field (ascii "password")).isNone then none
  else match body.value (ascii "uid") [], body.value (ascii "password") [], body.value (ascii "nickname") [] with
  | some uid, some password, some nickname =>
    let uid := UserService.trim uid
    let nickname := UserService.trim nickname
    if uid.isEmpty ∨ password.length < 6 ∨ (AdminAccountDao.findByUid uid t).isSome then none
    else some { uid := uid, passwordHash := c.hash password, nickname := if nickname.isEmpty then uid else nickname }
  | _, _, _ => none

/-- The new status of an account that is there and is not spared. -/
def newStatus (t : AdminTables) (id : Int) (value : AccountStatus) (spared : Prop) [Decidable spared] : AdminWrite :=
  if id ≤ 0 ∨ spared ∨ (AdminAccountDao.findById id t).isNone then .nothing else .status id value

/-- The new role that a request asks for: its name and its description. -/
def roleOf (body : Json) : Option (Bytes × Bytes) :=
  if (body.field (ascii "name")).isNone then none
  else match body.value (ascii "name") [], body.value (ascii "description") [] with
  | some name, some description =>
    if (UserService.trim name).isEmpty then none else some (UserService.trim name, description)
  | _, _ => none

/-- The write of a request by an admin that may manage. -/
def managed (c : AdminConfig) (s : AdminState) (who : Identity) : Route → AdminWrite
  | .createAdmin (some body) => (accountOf c s.tables body).elim .nothing .account
  | .deleteAdmin id => newStatus s.tables id .deleted (id = 1 ∨ id = who.adminId)
  | .disableAdmin id => newStatus s.tables id .banned (id = 1 ∨ id = who.adminId)
  | .enableAdmin id => newStatus s.tables id .normal False
  | .resetAdminPassword id body =>
    match (body.bind (Json.field (ascii "new_password"))).bind Json.string? with
    | none => .nothing
    | some password =>
      if id ≤ 0 ∨ password.length < 6 ∨ 128 < password.length ∨ (c.hash password).isEmpty then .nothing
      else .password id (c.hash password)
  | .setAdminRoles id body =>
    match (body.bind (Json.field (ascii "role_ids"))).bind Json.array? with
    | none => .nothing
    | some items =>
      if id ≤ 0 ∨ (AdminAccountDao.findById id s.tables).isNone then .nothing
      else .roles id (items.filterMap Json.int64?)
  | .createRole (some body) =>
    match roleOf body with
    | none => .nothing
    | some (name, description) =>
      if s.tables.roles.taken (newRole name description) then .nothing
      else .role name description (body.strings? (ascii "permissions"))
  | .updateRole id (some body) =>
    if id ≤ 0 then .nothing
    else .rights id ((body.field (ascii "description")).bind Json.string?) (body.strings? (ascii "permissions"))
  | .deleteRole id => if id ≤ 0 then .nothing else .dropRole id
  | _ => .nothing

/-- The write of a request that has come through the middleware. -/
def command (c : AdminConfig) (s : AdminState) (who : Identity) (req : HttpRequest) : AdminWrite :=
  match req.route with
  | .login body => (loginAdmin c s req body).elim .nothing fun admin =>
    .session (sessionOf c admin.id (JwtUtils.sign c admin.id req.readings.issued req.readings.expires) req.readings.stored)
  | .logout => if req.authorization.length ≤ 7 then .nothing else .revoke (c.sha256Hex (req.authorization.drop 7))
  | route => if who.hasPermission kManage then managed c s who route else .nothing

/-- A handler makes a write, and nothing else but to the limiter of logins. -/
structure Performs (s s' : AdminState) (write : AdminWrite) : Prop where
  tables : s'.tables = write.tables s.tables
  cache : s'.rbacCache = write.cache s.rbacCache
  steady : s'.steady = s.steady

variable {c : AdminConfig} {s : AdminState} {who : Identity} {req : HttpRequest}

theorem performs_nothing (limiter : RateLimiter) : Performs s { s with loginLimiter := limiter } .nothing :=
  ⟨rfl, rfl, rfl⟩

/-- The checks that a login has passed. -/
theorem loginAdmin_eq {body : Option Json} {admin : Admin} (entered : loginAdmin c s req body = some admin) :
    ∃ uid password, (body.bind (Json.field (ascii "uid"))).bind Json.string? = some uid ∧
      (body.bind (Json.field (ascii "password"))).bind Json.string? = some password ∧
      AdminAccountDao.findByUid uid s.tables = some admin ∧ req.bodySize ≤ kAdminMaxBodySize ∧
      (s.loginLimiter.allow req.clientIp s.steady).1 = true ∧ c.verify password admin.passwordHash = true ∧
      admin.status = .normal ∧ hasPermission admin.id (ascii "admin.login") s.tables = true ∧
      (JwtUtils.sign c admin.id req.readings.issued req.readings.expires).isEmpty = false := by
  unfold loginAdmin at entered
  split at entered
  · rename_i uidField passwordField given given'
    split at entered
    · rename_i uid password text text'
      obtain ⟨found, checks⟩ := Option.filter_eq_some_iff.mp entered
      simp only [Bool.and_eq_true, decide_eq_true_eq, Bool.not_eq_true'] at checks
      refine ⟨uid, password, by simp [given, text], by simp [given', text'], found, ?_⟩
      tauto
    · cases entered
  · cases entered

/-- A login stores a session if it passes its checks. -/
theorem handleLogin_performs (body : Option Json) :
    Performs s (handleLogin c s req body).1 ((loginAdmin c s req body).elim .nothing fun admin =>
      .session (sessionOf c admin.id (JwtUtils.sign c admin.id req.readings.issued req.readings.expires)
        req.readings.stored)) := by
  cases entered : loginAdmin c s req body with
  | some admin =>
    obtain ⟨uid, password, given, given', found, size, allowed, verified, normal, login, signed⟩ := loginAdmin_eq entered
    obtain ⟨uidField, field, text⟩ := Option.bind_eq_some_iff.mp given
    obtain ⟨passwordField, field', text'⟩ := Option.bind_eq_some_iff.mp given'
    simp only [handleLogin, field, field', text, text', found, allowed, verified, normal, login, signed,
      not_lt.mpr size]
    exact ⟨rfl, rfl, rfl⟩
  | none =>
    unfold handleLogin
    split
    · exact performs_nothing s.loginLimiter
    rename_i size
    dsimp only
    split
    · exact performs_nothing _
    rename_i allowed
    split
    · rename_i uidField passwordField field field'
      split
      · rename_i uid password text text'
        cases found : AdminAccountDao.findByUid uid s.tables with
        | none => exact performs_nothing _
        | some admin =>
          dsimp only
          split
          · exact performs_nothing _
          · split
            · exact performs_nothing _
            · split
              · exact performs_nothing _
              · split
                · exact performs_nothing _
                · simp_all [loginAdmin]
      · exact performs_nothing _
    · exact performs_nothing _

theorem handleLogout_performs :
    Performs s (handleLogout c s req).1
      (if req.authorization.length ≤ 7 then .nothing else .revoke (c.sha256Hex (req.authorization.drop 7))) := by
  unfold handleLogout
  split
  · exact performs_nothing _
  · exact ⟨rfl, rfl, rfl⟩

theorem handleMe_performs : Performs s (handleMe s who).1 .nothing := by
  unfold handleMe
  split
  · exact performs_nothing _
  · split <;> exact performs_nothing _

theorem handleListRoles_performs : Performs s (handleListRoles s who).1 .nothing := by
  unfold handleListRoles
  split <;> exact performs_nothing _

theorem handleListPermissions_performs : Performs s (handleListPermissions s who).1 .nothing := by
  unfold handleListPermissions
  split <;> exact performs_nothing _

/-- A change of status by an admin that may manage. -/
theorem setStatus_performs (id : Int) (value : AccountStatus) (spared : Bool)
    (manages : who.hasPermission kManage = true) :
    Performs s (setStatus s who id value spared).1
      (newStatus s.tables id value (spared ∧ (id = 1 ∨ id = who.adminId))) := by
  simp only [setStatus, newStatus, manages]
  by_cases bad : id ≤ 0
  · simp only [bad, if_true, true_or]
    exact performs_nothing _
  by_cases kept : spared = true ∧ (id = 1 ∨ id = who.adminId)
  · simp only [bad, kept, if_false]
    exact performs_nothing _
  cases found : AdminAccountDao.findById id s.tables with
  | none =>
    simp only [bad, kept, AdminAccountDao.updateStatus, found, Option.isNone_none, or_true, if_true, if_false]
    exact performs_nothing _
  | some admin =>
    simp only [bad, kept, AdminAccountDao.updateStatus, found, Option.isNone_some, Bool.false_eq_true, or_self, if_false]
    refine ⟨?_, rfl, rfl⟩
    simp only [AdminWrite.tables, AdminAccountDao.updateStatus, found]
    rfl

theorem handleCreateAdmin_performs (body : Option Json) (manages : who.hasPermission kManage = true) :
    Performs s (handleCreateAdmin c s who body).1 (managed c s who (.createAdmin body)) := by
  unfold handleCreateAdmin managed
  simp only [manages, Bool.not_true, Bool.false_eq_true, if_false]
  cases body with
  | none => exact performs_nothing _
  | some body =>
    dsimp only [accountOf]
    split
    · exact performs_nothing _
    cases body.value (ascii "uid") [] with
    | none => exact performs_nothing _
    | some uid =>
    cases body.value (ascii "password") [] with
    | none => exact performs_nothing _
    | some password =>
    cases body.value (ascii "nickname") [] with
    | none => exact performs_nothing _
    | some nickname =>
      dsimp only
      by_cases short : (UserService.trim uid).isEmpty = true ∨ password.length < 6
      · simp only [short, if_true, true_or, ← or_assoc]
        exact performs_nothing _
      by_cases present : (AdminAccountDao.findByUid (UserService.trim uid) s.tables).isSome = true
      · simp only [short, present, if_true, if_false, or_true]
        exact performs_nothing _
      · simp only [short, present, Bool.false_eq_true, or_self, if_false, ← or_assoc]
        dsimp only [Option.elim]
        split
        · rename_i inserted
          exact ⟨(congrArg Prod.snd inserted).symm, rfl, rfl⟩
        · rename_i inserted
          exact ⟨(congrArg Prod.snd inserted).symm, rfl, rfl⟩

theorem handleResetAdminPassword_performs (id : Int) (body : Option Json) (manages : who.hasPermission kManage = true) :
    Performs s (handleResetAdminPassword c s who id body).1 (managed c s who (.resetAdminPassword id body)) := by
  unfold handleResetAdminPassword managed
  simp only [manages, Bool.not_true, Bool.false_eq_true, if_false]
  cases body.bind (Json.field (ascii "new_password")) with
  | none =>
    split <;> exact performs_nothing _
  | some value =>
    dsimp only [Option.bind]
    cases value.string? with
    | none =>
      split <;> exact performs_nothing _
    | some password =>
      dsimp only
      by_cases bad : id ≤ 0
      · simp only [bad, if_true, true_or]
        exact performs_nothing _
      by_cases short : password.length < 6
      · simp only [bad, short, if_true, if_false, true_or, or_true]
        exact performs_nothing _
      by_cases long : 128 < password.length
      · simp only [bad, short, long, if_true, if_false, true_or, or_true]
        exact performs_nothing _
      by_cases empty : (c.hash password).isEmpty = true
      · simp only [bad, short, long, empty, if_true, if_false, or_true]
        exact performs_nothing _
      · simp only [bad, short, long, empty, if_false, AdminAccountDao.updatePassword]
        cases found : AdminAccountDao.findById id s.tables with
        | none => exact ⟨by simp [AdminWrite.tables, AdminAccountDao.updatePassword, found], rfl, rfl⟩
        | some admin => exact ⟨by simp [AdminWrite.tables, AdminAccountDao.updatePassword, found], rfl, rfl⟩

theorem handleSetAdminRoles_performs (id : Int) (body : Option Json) (manages : who.hasPermission kManage = true) :
    Performs s (handleSetAdminRoles s who id body).1 (managed c s who (.setAdminRoles id body)) := by
  unfold handleSetAdminRoles managed
  simp only [manages, Bool.not_true, Bool.false_eq_true, if_false]
  cases (body.bind (Json.field (ascii "role_ids"))).bind Json.array? with
  | none =>
    split <;> exact performs_nothing _
  | some items =>
    dsimp only
    by_cases bad : id ≤ 0
    · simp only [bad, if_true, true_or]
      exact performs_nothing _
    by_cases missing : (AdminAccountDao.findById id s.tables).isNone = true
    · simp only [bad, missing, if_true, if_false, or_true]
      exact performs_nothing _
    · simp only [bad, missing, if_false]
      exact ⟨rfl, rfl, rfl⟩

theorem handleCreateRole_performs (body : Option Json) (manages : who.hasPermission kManage = true) :
    Performs s (handleCreateRole s who body).1 (managed c s who (.createRole body)) := by
  unfold handleCreateRole managed
  simp only [manages, Bool.not_true, Bool.false_eq_true, if_false]
  cases body with
  | none => exact performs_nothing _
  | some body =>
    dsimp only [roleOf]
    split
    · exact performs_nothing _
    cases body.value (ascii "name") [] with
    | none => exact performs_nothing _
    | some name =>
    cases body.value (ascii "description") [] with
    | none => exact performs_nothing _
    | some description =>
      dsimp only
      split
      · exact performs_nothing _
      dsimp only
      generalize UserService.trim name = name
      cases taken : s.tables.roles.taken (newRole name description) with
      | true =>
        rw [createRole_taken taken]
        exact performs_nothing _
      | false =>
        rw [createRole_free taken]
        refine ⟨?_, rfl, rfl⟩
        cases body.strings? (ascii "permissions") with
        | none => rfl
        | some perms =>
          have positive := AdminWrite.target_pos taken
          have named : AdminWrite.target name description s.tables =
              roleNamed name { s.tables with roles := s.tables.roles.insert (newRole name description) } := by
            rw [AdminWrite.target, createRole_free taken]
          rw [named] at positive
          simp only [positive, if_true, Bool.false_eq_true, if_false, AdminWrite.tables, named, createRole_free taken]

theorem handleUpdateRole_performs (id : Int) (body : Option Json) (manages : who.hasPermission kManage = true) :
    Performs s (handleUpdateRole s who id body).1 (managed c s who (.updateRole id body)) := by
  unfold handleUpdateRole managed
  simp only [manages, Bool.not_true, Bool.false_eq_true, if_false]
  cases body with
  | none =>
    split <;> exact performs_nothing _
  | some body =>
    dsimp only
    split
    · exact performs_nothing _
    · refine ⟨?_, rfl, rfl⟩
      dsimp only [AdminWrite.tables]
      cases (body.field (ascii "description")).bind Json.string? <;> cases body.strings? (ascii "permissions") <;> rfl

/-- An admin that may not manage is turned away by every route that needs it. -/
private theorem denied_performs (denied : who.hasPermission kManage = false) {p : AdminState × HttpReply} :
    Performs s (if !who.hasPermission kManage then (s, .error apiErr.kPermissionDenied) else p).1 .nothing := by
  rw [denied]
  exact performs_nothing _

/-- The handler of a request makes the write of the request. -/
theorem handle_performs : Performs s (handle c s who req).1 (command c s who req) := by
  unfold handle command
  cases manages : who.hasPermission kManage with
  | false =>
    cases req.route with
    | login body => exact handleLogin_performs body
    | logout => exact handleLogout_performs
    | me => exact handleMe_performs
    | healthz | other permission => exact performs_nothing _
    | _ => exact denied_performs manages
  | true =>
    cases req.route with
    | login body => exact handleLogin_performs body
    | logout => exact handleLogout_performs
    | me => exact handleMe_performs
    | healthz | other permission => exact performs_nothing _
    | createAdmin body => exact handleCreateAdmin_performs body manages
    | deleteAdmin id => simpa [managed, handleDeleteAdmin] using setStatus_performs id .deleted true manages
    | disableAdmin id => simpa [managed, handleDisableAdmin] using setStatus_performs id .banned true manages
    | enableAdmin id => simpa [managed, handleEnableAdmin] using setStatus_performs id .normal false manages
    | resetAdminPassword id body => exact handleResetAdminPassword_performs id body manages
    | setAdminRoles id body => exact @handleSetAdminRoles_performs c _ _ id body manages
    | createRole body => exact handleCreateRole_performs body manages
    | updateRole id body => exact handleUpdateRole_performs id body manages
    | deleteRole id =>
      unfold handleDeleteRole
      simp only [manages, Bool.not_true, Bool.false_eq_true, if_false, if_true, managed]
      split
      · exact performs_nothing _
      · exact ⟨rfl, rfl, rfl⟩
    | listRoles => exact handleListRoles_performs
    | listPermissions => exact handleListPermissions_performs

/-- The reply to the creation of a role: it is done for a name that is free, and answers with
    the first role of that name. -/
theorem handleCreateRole_ok {body : Json} {id : Int} :
    (handleCreateRole s who (some body)).2 = .ok (.id id) ↔ who.hasPermission kManage = true ∧
      ∃ name description, roleOf body = some (name, description) ∧
        s.tables.roles.taken (newRole name description) = false ∧ id = AdminWrite.target name description s.tables := by
  unfold handleCreateRole
  cases manages : who.hasPermission kManage with
  | false => simp [HttpReply.ok, HttpReply.error]
  | true =>
    simp only [Bool.not_true, Bool.false_eq_true, if_false, true_and, roleOf]
    split
    · simp [HttpReply.ok, HttpReply.error]
    cases body.value (ascii "name") [] with
    | none => simp [HttpReply.ok]
    | some name =>
    cases body.value (ascii "description") [] with
    | none => simp [HttpReply.ok]
    | some description =>
      dsimp only
      split
      · simp [HttpReply.ok, HttpReply.error]
      generalize UserService.trim name = name
      cases taken : s.tables.roles.taken (newRole name description) with
      | true =>
        rw [createRole_taken taken]
        refine iff_of_false (by simp [HttpReply.ok, HttpReply.error]) ?_
        rintro ⟨name', description', same, free, -⟩
        cases same
        simp [taken] at free
      | false =>
        have target : AdminWrite.target name description s.tables =
            roleNamed name { s.tables with roles := s.tables.roles.insert (newRole name description) } := by
          rw [AdminWrite.target, createRole_free taken]
        rw [createRole_free taken]
        constructor
        · intro replied
          refine ⟨name, description, rfl, taken, ?_⟩
          rw [target]
          simpa [HttpReply.ok, eq_comm] using replied
        · rintro ⟨name', description', same, -, rfl⟩
          cases same
          rw [target]

/-- Only the creation of a role writes one. -/
theorem command_role {name description : Bytes} {perms : Option (List Bytes)}
    (writes : command c s who req = .role name description perms) :
    ∃ body, req.route = .createRole (some body) ∧ who.hasPermission kManage = true ∧
      roleOf body = some (name, description) ∧ s.tables.roles.taken (newRole name description) = false ∧
      body.strings? (ascii "permissions") = perms := by
  unfold command at writes
  cases route : req.route with
  | createRole body =>
    rw [route] at writes
    cases manages : who.hasPermission kManage with
    | false => simp [manages] at writes
    | true =>
      cases body with
      | none => simp [manages, managed] at writes
      | some body =>
        simp only [manages, if_true, managed] at writes
        cases asked : roleOf body with
        | none => simp [asked] at writes
        | some role =>
          rw [asked] at writes
          cases taken : s.tables.roles.taken (newRole role.1 role.2) with
          | true => simp [taken] at writes
          | false =>
            simp only [taken, Bool.false_eq_true, if_false, AdminWrite.role.injEq] at writes
            obtain ⟨rfl, rfl, rfl⟩ := writes
            exact ⟨body, rfl, rfl, asked, taken, rfl⟩
  | login body =>
    rw [route] at writes
    cases entered : loginAdmin c s req body <;> simp [entered] at writes
  | logout =>
    simp only [route] at writes
    grind
  | createAdmin body =>
    rw [route] at writes
    cases body with
    | none => simp [managed] at writes
    | some body =>
      simp only [managed] at writes
      cases asked : accountOf c s.tables body <;> simp only [asked, Option.elim] at writes <;> grind
  | updateRole id body =>
    rw [route] at writes
    cases body with
    | none => simp [managed] at writes
    | some body =>
      simp only [managed] at writes
      grind
  | _ =>
    rw [route] at writes
    simp only [managed, newStatus] at writes
    grind

end AdminHandlers

/-! ### Steps -/

namespace AdminState

/-- The write of an event. -/
def command (c : AdminConfig) (s : AdminState) : AdminEvent → AdminWrite
  | .purge now => .purge now
  | .request req =>
    match authMiddleware c (s.wait req.elapsed) req with
    | (_, .reject _) => .nothing
    | (s, .next who) => AdminHandlers.command c s who req

/-- The middleware leaves the tables as they are. -/
theorem authMiddleware_tables (c : AdminConfig) (s : AdminState) (req : HttpRequest) :
    (authMiddleware c s req).1.tables = s.tables ∧ (authMiddleware c s req).1.steady = s.steady := by
  unfold authMiddleware
  split
  · exact ⟨rfl, rfl⟩
  split
  · exact ⟨rfl, rfl⟩
  · unfold authorize
    split
    · exact ⟨rfl, rfl⟩
    · split <;> exact ⟨rfl, rfl⟩

/-- A step makes the write of its event. -/
theorem step_tables (c : AdminConfig) (s : AdminState) (event : AdminEvent) :
    (s.step c event).tables = (s.command c event).tables s.tables := by
  cases event with
  | purge now => rfl
  | request req =>
    have kept := (authMiddleware_tables c (s.wait req.elapsed) req).1
    simp only [step, serve, command]
    cases passed : authMiddleware c (s.wait req.elapsed) req with
    | mk s' decision =>
      rw [passed] at kept
      cases decision with
      | reject e => exact kept
      | next who => exact AdminHandlers.handle_performs.tables.trans (congrArg _ kept)

/-- On the cache it works on what the middleware has left. -/
theorem step_cache (c : AdminConfig) (s : AdminState) (req : HttpRequest) :
    (s.step c (.request req)).rbacCache =
      (s.command c (.request req)).cache (authMiddleware c (s.wait req.elapsed) req).1.rbacCache ∧
    (s.step c (.request req)).steady = s.steady + req.elapsed := by
  have kept := (authMiddleware_tables c (s.wait req.elapsed) req).2
  simp only [step, serve, command]
  cases passed : authMiddleware c (s.wait req.elapsed) req with
  | mk s' decision =>
    rw [passed] at kept
    cases decision with
    | reject e => exact ⟨rfl, kept⟩
    | next who => exact ⟨AdminHandlers.handle_performs.cache, AdminHandlers.handle_performs.steady.trans kept⟩

end AdminState

end NovaIIM
