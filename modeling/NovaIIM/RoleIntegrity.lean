import NovaIIM.AdminRights
import NovaIIM.AdminWrites
import NovaIIM.Runs

/-!
The integrity of roles.

Nothing in the schema ties the role ids of the link tables to the roles, so `Intact` rests
on the handlers. `HandleUpdateRole` and `HandleSetAdminRoles` take ids that are none of a
role, and `HandleCreateRole` looks its role up by a name that an older role may have. A
write that does neither (`Misplaces`) keeps the tables intact and makes new roles well.
-/
namespace NovaIIM
open RbacDao AdminHandlers

def IsRole (t : AdminTables) (roleId : Int) : Prop := ∃ role ∈ t.roles.rows, role.id = roleId

instance (t : AdminTables) (roleId : Int) : Decidable (IsRole t roleId) :=
  inferInstanceAs (Decidable (∃ role ∈ t.roles.rows, _))

/-- Every role id of the link tables names a role. -/
structure Intact (t : AdminTables) : Prop where
  granted : ∀ rp ∈ t.rolePermissions.rows, IsRole t rp.roleId
  held : ∀ ar ∈ t.adminRoles.rows, IsRole t ar.roleId

/-- A new role has the requested permissions and no holder, and no other role has changed. -/
structure Creates (t t' : AdminTables) (name : Bytes) (perms : List Bytes) (id : Int) : Prop where
  new : ¬IsRole t id ∧ ∃ role ∈ t'.roles.rows, role.id = id ∧ role.name = name
  unheld : ∀ adminId, ¬Holds t' adminId id
  granted : ∀ p ∈ t'.permissions.rows, Grants t' id p.id ↔ p.code ∈ perms
  others : ∀ roleId, IsRole t roleId → ∀ permissionId, Grants t' roleId permissionId ↔ Grants t roleId permissionId

/-- What is promised of a step. -/
structure RoleStep (c : AdminConfig) (s : AdminState) (event : AdminEvent) : Prop where
  intact : Intact (s.step c event).tables
  created : ∀ req body id, event = .request req → req.route = .createRole (some body) →
    (s.serve c req).2 = .ok (.id id) → ∃ name description, roleOf body = some (name, description) ∧
      Creates s.tables (s.step c event).tables name ((body.strings? (ascii "permissions")).getD []) id

/-- A write uses an id that is none of a role, or a name that is one of a role. -/
def Misplaces (t : AdminTables) : AdminWrite → Prop
  | .roles _ roleIds => ∃ roleId ∈ roleIds, ¬IsRole t roleId
  | .rights id _ (some perms) => ¬IsRole t id ∧ ∃ p ∈ t.permissions.rows, p.code ∈ perms
  | .role name _ _ => ∃ role ∈ t.roles.rows, role.name = name
  | _ => False

/-! ### Intact tables -/

variable {t t' : AdminTables}

theorem intact_iff : Intact t ↔ (∀ r p, Grants t r p → IsRole t r) ∧ ∀ a r, Holds t a r → IsRole t r := by
  constructor
  · intro intact
    refine ⟨?_, ?_⟩
    · rintro r p ⟨rp, inside, rfl, rfl⟩
      exact intact.granted rp inside
    · rintro a r ⟨ar, inside, rfl, rfl⟩
      exact intact.held ar inside
  · rintro ⟨granted, held⟩
    exact ⟨fun rp inside => granted _ _ ⟨rp, inside, rfl, rfl⟩, fun ar inside => held _ _ ⟨ar, inside, rfl, rfl⟩⟩

/-- A write to neither of the link tables that loses no role. -/
theorem intact_elsewhere (intact : Intact t) (granted : t'.rolePermissions = t.rolePermissions)
    (held : t'.adminRoles = t.adminRoles) (roles : ∀ r, IsRole t r → IsRole t' r) : Intact t' :=
  ⟨fun rp inside => roles _ (intact.granted rp (granted ▸ inside)), fun ar inside => roles _ (intact.held ar (held ▸ inside))⟩

theorem isRole_insert {role : Role} {r : Int} (known : IsRole t r) :
    IsRole { t with roles := t.roles.insert role } r := by
  obtain ⟨row, inside, named⟩ := known
  exact ⟨row, Table.mem_insert.mpr (.inl inside), named⟩

theorem isRole_updateRole {id r : Int} {description : Bytes} : IsRole (updateRole id description t) r ↔ IsRole t r := by
  simp only [IsRole, updateRole, Table.mem_update]
  constructor
  · rintro ⟨row, ⟨old, inside, rfl⟩, rfl⟩
    refine ⟨old, inside, ?_⟩
    split <;> rfl
  · rintro ⟨old, inside, rfl⟩
    refine ⟨_, ⟨old, inside, rfl⟩, ?_⟩
    split <;> rfl

theorem isRole_deleteRole {id r : Int} : IsRole (deleteRole id t) r ↔ IsRole t r ∧ r ≠ id := by
  simp only [IsRole, deleteRole, Table.mem_delete, decide_eq_false_iff_not]
  grind

theorem isRole_setRolePermissions {roleId r : Int} {codes : List Bytes} :
    IsRole (setRolePermissions roleId codes t) r ↔ IsRole t r := by
  simp only [IsRole, (setRolePermissions_others roleId codes t).roles]

/-- The permissions of a role may be set, those of no role only to nothing. -/
theorem intact_setRolePermissions {roleId : Int} {codes : List Bytes} (intact : Intact t) :
    Intact (setRolePermissions roleId codes t) ↔ ¬(¬IsRole t roleId ∧ ∃ p ∈ t.permissions.rows, p.code ∈ codes) := by
  rw [intact_iff] at intact ⊢
  obtain ⟨granted, held⟩ := intact
  simp only [grants_setRolePermissions, isRole_setRolePermissions]
  constructor
  · rintro ⟨granted', -⟩ ⟨missing, p, inside, coded⟩
    exact missing (granted' roleId p.id (by simpa using ⟨p, inside, rfl, coded⟩))
  · intro placed
    refine ⟨fun r p grants => ?_, fun a r holds => ?_⟩
    · split at grants
      · rename_i here
        by_contra missing
        obtain ⟨row, inside, -, coded⟩ := grants
        exact placed ⟨here ▸ missing, row, inside, coded⟩
      · exact granted r p grants
    · obtain ⟨ar, inside, same⟩ := holds
      rw [(setRolePermissions_others roleId codes t).adminRoles] at inside
      exact held a r ⟨ar, inside, same⟩

/-- The roles of an admin may be replaced by roles. -/
theorem intact_replaceRoles {id : Int} {roleIds : List Int} (intact : Intact t) :
    Intact (replaceRoles id roleIds t) ↔ ¬∃ roleId ∈ roleIds, ¬IsRole t roleId := by
  rw [intact_iff] at intact ⊢
  obtain ⟨granted, held⟩ := intact
  have others := replaceRoles_others id roleIds t
  simp only [Grants, IsRole, others.roles, others.rolePermissions, holds_replaceRoles]
  constructor
  · rintro ⟨-, held'⟩ ⟨roleId, asked, missing⟩
    exact missing (held' id roleId (by simp [asked]))
  · intro placed
    refine ⟨granted, fun a r holds => ?_⟩
    split at holds
    · obtain asked | ⟨old, unlisted⟩ := holds
      · by_contra missing
        exact placed ⟨r, asked, missing⟩
      · exact held a r old
    · exact held a r holds

theorem intact_deleteRole {id : Int} (intact : Intact t) : Intact (deleteRole id t) := by
  rw [intact_iff] at intact ⊢
  obtain ⟨granted, held⟩ := intact
  simp only [grants_deleteRole, holds_deleteRole, isRole_deleteRole]
  exact ⟨fun r p grants => ⟨granted r p grants.1, grants.2⟩, fun a r holds => ⟨held a r holds.1, holds.2⟩⟩

/-! ### New roles -/

section NewRole
variable {name description : Bytes} {perms : Option (List Bytes)}

/-- The new role is in the tables. -/
private theorem created_row (free : t.roles.taken (newRole name description) = false) :
    ∃ role ∈ ((AdminWrite.role name description perms).tables t).roles.rows,
      role.id = t.roles.lastId + 1 ∧ role.name = name := by
  refine ⟨t.roles.fresh (newRole name description), ?_, Table.id_fresh t.roles _, rfl⟩
  have there : t.roles.fresh (newRole name description) ∈ (createRole name description t).2.roles.rows := by
    rw [createRole_free free]
    exact Table.mem_insert.mpr (.inr ⟨free, rfl⟩)
  cases perms with
  | none => exact there
  | some perms =>
    simp only [AdminWrite.tables, (setRolePermissions_others _ perms _).roles]
    exact there

/-- The role of the name, old or new. -/
private theorem isRole_target (free : t.roles.taken (newRole name description) = false) :
    IsRole { t with roles := t.roles.insert (newRole name description) } (AdminWrite.target name description t) := by
  cases found : t.roles.rows.find? fun r => r.name = name with
  | some row =>
    rw [AdminWrite.target_old free found]
    exact isRole_insert ⟨row, List.mem_of_find?_eq_some found, rfl⟩
  | none =>
    rw [AdminWrite.target_new free found]
    exact ⟨_, Table.mem_insert.mpr (.inr ⟨free, rfl⟩), Table.id_fresh t.roles _⟩

theorem intact_role (free : t.roles.taken (newRole name description) = false) (intact : Intact t) :
    Intact ((AdminWrite.role name description perms).tables t) := by
  have intact' : Intact (createRole name description t).2 := by
    rw [createRole_free free]
    exact intact_elsewhere intact rfl rfl fun r => isRole_insert
  cases perms with
  | none => exact intact'
  | some perms =>
    refine (intact_setRolePermissions intact').mpr fun misplaced => misplaced.1 ?_
    rw [createRole_free free]
    exact isRole_target free

/-- A role of a new name is made well. -/
theorem creates_role (free : t.roles.taken (newRole name description) = false) (intact : Intact t)
    (unnamed : ∀ role ∈ t.roles.rows, role.name ≠ name) :
    Creates t ((AdminWrite.role name description perms).tables t) name (perms.getD [])
      (AdminWrite.target name description t) := by
  obtain ⟨granted, held⟩ := intact_iff.mp intact
  have target : AdminWrite.target name description t = t.roles.lastId + 1 :=
    AdminWrite.target_new free (List.find?_eq_none.mpr fun role inside => by simpa using unnamed role inside)
  have fresh : ¬IsRole t (t.roles.lastId + 1) := by
    rintro ⟨role, inside, named⟩
    have := (t.roles.bounded role inside).2
    have : Row.id role = role.id := rfl
    omega
  obtain ⟨role, inside, named, same⟩ := @created_row t name description perms free
  rw [target]
  refine ⟨⟨fresh, role, inside, named, same⟩, fun adminId holds => ?_, fun p known => ?_, fun r isRole p => ?_⟩
  · refine fresh (held adminId _ ?_)
    cases perms with
    | none => exact holds
    | some perms =>
      obtain ⟨ar, there, which⟩ := holds
      simp only [AdminWrite.tables, (setRolePermissions_others _ perms _).adminRoles] at there
      exact ⟨ar, there, which⟩
  · cases perms with
    | none => exact iff_of_false (fun grants => fresh (granted _ _ grants)) (by simp)
    | some perms =>
      simp only [AdminWrite.tables, (setRolePermissions_others _ perms _).permissions] at known
      simp only [AdminWrite.tables, grants_setRolePermissions, target, if_true, Option.getD_some]
      constructor
      · rintro ⟨row, there, same, coded⟩
        have : row = p := Table.eq_of_id there known same
        exact this ▸ coded
      · exact fun coded => ⟨p, known, rfl, coded⟩
  · cases perms with
    | none => exact Iff.rfl
    | some perms =>
      have other : r ≠ t.roles.lastId + 1 := fun here => fresh (here ▸ isRole)
      simp only [AdminWrite.tables, grants_setRolePermissions, target, other, if_false]
      exact Iff.rfl

/-- A role of a name that was there is not. -/
theorem not_creates_role (free : t.roles.taken (newRole name description) = false)
    {role : Role} (inside : role ∈ t.roles.rows) (named : role.name = name) {perms' : List Bytes} :
    ¬Creates t t' name perms' (AdminWrite.target name description t) := by
  intro creates
  cases found : t.roles.rows.find? fun r => r.name = name with
  | none => simpa [named] using List.find?_eq_none.mp found role inside
  | some row =>
    refine creates.new.1 ?_
    rw [AdminWrite.target_old free found]
    exact ⟨row, List.mem_of_find?_eq_some found, rfl⟩

end NewRole

/-! ### Steps -/

variable {c : AdminConfig} {s : AdminState}

/-- The creation of a role is answered with an id if it has been written. -/
theorem serve_createRole {req : HttpRequest} {body : Json} (route : req.route = .createRole (some body)) {id : Int} :
    (s.serve c req).2 = .ok (.id id) ↔ ∃ name description, roleOf body = some (name, description) ∧
      s.command c (.request req) = .role name description (body.strings? (ascii "permissions")) ∧
      id = AdminWrite.target name description s.tables := by
  have kept := (AdminState.authMiddleware_tables c (s.wait req.elapsed) req).1
  simp only [AdminState.serve, AdminState.command]
  cases passed : authMiddleware c (s.wait req.elapsed) req with
  | mk s' decision =>
    rw [passed] at kept
    have same : s'.tables = s.tables := kept
    cases decision with
    | reject e => simp [HttpReply.ok, HttpReply.error]
    | next who =>
      simp only [AdminHandlers.handle, route, handleCreateRole_ok, same, AdminHandlers.command, managed]
      cases manages : who.hasPermission kManage with
      | false => simp
      | true =>
        simp only [true_and, if_true]
        constructor
        · rintro ⟨name, description, asked, free, rfl⟩
          exact ⟨name, description, asked, by simp [asked, free], rfl⟩
        · rintro ⟨name, description, asked, writes, rfl⟩
          cases taken : s.tables.roles.taken (newRole name description) with
          | false => exact ⟨name, description, asked, taken, rfl⟩
          | true => simp [asked, taken] at writes

/-- Only such a request writes a role. -/
theorem command_role {event : AdminEvent} {name description : Bytes} {perms : Option (List Bytes)}
    (writes : s.command c event = .role name description perms) :
    ∃ req body, event = .request req ∧ req.route = .createRole (some body) ∧
      roleOf body = some (name, description) ∧ s.tables.roles.taken (newRole name description) = false ∧
      body.strings? (ascii "permissions") = perms := by
  cases event with
  | purge now => simp [AdminState.command] at writes
  | request req =>
    have kept := (AdminState.authMiddleware_tables c (s.wait req.elapsed) req).1
    simp only [AdminState.command] at writes
    cases passed : authMiddleware c (s.wait req.elapsed) req with
    | mk s' decision =>
      rw [passed] at kept writes
      have same : s'.tables = s.tables := kept
      cases decision with
      | reject e => simp at writes
      | next who =>
        obtain ⟨body, route, -, asked, free, given⟩ := AdminHandlers.command_role writes
        exact ⟨req, body, rfl, route, asked, same ▸ free, given⟩

/-- Every write but that of a role keeps the tables intact unless it misplaces an id. -/
theorem intact_write (intact : Intact t) {write : AdminWrite}
    (other : ∀ name description perms, write ≠ .role name description perms) :
    Intact (write.tables t) ↔ ¬Misplaces t write := by
  have elsewhere : ∀ {t' : AdminTables}, t'.rolePermissions = t.rolePermissions → t'.adminRoles = t.adminRoles →
      t'.roles = t.roles → Intact t' :=
    fun granted held roles => intact_elsewhere intact granted held fun r known => by rwa [IsRole, roles]
  cases write with
  | nothing => exact iff_of_true intact id
  | session row => exact iff_of_true (elsewhere rfl rfl rfl) id
  | purge now => exact iff_of_true (elsewhere rfl rfl rfl) id
  | account row => exact iff_of_true (elsewhere rfl rfl rfl) id
  | revoke tokenHash =>
    refine iff_of_true ?_ id
    simp only [AdminWrite.tables, AdminSessionDao.revokeByTokenHash]
    split
    · exact intact
    · exact elsewhere rfl rfl rfl
  | password id passwordHash =>
    refine iff_of_true ?_ not_false
    simp only [AdminWrite.tables, AdminAccountDao.updatePassword]
    split
    · exact intact
    · exact elsewhere rfl rfl rfl
  | status id value =>
    refine iff_of_true ?_ not_false
    simp only [AdminWrite.tables, AdminAccountDao.updateStatus]
    split
    · exact intact
    · exact elsewhere rfl rfl rfl
  | roles id roleIds => exact intact_replaceRoles intact
  | role name description perms => exact absurd rfl (other name description perms)
  | dropRole id => exact iff_of_true (intact_deleteRole intact) not_false
  | rights id description perms =>
    have described : Intact (description.elim t fun description => updateRole id description t) ∧
        (IsRole (description.elim t fun description => updateRole id description t) id ↔ IsRole t id) ∧
        (description.elim t fun description => updateRole id description t).permissions = t.permissions := by
      cases description with
      | none => exact ⟨intact, Iff.rfl, rfl⟩
      | some description =>
        exact ⟨intact_elsewhere intact rfl rfl fun r known => isRole_updateRole.mpr known, isRole_updateRole, rfl⟩
    obtain ⟨intact', isRole, permissions⟩ := described
    cases perms with
    | none => exact iff_of_true intact' not_false
    | some perms =>
      simp only [AdminWrite.tables, Misplaces, ← isRole, ← permissions]
      exact intact_setRolePermissions intact'

/-- In intact tables a step keeps its promise unless it misplaces an id or a name. -/
theorem roleStep_iff (c : AdminConfig) (s : AdminState) (event : AdminEvent) (intact : Intact s.tables) :
    RoleStep c s event ↔ ¬Misplaces s.tables (s.command c event) := by
  by_cases role : ∃ name description perms, s.command c event = .role name description perms
  · obtain ⟨name, description, perms, writes⟩ := role
    obtain ⟨req, body, rfl, route, asked, free, given⟩ := command_role writes
    rw [writes]
    have replied : (s.serve c req).2 = .ok (.id (AdminWrite.target name description s.tables)) :=
      (serve_createRole route).mpr ⟨name, description, asked, given ▸ writes, rfl⟩
    constructor
    · rintro ⟨-, created⟩ ⟨old, inside, named⟩
      obtain ⟨name', description', asked', creates⟩ := created req body _ rfl route replied
      rw [asked] at asked'
      cases asked'
      exact not_creates_role free inside named creates
    · intro unnamed
      have tables : (s.step c (.request req)).tables = (AdminWrite.role name description perms).tables s.tables := by
        rw [AdminState.step_tables, writes]
      refine ⟨tables ▸ intact_role free intact, fun req' body' id same route' replied' => ?_⟩
      cases same
      rw [route] at route'
      cases route'
      rw [replied] at replied'
      cases replied'
      refine ⟨name, description, asked, ?_⟩
      rw [tables, given]
      exact creates_role free intact fun old inside named => unnamed ⟨old, inside, named⟩
  · rw [← intact_write intact fun name description perms writes => role ⟨name, description, perms, writes⟩,
      ← AdminState.step_tables]
    refine ⟨RoleStep.intact, fun intact' => ⟨intact', fun req body id same route replied => ?_⟩⟩
    subst same
    obtain ⟨name, description, -, writes, -⟩ := (serve_createRole route).mp replied
    exact absurd ⟨name, description, _, writes⟩ role

/-! ### Runs -/

/-- The admin server as it starts on a new database. -/
def seeded (hash : Bytes) (limiter : RateLimiter) : AdminState where
  tables := Seed.tables hash
  loginLimiter := limiter

/-- What is promised of the roles along a run: the tables are intact in every state, and
    every role is made well. -/
structure RoleLaw (c : AdminConfig) (s : AdminState) (events : List AdminEvent) : Prop where
  initially : Intact s.tables
  always : Along (AdminState.step c) (RoleStep c) s events

theorem intact_seeded (hash : Bytes) : Intact (Seed.tables hash) := by
  have granted : ∀ rp ∈ (Seed.tables []).rolePermissions.rows, rp.roleId = 1 := by decide
  have held : ∀ ar ∈ (Seed.tables []).adminRoles.rows, ar.roleId = 1 := by decide
  have known : ∃ role ∈ (Seed.tables []).roles.rows, role.id = 1 := by decide
  exact ⟨fun rp inside => (granted rp inside).symm ▸ known, fun ar inside => (held ar inside).symm ▸ known⟩

/-- In every run from the first rows, roles keep their rights to themselves exactly if no request
    misplaces an id or a name. -/
theorem roles_intact (c : AdminConfig) (hash : Bytes) (limiter : RateLimiter) (events : List AdminEvent) :
    RoleLaw c (seeded hash limiter) events ↔
      Along (AdminState.step c) (fun s event => ¬Misplaces s.tables (s.command c event)) (seeded hash limiter) events := by
  have along := @along_iff_of_kept _ _ (AdminState.step c) (RoleStep c)
    (fun s event => ¬Misplaces s.tables (s.command c event)) (fun s => Intact s.tables)
    (fun s event => roleStep_iff c s event) (fun s event _ step => step.intact)
    (seeded hash limiter) (intact_seeded hash) events
  exact ⟨fun law => along.mp law.always, fun placed => ⟨intact_seeded hash, along.mpr placed⟩⟩

/-! ### A small server -/

/-- Tokens are the id of the admin, texts are their own hashes, and a token lasts from 0 to 1000. -/
def smallConfig : AdminConfig where
  encode adminId _ _ := [UInt8.ofNat adminId.toNat]
  decode token := token.head?.map fun b => ⟨b.toNat, 0, 1000⟩
  sha256Hex := id
  hash := id
  verify password hash := password = hash
  jwtExpires := 1000

/-- The server on a new database, with the password `secret` for the first admin. -/
def smallServer : AdminState := seeded (ascii "secret") { maxAttempts := 5, window := 60000000000 }

/-- A login with a uid and the password. -/
def loginOf (uid : Bytes) : AdminEvent :=
  .request
    { route := .login (some (.object [(ascii "uid", .string uid), (ascii "password", .string (ascii "secret"))]))
      readings := { now := 0 } }

/-- A request with the token of an admin. -/
def fromAdmin (adminId : UInt8) (route : Route) : HttpRequest :=
  { route := route, authorization := ascii "Bearer " ++ [adminId], readings := { now := 1 } }

/-- A body that names a role and its permissions. -/
def roleBody (name : Bytes) (perms : List Bytes) : Json :=
  .object [(ascii "name", .string name), (ascii "permissions", .array (perms.map Json.string))]

/-- The first admin creates a role that has the name of the super role. -/
def twinRole : HttpRequest := fromAdmin 1 (.createRole (some (roleBody Seed.superName [ascii "user.view"])))

/-- The answer is the super role, which has lost its permissions to the request. -/
theorem twin_role_misplaced : ¬RoleLaw smallConfig smallServer [loginOf (ascii "admin"), .request twinRole] := by
  intro law
  have replied : ((smallServer.step smallConfig (loginOf (ascii "admin"))).serve smallConfig twinRole).2 = .ok (.id 1) := by
    decide +kernel
  obtain ⟨name, description, -, creates⟩ :=
    law.always.2.1.created twinRole (roleBody Seed.superName [ascii "user.view"]) 1 rfl rfl replied
  exact creates.new.1 (by decide)

end NovaIIM
