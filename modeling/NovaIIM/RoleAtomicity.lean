import NovaIIM.RoleFaults

/-!
Whether a change of roles or rights is done as a whole.

A handler answers with an error before its first statement only, and with OK whatever
happens behind it. So a request is atomic if the one failure is harmless (`Harmless`): what
the statement would have done was done already, or is done by another round. Three further
conditions do not depend on the failure: codes that no permission has are passed over, and
so are the roles of an admin that are in no list; and an id that is no number of 64 bits is
stored as another one (`Representable`).
-/
namespace NovaIIM
open Store RbacStatements
open RbacDao (listPermissions listRoles createRole newRole)

/-- A role has the permissions of these codes, and no others. -/
def HasExactly (t : AdminTables) (roleId : Int) (codes : List Bytes) : Prop :=
  ∀ code, Gives t roleId code ↔ code ∈ codes

/-- Nothing is left of a role. -/
structure Gone (t : AdminTables) (roleId : Int) : Prop where
  ungranted : ∀ permissionId, ¬Grants t roleId permissionId
  unheld : ∀ adminId, ¬Holds t adminId roleId
  dropped : ¬IsRole t roleId

namespace RoleRequest

/-- What is stored behind a reply is what was requested. -/
def Fulfilled (t' : AdminTables) (data : ReplyData) : RoleRequest → Prop
  | createRole body => ∀ perms roleId, body.bind (Json.strings? (ascii "permissions")) = some perms →
      data = .id roleId → HasExactly t' roleId perms
  | updateRole id body => ∀ perms, body.bind (Json.strings? (ascii "permissions")) = some perms → HasExactly t' id perms
  | deleteRole id => Gone t' id
  | setAdminRoles id body => ∀ items, (body.bind (Json.field (ascii "role_ids"))).bind Json.array? = some items →
      ∀ roleId, Holds t' id roleId ↔ roleId ∈ items.filterMap Json.integer?

/-- Success means that the requested set is stored, an error that the tables are as they were. -/
structure Atomic (n : Nat) (s : AdminState) (who : Identity) (request : RoleRequest) : Prop where
  done : ∀ data, (request.handle (failingAt n) s who).2 = .ok data →
    request.Fulfilled (request.handle (failingAt n) s who).1.tables data
  kept : (∀ data, (request.handle (failingAt n) s who).2 ≠ .ok data) →
    (request.handle (failingAt n) s who).1.tables = s.tables

end RoleRequest

/-! ### Harmless failures -/

/-- The statement of that number may fail while a role gets the permissions of some codes: the
    codes are known, there was nothing else to delete, or another round has the code. -/
structure SparesRights (n : Nat) (t : AdminTables) (roleId : Int) (perms : List Bytes) : Prop where
  known : ∀ code ∈ perms, code ∈ listPermissions t
  deleting : n = 0 → ∀ code, Gives t roleId code → code ∈ perms
  inserting : ∀ i code, (n = 2 * i + 1 ∨ n = 2 * i + 2) → perms[i]? = some code → ∃ j ≠ i, perms[j]? = some code

/-- It may fail while a role is dropped: it had nothing to delete. -/
structure SparesRole (n : Nat) (t : AdminTables) (roleId : Int) : Prop where
  ungranted : n = 0 → ∀ permissionId, ¬Grants t roleId permissionId
  unheld : n = 1 → ∀ adminId, ¬Holds t adminId roleId
  dropped : n = 2 → ¬IsRole t roleId

/-- It may fail while an admin gets roles: it deleted none but one that is asked for, and is not
    the one INSERT of a role. The admin has no role that is in no list, but for those asked for. -/
structure SparesRoles (n : Nat) (t : AdminTables) (id : Int) (roleIds : List Int) : Prop where
  listed : ∀ roleId, Holds t id roleId → ¬IsRole t roleId → roleId ∈ roleIds
  deleting : ∀ role, t.roles.rows[n]? = some role → Holds t id role.id → role.id ∈ roleIds
  inserting : t.roles.rows.length ≤ n → ∀ roleId, ¬Lost (unlisted t id) roleIds (n - t.roles.rows.length) roleId

/-- The role ids that a request would have stored are numbers of 64 bits. -/
def RoleRequest.Representable (c : AdminConfig) (s : AdminState) (who : Identity) : RoleRequest → Prop
  | setAdminRoles id body => (setAdminRoles id body).write c s who ≠ .nothing →
      ∀ items, (body.bind (Json.field (ascii "role_ids"))).bind Json.array? = some items →
        ∀ roleId ∈ items.filterMap Json.integer?, Json.IsInt64 roleId
  | _ => True

/-- The statement of that number may fail in a write. -/
def Harmless (n : Nat) (t : AdminTables) : AdminWrite → Prop
  | .role name description (some perms) => SparesRights n t (AdminWrite.target name description t) perms
  | .rights id _ (some perms) => SparesRights n t id perms
  | .dropRole id => SparesRole n t id
  | .roles id roleIds => SparesRoles n t id roleIds
  | _ => True

variable {n : Nat} {t : AdminTables} {id : Int}

theorem sparesRights_iff {perms : List Bytes} :
    SparesRights n t id perms ↔ HasExactly ((setRolePermissions id perms).tables (failingAt n) t) id perms := by
  have permissions := (RbacStatements.setRolePermissions_others id perms (failingAt n) t).permissions
  -- a code that is given is known, so the others must not be asked for
  have known_of : HasExactly ((setRolePermissions id perms).tables (failingAt n) t) id perms →
      ∀ code ∈ perms, code ∈ listPermissions t := by
    intro exactly code asked
    obtain ⟨p, inside, named, -⟩ := (exactly code).mpr asked
    rw [permissions] at inside
    exact List.mem_map.mpr ⟨p, inside, named⟩
  by_cases known : ∀ code ∈ perms, code ∈ listPermissions t
  swap
  · exact iff_of_false (fun spares => known spares.known) fun exactly => known (known_of exactly)
  cases n with
  | zero =>
    have gives : ∀ code, Gives (perms.foldl (RbacDao.grant id) t) id code ↔ Gives t id code ∨ code ∈ perms := by
      intro code
      obtain ⟨others, grants⟩ := @grants_foldl id perms t
      simp only [Gives, others.permissions, grants, true_and]
      constructor
      · rintro ⟨p, inside, rfl, old | ⟨row, there, same, asked⟩⟩
        · exact .inl ⟨p, inside, rfl, old⟩
        · have : row = p := Table.eq_of_id there inside same
          exact .inr (this ▸ asked)
      · rintro (⟨p, inside, named, old⟩ | asked)
        · exact ⟨p, inside, named, .inl old⟩
        · obtain ⟨p, inside, rfl⟩ := List.mem_map.mp (known code asked)
          exact ⟨p, inside, rfl, .inr ⟨p, inside, rfl, asked⟩⟩
    rw [setRolePermissions_first]
    constructor
    · intro spares code
      rw [gives]
      exact ⟨fun given => given.elim (spares.deleting rfl code) fun asked => asked, .inr⟩
    · intro exactly
      exact ⟨known, fun _ code given => (exactly code).mp ((gives code).mpr (.inl given)), fun i code number => by omega⟩
  | succ n =>
    rw [setRolePermissions_later known]
    constructor
    · intro spares code
      rw [gives_setRolePermissions, regranted, if_pos rfl]
      constructor
      · rintro ⟨kept, -⟩
        exact List.mem_of_mem_eraseIdx kept
      · intro asked
        refine ⟨?_, known code asked⟩
        obtain ⟨i, found⟩ := List.mem_iff_getElem?.mp asked
        by_cases here : i = n / 2
        · obtain ⟨j, apart, again⟩ := spares.inserting i code (by omega) found
          exact List.mem_eraseIdx_iff_getElem?.mpr ⟨j, here ▸ apart, again⟩
        · exact List.mem_eraseIdx_iff_getElem?.mpr ⟨i, here, found⟩
    · intro exactly
      refine ⟨known, fun first => by omega, fun i code number found => ?_⟩
      have given := (exactly code).mpr (List.mem_of_getElem? found)
      rw [gives_setRolePermissions, regranted, if_pos rfl] at given
      have here : n / 2 = i := by omega
      exact here ▸ List.mem_eraseIdx_iff_getElem?.mp given.1

/-- It is a matter of the permissions and the grants alone. -/
private theorem SparesRights.move {t' : AdminTables} {perms : List Bytes} (permissions : t'.permissions = t.permissions)
    (rolePermissions : t'.rolePermissions = t.rolePermissions) (spares : SparesRights n t id perms) :
    SparesRights n t' id perms := by
  refine ⟨fun code asked => ?_, fun first code given => ?_, spares.inserting⟩
  · rw [listPermissions, permissions]
    exact spares.known code asked
  · rw [Gives, permissions] at given
    simp only [Grants, rolePermissions] at given
    exact spares.deleting first code given

theorem sparesRole_iff : SparesRole n t id ↔ Gone ((deleteRole id).tables (failingAt n) t) id := by
  have ungranted : (∀ p, ¬Grants { t with rolePermissions := t.rolePermissions.delete fun rp => rp.roleId = id } id p) := by
    rintro p ⟨rp, inside, same, -⟩
    simpa [same] using (Table.mem_delete.mp inside).2
  have unheld : (∀ a, ¬Holds { t with adminRoles := t.adminRoles.delete fun ar => ar.roleId = id } a id) := by
    rintro a ⟨ar, inside, -, same⟩
    simpa [same] using (Table.mem_delete.mp inside).2
  have dropped : ¬IsRole { t with roles := t.roles.delete fun r => r.id = id } id := by
    rintro ⟨role, inside, same⟩
    simpa [same] using (Table.mem_delete.mp inside).2
  rw [deleteRole_tables]
  match n with
  | 0 =>
    exact ⟨fun spares => ⟨spares.ungranted rfl, unheld, dropped⟩,
      fun gone => ⟨fun _ => gone.ungranted, fun first => by omega, fun first => by omega⟩⟩
  | 1 =>
    exact ⟨fun spares => ⟨ungranted, spares.unheld rfl, dropped⟩,
      fun gone => ⟨fun first => by omega, fun _ => gone.unheld, fun first => by omega⟩⟩
  | 2 =>
    exact ⟨fun spares => ⟨ungranted, unheld, spares.dropped rfl⟩,
      fun gone => ⟨fun first => by omega, fun first => by omega, fun _ => gone.dropped⟩⟩
  | n + 3 =>
    exact ⟨fun _ => ⟨ungranted, unheld, dropped⟩,
      fun _ => ⟨fun first => by omega, fun first => by omega, fun first => by omega⟩⟩

theorem sparesRoles_iff {roleIds : List Int} :
    SparesRoles n t id roleIds ↔
      ∀ roleId, Holds ((replaceRoles id (listRoles t) roleIds).tables (failingAt n) t) id roleId ↔ roleId ∈ roleIds := by
  by_cases behind : t.roles.rows.length ≤ n
  · have none_ : t.roles.rows[n]? = none := List.getElem?_eq_none behind
    simp only [replaceRoles_inserting behind]
    constructor
    · intro spares roleId
      constructor
      · rintro (⟨asked, -⟩ | ⟨held, other⟩)
        · exact asked
        · exact spares.listed roleId held other
      · exact fun asked => .inl ⟨asked, spares.inserting behind roleId⟩
    · intro exactly
      refine ⟨fun roleId held other => (exactly roleId).mp (.inr ⟨held, other⟩), fun role there => ?_, fun _ roleId lost => ?_⟩
      · rw [none_] at there
        cases there
      · have lost' := lost
        obtain ⟨before, later, split, -, new, -⟩ := lost'
        have asked : roleId ∈ roleIds := by
          rw [split]
          exact List.mem_append_right _ (.head _)
        obtain ⟨-, kept⟩ | ⟨held, other⟩ := (exactly roleId).mpr asked
        · exact kept lost
        · exact new (mem_unlisted.mpr ⟨held, other⟩)
  · obtain ⟨role, there⟩ : ∃ role, t.roles.rows[n]? = some role := ⟨_, List.getElem?_eq_getElem (by omega)⟩
    simp only [replaceRoles_deleting there]
    constructor
    · intro spares roleId
      constructor
      · rintro (asked | ⟨held, other | rfl⟩)
        · exact asked
        · exact spares.listed roleId held other
        · exact spares.deleting role there held
      · exact .inl
    · intro exactly
      refine ⟨fun roleId held other => (exactly roleId).mp (.inr ⟨held, .inl other⟩), fun role' there' held => ?_,
        fun long => absurd long behind⟩
      rw [there] at there'
      cases there'
      exact (exactly role.id).mp (.inr ⟨held, .inr rfl⟩)

/-- The admin has afterwards what it had or what was stored. -/
private theorem held_or_stored {roleIds : List Int} {roleId : Int}
    (held : Holds ((replaceRoles id (listRoles t) roleIds).tables (failingAt n) t) id roleId) :
    roleId ∈ roleIds ∨ Holds t id roleId := by
  by_cases behind : t.roles.rows.length ≤ n
  · exact ((replaceRoles_inserting behind).mp held).imp And.left And.left
  · obtain ⟨role, there⟩ : ∃ role, t.roles.rows[n]? = some role := ⟨_, List.getElem?_eq_getElem (by omega)⟩
    exact ((replaceRoles_deleting there).mp held).imp_right And.left

/-- The role ids of the admins are numbers of 64 bits, as their column is. -/
def IdsFit (t : AdminTables) : Prop := ∀ ar ∈ t.adminRoles.rows, Json.IsInt64 ar.roleId

instance (t : AdminTables) : Decidable (IdsFit t) := inferInstanceAs (Decidable (∀ ar ∈ t.adminRoles.rows, _))

/-- What is stored fits. -/
private theorem fits_replaceRoles (fit : IdsFit t) {items : List Json} {roleId : Int}
    (held : Holds ((replaceRoles id (listRoles t) (items.filterMap Json.int64?)).tables (failingAt n) t) id roleId) :
    Json.IsInt64 roleId := by
  obtain stored | ⟨ar, inside, -, rfl⟩ := held_or_stored held
  · obtain ⟨item, -, stored⟩ := List.mem_filterMap.mp stored
    obtain ⟨requested, -, rfl⟩ := Option.map_eq_some_iff.mp stored
    exact Json.isInt64_bmod requested
  · exact fit ar inside

/-! ### Requests -/

/-- The answer to a write, and the tables that it leaves under failures. -/
def AdminWrite.Outcome (faults : List Bool) (t t' : AdminTables) (reply : HttpReply) : AdminWrite → Prop
  | .role name description perms =>
    let newRoleId := AdminWrite.target name description t
    reply = .ok (.id newRoleId) ∧ t' = perms.elim (createRole name description t).2
      fun perms => (setRolePermissions newRoleId perms).tables faults (createRole name description t).2
  | .rights id description perms =>
    let described := description.elim t fun description => RbacDao.updateRole id description t
    reply = .ok .nothing ∧ t' = perms.elim described fun perms => (setRolePermissions id perms).tables faults described
  | .dropRole id => reply = .ok .nothing ∧ t' = (deleteRole id).tables faults t
  | .roles id roleIds => reply = .ok .nothing ∧ t' = (replaceRoles id (listRoles t) roleIds).tables faults t
  | _ => (∀ data, reply ≠ .ok data) ∧ t' = t

namespace RoleRequest
variable {c : AdminConfig} {s : AdminState} {who : Identity} {faults : List Bool}

private theorem outcome_refused {e : ApiReply} (error : e ≠ jsonOk) :
    AdminWrite.Outcome faults s.tables s.tables (.error e) .nothing := by
  refine ⟨fun data same => error ?_, rfl⟩
  cases same
  rfl

private theorem outcome_raised : AdminWrite.Outcome faults s.tables s.tables .raised .nothing := by
  refine ⟨fun data same => ?_, rfl⟩
  cases same

private theorem outcome_setAdminRoles (id : Int) (body : Option Json) (manages : who.hasPermission AdminHandlers.kManage = true) :
    (AdminHandlers.managed c s who (.setAdminRoles id body)).Outcome faults s.tables
      (handleSetAdminRoles faults s who id body).1.tables (handleSetAdminRoles faults s who id body).2 := by
  unfold handleSetAdminRoles AdminHandlers.managed
  simp only [manages, Bool.not_true, Bool.false_eq_true, if_false]
  cases (body.bind (Json.field (ascii "role_ids"))).bind Json.array? with
  | none => split <;> exact outcome_refused (by decide)
  | some items =>
    dsimp only
    by_cases bad : id ≤ 0
    · simp only [bad, if_true, true_or]
      exact outcome_refused (by decide)
    by_cases missing : (AdminAccountDao.findById id s.tables).isNone = true
    · simp only [bad, missing, if_true, if_false, or_true]
      exact outcome_refused (by decide)
    · simp only [bad, missing, if_false]
      exact ⟨rfl, rfl⟩

private theorem outcome_updateRole (id : Int) (body : Option Json) (manages : who.hasPermission AdminHandlers.kManage = true) :
    (AdminHandlers.managed c s who (.updateRole id body)).Outcome faults s.tables
      (handleUpdateRole faults s who id body).1.tables (handleUpdateRole faults s who id body).2 := by
  unfold handleUpdateRole AdminHandlers.managed
  simp only [manages, Bool.not_true, Bool.false_eq_true, if_false]
  cases body with
  | none => split <;> exact outcome_refused (by decide)
  | some body =>
    dsimp only
    split
    · exact outcome_refused (by decide)
    · refine ⟨rfl, ?_⟩
      cases (body.field (ascii "description")).bind Json.string? <;> cases body.strings? (ascii "permissions") <;> rfl

private theorem outcome_deleteRole (id : Int) (manages : who.hasPermission AdminHandlers.kManage = true) :
    (AdminHandlers.managed c s who (.deleteRole id)).Outcome faults s.tables
      (handleDeleteRole faults s who id).1.tables (handleDeleteRole faults s who id).2 := by
  unfold handleDeleteRole AdminHandlers.managed
  simp only [manages, Bool.not_true, Bool.false_eq_true, if_false]
  split
  · exact outcome_refused (by decide)
  · exact ⟨rfl, rfl⟩

private theorem outcome_createRole (body : Option Json) (manages : who.hasPermission AdminHandlers.kManage = true) :
    (AdminHandlers.managed c s who (.createRole body)).Outcome faults s.tables
      (handleCreateRole faults s who body).1.tables (handleCreateRole faults s who body).2 := by
  unfold handleCreateRole AdminHandlers.managed
  simp only [manages, Bool.not_true, Bool.false_eq_true, if_false]
  cases body with
  | none => exact outcome_refused (by decide)
  | some body =>
    dsimp only [AdminHandlers.roleOf]
    split
    · exact outcome_refused (by decide)
    cases body.value (ascii "name") [] with
    | none => exact outcome_raised
    | some name =>
    cases body.value (ascii "description") [] with
    | none => exact outcome_raised
    | some description =>
      dsimp only
      split
      · exact outcome_refused (by decide)
      dsimp only
      generalize UserService.trim name = name
      cases taken : s.tables.roles.taken (newRole name description) with
      | true =>
        rw [RbacDao.createRole_taken taken]
        exact outcome_refused (by decide)
      | false =>
        have positive := AdminWrite.target_pos taken
        have named : AdminWrite.target name description s.tables =
            AdminHandlers.roleNamed name { s.tables with roles := s.tables.roles.insert (newRole name description) } := by
          rw [AdminWrite.target, RbacDao.createRole_free taken]
        rw [named] at positive
        simp only [AdminWrite.Outcome, RbacDao.createRole_free taken]
        cases body.strings? (ascii "permissions") with
        | none => exact ⟨rfl, rfl⟩
        | some perms =>
          simp only [positive, if_true, Option.elim]
          exact ⟨rfl, rfl⟩

/-- A handler answers and writes as its write asks for. -/
theorem handle_outcome (request : RoleRequest) :
    (request.write c s who).Outcome faults s.tables (request.handle faults s who).1.tables
      (request.handle faults s who).2 := by
  unfold write
  cases manages : who.hasPermission AdminHandlers.kManage with
  | false =>
    have denied : request.handle faults s who = (s, .error apiErr.kPermissionDenied) := by
      cases request <;>
        simp [handle, handleCreateRole, handleUpdateRole, handleDeleteRole, handleSetAdminRoles, manages]
    rw [denied]
    exact outcome_refused (by decide)
  | true =>
    cases request with
    | createRole body => exact outcome_createRole body manages
    | updateRole id body => exact outcome_updateRole id body manages
    | deleteRole id => exact @outcome_deleteRole c _ _ _ id manages
    | setAdminRoles id body => exact @outcome_setAdminRoles c _ _ _ id body manages

/-! What the write of a request is, and what it has to do with the body. -/

private theorem write_createRole (body : Option Json) :
    (createRole body).write c s who = .nothing ∨ ∃ name description perms,
      body.bind (Json.strings? (ascii "permissions")) = perms ∧
        (createRole body).write c s who = .role name description perms := by
  unfold write
  split
  · cases body with
    | none => exact .inl rfl
    | some body =>
      simp only [route, AdminHandlers.managed]
      split
      · exact .inl rfl
      · split
        · exact .inl rfl
        · exact .inr ⟨_, _, _, rfl, rfl⟩
  · exact .inl rfl

private theorem write_updateRole (id : Int) (body : Option Json) :
    (updateRole id body).write c s who = .nothing ∨ ∃ description perms,
      body.bind (Json.strings? (ascii "permissions")) = perms ∧
        (updateRole id body).write c s who = .rights id description perms := by
  unfold write
  split
  · cases body with
    | none => exact .inl rfl
    | some body =>
      simp only [route, AdminHandlers.managed]
      split
      · exact .inl rfl
      · exact .inr ⟨_, _, rfl, rfl⟩
  · exact .inl rfl

private theorem write_deleteRole (id : Int) :
    (deleteRole id).write c s who = .nothing ∨ (deleteRole id).write c s who = .dropRole id := by
  unfold write
  split
  · simp only [route, AdminHandlers.managed]
    split
    · exact .inl rfl
    · exact .inr rfl
  · exact .inl rfl

private theorem write_setAdminRoles (id : Int) (body : Option Json) :
    (setAdminRoles id body).write c s who = .nothing ∨ ∃ items,
      (body.bind (Json.field (ascii "role_ids"))).bind Json.array? = some items ∧
        (setAdminRoles id body).write c s who = .roles id (items.filterMap Json.int64?) := by
  unfold write
  split
  · simp only [route, AdminHandlers.managed]
    split
    · exact .inl rfl
    · rename_i items asked
      split
      · exact .inl rfl
      · exact .inr ⟨items, asked, rfl⟩
  · exact .inl rfl

/-- Behind OK it counts what is stored. -/
private theorem atomic_of_ok {request : RoleRequest} {n : Nat} {data : ReplyData}
    (replied : (request.handle (failingAt n) s who).2 = .ok data) :
    request.Atomic n s who ↔ request.Fulfilled (request.handle (failingAt n) s who).1.tables data := by
  refine ⟨fun atomic => atomic.done data replied, fun fulfilled => ⟨fun data' replied' => ?_, fun error => ?_⟩⟩
  · rw [replied] at replied'
    cases replied'
    exact fulfilled
  · exact absurd replied (error data)

/-- A request that is turned away is atomic. -/
private theorem atomic_of_error {request : RoleRequest} {n : Nat}
    (nothing : request.write c s who = .nothing) : request.Atomic n s who := by
  have outcome := @handle_outcome c s who (failingAt n) request
  rw [nothing] at outcome
  obtain ⟨error, same⟩ := outcome
  exact ⟨fun data replied => absurd replied (error data), fun _ => same⟩

/-- Without a failure the handlers are those of the admin server. -/
theorem handle_unfailing {req : HttpRequest} (request : RoleRequest) (asked : req.route = request.route) :
    AdminHandlers.handle c s who req = request.handle [] s who := by
  cases request with
  | createRole body =>
    have handled : AdminHandlers.handle c s who req = AdminHandlers.handleCreateRole s who body := by
      rw [AdminHandlers.handle, asked]
      rfl
    rw [handled, handle]
    unfold RbacStatements.handleCreateRole
    simp only [setRolePermissions_sound]
    rfl
  | updateRole id body =>
    have handled : AdminHandlers.handle c s who req = AdminHandlers.handleUpdateRole s who id body := by
      rw [AdminHandlers.handle, asked]
      rfl
    rw [handled, handle]
    unfold RbacStatements.handleUpdateRole
    simp only [setRolePermissions_sound]
    rfl
  | deleteRole id =>
    have handled : AdminHandlers.handle c s who req = AdminHandlers.handleDeleteRole s who id := by
      rw [AdminHandlers.handle, asked]
      rfl
    rw [handled, handle, RbacStatements.handleDeleteRole, deleteRole_tables]
    rfl
  | setAdminRoles id body =>
    have handled : AdminHandlers.handle c s who req = AdminHandlers.handleSetAdminRoles s who id body := by
      rw [AdminHandlers.handle, asked]
      rfl
    rw [handled, handle, RbacStatements.handleSetAdminRoles]
    simp only [replaceRoles_sound]
    rfl

/-- A request is done as a whole or not at all exactly if the statement that fails may and the
    ids of the request are stored as they are. -/
theorem role_update_atomic_iff (c : AdminConfig) (n : Nat) (s : AdminState) (fit : IdsFit s.tables) (who : Identity)
    (request : RoleRequest) :
    request.Atomic n s who ↔
      Harmless n s.tables (request.write c s who) ∧ request.Representable c s who := by
  have outcome := @handle_outcome c s who (failingAt n) request
  cases request with
  | createRole body =>
    obtain nothing | ⟨name, description, perms, asked, writes⟩ := @write_createRole c s who body
    · exact iff_of_true (atomic_of_error nothing) ⟨by rw [nothing]; trivial, trivial⟩
    rw [writes] at outcome ⊢
    obtain ⟨replied, stored⟩ := outcome
    rw [atomic_of_ok replied, stored]
    cases perms with
    | none => exact iff_of_true (fun perms roleId given => by simp [asked] at given) ⟨trivial, trivial⟩
    | some perms =>
      have same : SparesRights n s.tables (AdminWrite.target name description s.tables) perms ↔
          SparesRights n (RbacDao.createRole name description s.tables).2 (AdminWrite.target name description s.tables) perms :=
        ⟨SparesRights.move rfl rfl, SparesRights.move rfl rfl⟩
      refine Iff.trans ?_ ((and_iff_left trivial).trans (same.trans sparesRights_iff)).symm
      refine ⟨fun fulfilled => fulfilled perms _ asked rfl, fun exactly perms' roleId asked' data => ?_⟩
      rw [asked] at asked'
      cases asked'
      cases data
      exact exactly
  | updateRole id body =>
    obtain nothing | ⟨description, perms, asked, writes⟩ := @write_updateRole c s who id body
    · exact iff_of_true (atomic_of_error nothing) ⟨by rw [nothing]; trivial, trivial⟩
    rw [writes] at outcome ⊢
    obtain ⟨replied, stored⟩ := outcome
    rw [atomic_of_ok replied, stored]
    cases perms with
    | none => exact iff_of_true (fun perms given => by simp [asked] at given) ⟨trivial, trivial⟩
    | some perms =>
      have same : SparesRights n s.tables id perms ↔
          SparesRights n (description.elim s.tables fun description => RbacDao.updateRole id description s.tables) id
            perms := by
        cases description <;> exact ⟨SparesRights.move rfl rfl, SparesRights.move rfl rfl⟩
      refine Iff.trans ?_ ((and_iff_left trivial).trans (same.trans sparesRights_iff)).symm
      refine ⟨fun fulfilled => fulfilled perms asked, fun exactly perms' asked' => ?_⟩
      rw [asked] at asked'
      cases asked'
      exact exactly
  | deleteRole id =>
    obtain nothing | writes := @write_deleteRole c s who id
    · exact iff_of_true (atomic_of_error nothing) ⟨by rw [nothing]; trivial, trivial⟩
    rw [writes] at outcome ⊢
    obtain ⟨replied, stored⟩ := outcome
    rw [atomic_of_ok replied, stored]
    exact ((and_iff_left trivial).trans sparesRole_iff).symm
  | setAdminRoles id body =>
    obtain nothing | ⟨items, asked, writes⟩ := @write_setAdminRoles c s who id body
    · exact iff_of_true (atomic_of_error nothing) ⟨by rw [nothing]; trivial, fun some' => absurd nothing some'⟩
    have changes : (setAdminRoles id body).write c s who ≠ .nothing := by simp [writes]
    rw [writes] at outcome ⊢
    obtain ⟨replied, stored⟩ := outcome
    rw [atomic_of_ok replied, stored]
    constructor
    · intro fulfilled
      -- what was requested is held, so it fits
      have fits : ∀ roleId ∈ items.filterMap Json.integer?, Json.IsInt64 roleId := fun roleId requested =>
        fits_replaceRoles fit ((fulfilled items asked roleId).mpr requested)
      refine ⟨sparesRoles_iff.mpr ?_, fun _ items' asked' => ?_⟩
      · rw [Json.filterMap_int64? fits]
        rw [Json.filterMap_int64? fits] at fulfilled
        exact fulfilled items asked
      · rw [asked] at asked'
        cases asked'
        exact fits
    · rintro ⟨spares, fits⟩ items' asked'
      rw [asked] at asked'
      cases asked'
      have fits := fits changes items asked
      have exactly := sparesRoles_iff.mp spares
      rw [Json.filterMap_int64? fits] at exactly ⊢
      exact exactly

end RoleRequest

/-- The first admin is to have a role whose id is not in the range of the column. -/
def wrappedRole : RoleRequest :=
  .setAdminRoles 1 (some (.object [(ascii "role_ids", .array [.integer 18446744073709551615])]))

/-- The super role is to keep two permissions. -/
def twoPermissions : RoleRequest :=
  .updateRole 1 (some (.object [(ascii "permissions",
    .array [.string (ascii "admin.login"), .string (ascii "admin.manage")])]))

def managingAdmin : Identity := { adminId := 1, permissions := AdminHandlers.kManage }

/-- Where no statement fails, the permissions are as requested and the role is not. -/
theorem role_update_atomic_wrapped :
    twoPermissions.Atomic 5 smallServer managingAdmin ∧
      (wrappedRole.handle (failingAt 5) smallServer managingAdmin).2 = .ok .nothing ∧
      ¬wrappedRole.Atomic 5 smallServer managingAdmin := by
  have fit : IdsFit smallServer.tables := by decide
  refine ⟨?_, by decide, fun atomic => ?_⟩
  · refine (RoleRequest.role_update_atomic_iff smallConfig 5 smallServer fit managingAdmin twoPermissions).mpr ⟨?_, trivial⟩
    refine ⟨by decide, fun first => absurd first (by decide), fun i code number found => ?_⟩
    have last : i = 2 := by omega
    rw [last] at found
    cases found
  · obtain ⟨-, fits⟩ :=
      (RoleRequest.role_update_atomic_iff smallConfig 5 smallServer fit managingAdmin wrappedRole).mp atomic
    have beyond := fits nofun _ rfl 18446744073709551615 (List.Mem.head _)
    exact absurd beyond (by decide)

/-- The INSERT of the second one fails, and the answer is OK. -/
theorem half_granted : ¬∀ (n : Nat) (s : AdminState) (who : Identity) (request : RoleRequest),
    request.Atomic n s who := by
  intro atomic
  have exactly := (atomic 4 smallServer managingAdmin twoPermissions).done .nothing (by decide)
    [ascii "admin.login", ascii "admin.manage"] rfl
  obtain ⟨p, inside, named, grants⟩ := (exactly (ascii "admin.manage")).mpr (by decide)
  have missing : ∀ p ∈ (twoPermissions.handle (failingAt 4) smallServer managingAdmin).1.tables.permissions.rows,
      p.code = ascii "admin.manage" →
        ¬Grants (twoPermissions.handle (failingAt 4) smallServer managingAdmin).1.tables 1 p.id := by
    decide
  exact missing p inside named grants

end NovaIIM
