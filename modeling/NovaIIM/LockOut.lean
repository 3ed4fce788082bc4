import NovaIIM.RoleIntegrity

/-!
Who can still log in and manage.

`HandleDeleteAdmin` and `HandleDisableAdmin` spare the first admin and the caller, but the
rights of an admin also go with its roles. `Leaves` asks for an admin with both permissions
under given relations, and a write `Strands` the server when it leaves none: the relations
are those of the tables before it, with what the write is about taken out or put in.
-/
namespace NovaIIM
open RbacDao AdminHandlers

/-- Someone can log in and manage. -/
def Manned (t : AdminTables) : Prop :=
  ∃ a ∈ t.admins.rows, a.status = .normal ∧ hasPermission a.id (ascii "admin.login") t = true ∧
    hasPermission a.id kManage t = true

instance (t : AdminTables) : Decidable (Manned t) := inferInstanceAs (Decidable (∃ a ∈ t.admins.rows, _))

/-- A role has the permission of a code. -/
def Gives (t : AdminTables) (roleId : Int) (code : Bytes) : Prop :=
  ∃ p ∈ t.permissions.rows, p.code = code ∧ Grants t roleId p.id

/-- An admin in good standing has both permissions, with these roles and rights. -/
def Leaves (t : AdminTables) (holds : Int → Int → Prop) (gives : Int → Bytes → Prop) : Prop :=
  ∃ a ∈ t.admins.rows, a.status = .normal ∧ (∃ r, holds a.id r ∧ gives r (ascii "admin.login")) ∧
    ∃ r, holds a.id r ∧ gives r kManage

/-- The rights of the roles once one of them has the permissions of the codes. -/
def regranted (t : AdminTables) (roleId : Int) (codes : List Bytes) (r : Int) (code : Bytes) : Prop :=
  if r = roleId then code ∈ codes ∧ code ∈ listPermissions t else Gives t r code

/-- A write leaves nobody who can log in and manage. -/
def Strands (t : AdminTables) : AdminWrite → Prop
  | .status id value =>
    value ≠ .normal ∧ ∀ a ∈ t.admins.rows, a.status = .normal → hasPermission a.id (ascii "admin.login") t = true →
      hasPermission a.id kManage t = true → a.id = id
  | .roles id roleIds =>
    ¬Leaves t (fun a r => if a = id then r ∈ roleIds ∨ Holds t a r ∧ ¬IsRole t r else Holds t a r) (Gives t)
  | .rights id _ (some perms) => ¬Leaves t (Holds t) (regranted t id perms)
  | .role name description (some perms) =>
    ¬Leaves t (Holds t) (regranted t (AdminWrite.target name description t) perms)
  | .dropRole id => ¬Leaves t (fun a r => Holds t a r ∧ r ≠ id) (Gives t)
  | _ => False

variable {t t' : AdminTables}

theorem hasPermission_iff {userId : Int} {code : Bytes} :
    hasPermission userId code t = true ↔ ∃ r, Holds t userId r ∧ Gives t r code := by
  simp only [hasPermission, List.any_eq_true, Bool.and_eq_true, decide_eq_true_eq, granted_iff, Gives]
  constructor
  · rintro ⟨p, inside, named, r, holds, grants⟩
    exact ⟨r, holds, p, inside, named, grants⟩
  · rintro ⟨r, holds, p, inside, named, grants⟩
    exact ⟨p, inside, named, r, holds, grants⟩

theorem manned_iff : Manned t ↔ Leaves t (Holds t) (Gives t) := by
  simp only [Manned, Leaves, hasPermission_iff]

/-- Tables with these admins, roles and rights are manned if they are left so. -/
theorem manned_of_same {holds : Int → Int → Prop} {gives : Int → Bytes → Prop} (admins : t'.admins = t.admins)
    (held : ∀ a r, Holds t' a r ↔ holds a r) (given : ∀ r code, Gives t' r code ↔ gives r code) :
    Manned t' ↔ Leaves t holds gives := by
  simp only [manned_iff, Leaves, admins, held, given]

/-- Who has which role and right when the link tables are untouched. -/
private theorem links_same (adminRoles : t'.adminRoles = t.adminRoles)
    (rolePermissions : t'.rolePermissions = t.rolePermissions) (permissions : t'.permissions = t.permissions) :
    (∀ a r, Holds t' a r ↔ Holds t a r) ∧ ∀ r code, Gives t' r code ↔ Gives t r code := by
  simp only [Holds, Gives, Grants, adminRoles, rolePermissions, permissions, implies_true, and_self]

theorem gives_setRolePermissions {roleId : Int} {codes : List Bytes} {r : Int} {code : Bytes} :
    Gives (setRolePermissions roleId codes t) r code ↔ regranted t roleId codes r code := by
  have permissions := (setRolePermissions_others roleId codes t).permissions
  simp only [Gives, permissions, grants_setRolePermissions, regranted]
  split
  · simp only [listPermissions, List.mem_map]
    constructor
    · rintro ⟨p, inside, rfl, row, there, same, coded⟩
      have : row = p := Table.eq_of_id there inside same
      exact ⟨this ▸ coded, p, inside, rfl⟩
    · rintro ⟨coded, p, inside, rfl⟩
      exact ⟨p, inside, rfl, p, inside, rfl, coded⟩
  · exact Iff.rfl

/-- After the permissions of a role have been set. -/
theorem manned_setRolePermissions {roleId : Int} {codes : List Bytes} :
    Manned (setRolePermissions roleId codes t) ↔ Leaves t (Holds t) (regranted t roleId codes) := by
  have others := setRolePermissions_others roleId codes t
  refine manned_of_same others.admins (fun a r => ?_) fun r code => gives_setRolePermissions
  simp only [Holds, others.adminRoles]

theorem manned_replaceRoles {id : Int} {roleIds : List Int} :
    Manned (replaceRoles id roleIds t) ↔
      Leaves t (fun a r => if a = id then r ∈ roleIds ∨ Holds t a r ∧ ¬IsRole t r else Holds t a r) (Gives t) := by
  have others := replaceRoles_others id roleIds t
  refine manned_of_same others.admins (fun a r => ?_) fun r code => ?_
  · simp only [holds_replaceRoles, IsRole, not_exists, not_and, ne_eq]
  · simp only [Gives, Grants, others.permissions, others.rolePermissions]

theorem manned_deleteRole {id : Int} :
    Manned (deleteRole id t) ↔ Leaves t (fun a r => Holds t a r ∧ r ≠ id) (Gives t) := by
  simp only [manned_iff, Leaves, holds_deleteRole, Gives, grants_deleteRole]
  have permissions : (deleteRole id t).permissions = t.permissions := rfl
  have admins : (deleteRole id t).admins = t.admins := rfl
  simp only [permissions, admins]
  grind

/-- Tables whose links are the same are manned by the admins that are in good standing in them. -/
private theorem manned_elsewhere (adminRoles : t'.adminRoles = t.adminRoles)
    (rolePermissions : t'.rolePermissions = t.rolePermissions) (permissions : t'.permissions = t.permissions)
    (stays : ∀ a ∈ t.admins.rows, a.status = .normal → ∃ a' ∈ t'.admins.rows, a'.id = a.id ∧ a'.status = .normal)
    (manned : Manned t) : Manned t' := by
  obtain ⟨held, given⟩ := links_same adminRoles rolePermissions permissions
  obtain ⟨a, inside, normal, login, manage⟩ := manned_iff.mp manned
  obtain ⟨a', inside', same, normal'⟩ := stays a inside normal
  refine manned_iff.mpr ⟨a', inside', normal', ?_⟩
  simp only [held, given, same]
  exact ⟨login, manage⟩

/-- A change of status strands the server if it takes the last one. -/
theorem manned_updateStatus {id : Int} {value : AccountStatus} (manned : Manned t) :
    Manned (AdminAccountDao.updateStatus id value t).2 ↔ ¬Strands t (.status id value) := by
  unfold AdminAccountDao.updateStatus
  cases found : AdminAccountDao.findById id t with
  | none =>
    -- the one that is there cannot be the one that is missing
    refine iff_of_true manned fun strands => ?_
    obtain ⟨a, inside, normal, login, manage⟩ := manned
    have here : a.id = id := strands.2 a inside normal login manage
    simpa [here, normal] using List.find?_eq_none.mp found a inside
  | some admin =>
    dsimp only
    constructor
    · rintro ⟨a', inside', normal', login, manage⟩ ⟨other, only⟩
      obtain ⟨a, inside, rfl⟩ := Table.mem_update.mp inside'
      by_cases here : a.id = id
      · simp only [here, decide_true, if_true] at normal'
        exact other normal'
      · simp only [here, decide_false, Bool.false_eq_true, if_false] at normal' login manage
        exact here (only a inside normal' login manage)
    · intro stays
      have kept : ∃ a ∈ t.admins.rows, a.status = .normal ∧ hasPermission a.id (ascii "admin.login") t = true ∧
          hasPermission a.id kManage t = true ∧ (value = .normal ∨ a.id ≠ id) := by
        by_cases same : value = .normal
        · obtain ⟨a, inside, normal, login, manage⟩ := manned
          exact ⟨a, inside, normal, login, manage, .inl same⟩
        · simp only [Strands, not_and, not_forall] at stays
          obtain ⟨a, inside, normal, login, manage, other⟩ := stays same
          exact ⟨a, inside, normal, login, manage, .inr other⟩
      obtain ⟨a, inside, normal, login, manage, spared⟩ := kept
      refine ⟨_, Table.mem_update.mpr ⟨a, inside, rfl⟩, ?_⟩
      obtain rfl | other := spared
      · split <;> exact ⟨by first | rfl | exact normal, login, manage⟩
      · simp only [other, decide_false, Bool.false_eq_true, if_false]
        exact ⟨normal, login, manage⟩

/-- A write leaves the server manned unless it strands it. -/
theorem manned_write (manned : Manned t) (write : AdminWrite) : Manned (write.tables t) ↔ ¬Strands t write := by
  have stays : ∀ a ∈ t.admins.rows, a.status = .normal → ∃ a' ∈ t.admins.rows, a'.id = a.id ∧ a'.status = .normal :=
    fun a inside normal => ⟨a, inside, rfl, normal⟩
  cases write with
  | nothing => exact iff_of_true manned id
  | session row => exact iff_of_true (manned_elsewhere rfl rfl rfl stays manned) id
  | purge now => exact iff_of_true (manned_elsewhere rfl rfl rfl stays manned) id
  | revoke tokenHash =>
    refine iff_of_true ?_ id
    simp only [AdminWrite.tables, AdminSessionDao.revokeByTokenHash]
    split
    · exact manned
    · exact manned_elsewhere rfl rfl rfl stays manned
  | account row =>
    refine iff_of_true (@manned_elsewhere t _ rfl rfl rfl (fun a inside normal => ?_) manned) id
    exact ⟨a, Table.mem_insert.mpr (.inl inside), rfl, normal⟩
  | password id passwordHash =>
    refine iff_of_true ?_ not_false
    simp only [AdminWrite.tables, AdminAccountDao.updatePassword]
    split
    · exact manned
    · refine @manned_elsewhere t _ rfl rfl rfl (fun a inside normal => ?_) manned
      refine ⟨_, Table.mem_update.mpr ⟨a, inside, rfl⟩, ?_⟩
      split <;> exact ⟨rfl, normal⟩
  | status id value => exact manned_updateStatus manned
  | roles id roleIds => exact manned_replaceRoles.trans not_not.symm
  | dropRole id => exact manned_deleteRole.trans not_not.symm
  | role name description perms =>
    cases perms with
    | none => exact iff_of_true (@manned_elsewhere t _ rfl rfl rfl stays manned) id
    | some perms => exact manned_setRolePermissions.trans not_not.symm
  | rights id description perms =>
    cases perms with
    | none =>
      refine iff_of_true ?_ not_false
      cases description with
      | none => exact manned
      | some description => exact @manned_elsewhere t _ rfl rfl rfl stays manned
    | some perms => cases description <;> exact manned_setRolePermissions.trans not_not.symm

/-! ### Runs -/

/-- On a new database the first admin can. -/
theorem manned_seeded (hash : Bytes) : Manned (Seed.tables hash) := by
  refine ⟨{ Seed.superAdmin hash with id := 1 }, List.Mem.head _, rfl, ?_, ?_⟩
  · have login : hasPermission 1 (ascii "admin.login") (Seed.tables []) = true := by decide
    exact login
  · have manage : hasPermission 1 kManage (Seed.tables []) = true := by decide
    exact manage

/-- In every run from the first rows, someone can log in and manage in every state exactly if
    no request strands the server. -/
theorem manned_always (c : AdminConfig) (hash : Bytes) (limiter : RateLimiter) (events : List AdminEvent) :
    (∀ before, before <+: events → Manned (after (AdminState.step c) (seeded hash limiter) before).tables) ↔
      Along (AdminState.step c) (fun s event => ¬Strands s.tables (s.command c event)) (seeded hash limiter) events := by
  refine @prefixes_iff_along _ _ (AdminState.step c) (fun s event => ¬Strands s.tables (s.command c event))
    (fun _ => True) (fun s => Manned s.tables) events (fun _ _ _ _ => trivial) (fun s event _ _ manned => ?_)
    (seeded hash limiter) trivial (manned_seeded hash)
  rw [AdminState.step_tables]
  exact manned_write manned _

/-- The first admin takes all roles from itself. -/
def givingUp : HttpRequest :=
  fromAdmin 1 (.setAdminRoles 1 (some (.object [(ascii "role_ids", .array [])])))

/-- The request is done, and nobody is left. -/
theorem giving_up_strands :
    ¬∀ before, before <+: [loginOf (ascii "admin"), .request givingUp] →
      Manned (after (AdminState.step smallConfig) smallServer before).tables := by
  intro always
  have stranded :
      ¬Manned (after (AdminState.step smallConfig) smallServer [loginOf (ascii "admin"), .request givingUp]).tables := by
    decide +kernel
  exact stranded (always _ List.prefix_rfl)

end NovaIIM
