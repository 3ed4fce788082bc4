import Mathlib.Data.List.Find
import NovaIIM.RoleIntegrity

/-!
The cache of `AuthMiddleware`.

Every handler that changes what a cached entry was read from drops the entry, with one
exception: `HandleCreateRole` sets the permissions of a role and drops nothing. The entries
stay in step with the tables (`Transparent`) exactly as long as that changes the permissions
of no admin in the cache (`Affected`).
-/
namespace NovaIIM
open RbacDao AdminHandlers

/-- An entry is what the tables say of its admin. -/
def RbacCacheEntry.Agrees (e : RbacCacheEntry) (t : AdminTables) : Prop :=
  (AdminAccountDao.findById e.adminId t).map Admin.status = some e.accountStatus ∧
    getUserPermissions e.adminId t = e.perms

instance (e : RbacCacheEntry) (t : AdminTables) : Decidable (e.Agrees t) := inferInstanceAs (Decidable (_ ∧ _))

/-- Every entry that has not expired agrees with the tables. -/
def Transparent (s : AdminState) : Prop := ∀ e ∈ s.rbacCache, s.steady < e.expiresAt → e.Agrees s.tables

instance (s : AdminState) : Decidable (Transparent s) := inferInstanceAs (Decidable (∀ e ∈ s.rbacCache, _))

/-- An admin has the role and loses or gains a permission, which no other of its roles has, when
    the role is given the permissions of the codes. -/
def Affected (t : AdminTables) (roleId : Int) (codes : List Bytes) (adminId : Int) : Prop :=
  Holds t adminId roleId ∧ ∃ p ∈ t.permissions.rows,
    (∀ r, r ≠ roleId → Holds t adminId r → ¬Grants t r p.id) ∧ (p.code ∈ codes ↔ ¬Grants t roleId p.id)

/-- The creation of a role affects an admin in the cache. -/
def Stales (c : AdminConfig) (s : AdminState) : AdminEvent → Prop
  | .purge _ => False
  | .request req => ∃ name description perms, s.command c (.request req) = .role name description (some perms) ∧
      ∃ e ∈ (authMiddleware c (s.wait req.elapsed) req).1.rbacCache, s.steady + req.elapsed < e.expiresAt ∧
        Affected s.tables (AdminWrite.target name description s.tables) perms e.adminId

/-- What is promised of the cache along a run: its entries agree with the tables, and every
    decision is the one that an empty cache would lead to. -/
structure CacheLaw (c : AdminConfig) (s : AdminState) (events : List AdminEvent) : Prop where
  coherent : ∀ before, before <+: events → Transparent (after (AdminState.step c) s before)
  fresh : ∀ before, before <+: events → ∀ req,
    (authMiddleware c ((after (AdminState.step c) s before).wait req.elapsed) req).2 =
      (authMiddleware c { (after (AdminState.step c) s before).wait req.elapsed with rbacCache := [] } req).2

/-! ### Permissions of an admin -/

variable {t t' : AdminTables}

/-- Permissions are listed by their codes, which tell them apart. -/
theorem mem_getUserPermissions {userId : Int} {p : Permission} (known : p ∈ t.permissions.rows) :
    p.code ∈ getUserPermissions userId t ↔ granted t userId p.id = true := by
  simp only [getUserPermissions, List.mem_map, List.mem_filter]
  constructor
  · rintro ⟨row, ⟨inside, has⟩, same⟩
    have : row = p := Table.eq_of_clash inside known (by simp [Row.clash, same])
    exact this ▸ has
  · exact fun has => ⟨p, ⟨known, has⟩, rfl⟩

/-- An admin has the same permissions under two states of the links exactly if each is granted in both. -/
theorem getUserPermissions_eq_iff {userId : Int} (permissions : t'.permissions = t.permissions) :
    getUserPermissions userId t' = getUserPermissions userId t ↔
      ∀ p ∈ t.permissions.rows, granted t' userId p.id = granted t userId p.id := by
  constructor
  · intro same p known
    rw [Bool.eq_iff_iff, ← mem_getUserPermissions known, ← same]
    exact (mem_getUserPermissions (permissions ▸ known)).symm
  · intro each
    rw [getUserPermissions, getUserPermissions, permissions]
    exact congrArg _ (List.filter_congr each)

/-- Setting the permissions of a role changes those of the affected admins, and of no others. -/
theorem getUserPermissions_setRolePermissions {userId roleId : Int} {codes : List Bytes} :
    getUserPermissions userId (setRolePermissions roleId codes t) = getUserPermissions userId t ↔
      ¬Affected t roleId codes userId := by
  have others := setRolePermissions_others roleId codes t
  rw [getUserPermissions_eq_iff others.permissions]
  have coded : ∀ p ∈ t.permissions.rows, Coded t codes p.id ↔ p.code ∈ codes := by
    intro p known
    constructor
    · rintro ⟨row, inside, same, named⟩
      have : row = p := Table.eq_of_id inside known same
      exact this ▸ named
    · exact fun named => ⟨p, known, rfl, named⟩
  have holds : ∀ r, Holds (setRolePermissions roleId codes t) userId r ↔ Holds t userId r :=
    fun r => by simp only [Holds, others.adminRoles]
  have granted : ∀ p, granted (setRolePermissions roleId codes t) userId p = granted t userId p ↔
      ((∃ r, Holds t userId r ∧ if r = roleId then Coded t codes p else Grants t r p) ↔
        ∃ r, Holds t userId r ∧ Grants t r p) := by
    intro p
    rw [Bool.eq_iff_iff, granted_iff, granted_iff]
    simp only [holds, grants_setRolePermissions]
  simp only [granted]
  constructor
  · rintro each ⟨held, p, known, alone, flips⟩
    have here := each p known
    rw [← coded p known] at flips
    grind
  · intro unaffected p known
    have flips : Holds t userId roleId → (∀ r, r ≠ roleId → Holds t userId r → ¬Grants t r p.id) →
        (Coded t codes p.id ↔ Grants t roleId p.id) := by
      intro held alone
      rw [coded p known]
      by_contra differ
      exact unaffected ⟨held, p, known, alone, by tauto⟩
    grind

/-! ### Entries -/

theorem Transparent.wait {s : AdminState} (coherent : Transparent s) (elapsed : Nat) : Transparent (s.wait elapsed) := by
  intro e inside live
  refine coherent e inside ?_
  have live' : s.steady + elapsed < e.expiresAt := live
  omega

theorem mem_store {cache : List RbacCacheEntry} {entry e : RbacCacheEntry} {now : Nat}
    (inside : e ∈ RbacCache.store cache entry now) : e = entry ∨ e ∈ cache := by
  simp only [RbacCache.store, List.mem_cons, List.mem_filter] at inside
  refine inside.imp id fun kept => ?_
  have there := kept.1
  split at there
  · exact there
  · split at there
    · exact (List.mem_filter.mp there).1
    · cases there

/-- What holds of every entry that has not expired holds of those a request finds behind the
    middleware, if it holds of an entry just read. -/
theorem entries_entered {P : RbacCacheEntry → AdminTables → Prop}
    (reads : ∀ t adminId admin expires, AdminAccountDao.findById adminId t = some admin →
      P ⟨adminId, getUserPermissions adminId t, admin.status, expires⟩ t)
    {c : AdminConfig} {s : AdminState} (holds : ∀ e ∈ s.rbacCache, s.steady < e.expiresAt → P e s.tables)
    (req : HttpRequest) :
    ∀ e ∈ (authMiddleware c (s.wait req.elapsed) req).1.rbacCache, s.steady + req.elapsed < e.expiresAt →
      P e s.tables := by
  have waited : ∀ e ∈ s.rbacCache, s.steady + req.elapsed < e.expiresAt → P e s.tables :=
    fun e inside live => holds e inside (by omega)
  unfold authMiddleware
  split
  · exact waited
  split
  · exact waited
  · rename_i adminId _
    unfold authorize
    split
    · exact waited
    · cases found : AdminAccountDao.findById adminId (s.wait req.elapsed).tables with
      | none => exact waited
      | some admin =>
        intro e inside live
        obtain rfl | old := mem_store inside
        · exact reads _ _ _ _ found
        · exact waited e old live

/-- A coherent cache leads to the decision that an empty one would. -/
theorem decision_fresh {c : AdminConfig} {s : AdminState} (coherent : Transparent s) (req : HttpRequest) :
    (authMiddleware c s req).2 = (authMiddleware c { s with rbacCache := [] } req).2 := by
  unfold authMiddleware
  split
  · rfl
  cases authenticate c s.tables req with
  | error e => rfl
  | ok adminId =>
    show (authorize s adminId).2 = (authorize { s with rbacCache := [] } adminId).2
    unfold authorize
    cases hit : (RbacCache.lookup s.rbacCache adminId).filter fun e => decide (s.steady < e.expiresAt) with
    | none =>
      dsimp only [RbacCache.lookup, List.find?_nil, Option.filter_none]
      cases AdminAccountDao.findById adminId s.tables <;> rfl
    | some e =>
      obtain ⟨found, live⟩ := Option.filter_eq_some_iff.mp hit
      have named : e.adminId = adminId := by simpa using List.find?_some found
      obtain ⟨status, perms⟩ := coherent e (List.mem_of_find?_eq_some found) (by simpa using live)
      obtain ⟨admin, known, same⟩ := Option.map_eq_some_iff.mp status
      rw [named] at known perms
      simp [RbacCache.lookup, known, perms, same]

/-! ### Writes -/

/-- The status of an account that a write leaves alone. -/
theorem findById_update {adminId : Int} {selected : Admin → Bool} {change : RowUpdate Admin}
    (same : ∀ a ∈ t.admins.rows, a.id = adminId → selected a = true → (change.apply a).status = a.status) :
    (AdminAccountDao.findById adminId { t with admins := t.admins.update selected change }).map Admin.status =
      (AdminAccountDao.findById adminId t).map Admin.status := by
  simp only [AdminAccountDao.findById, Table.rows_update, List.find?_map]
  have agree : ∀ a ∈ t.admins.rows, (if selected a = true then change.apply a else a).id = a.id ∧
      (a.id = adminId → (if selected a = true then change.apply a else a).status = a.status) := by
    intro a inside
    split
    · exact ⟨change.same_id a, fun here => same a inside here ‹_›⟩
    · exact ⟨rfl, fun _ => rfl⟩
  have found : t.admins.rows.find? ((fun a : Admin => decide (a.id = adminId) && decide (a.status ≠ .deleted)) ∘
        fun a => if selected a = true then change.apply a else a) =
      t.admins.rows.find? fun a => decide (a.id = adminId) && decide (a.status ≠ .deleted) := by
    refine List.find?_congr fun a inside => ?_
    obtain ⟨same_id, status⟩ := agree a inside
    by_cases here : a.id = adminId
    · simp only [Function.comp_apply, same_id, status here]
    · simp only [Function.comp_apply, same_id, here, decide_false, Bool.false_and]
  rw [found]
  cases hit : t.admins.rows.find? fun a => decide (a.id = adminId) && decide (a.status ≠ .deleted) with
  | none => rfl
  | some a =>
    have named := List.find?_some hit
    simp only [Bool.and_eq_true, decide_eq_true_eq] at named
    simp [(agree a (List.mem_of_find?_eq_some hit)).2 named.1]

/-- A write to the admins or the sessions leaves the permissions of everyone. -/
theorem getUserPermissions_same {userId : Int} (permissions : t'.permissions = t.permissions)
    (granted : t'.rolePermissions = t.rolePermissions) (held : t'.adminRoles = t.adminRoles) :
    getUserPermissions userId t' = getUserPermissions userId t := by
  simp only [getUserPermissions, RbacDao.granted, permissions, granted, held]

/-- Only a change of its status changes the status of an account that is there. -/
theorem status_write {adminId : Int} (known : (AdminAccountDao.findById adminId t).isSome) {write : AdminWrite}
    (other : ∀ value, write ≠ .status adminId value) :
    (AdminAccountDao.findById adminId (write.tables t)).map Admin.status =
      (AdminAccountDao.findById adminId t).map Admin.status := by
  cases write with
  | nothing | session | purge | dropRole => rfl
  | revoke tokenHash =>
    simp only [AdminWrite.tables, AdminSessionDao.revokeByTokenHash]
    split <;> rfl
  | account row =>
    obtain ⟨admin, found⟩ := Option.isSome_iff_exists.mp known
    have still : AdminAccountDao.findById adminId ((AdminWrite.account row).tables t) = some admin := by
      simp only [AdminWrite.tables, AdminAccountDao.insert, AdminAccountDao.findById, Table.rows_insert]
      split
      · exact found
      · rw [List.find?_append]
        exact congrArg (Option.or · _) found
    rw [still, found]
  | password id passwordHash =>
    simp only [AdminWrite.tables, AdminAccountDao.updatePassword]
    split
    · rfl
    · exact findById_update fun _ _ _ _ => rfl
  | status id value =>
    have away : adminId ≠ id := fun same => other value (by rw [same])
    simp only [AdminWrite.tables, AdminAccountDao.updateStatus]
    split
    · rfl
    · exact findById_update fun a _ here selected => absurd (here.symm.trans (of_decide_eq_true selected)) away
  | roles id roleIds =>
    simp only [AdminWrite.tables, AdminAccountDao.findById, (replaceRoles_others id roleIds t).admins]
  | role name description perms =>
    cases perms with
    | none => rfl
    | some perms => simp only [AdminWrite.tables, AdminAccountDao.findById, (setRolePermissions_others _ perms _).admins,
        createRole]
  | rights id description perms =>
    cases description <;> cases perms <;>
      simp only [AdminWrite.tables, AdminAccountDao.findById, Option.elim, (setRolePermissions_others _ _ _).admins,
        updateRole]

/-- An entry that a write does not drop is of an account whose status the write leaves alone. -/
theorem status_kept {e : RbacCacheEntry}
    (status : (AdminAccountDao.findById e.adminId t).map Admin.status = some e.accountStatus)
    {write : AdminWrite} {cache : List RbacCacheEntry} (kept : e ∈ write.cache cache) :
    (AdminAccountDao.findById e.adminId (write.tables t)).map Admin.status = some e.accountStatus := by
  obtain ⟨admin, found, -⟩ := Option.map_eq_some_iff.mp status
  refine (status_write (by simp [found]) fun value same => ?_).trans status
  rw [same] at kept
  have away : e.adminId ≠ e.adminId := by simpa using (List.mem_filter.mp kept).2
  exact away rfl

/-- An entry that a write does not drop agrees with the tables it leaves, unless the write sets
    the permissions of a new role. -/
theorem agrees_write {e : RbacCacheEntry} (agrees : e.Agrees t) {write : AdminWrite} {cache : List RbacCacheEntry}
    (kept : e ∈ write.cache cache) (other : ∀ name description perms, write ≠ .role name description (some perms)) :
    e.Agrees (write.tables t) := by
  refine ⟨status_kept agrees.1 kept, Eq.trans ?_ agrees.2⟩
  cases write with
  | nothing | session | purge | account => exact getUserPermissions_same rfl rfl rfl
  | revoke tokenHash =>
    simp only [AdminWrite.tables, AdminSessionDao.revokeByTokenHash]
    split <;> exact getUserPermissions_same rfl rfl rfl
  | password id passwordHash =>
    simp only [AdminWrite.tables, AdminAccountDao.updatePassword]
    split <;> exact getUserPermissions_same rfl rfl rfl
  | status id value =>
    simp only [AdminWrite.tables, AdminAccountDao.updateStatus]
    split <;> exact getUserPermissions_same rfl rfl rfl
  | roles id roleIds =>
    have away : e.adminId ≠ id := by simpa using (List.mem_filter.mp kept).2
    have others := replaceRoles_others id roleIds t
    refine (getUserPermissions_eq_iff others.permissions).mpr fun p _ => ?_
    rw [Bool.eq_iff_iff, granted_iff, granted_iff]
    simp only [holds_replaceRoles, away, if_false, Grants, others.rolePermissions]
  | role name description perms =>
    cases perms with
    | none => exact getUserPermissions_same rfl rfl rfl
    | some perms => exact absurd rfl (other name description perms)
  | rights | dropRole => cases kept

/-- A write drops entries and adds none. -/
theorem AdminWrite.mem_cache {write : AdminWrite} {cache : List RbacCacheEntry} {e : RbacCacheEntry}
    (kept : e ∈ write.cache cache) : e ∈ cache := by
  cases write with
  | status | roles => exact (List.mem_filter.mp kept).1
  | rights | dropRole => cases kept
  | _ => exact kept

/-- An entry after the creation of a role with permissions. -/
theorem agrees_role {e : RbacCacheEntry} (agrees : e.Agrees t) {name description : Bytes} {perms : List Bytes} :
    e.Agrees ((AdminWrite.role name description (some perms)).tables t) ↔
      ¬Affected t (AdminWrite.target name description t) perms e.adminId := by
  have others := setRolePermissions_others (AdminWrite.target name description t) perms (createRole name description t).2
  have created : getUserPermissions e.adminId (createRole name description t).2 = e.perms := agrees.2
  have unaffected := @getUserPermissions_setRolePermissions (createRole name description t).2 e.adminId
    (AdminWrite.target name description t) perms
  rw [created] at unaffected
  refine Iff.trans ⟨And.right, fun perms => ⟨?_, perms⟩⟩ unaffected
  simp only [AdminWrite.tables, AdminAccountDao.findById, others.admins]
  exact agrees.1

/-! ### Runs -/

/-- A step keeps the cache in step with the tables exactly if it affects no admin in it. -/
theorem transparent_step {c : AdminConfig} {s : AdminState} (event : AdminEvent) (transparent : Transparent s) :
    Transparent (s.step c event) ↔ ¬Stales c s event := by
  cases event with
  | purge now => exact iff_of_true transparent id
  | request req =>
    obtain ⟨cache, steady⟩ := AdminState.step_cache c s req
    have agrees : ∀ e ∈ (authMiddleware c (s.wait req.elapsed) req).1.rbacCache,
        s.steady + req.elapsed < e.expiresAt → e.Agrees s.tables :=
      entries_entered (fun t adminId admin expires found => ⟨by simp [found], rfl⟩) transparent req
    by_cases role : ∃ name description perms, s.command c (.request req) = .role name description (some perms)
    · obtain ⟨name, description, perms, writes⟩ := role
      have stales : Stales c s (.request req) ↔
          ∃ e ∈ (authMiddleware c (s.wait req.elapsed) req).1.rbacCache, s.steady + req.elapsed < e.expiresAt ∧
            Affected s.tables (AdminWrite.target name description s.tables) perms e.adminId := by
        constructor
        · rintro ⟨_, _, _, same, rest⟩
          obtain ⟨rfl, rfl, ⟨⟩⟩ := AdminWrite.role.inj (same.symm.trans writes)
          exact rest
        · exact fun rest => ⟨name, description, perms, writes, rest⟩
      rw [stales, Transparent, cache, steady, AdminState.step_tables, writes]
      constructor
      · rintro still ⟨e, inside, live, affected⟩
        exact (agrees_role (agrees e inside live)).mp (still e inside live) affected
      · intro unaffected e inside live
        exact (agrees_role (agrees e inside live)).mpr fun affected => unaffected ⟨e, inside, live, affected⟩
    · refine iff_of_true (fun e inside live => ?_) fun stales => ?_
      · rw [steady] at live
        rw [cache] at inside
        rw [AdminState.step_tables]
        exact agrees_write (agrees e (AdminWrite.mem_cache inside) live) inside
          fun name description perms writes => role ⟨name, description, perms, writes⟩
      · obtain ⟨name, description, perms, writes, -⟩ := stales
        exact role ⟨name, description, perms, writes⟩

/-- In every run of a server that has just started, the entries of the cache agree with the tables
    and every decision is made as if afresh, exactly if no creation of a role affects an admin in
    the cache. -/
theorem cache_transparent (c : AdminConfig) (tables : AdminTables) (limiter : RateLimiter) (events : List AdminEvent) :
    CacheLaw c { tables := tables, loginLimiter := limiter } events ↔
      Along (AdminState.step c) (fun s event => ¬Stales c s event) { tables := tables, loginLimiter := limiter } events := by
  have exactly := @prefixes_iff_along _ _ (AdminState.step c) (fun s event => ¬Stales c s event)
    (fun _ => True) Transparent events (fun _ _ _ _ => trivial) (fun _ event _ _ => transparent_step event)
    { tables := tables, loginLimiter := limiter } trivial (fun e inside => absurd inside List.not_mem_nil)
  rw [← exactly]
  exact ⟨CacheLaw.coherent, fun transparent => ⟨transparent, fun before short req =>
    decision_fresh ((transparent before short).wait req.elapsed) req⟩⟩

/-- The first admin creates a role with the name of its own: its permissions are the new ones,
    and the middleware still lets it through with the old ones. -/
theorem twin_role_stays_cached :
    ¬CacheLaw smallConfig smallServer [loginOf (ascii "admin"), .request twinRole] := by
  intro law
  exact absurd (law.fresh _ (List.prefix_refl _) (fromAdmin 1 .me)) (by decide +kernel)

end NovaIIM
