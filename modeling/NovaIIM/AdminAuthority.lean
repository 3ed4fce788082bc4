import NovaIIM.PermissionText
import NovaIIM.TokenLife

/-!
By what right an admin acts.

A route asks for a permission (`Route.needs`), and the middleware takes the permissions of an
admin from its cache, where they may lie for 30 seconds. Whatever is answered or written on
such a route was asked for with a token that had not been revoked, by an account in good
standing at that moment, which held the permission by the tables no longer than 30 seconds
before (`admin_authorised`): the status of an account is never stale, and its permissions never
for longer.
-/
namespace NovaIIM
open RbacDao AdminHandlers

/-- The permission that a route asks for. -/
def Route.needs : Route → Option Bytes
  | healthz | login _ | logout | me => none
  | other permission => some permission
  | _ => some kManage

section Handlers
variable {c : AdminConfig} {s : AdminState} {who : Identity} {req : HttpRequest} {permission : Bytes}

theorem Route.not_exempt {route : Route} (needs : route.needs = some permission) : route.exempt = false := by
  cases route <;> first | rfl | cases needs

/-- Whoever lacks the permission of a route is refused. -/
theorem handle_denied (needs : req.route.needs = some permission) (lacks : who.hasPermission permission = false) :
    AdminHandlers.handle c s who req = (s, .error apiErr.kPermissionDenied) := by
  unfold AdminHandlers.handle
  cases route : req.route with
  | healthz | login | logout | me =>
    rw [route] at needs
    cases needs
  | other other =>
    rw [route] at needs
    cases needs
    simp [lacks]
  | _ =>
    rw [route] at needs
    cases needs
    simp [handleCreateAdmin, handleDeleteAdmin, handleResetAdminPassword, handleEnableAdmin, handleDisableAdmin, setStatus,
      handleSetAdminRoles, handleListRoles, handleCreateRole, handleUpdateRole, handleDeleteRole, handleListPermissions, lacks]

/-- No refusal of the middleware reads as success. -/
theorem rejected_code {e : ApiReply} (rejected : (authMiddleware c s req).2 = .reject e) : e ≠ jsonOk := by
  have refuses : ∀ {e : ApiReply}, e ∈ [apiErr.kBodyTooLarge, apiErr.kMissingToken, apiErr.kTokenExpired, apiErr.kTokenRevoked,
      apiErr.kAccountDisabled] → e ≠ jsonOk := by decide
  refine refuses ?_
  unfold authMiddleware at rejected
  split at rejected
  · cases rejected
  split at rejected
  · rename_i e' refused
    cases rejected
    unfold authenticate at refused
    grind
  · unfold authorize letIn at rejected
    grind

end Handlers

/-! ### Where an entry comes from -/

/-- An entry was read from the tables for some request of a run, and expires 30 seconds after it. -/
def ReadIn (c : AdminConfig) (start : AdminState) (events : List AdminEvent) (e : RbacCacheEntry) : Prop :=
  ∃ sofar asking rest, events = sofar ++ .request asking :: rest ∧
    e.perms = getUserPermissions e.adminId (after (AdminState.step c) start sofar).tables ∧
    e.expiresAt = (after (AdminState.step c) start sofar).steady + asking.elapsed + kRbacCacheTtl

section History
variable {c : AdminConfig} {start s : AdminState} {events : List AdminEvent} {req : HttpRequest} {e : RbacCacheEntry}

theorem ReadIn.later (read : ReadIn c start events e) (event : AdminEvent) : ReadIn c start (events ++ [event]) e := by
  obtain ⟨sofar, asking, rest, rfl, perms, expires⟩ := read
  exact ⟨sofar, asking, rest ++ [event], by simp, perms, expires⟩

/-- An entry behind the middleware was there before, or was read just now. -/
theorem entry_entered (inside : e ∈ (authMiddleware c s req).1.rbacCache) :
    e ∈ s.rbacCache ∨ e.perms = getUserPermissions e.adminId s.tables ∧ e.expiresAt = s.steady + kRbacCacheTtl := by
  unfold authMiddleware at inside
  split at inside
  · exact .inl inside
  split at inside
  · exact .inl inside
  · unfold authorize at inside
    split at inside
    · exact .inl inside
    split at inside
    · exact .inl inside
    · rcases mem_store inside with rfl | old
      · exact .inr ⟨rfl, rfl⟩
      · exact .inl old

/-- Every entry of a run that begins with an empty cache was read in it. -/
theorem entries_read (empty : start.rbacCache = []) (events : List AdminEvent) :
    ∀ e ∈ (after (AdminState.step c) start events).rbacCache, ReadIn c start events e := by
  induction events using List.reverseRecOn with
  | nil => simp [empty]
  | append_singleton events last ih =>
    intro e inside
    rw [after_snoc] at inside
    cases last with
    | purge now => exact (ih e inside).later _
    | request req =>
      rw [(AdminState.step_cache c _ req).1] at inside
      rcases entry_entered (AdminWrite.mem_cache inside) with old | ⟨perms, expires⟩
      · exact (ih e old).later _
      · exact ⟨events, req, [], rfl, perms, expires⟩

end History

/-! ### Who is let in -/

/-- By what right a request is served at the end of a run: by a token that is valid and not revoked, of an account in good
    standing, which had the permission when some request was looked at that is no older than 30 seconds. -/
structure Authority (c : AdminConfig) (start : AdminState) (events : List AdminEvent) (req : HttpRequest) (permission : Bytes)
    (adminId : Int) : Prop where
  token : ∃ token claims, bearer req.authorization = some token ∧ JwtUtils.verify c token req.readings.now = some claims ∧
    claims.adminId = adminId ∧ AdminSessionDao.isRevoked (c.sha256Hex token) (after (AdminState.step c) start events).tables = false
  standing : (AdminAccountDao.findById adminId (after (AdminState.step c) start events).tables).map Admin.status = some .normal
  permitted : ∃ sofar asking rest, events ++ [.request req] = sofar ++ .request asking :: rest ∧
    permission ∈ getUserPermissions adminId (after (AdminState.step c) start sofar).tables ∧
    (after (AdminState.step c) start events).steady + req.elapsed <
      (after (AdminState.step c) start sofar).steady + asking.elapsed + kRbacCacheTtl

theorem authenticated {c : AdminConfig} {t : AdminTables} {req : HttpRequest} {adminId : Int}
    (known : authenticate c t req = .ok adminId) :
    ∃ token claims, bearer req.authorization = some token ∧ JwtUtils.verify c token req.readings.now = some claims ∧
      claims.adminId = adminId ∧ AdminSessionDao.isRevoked (c.sha256Hex token) t = false := by
  unfold authenticate at known
  split at known
  · cases known
  split at known
  · cases known
  · rename_i token carried
    split at known
    · cases known
    · rename_i claims verified
      split at known
      · cases known
      split at known
      · cases known
      · rename_i unrevoked
        cases known
        exact ⟨token, claims, carried, verified, rfl, by simpa using unrevoked⟩

/-- An account that is let in is in good standing. -/
theorem letIn_normal {adminId : Int} {status : AccountStatus} {perms : List Bytes} {identity : Identity}
    (passed : letIn adminId status perms = .next identity) : status = .normal := by
  unfold letIn at passed
  cases status <;> first | rfl | cases passed

theorem authorize_normal {s : AdminState} (cached : StatusCached s) {adminId : Int} {who : Identity}
    (passed : (authorize s adminId).2 = .next who) :
    (AdminAccountDao.findById adminId s.tables).map Admin.status = some .normal := by
  unfold authorize at passed
  split at passed
  · rename_i e hit
    obtain ⟨found, live⟩ := Option.filter_eq_some_iff.mp hit
    have named : e.adminId = adminId := by simpa using List.find?_some found
    have status := cached e (List.mem_of_find?_eq_some found) (of_decide_eq_true live)
    rw [named, letIn_normal passed] at status
    exact status
  · split at passed
    · cases passed
    · rename_i admin found
      rw [found, Option.map_some, letIn_normal passed]

section Runs
variable {c : AdminConfig} {hash : Bytes} {limiter : RateLimiter} {events : List AdminEvent} {req : HttpRequest} {permission : Bytes}

/-- Whoever comes through the middleware with a permission has it by right. -/
theorem passed_authority (closed : req.route.exempt = false) {who : Identity}
    (passed : (authMiddleware c ((after (AdminState.step c) (seeded hash limiter) events).wait req.elapsed) req).2 = .next who)
    (granted : who.hasPermission permission = true) : Authority c (seeded hash limiter) events req permission who.adminId := by
  have separable : SeparableState (after (AdminState.step c) (seeded hash limiter) events) :=
    @after_invariant_always _ _ (AdminState.step c) SeparableState (fun _ event now => separable_step now event) _
      (separable_seeded hash limiter) events
  have cached : StatusCached (after (AdminState.step c) (seeded hash limiter) events) :=
    @after_invariant_always _ _ (AdminState.step c) StatusCached (fun _ event now => statusCached_step now event) _
      (fun e inside => absurd inside List.not_mem_nil) events
  have read : ∀ e ∈ (after (AdminState.step c) (seeded hash limiter) events).rbacCache, ReadIn c (seeded hash limiter) events e :=
    entries_read rfl events
  have waits : ∀ {e : RbacCacheEntry}, (after (AdminState.step c) (seeded hash limiter) events).steady + req.elapsed < e.expiresAt →
      (after (AdminState.step c) (seeded hash limiter) events).steady < e.expiresAt := fun live =>
    Nat.lt_of_le_of_lt (Nat.le_add_right _ _) live
  unfold authMiddleware at passed
  rw [closed, if_neg (by decide)] at passed
  split at passed
  · cases passed
  rename_i adminId known
  obtain ⟨named, mine⟩ := authorize_permissions (s := (after (AdminState.step c) (seeded hash limiter) events).wait req.elapsed)
    ⟨separable.stored, fun e inside live => separable.cached e inside (waits live)⟩ passed permission
  rw [named]
  have current : StatusCached ((after (AdminState.step c) (seeded hash limiter) events).wait req.elapsed) := fun e inside live =>
    cached e inside (waits live)
  refine ⟨authenticated known, authorize_normal current passed, ?_⟩
  have held := mine.mp granted
  unfold AdminState.permsOf at held
  cases hit : (RbacCache.lookup ((after (AdminState.step c) (seeded hash limiter) events).wait req.elapsed).rbacCache adminId).filter
      fun e => ((after (AdminState.step c) (seeded hash limiter) events).wait req.elapsed).steady < e.expiresAt with
  | none =>
    rw [hit] at held
    refine ⟨events, req, [], rfl, held, ?_⟩
    exact Nat.lt_add_of_pos_right (by decide)
  | some e =>
    rw [hit] at held
    obtain ⟨found, live⟩ := Option.filter_eq_some_iff.mp hit
    have here : e.adminId = adminId := by simpa using List.find?_some found
    obtain ⟨sofar, asking, rest, run, perms, expires⟩ := read e (List.mem_of_find?_eq_some found)
    refine ⟨sofar, asking, rest ++ [.request req], by rw [run]; simp, ?_, ?_⟩
    · rw [← here, ← perms]
      exact held
    · rw [← expires]
      exact of_decide_eq_true live

/-- In every run of the admin server from the first rows, whatever is answered or written on a route that asks for a permission
    is done by right: for an account in good standing, by a token that is not revoked, with a permission that the account held
    by the tables at most 30 seconds before. -/
theorem admin_authorised (needs : req.route.needs = some permission)
    (done : (∃ data, ((after (AdminState.step c) (seeded hash limiter) events).serve c req).2 = .ok data) ∨
      ((after (AdminState.step c) (seeded hash limiter) events).step c (.request req)).tables ≠
        (after (AdminState.step c) (seeded hash limiter) events).tables) :
    ∃ adminId, Authority c (seeded hash limiter) events req permission adminId := by
  have kept := (AdminState.authMiddleware_tables c ((after (AdminState.step c) (seeded hash limiter) events).wait req.elapsed) req).1
  have authority := @passed_authority c hash limiter events req permission (Route.not_exempt needs)
  generalize after (AdminState.step c) (seeded hash limiter) events = s at done kept authority
  simp only [AdminState.step, AdminState.serve] at done
  cases is : authMiddleware c (s.wait req.elapsed) req with
  | mk s' decision =>
    rw [is] at done kept authority
    cases decision with
    | reject e =>
      exfalso
      have code : e ≠ jsonOk := @rejected_code c (s.wait req.elapsed) req e (by rw [is])
      rcases done with ⟨data, replied⟩ | changed
      · exact code (HttpReply.json.inj replied).1
      · exact changed kept
    | next who =>
      cases granted : who.hasPermission permission with
      | true => exact ⟨who.adminId, authority rfl granted⟩
      | false =>
        exfalso
        dsimp only at done
        rw [handle_denied needs granted] at done
        rcases done with ⟨data, replied⟩ | changed
        · cases replied
        · exact changed kept

end Runs

theorem admin_authorised_role : ∃ adminId, Authority smallConfig smallServer [loginOf (ascii "admin")] twinRole kManage adminId :=
  @admin_authorised smallConfig (ascii "secret") { maxAttempts := 5, window := 60000000000 } [loginOf (ascii "admin")] twinRole kManage
    rfl (.inl ⟨.id 1, by decide +kernel⟩)

end NovaIIM
