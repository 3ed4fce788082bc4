import NovaIIM.AdminServer
import NovaIIM.AdminTables
import NovaIIM.Json
import NovaIIM.RateLimiter

/-!
The accounts, roles and tokens of administrators (`admin/admin_server.cpp`,
`admin/jwt_utils.cpp`, `admin/http_helper.h`).

The HTTP server has one thread, so a request is a function of the state. It first goes
through `authMiddleware`, which leaves the id and the permissions of the caller in two
headers, and then to the handler of its route. The readings of the wall clock come with
the request; the steady clock goes on between two requests.
-/
namespace NovaIIM

namespace apiErr
def kBodyTooLarge : ApiReply := ⟨1, "request body too large", 413⟩
def kInvalidParam : ApiReply := ⟨1, "invalid parameter", 400⟩
def kMissingToken : ApiReply := ⟨2, "missing or invalid token", 401⟩
def kTokenExpired : ApiReply := ⟨2, "invalid or expired token", 401⟩
def kTokenRevoked : ApiReply := ⟨2, "token has been revoked", 401⟩
def kInvalidCredentials : ApiReply := ⟨2, "invalid credentials", 401⟩
def kNotAuthenticated : ApiReply := ⟨2, "not authenticated", 401⟩
def kRateLimited : ApiReply := ⟨3, "too many login attempts, try again later", 429⟩
def kAccountDisabled : ApiReply := ⟨3, "account is disabled", 403⟩
def kNoAdminAccess : ApiReply := ⟨3, "no admin access", 403⟩
def kUidPasswordRequired : ApiReply := ⟨1, "uid and password required", 400⟩
def kUidPasswordStrings : ApiReply := ⟨1, "uid and password must be strings", 400⟩
def kUidAlreadyExists : ApiReply := ⟨1, "uid already exists", 409⟩
def kPasswordTooShort : ApiReply := ⟨1, "password must be at least 6 characters", 400⟩
def kPasswordTooLong : ApiReply := ⟨1, "password must be at most 128 characters", 400⟩
def kNewPasswordRequired : ApiReply := ⟨1, "new_password required", 400⟩
def kNewPasswordString : ApiReply := ⟨1, "new_password must be a string", 400⟩
def kAdminNotFound : ApiReply := ⟨4, "admin not found", 200⟩
def kHashFailed : ApiReply := ⟨5, "failed to hash password", 500⟩
def kSignTokenFailed : ApiReply := ⟨5, "failed to sign token", 500⟩
def kDatabaseError : ApiReply := ⟨5, "database error", 500⟩
end apiErr

/-- What a reply carries besides its code. -/
inductive ReplyData where
  | nothing
  | token (token : Bytes) (expiresIn : Int)
  | id (id : Int)
  | me (admin : Admin) (permissions : List Bytes)
  | roles (roles : List RbacDao.RoleWithPermissions)
  | permissions (codes : List Bytes)
deriving DecidableEq, Repr

/-- A reply, or an exception that leaves the handler. -/
inductive HttpReply where
  | json (reply : ApiReply) (data : ReplyData)
  | raised
deriving DecidableEq, Repr

def HttpReply.error (e : ApiReply) : HttpReply := .json e .nothing
def HttpReply.ok (data : ReplyData) : HttpReply := .json jsonOk data

/-! ### Tokens -/

structure JwtClaims where
  adminId : Int
  iat : Int
  exp : Int
deriving DecidableEq, Repr

/-- The functions of the libraries, and the options of the server. -/
structure AdminConfig where
  /-- `l8w8jwt_encode` for a subject, an issue time and an expiry -/
  encode : Int → Int → Int → Bytes
  /-- `l8w8jwt_decode` of a token with a valid signature and issuer -/
  decode : Bytes → Option JwtClaims
  sha256Hex : Bytes → Bytes
  hash : Bytes → Bytes
  verify : Bytes → Bytes → Bool
  jwtExpires : Int

namespace JwtUtils

def kTolerance : Int := 5

/-- `JwtUtils::Verify` at a reading of the clock. -/
def verify (c : AdminConfig) (token : Bytes) (now : Int) : Option JwtClaims :=
  match c.decode token with
  | none => none
  | some claims =>
    if claims.exp < now - kTolerance ∨ now + kTolerance < claims.iat ∨ claims.adminId = 0 then none
    else some claims

/-- `JwtUtils::Sign`, which reads the clock twice. -/
def sign (c : AdminConfig) (adminId issued expires : Int) : Bytes :=
  c.encode adminId issued (expires + c.jwtExpires)

end JwtUtils

/-! ### State and requests -/

structure RbacCacheEntry where
  adminId : Int
  perms : List Bytes
  accountStatus : AccountStatus
  expiresAt : Nat
deriving DecidableEq, Repr

/-- The state of the admin server; the cache has one entry for each admin. -/
structure AdminState where
  tables : AdminTables
  rbacCache : List RbacCacheEntry := []
  loginLimiter : RateLimiter
  steady : Nat := 0

/-- A route with its path parameter and its parsed body. The routes to users, messages,
    statistics, audit logs and the list of admins write none of the tables here. -/
inductive Route where
  | healthz
  | login (body : Option Json)
  | logout
  | me
  | createAdmin (body : Option Json)
  | deleteAdmin (id : Int)
  | resetAdminPassword (id : Int) (body : Option Json)
  | enableAdmin (id : Int)
  | disableAdmin (id : Int)
  | setAdminRoles (id : Int) (body : Option Json)
  | listRoles
  | createRole (body : Option Json)
  | updateRole (id : Int) (body : Option Json)
  | deleteRole (id : Int)
  | listPermissions
  | other (permission : Bytes)

/-- The readings of the wall clock, in seconds: when a token is verified, and when one is
    issued, given its expiry and stored. -/
structure Readings where
  now : Int
  issued : Int := now
  expires : Int := now
  stored : Int := now
deriving DecidableEq, Repr

structure HttpRequest where
  route : Route
  bodySize : Nat := 0
  authorization : Bytes := []
  clientIp : Bytes := []
  readings : Readings
  /-- how far the steady clock has moved since the request before -/
  elapsed : Nat := 0

/-- What `AuthMiddleware` leaves in `X-Nova-Admin-Id` and `X-Nova-Permissions`. -/
structure Identity where
  adminId : Int := 0
  permissions : Bytes := []
deriving DecidableEq, Repr

inductive Decision where
  | next (identity : Identity)
  | reject (e : ApiReply)
deriving DecidableEq, Repr

/-- `std::string::find` of a character. -/
def AdminServer.findFrom (s : Bytes) (c : UInt8) (pos : Nat) : Option Nat :=
  ((s.drop pos).findIdx? fun b => b = c).map fun i => pos + i

/-- The loop of `HasPermission` from a position on, within a number of rounds. -/
def scanPermissions (perms perm : Bytes) : Nat → Nat → Option Bool
  | 0, _ => none
  | rounds + 1, start =>
    if start < perms.length then
      let end_ := (AdminServer.findFrom perms 44 start).getD perms.length
      if (perms.drop start).take (end_ - start) = perm then some true
      else scanPermissions perms perm rounds (end_ + 1)
    else some false

/-- `HasPermission` of a request. Each round of its loop goes on behind the position it is at, so the
    rounds are enough (`scanPermissions_ends`). -/
def Identity.hasPermission (identity : Identity) (perm : Bytes) : Bool :=
  if identity.permissions.isEmpty then false
  else (scanPermissions identity.permissions perm (identity.permissions.length + 1) 0).getD false

/-! ### The middleware -/

def kAdminMaxBodySize : Nat := 1048576

/-- 30 seconds, in nanoseconds. -/
def kRbacCacheTtl : Nat := 30000000000

def kRbacCacheMaxSize : Nat := 1024

/-- The token behind `Bearer `. -/
def bearer (authorization : Bytes) : Option Bytes :=
  if authorization.length ≤ 7 ∨ authorization.take 7 ≠ ascii "Bearer " then none
  else some (authorization.drop 7)

namespace RbacCache

def lookup (cache : List RbacCacheEntry) (adminId : Int) : Option RbacCacheEntry :=
  cache.find? fun e => e.adminId = adminId

/-- An entry goes in; a full cache first drops what has expired, or all of it. -/
def store (cache : List RbacCacheEntry) (entry : RbacCacheEntry) (now : Nat) : List RbacCacheEntry :=
  let cache := if cache.length < kRbacCacheMaxSize then cache
    else
      let live := cache.filter fun e => now < e.expiresAt
      if live.length < kRbacCacheMaxSize then live else []
  entry :: cache.filter fun e => e.adminId ≠ entry.adminId

/-- `InvalidateRbacCache`. -/
def invalidate (cache : List RbacCacheEntry) (adminId : Int) : List RbacCacheEntry :=
  cache.filter fun e => e.adminId ≠ adminId

end RbacCache

def Route.exempt : Route → Bool
  | healthz | login _ => true
  | _ => false

/-- The loop of `AuthMiddleware` that puts the permissions into one text, with commas between them. -/
def joinPermissions (perms : List Bytes) : Bytes :=
  perms.zipIdx.foldl (fun text p => (if 0 < p.2 then text ++ [44] else text) ++ p.1) []

/-- The decision about an account, with the permissions it is let in with. -/
def letIn (adminId : Int) (status : AccountStatus) (perms : List Bytes) : Decision :=
  if status = .banned ∨ status = .deleted then .reject apiErr.kAccountDisabled
  else .next ⟨adminId, joinPermissions perms⟩

/-- Status and permissions of an admin, from the cache or else from the tables. -/
def authorize (s : AdminState) (adminId : Int) : AdminState × Decision :=
  match (RbacCache.lookup s.rbacCache adminId).filter fun e => s.steady < e.expiresAt with
  | some e => (s, letIn adminId e.accountStatus e.perms)
  | none =>
    match AdminAccountDao.findById adminId s.tables with
    | none => (s, .reject apiErr.kAccountDisabled)
    | some admin =>
      let perms := RbacDao.getUserPermissions adminId s.tables
      let entry := ⟨adminId, perms, admin.status, s.steady + kRbacCacheTtl⟩
      ({ s with rbacCache := RbacCache.store s.rbacCache entry s.steady }, letIn adminId admin.status perms)

/-- The admin that a request is from, by its token. -/
def authenticate (c : AdminConfig) (t : AdminTables) (req : HttpRequest) : Except ApiReply Int :=
  if kAdminMaxBodySize < req.bodySize then .error apiErr.kBodyTooLarge
  else match bearer req.authorization with
  | none => .error apiErr.kMissingToken
  | some token =>
    match JwtUtils.verify c token req.readings.now with
    | none => .error apiErr.kTokenExpired
    | some claims =>
      if claims.adminId ≤ 0 then .error apiErr.kTokenExpired
      else if AdminSessionDao.isRevoked (c.sha256Hex token) t then .error apiErr.kTokenRevoked
      else .ok claims.adminId

/-- `AdminServer::AuthMiddleware`. -/
def authMiddleware (c : AdminConfig) (s : AdminState) (req : HttpRequest) : AdminState × Decision :=
  if req.route.exempt then (s, .next {})
  else match authenticate c s.tables req with
  | .error e => (s, .reject e)
  | .ok adminId => authorize s adminId

/-! ### The handlers -/

namespace AdminHandlers

def kManage : Bytes := ascii "admin.manage"

/-- The session that a login stores. -/
def sessionOf (c : AdminConfig) (adminId : Int) (token : Bytes) (stored : Int) : AdminSession where
  adminId := adminId
  tokenHash := c.sha256Hex token
  expiresAt := Calendar.formatUtc (stored + c.jwtExpires)

/-- `AdminServer::HandleLogin`. -/
def handleLogin (c : AdminConfig) (s : AdminState) (req : HttpRequest) (body : Option Json) : AdminState × HttpReply :=
  if kAdminMaxBodySize < req.bodySize then (s, .error apiErr.kBodyTooLarge)
  else
  let allowed := s.loginLimiter.allow req.clientIp s.steady
  let s := { s with loginLimiter := allowed.2 }
  if !allowed.1 then (s, .error apiErr.kRateLimited)
  else match body.bind (Json.field (ascii "uid")), body.bind (Json.field (ascii "password")) with
  | some uid, some password =>
    match uid.string?, password.string? with
    | some uid, some password =>
      let failed := { s with loginLimiter := s.loginLimiter.recordFailure req.clientIp s.steady }
      match AdminAccountDao.findByUid uid s.tables with
      | none => (failed, .error apiErr.kInvalidCredentials)
      | some admin =>
        if !c.verify password admin.passwordHash then (failed, .error apiErr.kInvalidCredentials)
        else if admin.status ≠ .normal then (s, .error apiErr.kAccountDisabled)
        else if !RbacDao.hasPermission admin.id (ascii "admin.login") s.tables then (s, .error apiErr.kNoAdminAccess)
        else
        let s := { s with loginLimiter := s.loginLimiter.reset req.clientIp }
        let token := JwtUtils.sign c admin.id req.readings.issued req.readings.expires
        if token.isEmpty then (s, .error apiErr.kSignTokenFailed)
        else
        ({ s with tables := AdminSessionDao.insert (sessionOf c admin.id token req.readings.stored) s.tables },
          .ok (.token token c.jwtExpires))
    | _, _ => (s, .error apiErr.kUidPasswordStrings)
  | _, _ => (s, .error apiErr.kUidPasswordRequired)

/-- `AdminServer::HandleLogout`. -/
def handleLogout (c : AdminConfig) (s : AdminState) (req : HttpRequest) : AdminState × HttpReply :=
  if req.authorization.length ≤ 7 then (s, .error apiErr.kMissingToken)
  else
  let tokenHash := c.sha256Hex (req.authorization.drop 7)
  ({ s with tables := AdminSessionDao.revokeByTokenHash tokenHash s.tables }, .ok .nothing)

/-- `AdminServer::HandleMe`. -/
def handleMe (s : AdminState) (who : Identity) : AdminState × HttpReply :=
  if who.adminId = 0 then (s, .error apiErr.kNotAuthenticated)
  else match AdminAccountDao.findById who.adminId s.tables with
  | none => (s, .error apiErr.kAdminNotFound)
  | some admin => (s, .ok (.me admin (RbacDao.getUserPermissions who.adminId s.tables)))

/-- `AdminServer::HandleCreateAdmin`. -/
def handleCreateAdmin (c : AdminConfig) (s : AdminState) (who : Identity) (body : Option Json) : AdminState × HttpReply :=
  if !who.hasPermission kManage then (s, .error apiErr.kPermissionDenied)
  else match body with
  | none => (s, .error apiErr.kUidPasswordRequired)
  | some body =>
    if (body.field (ascii "uid")).isNone ∨ (body.field (ascii "password")).isNone then
      (s, .error apiErr.kUidPasswordRequired)
    else match body.value (ascii "uid") [], body.value (ascii "password") [], body.value (ascii "nickname") [] with
    | some uid, some password, some nickname =>
      let uid := UserService.trim uid
      let nickname := UserService.trim nickname
      if uid.isEmpty ∨ password.length < 6 then (s, .error apiErr.kInvalidParam)
      else if (AdminAccountDao.findByUid uid s.tables).isSome then (s, .error apiErr.kUidAlreadyExists)
      else
      let admin : Admin :=
        { uid := uid, passwordHash := c.hash password, nickname := if nickname.isEmpty then uid else nickname }
      match AdminAccountDao.insert admin s.tables with
      | (none, tables) => ({ s with tables := tables }, .error apiErr.kDatabaseError)
      | (some id, tables) => ({ s with tables := tables }, .ok (.id id))
    | _, _, _ => (s, .raised)

/-- The new status of an account, by `HandleDeleteAdmin`, `HandleEnableAdmin` and
    `HandleDisableAdmin`; the two that take rights away spare the caller and the first admin. -/
def setStatus (s : AdminState) (who : Identity) (id : Int) (status : AccountStatus) (spared : Bool) :
    AdminState × HttpReply :=
  if !who.hasPermission kManage then (s, .error apiErr.kPermissionDenied)
  else if id ≤ 0 then (s, .error apiErr.kInvalidParam)
  else if spared ∧ (id = 1 ∨ id = who.adminId) then (s, .error apiErr.kPermissionDenied)
  else match AdminAccountDao.updateStatus id status s.tables with
  | (false, _) => (s, .error apiErr.kAdminNotFound)
  | (true, tables) =>
    ({ s with tables := tables, rbacCache := RbacCache.invalidate s.rbacCache id }, .ok .nothing)

/-- `AdminServer::HandleDeleteAdmin`. -/
def handleDeleteAdmin (s : AdminState) (who : Identity) (id : Int) : AdminState × HttpReply :=
  setStatus s who id .deleted true

/-- `AdminServer::HandleEnableAdmin`. -/
def handleEnableAdmin (s : AdminState) (who : Identity) (id : Int) : AdminState × HttpReply :=
  setStatus s who id .normal false

/-- `AdminServer::HandleDisableAdmin`. -/
def handleDisableAdmin (s : AdminState) (who : Identity) (id : Int) : AdminState × HttpReply :=
  setStatus s who id .banned true

/-- `AdminServer::HandleResetAdminPassword`. -/
def handleResetAdminPassword (c : AdminConfig) (s : AdminState) (who : Identity) (id : Int) (body : Option Json) :
    AdminState × HttpReply :=
  if !who.hasPermission kManage then (s, .error apiErr.kPermissionDenied)
  else if id ≤ 0 then (s, .error apiErr.kInvalidParam)
  else match body.bind (Json.field (ascii "new_password")) with
  | none => (s, .error apiErr.kNewPasswordRequired)
  | some password =>
    match password.string? with
    | none => (s, .error apiErr.kNewPasswordString)
    | some password =>
      if password.length < 6 then (s, .error apiErr.kPasswordTooShort)
      else if 128 < password.length then (s, .error apiErr.kPasswordTooLong)
      else if (c.hash password).isEmpty then (s, .error apiErr.kHashFailed)
      else match AdminAccountDao.updatePassword id (c.hash password) s.tables with
      | (false, _) => (s, .error apiErr.kAdminNotFound)
      | (true, tables) => ({ s with tables := tables }, .ok .nothing)

/-- The two loops of `HandleSetAdminRoles`: the roles in the list of roles go, those asked for come. -/
def replaceRoles (id : Int) (roleIds : List Int) (t : AdminTables) : AdminTables :=
  let removed := (RbacDao.listRoles t).foldl (fun t r => RbacDao.removeAdminRole id r.id t) t
  roleIds.foldl (fun t roleId => RbacDao.assignAdminRole id roleId t) removed

/-- `AdminServer::HandleSetAdminRoles`. -/
def handleSetAdminRoles (s : AdminState) (who : Identity) (id : Int) (body : Option Json) : AdminState × HttpReply :=
  if !who.hasPermission kManage then (s, .error apiErr.kPermissionDenied)
  else if id ≤ 0 then (s, .error apiErr.kInvalidParam)
  else match (body.bind (Json.field (ascii "role_ids"))).bind Json.array? with
  | none => (s, .error apiErr.kInvalidParam)
  | some items =>
    if (AdminAccountDao.findById id s.tables).isNone then (s, .error apiErr.kAdminNotFound)
    else
    ({ s with
        tables := replaceRoles id (items.filterMap Json.int64?) s.tables
        rbacCache := RbacCache.invalidate s.rbacCache id },
      .ok .nothing)

/-- `AdminServer::HandleListRoles`. -/
def handleListRoles (s : AdminState) (who : Identity) : AdminState × HttpReply :=
  if !who.hasPermission kManage then (s, .error apiErr.kPermissionDenied)
  else (s, .ok (.roles (RbacDao.listRoles s.tables)))

/-- The id of the first role in the list with a name, 0 without one. -/
def roleNamed (name : Bytes) (t : AdminTables) : Int :=
  ((RbacDao.listRoles t).find? fun r => r.name = name).elim 0 RbacDao.RoleWithPermissions.id

/-- `AdminServer::HandleCreateRole`. -/
def handleCreateRole (s : AdminState) (who : Identity) (body : Option Json) : AdminState × HttpReply :=
  if !who.hasPermission kManage then (s, .error apiErr.kPermissionDenied)
  else match body with
  | none => (s, .error apiErr.kInvalidParam)
  | some body =>
    if (body.field (ascii "name")).isNone then (s, .error apiErr.kInvalidParam)
    else match body.value (ascii "name") [], body.value (ascii "description") [] with
    | some name, some description =>
      let name := UserService.trim name
      if name.isEmpty then (s, .error apiErr.kInvalidParam)
      else match RbacDao.createRole name description s.tables with
      | (false, tables) => ({ s with tables := tables }, .error apiErr.kDatabaseError)
      | (true, tables) =>
        let newRoleId := roleNamed name tables
        let tables := match body.strings? (ascii "permissions") with
          | some perms => if 0 < newRoleId then RbacDao.setRolePermissions newRoleId perms tables else tables
          | none => tables
        ({ s with tables := tables }, .ok (.id newRoleId))
    | _, _ => (s, .raised)

/-- `AdminServer::HandleUpdateRole`. -/
def handleUpdateRole (s : AdminState) (who : Identity) (id : Int) (body : Option Json) : AdminState × HttpReply :=
  if !who.hasPermission kManage then (s, .error apiErr.kPermissionDenied)
  else if id ≤ 0 then (s, .error apiErr.kInvalidParam)
  else match body with
  | none => (s, .error apiErr.kInvalidParam)
  | some body =>
    let tables := match (body.field (ascii "description")).bind Json.string? with
      | some description => RbacDao.updateRole id description s.tables
      | none => s.tables
    let tables := match body.strings? (ascii "permissions") with
      | some perms => RbacDao.setRolePermissions id perms tables
      | none => tables
    ({ s with tables := tables, rbacCache := [] }, .ok .nothing)

/-- `AdminServer::HandleDeleteRole`. -/
def handleDeleteRole (s : AdminState) (who : Identity) (id : Int) : AdminState × HttpReply :=
  if !who.hasPermission kManage then (s, .error apiErr.kPermissionDenied)
  else if id ≤ 0 then (s, .error apiErr.kInvalidParam)
  else ({ s with tables := RbacDao.deleteRole id s.tables, rbacCache := [] }, .ok .nothing)

/-- `AdminServer::HandleListPermissions`. -/
def handleListPermissions (s : AdminState) (who : Identity) : AdminState × HttpReply :=
  if !who.hasPermission kManage then (s, .error apiErr.kPermissionDenied)
  else (s, .ok (.permissions (RbacDao.listPermissions s.tables)))

/-- The handler of a route. -/
def handle (c : AdminConfig) (s : AdminState) (who : Identity) (req : HttpRequest) : AdminState × HttpReply :=
  match req.route with
  | .healthz => (s, .ok .nothing)
  | .login body => handleLogin c s req body
  | .logout => handleLogout c s req
  | .me => handleMe s who
  | .createAdmin body => handleCreateAdmin c s who body
  | .deleteAdmin id => handleDeleteAdmin s who id
  | .resetAdminPassword id body => handleResetAdminPassword c s who id body
  | .enableAdmin id => handleEnableAdmin s who id
  | .disableAdmin id => handleDisableAdmin s who id
  | .setAdminRoles id body => handleSetAdminRoles s who id body
  | .listRoles => handleListRoles s who
  | .createRole body => handleCreateRole s who body
  | .updateRole id body => handleUpdateRole s who id body
  | .deleteRole id => handleDeleteRole s who id
  | .listPermissions => handleListPermissions s who
  | .other permission =>
    (s, if who.hasPermission permission then .ok .nothing else .error apiErr.kPermissionDenied)

end AdminHandlers

namespace AdminState

/-- Time passes before a request. -/
def wait (s : AdminState) (elapsed : Nat) : AdminState := { s with steady := s.steady + elapsed }

/-- A request through the middleware and its handler. -/
def serve (c : AdminConfig) (s : AdminState) (req : HttpRequest) : AdminState × HttpReply :=
  match authMiddleware c (s.wait req.elapsed) req with
  | (s, .reject e) => (s, .error e)
  | (s, .next who) => AdminHandlers.handle c s who req

end AdminState

/-- A request, or a round of `SessionPurgerLoop` at a reading of the clock. -/
inductive AdminEvent where
  | request (req : HttpRequest)
  | purge (now : Int)

/-- One step of the admin server. -/
def AdminState.step (c : AdminConfig) (s : AdminState) : AdminEvent → AdminState
  | .request req => (s.serve c req).1
  | .purge now => { s with tables := AdminSessionDao.purgeExpired now s.tables }

end NovaIIM
