import NovaIIM.Dao

/-!
The user service (`service/user_service.cpp`): registering, logging in and out,
searching users, and profiles.

A login on a connection that is already logged in first ends the old session. A
successful login ends every session of the user on the same type of device, sets
the fields of the connection and enters it in the connection table.
-/
namespace NovaIIM.UserService
open Store

/-- `TrimInPlace`: blanks, tabs and line ends at both ends go. -/
def trim (s : Bytes) : Bytes :=
  let blank := fun c : UInt8 => c = 32 || c = 9 || c = 13 || c = 10
  ((s.dropWhile blank).reverse.dropWhile blank).reverse

/-- `EmailToLower`. -/
def emailToLower (email : Bytes) : Bytes :=
  email.map fun c => if 65 ≤ c && c ≤ 90 then c + 32 else c

/-- The device fields of a login, cut to their lengths and without control characters. -/
def deviceField (maxLen : Nat) (s : Bytes) : Bytes :=
  (s.take maxLen).filter fun c => !(c < 0x20 || c = 0x7F)

/-- `ContainsControlChars`. -/
def containsControlChars (s : Bytes) : Bool := s.any fun c => c < 0x20 || c = 0x7F

/-! ### Register -/

/-- `IsValidEmail`. -/
def isValidEmail (email : Bytes) : Bool :=
  match email.findIdx? (fun c => c = 64) with
  | none => false
  | some at_ =>
    if at_ = 0 ∨ at_ = email.length - 1 then false
    else match (email.drop (at_ + 1)).findIdx? (fun c => c = 46) with
    | none => false
    | some dot =>
      if dot = 0 ∨ at_ + 1 + dot = email.length - 1 then false
      else email.all fun c => !(c ≤ 0x20 || c = 0x7F)

/-- Why an email is turned away before the database sees it. -/
def emailError (email : Bytes) : Option Error :=
  if email.isEmpty then some errc.user.kEmailRequired
  else if 255 < email.length then some errc.user.kEmailTooLong
  else if !isValidEmail email then some errc.user.kEmailInvalid
  else none

/-- Why the other fields of a registration are turned away. -/
def registerError (nickname password : Bytes) : Option Error :=
  if nickname.isEmpty then some errc.user.kNicknameRequired
  else if 100 < nickname.length then some errc.user.kNicknameTooLong
  else if containsControlChars nickname then some errc.user.kNicknameInvalid
  else if password.length < 6 then some errc.user.kPasswordTooShort
  else if 128 < password.length then some errc.user.kPasswordTooLong
  else none

def registerAllow (key : Bytes) : Action Bool :=
  .step (fun w => { w with mem := { w.mem with
      registerLimiter := (w.mem.registerLimiter.allow key w.mem.steady).2 } })
    (fun _ => []) fun w => (w.mem.registerLimiter.allow key w.mem.steady).1

def recordRegister (key : Bytes) : Handler :=
  modify fun m => { m with registerLimiter := m.registerLimiter.recordFailure key m.steady }

/-- `ctx_.snowflake().NextIdStr()`. -/
def nextIdStr : Action Bytes :=
  .step (fun w => { w with mem := { w.mem with issued := w.mem.issued + 1 } })
    (fun _ => []) fun w => w.mem.snowflake w.mem.issued

def sendRegisterAck (conn : ConnId) (seq : UInt32) (e : Error) : Handler :=
  sendPacket conn .registerAck seq (.registerAck { code := e.code, msg := e.msg })

/-- Steps 6 and 7 of a registration. -/
def registerChecked (conn : ConnId) (seq : UInt32) (email nickname password : Bytes) : Handler := do
  let config ← peek fun m => m.config
  let hash := config.passwordHash password
  if hash.isEmpty then sendRegisterAck conn seq errc.user.kRegisterFailed
  else do
  let uid ← nextIdStr
  let inserted ← UserDao.insert { uid := uid, email := email, passwordHash := hash, nickname := nickname }
  if inserted.isSome then
    sendPacket conn .registerAck seq (.registerAck { code := errc.kOk.code, msg := errc.kOk.msg, uid := uid })
  else do
  -- another registration of the same email may have come first
  let known ← UserDao.findByEmail email
  if known.isSome then sendRegisterAck conn seq errc.user.kEmailAlreadyExists
  else sendRegisterAck conn seq errc.user.kRegisterFailed

/-- `UserService::HandleRegister`. -/
def handleRegister (conn : ConnId) (seq : UInt32) (body : Option RegisterReq) : Handler := do
  let reply := sendRegisterAck conn seq
  match body with
  | none => reply errc.kInvalidBody
  | some req => do
    let email := emailToLower (trim req.email)
    let allowed ← (if email.isEmpty then pure true else registerAllow email)
    if !allowed then reply errc.user.kRateLimited
    else match emailError email with
    | some e => reply e
    | none => do
      let known ← UserDao.findByEmail email
      if known.isSome then do
        recordRegister email
        reply errc.user.kEmailAlreadyExists
      else
      let nickname := trim req.nickname
      match registerError nickname req.password with
      | some e => reply e
      | none => registerChecked conn seq email nickname req.password

/-! ### Login and Logout -/

def sendLoginAck (conn : ConnId) (seq : UInt32) (e : Error) : Handler :=
  sendPacket conn .loginAck seq (.loginAck { code := e.code, msg := e.msg })

/-- A login that fails: the reply, then the connection is closed. -/
def refuse (conn : ConnId) (seq : UInt32) (e : Error) : Handler := do
  sendLoginAck conn seq e
  close conn

/-- The fields of a connection are set. -/
def setConnection (conn : ConnId) (fields : Connection) : Handler :=
  modify fun m => { m with connections := Function.update m.connections conn fields }

/-- `ctx_.conn_manager().Remove(userId, conn)`. -/
def removeConn (userId : Int) (conn : ConnId) : Handler :=
  modify fun m => { m with connManager := m.connManager.remove userId conn }

/-- `ctx_.conn_manager().Add(userId, conn)`; the connections it drops are closed. -/
def addConn (userId : Int) (conn : ConnId) : Handler := do
  let dropped ← Prog.step
    (fun w : World => { w with mem := { w.mem with
      connManager := (w.mem.connManager.add (fun c => (w.mem.connections c).deviceId) userId conn).1 } })
    (fun _ => [])
    fun w => (w.mem.connManager.add (fun c => (w.mem.connections c).deviceId) userId conn).2
  .forEach dropped close

def limiterAllow (key : Bytes) : Action Bool :=
  .step (fun w => { w with mem := { w.mem with
      loginLimiter := (w.mem.loginLimiter.allow key w.mem.steady).2 } })
    (fun _ => []) fun w => (w.mem.loginLimiter.allow key w.mem.steady).1

def recordFailure (key : Bytes) : Handler :=
  modify fun m => { m with loginLimiter := m.loginLimiter.recordFailure key m.steady }

def resetLimiter (key : Bytes) : Handler :=
  modify fun m => { m with loginLimiter := m.loginLimiter.reset key }

/-- Sessions of the user on the same type of device end. -/
def kickSameType (userId : Int) (deviceType : Bytes) : Handler :=
  if deviceType.isEmpty then return ()
  else do
    let oldConns ← getConns userId
    .forEach oldConns fun old => do
      let fields ← connection old
      if fields.deviceType = deviceType then do
        sendPacket old .kickNotify 0
          (.rspBase ⟨errc.kick.kSameDeviceTypeRelogin.code, errc.kick.kSameDeviceTypeRelogin.msg⟩)
        removeConn userId old
        close old
      else return ()

/-- Steps 7 to 10 of a login: the session begins. -/
def beginSession (conn : ConnId) (seq : UInt32) (user : User) (deviceId deviceType : Bytes) : Handler := do
  setConnection conn { userId := user.id, uid := user.uid, deviceId := deviceId, deviceType := deviceType }
  addConn user.id conn
  (if deviceId.isEmpty then return () else UserDao.upsertDevice user.uid deviceId deviceType)
  sendPacket conn .loginAck seq
    (.loginAck
      { code := errc.kOk.code, msg := errc.kOk.msg, uid := user.uid, nickname := user.nickname,
        avatar := user.avatar })

/-- The session a connection has is ended before a new login on it. -/
def endSession (conn : ConnId) : Handler := do
  let me ← connection conn
  if me.userId = 0 then return ()
  else do
    removeConn me.userId conn
    setConnection conn {}

/-- The login of a user whose password was right. -/
def loginVerified (conn : ConnId) (seq : UInt32) (user : User) (deviceId deviceType : Bytes) : Handler := do
  let mem ← peek id
  let deviceOf := fun c => (mem.connections c).deviceId
  if !deviceId.isEmpty ∧ (mem.connManager.getConn deviceOf user.id deviceId).isSome then
    refuse conn seq errc.user.kAlreadyLoggedIn
  else do
    kickSameType user.id deviceType
    beginSession conn seq user deviceId deviceType

/-- The login behind the checks of the request: rate limit, account and password. -/
def loginChecked (conn : ConnId) (seq : UInt32) (req : LoginReq) : Handler := do
  let email := emailToLower (trim req.email)
  let allowed ← limiterAllow email
  if !allowed then refuse conn seq errc.user.kRateLimited
  else do
  let user ← UserDao.findByEmail email
  match user with
  | none => do
    recordFailure email
    refuse conn seq errc.user.kInvalidCredentials
  | some user =>
    if user.status = .banned then do
      recordFailure email
      refuse conn seq errc.user.kInvalidCredentials
    else do
    let config ← peek fun m => m.config
    if !config.passwordVerify req.password user.passwordHash then do
      recordFailure email
      refuse conn seq errc.user.kInvalidCredentials
    else do
    resetLimiter email
    loginVerified conn seq user (deviceField 128 req.deviceId) (deviceField 64 req.deviceType)

/-- `UserService::HandleLogin`. -/
def handleLogin (conn : ConnId) (seq : UInt32) (body : Option LoginReq) : Handler := do
  endSession conn
  match body with
  | none => refuse conn seq errc.kInvalidBody
  | some req =>
    if req.email.isEmpty then refuse conn seq errc.user.kEmailRequired
    else if req.password.isEmpty then refuse conn seq errc.user.kPasswordRequired
    else loginChecked conn seq req

/-- `UserService::HandleLogout`. -/
def handleLogout (conn : ConnId) (seq : UInt32) : Handler := do
  endSession conn
  sendPacket conn .logout seq (.rspBase ⟨errc.kOk.code, "goodbye"⟩)
  close conn

/-- `UserService::HandleHeartbeat`. -/
def handleHeartbeat (conn : ConnId) (seq : UInt32) : Handler := do
  let me ← connection conn
  if me.userId = 0 then sendRsp conn .heartbeatAck seq errc.kNotAuthenticated
  else sendRsp conn .heartbeatAck seq ⟨errc.kOk.code, ""⟩

/-! ### SearchUser and GetProfile -/

def sendSearchUserAck (conn : ConnId) (seq : UInt32) (ack : SearchUserAck) : Handler :=
  sendPacket conn .searchUserAck seq (.searchUserAck ack)

/-- `UserService::HandleSearchUser`: by email for a keyword with an `@`, else by nickname. -/
def handleSearchUser (conn : ConnId) (seq : UInt32) (body : Option SearchUserReq) : Handler := do
  let me ← connection conn
  let reply := fun e : Error => sendSearchUserAck conn seq { code := e.code, msg := e.msg }
  if me.userId = 0 then reply errc.kNotAuthenticated
  else match body with
  | none => reply errc.kInvalidBody
  | some req =>
    let keyword := trim req.keyword
    if keyword.isEmpty then reply errc.user.kSearchKeywordEmpty
    else if 255 < keyword.length then reply errc.user.kSearchKeywordTooLong
    else do
    let results ← (if 64 ∈ keyword then do
        let user ← UserDao.findByEmail (emailToLower keyword)
        return user.toList
      else UserDao.searchByNickname keyword 20)
    sendSearchUserAck conn seq
      { code := errc.kOk.code, msg := errc.kOk.msg,
        users := results.map fun u => { uid := u.uid, nickname := u.nickname, avatar := u.avatar } }

/-- `UserService::HandleGetProfile`; only one's own profile has the email. -/
def handleGetProfile (conn : ConnId) (seq : UInt32) (body : Option GetUserProfileReq) : Handler := do
  let me ← connection conn
  let reply := fun e : Error =>
    sendPacket conn .getUserProfileAck seq (.getUserProfileAck { code := e.code, msg := e.msg })
  if me.userId = 0 then reply errc.kNotAuthenticated
  else match body with
  | none => reply errc.kInvalidBody
  | some req => do
    let isSelf := req.targetUid.isEmpty || req.targetUid = me.uid
    let user ← UserDao.findByUid (if isSelf then me.uid else req.targetUid)
    match user with
    | none => reply errc.user.kUserNotFound
    | some user =>
      sendPacket conn .getUserProfileAck seq
        (.getUserProfileAck
          { code := errc.kOk.code, msg := errc.kOk.msg, uid := user.uid, nickname := user.nickname,
            avatar := user.avatar, email := if isSelf then user.email else [] })

/-! ### UpdateProfile -/

/-- Why an update of a profile is turned away before the database sees it. -/
def profileError (nickname avatar : Bytes) : Option Error :=
  if nickname = [] ∧ avatar = [] then some errc.user.kNothingToUpdate
  else if nickname ≠ [] ∧ 100 < nickname.length then some errc.user.kNicknameTooLong
  else if nickname ≠ [] ∧ containsControlChars nickname then some errc.user.kNicknameInvalid
  else if avatar ≠ [] ∧ 512 < avatar.length then some errc.user.kAvatarPathTooLong
  else none

/-- The end of an update: COMMIT and the reply. -/
def profileCommitted (conn : ConnId) (seq : UInt32) (dao : DaoFactory := sqliteDaoFactory) : Handler := do
  let committed ← dao.commit
  if !committed then abort (sendRsp conn .updateProfileAck seq errc.kDatabaseError) dao
  else sendRsp conn .updateProfileAck seq errc.kOk

/-- The avatar, and the file it names in place of the avatar files there are. -/
def updateAvatarFile (conn : ConnId) (seq : UInt32) (uid : Bytes) (user : User) (avatar fileHash : Bytes)
    (dao : DaoFactory := sqliteDaoFactory) : Handler := do
  let reply := sendRsp conn .updateProfileAck seq errc.user.kUpdateProfileFailed
  if avatar = [] then profileCommitted conn seq dao
  else do
  let updated ← UserDao.updateAvatar uid avatar
  if updated.isNone then abort reply dao
  else do
  -- the result is not looked at
  let _ ← FileDao.softDeleteByUserAndType user.id (ascii "avatar")
  let inserted ← FileDao.insert
    { userId := user.id, fileType := ascii "avatar", filePath := avatar, hash := fileHash }
  if !inserted then abort reply dao
  else profileCommitted conn seq dao

/-- The update behind its BEGIN. -/
def updateProfile (conn : ConnId) (seq : UInt32) (uid : Bytes) (user : User) (nickname avatar fileHash : Bytes)
    (dao : DaoFactory := sqliteDaoFactory) : Handler := do
  if nickname = [] then updateAvatarFile conn seq uid user avatar fileHash dao
  else do
  let updated ← UserDao.updateNickname uid nickname
  if updated.isNone then abort (sendRsp conn .updateProfileAck seq errc.user.kUpdateProfileFailed) dao
  else updateAvatarFile conn seq uid user avatar fileHash dao

/-- `UserService::HandleUpdateProfile`. -/
def handleUpdateProfile (conn : ConnId) (seq : UInt32) (body : Option UpdateProfileReq)
    (dao : DaoFactory := sqliteDaoFactory) : Handler := do
  let me ← connection conn
  let reply := sendRsp conn .updateProfileAck seq
  if me.userId = 0 then reply errc.kNotAuthenticated
  else match body with
  | none => reply errc.kInvalidBody
  | some req =>
    let nickname := trim req.nickname
    let avatar := trim req.avatar
    match profileError nickname avatar with
    | some e => reply e
    | none => do
      let user ← UserDao.findByUid me.uid
      match user with
      | none => reply errc.user.kUserNotFound
      | some user => do
        let begun ← dao.beginTransaction
        if !begun then reply errc.kDatabaseError
        else updateProfile conn seq me.uid user nickname avatar req.fileHash dao

/-- A request to the service, with the connection and the packet seq it came with. -/
inductive Request where
  | register (conn : ConnId) (seq : UInt32) (body : Option RegisterReq)
  | login (conn : ConnId) (seq : UInt32) (body : Option LoginReq)
  | logout (conn : ConnId) (seq : UInt32)
  | heartbeat (conn : ConnId) (seq : UInt32)
  | searchUser (conn : ConnId) (seq : UInt32) (body : Option SearchUserReq)
  | getProfile (conn : ConnId) (seq : UInt32) (body : Option GetUserProfileReq)
  | updateProfile (conn : ConnId) (seq : UInt32) (body : Option UpdateProfileReq)

def Request.conn : Request → ConnId
  | register conn .. | login conn .. | logout conn _ | heartbeat conn _ | searchUser conn ..
  | getProfile conn .. | updateProfile conn .. => conn

def handle : Request → Handler
  | .register conn seq body => handleRegister conn seq body
  | .login conn seq body => handleLogin conn seq body
  | .logout conn seq => handleLogout conn seq
  | .heartbeat conn seq => handleHeartbeat conn seq
  | .searchUser conn seq body => handleSearchUser conn seq body
  | .getProfile conn seq body => handleGetProfile conn seq body
  | .updateProfile conn seq body => handleUpdateProfile conn seq body

end NovaIIM.UserService
