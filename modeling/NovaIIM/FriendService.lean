import NovaIIM.Dao

/-!
The friend service (`service/friend_service.cpp`): requests, their acceptance
and rejection, deleting, blocking and unblocking, and the two lists.

Acceptance and deletion run in a transaction whose deferred rollback comes after
the error reply; `accept` and `remove` are the parts of the two handlers behind
their BEGIN.
-/
namespace NovaIIM.FriendService
open Store

/-- `PushNotify`. -/
def pushNotify (targetUserId notifyType : Int) (sender : User) (remark : Bytes)
    (requestId conversationId : Int) : Handler :=
  sendToUser targetUserId
    { cmd := .friendNotify
      body := .friendNotify
        { notifyType := notifyType, fromUid := sender.uid, fromNickname := sender.nickname,
          fromAvatar := sender.avatar, remark := remark, requestId := requestId,
          conversationId := conversationId } }

/-- Notify a user on behalf of another, if that one still exists. -/
def notifyFrom (senderId targetUserId notifyType : Int) (remark : Bytes) (requestId conversationId : Int) :
    Handler := do
  let me ← UserDao.findById senderId
  match me with
  | some me => pushNotify targetUserId notifyType me remark requestId conversationId
  | none => return ()

def sendAddFriendAck (conn : ConnId) (seq : UInt32) (e : Error) (requestId : Int) : Handler :=
  sendPacket conn .addFriendAck seq (.addFriendAck { code := e.code, msg := e.msg, requestId := requestId })

/-- `FriendService::HandleAddFriend`. -/
def handleAddFriend (conn : ConnId) (seq : UInt32) (body : Option AddFriendReq) : Handler := do
  let me ← connection conn
  let reply := fun e => sendAddFriendAck conn seq e 0
  if me.userId = 0 then reply errc.kNotAuthenticated
  else match body with
  | none => reply errc.kInvalidBody
  | some req =>
    if req.targetUid.isEmpty ∨ 255 < req.targetUid.length then reply errc.friend.kTargetUidRequired
    else if req.targetUid = me.uid then reply errc.friend.kCannotAddSelf
    else do
    let target ← UserDao.findByUid req.targetUid
    match target with
    | none => reply errc.user.kUserNotFound
    | some target =>
      if target.status = .banned then reply errc.user.kUserNotFound
      else do
      let blocked ← FriendDao.findFriendship target.id me.userId
      if blocked.any (fun f => f.status = .blocked) then reply errc.friend.kBlockedByTarget
      else do
      let existing ← FriendDao.findFriendship me.userId target.id
      if existing.any (fun f => f.status = .normal) then reply errc.friend.kAlreadyFriends
      else if existing.any (fun f => f.status = .blocked) then
        reply ⟨errc.friend.kCannotAddSelf.code, "unblock target before adding"⟩
      else do
      let pending ← FriendDao.findPendingRequest me.userId target.id
      if pending.isSome then reply errc.friend.kRequestPending
      else do
      let reversePending ← FriendDao.findPendingRequest target.id me.userId
      if reversePending.isSome then
        reply ⟨errc.friend.kRequestPending.code, "target already sent you a request"⟩
      else if 200 < req.remark.length then reply ⟨errc.kInvalidBody.code, "remark too long"⟩
      else do
      let id ← FriendDao.insertRequest { fromId := me.userId, toId := target.id, message := req.remark }
      match id with
      | none => reply errc.kDatabaseError
      | some id => do
        notifyFrom me.userId target.id 1 req.remark id 0
        sendAddFriendAck conn seq errc.kOk id

def sendHandleFriendReqAck (conn : ConnId) (seq : UInt32) (e : Error) (conversationId : Int) : Handler :=
  sendPacket conn .handleFriendReqAck seq
    (.handleFriendReqAck { code := e.code, msg := e.msg, conversationId := conversationId })

/-- The end of `HandleRequest`: the requester is notified, then the reply is sent. -/
def requestHandled (conn : ConnId) (seq : UInt32) (userId : Int) (fr : FriendRequest)
    (notifyType conversationId : Int) : Handler := do
  notifyFrom userId fr.fromId notifyType [] fr.id conversationId
  sendHandleFriendReqAck conn seq errc.kOk conversationId

/-- Acceptance once both users are members: a friendship is inserted for each direction. -/
def pairUp (conn : ConnId) (seq : UInt32) (userId : Int) (fr : FriendRequest) (conversationId : Int)
    (dao : DaoFactory := sqliteDaoFactory) : Handler := do
  let reply := fun e => sendHandleFriendReqAck conn seq e 0
  let f1 ← FriendDao.insertFriendship
    { userId := fr.fromId, friendId := fr.toId, conversationId := conversationId, status := .normal }
  if !f1 then abort (reply errc.kDatabaseError) dao
  else do
  let f2 ← FriendDao.insertFriendship
    { userId := fr.toId, friendId := fr.fromId, conversationId := conversationId, status := .normal }
  if !f2 then abort (reply errc.kDatabaseError) dao
  else do
  let committed ← dao.commit
  if !committed then abort (reply errc.kDatabaseError) dao
  else requestHandled conn seq userId fr 2 conversationId

/-- Acceptance once the conversation exists: both users become members. -/
def befriend (conn : ConnId) (seq : UInt32) (userId : Int) (fr : FriendRequest) (conversationId : Int)
    (dao : DaoFactory := sqliteDaoFactory) : Handler := do
  let reply := fun e => sendHandleFriendReqAck conn seq e 0
  let m1 ← ConversationDao.addMember { conversationId := conversationId, userId := fr.fromId }
  if !m1 then abort (reply errc.kDatabaseError) dao
  else do
  let m2 ← ConversationDao.addMember { conversationId := conversationId, userId := fr.toId }
  if !m2 then abort (reply errc.kDatabaseError) dao
  else pairUp conn seq userId fr conversationId dao

/-- Acceptance behind its BEGIN: the request is marked and a conversation created. -/
def accept (conn : ConnId) (seq : UInt32) (userId : Int) (requestId : Int) (fr : FriendRequest)
    (dao : DaoFactory := sqliteDaoFactory) : Handler := do
  let reply := fun e => sendHandleFriendReqAck conn seq e 0
  let updated ← FriendDao.updateRequestStatus requestId .accepted
  if !updated then abort (reply errc.kDatabaseError) dao
  else do
  let conv ← ConversationDao.createConversation { type := .private_ }
  match conv with
  | none => abort (reply errc.kDatabaseError) dao
  | some conversationId => befriend conn seq userId fr conversationId dao

/-- `FriendService::HandleRequest`. -/
def handleRequest (conn : ConnId) (seq : UInt32) (body : Option HandleFriendReqReq)
    (dao : DaoFactory := sqliteDaoFactory) : Handler := do
  let me ← connection conn
  let reply := fun e => sendHandleFriendReqAck conn seq e 0
  if me.userId = 0 then reply errc.kNotAuthenticated
  else match body with
  | none => reply errc.kInvalidBody
  | some req =>
    if req.requestId ≤ 0 then reply errc.friend.kRequestIdRequired
    else if req.action ≠ 1 ∧ req.action ≠ 2 then reply errc.friend.kInvalidAction
    else do
    let found ← FriendDao.findRequestById req.requestId
    match found with
    | none => reply errc.friend.kRequestNotFound
    | some fr =>
      if fr.toId ≠ me.userId then reply errc.friend.kRequestNotFound
      else if fr.status ≠ .pending then reply errc.friend.kRequestNotFound
      else if req.action = 1 then do
        let requester ← UserDao.findById fr.fromId
        if requester.all (fun u => u.status = .banned) then reply errc.user.kUserNotFound
        else do
        let begun ← dao.beginTransaction
        if !begun then reply errc.kDatabaseError
        else accept conn seq me.userId req.requestId fr dao
      else do
        let updated ← FriendDao.updateRequestStatus req.requestId .rejected
        if !updated then reply errc.kDatabaseError
        else requestHandled conn seq me.userId fr 3 0

/-- Deletion behind its BEGIN: both rows are marked and both users leave the
    private conversation. -/
def remove (conn : ConnId) (seq : UInt32) (myId targetId conversationId : Int)
    (dao : DaoFactory := sqliteDaoFactory) : Handler := do
  let reply := sendRsp conn .deleteFriendAck seq
  let mine ← FriendDao.updateFriendshipStatus myId targetId .deleted
  if !mine then abort (reply errc.kDatabaseError) dao
  else do
  let theirs ← FriendDao.updateFriendshipStatus targetId myId .deleted
  if !theirs then abort (reply errc.kDatabaseError) dao
  else do
  let left ← (if 0 < conversationId then ConversationDao.removeMember conversationId myId else pure true)
  if !left then abort (reply errc.kDatabaseError) dao
  else do
  let left ← (if 0 < conversationId then ConversationDao.removeMember conversationId targetId else pure true)
  if !left then abort (reply errc.kDatabaseError) dao
  else do
  let committed ← dao.commit
  if !committed then abort (reply errc.kDatabaseError) dao
  else do
  notifyFrom myId targetId 4 [] 0 0
  reply errc.kOk

/-- `FriendService::HandleDeleteFriend`. -/
def handleDeleteFriend (conn : ConnId) (seq : UInt32) (body : Option TargetReq)
    (dao : DaoFactory := sqliteDaoFactory) : Handler := do
  let me ← connection conn
  let reply := sendRsp conn .deleteFriendAck seq
  if me.userId = 0 then reply errc.kNotAuthenticated
  else match body with
  | none => reply errc.kInvalidBody
  | some req =>
    if req.targetUid.isEmpty then reply errc.friend.kTargetUidRequired
    else do
    let target ← UserDao.findByUid req.targetUid
    match target with
    | none => reply errc.user.kUserNotFound
    | some target => do
      let fs ← FriendDao.findFriendship me.userId target.id
      match fs with
      | none => reply errc.friend.kNotFriends
      | some fs =>
        if fs.status ≠ .normal then reply errc.friend.kNotFriends
        else do
        let begun ← dao.beginTransaction
        if !begun then reply errc.kDatabaseError
        else remove conn seq me.userId target.id fs.conversationId dao

/-- `FriendService::HandleBlock`. -/
def handleBlock (conn : ConnId) (seq : UInt32) (body : Option TargetReq) : Handler := do
  let me ← connection conn
  let reply := sendRsp conn .blockFriendAck seq
  if me.userId = 0 then reply errc.kNotAuthenticated
  else match body with
  | none => reply errc.kInvalidBody
  | some req =>
    if req.targetUid.isEmpty then reply errc.friend.kTargetUidRequired
    else if req.targetUid = me.uid then reply ⟨errc.friend.kCannotAddSelf.code, "cannot block yourself"⟩
    else do
    let target ← UserDao.findByUid req.targetUid
    match target with
    | none => reply errc.user.kUserNotFound
    | some target => do
      let fs ← FriendDao.findFriendship me.userId target.id
      match fs with
      | some fs =>
        if fs.status = .blocked then reply errc.friend.kAlreadyBlocked
        else do
        let blocked ← FriendDao.updateFriendshipStatus me.userId target.id .blocked
        if !blocked then reply errc.kDatabaseError
        else reply errc.kOk
      | none => do
        let blocked ← FriendDao.insertFriendship
          { userId := me.userId, friendId := target.id, status := .blocked }
        if !blocked then reply errc.kDatabaseError
        else reply errc.kOk

/-- `FriendService::HandleUnblock`. -/
def handleUnblock (conn : ConnId) (seq : UInt32) (body : Option TargetReq) : Handler := do
  let me ← connection conn
  let reply := sendRsp conn .unblockFriendAck seq
  if me.userId = 0 then reply errc.kNotAuthenticated
  else match body with
  | none => reply errc.kInvalidBody
  | some req =>
    if req.targetUid.isEmpty then reply errc.friend.kTargetUidRequired
    else do
    let target ← UserDao.findByUid req.targetUid
    match target with
    | none => reply errc.user.kUserNotFound
    | some target => do
      let fs ← FriendDao.findFriendship me.userId target.id
      match fs with
      | none => reply errc.friend.kNotBlocked
      | some fs =>
        if fs.status ≠ .blocked then reply errc.friend.kNotBlocked
        else do
        let unblocked ← FriendDao.updateFriendshipStatus me.userId target.id .deleted
        if !unblocked then reply errc.kDatabaseError
        else reply errc.kOk

/-- `FriendService::HandleGetFriendList`. -/
def handleGetFriendList (conn : ConnId) (seq : UInt32) : Handler := do
  let me ← connection conn
  if me.userId = 0 then
    sendPacket conn .getFriendListAck seq
      (.getFriendListAck { code := errc.kNotAuthenticated.code, msg := errc.kNotAuthenticated.msg })
  else do
  let friends ← FriendDao.getFriendsByUser me.userId
  let users ← UserDao.findByIds (friends.map Friendship.friendId)
  let items := friends.filterMap fun f =>
    (users.find? fun u : User => u.id = f.friendId).map fun user =>
      { uid := user.uid, nickname := user.nickname, avatar := user.avatar,
        conversationId := f.conversationId : FriendItem }
  sendPacket conn .getFriendListAck seq
    (.getFriendListAck { code := errc.kOk.code, msg := errc.kOk.msg, friends := items })

/-- The page and page size of a request for friend requests, brought into range. -/
def clampPage (body : Option GetFriendRequestsReq) : GetFriendRequestsReq :=
  let req := body.getD {}
  { page := if req.page < 1 then 1 else if 10000 < req.page then 10000 else req.page
    pageSize := if req.pageSize < 1 then 20 else if 100 < req.pageSize then 100 else req.pageSize }

/-- `FriendService::HandleGetRequests`. -/
def handleGetRequests (conn : ConnId) (seq : UInt32) (body : Option GetFriendRequestsReq) : Handler := do
  let me ← connection conn
  if me.userId = 0 then
    sendPacket conn .getFriendRequestsAck seq
      (.getFriendRequestsAck { code := errc.kNotAuthenticated.code, msg := errc.kNotAuthenticated.msg })
  else do
  let req := clampPage body
  let (total, items) ← FriendDao.getRequestsByUser me.userId ((req.page - 1) * req.pageSize) req.pageSize
  let users ← UserDao.findByIds (items.map FriendRequest.fromId)
  let requests := items.map fun r =>
    let sender := users.find? fun u : User => u.id = r.fromId
    { requestId := r.id, fromUid := sender.elim [] User.uid, fromNickname := sender.elim [] User.nickname,
      fromAvatar := sender.elim [] User.avatar, remark := r.message, createdAt := r.createdAt,
      status := r.status.code : FriendRequestItem }
  sendPacket conn .getFriendRequestsAck seq
    (.getFriendRequestsAck
      { code := errc.kOk.code, msg := errc.kOk.msg, requests := requests, total := total })

/-- A request to the service, with the connection and the packet seq it came with. -/
inductive Request where
  | addFriend (conn : ConnId) (seq : UInt32) (body : Option AddFriendReq)
  | handleRequest (conn : ConnId) (seq : UInt32) (body : Option HandleFriendReqReq)
  | deleteFriend (conn : ConnId) (seq : UInt32) (body : Option TargetReq)
  | block (conn : ConnId) (seq : UInt32) (body : Option TargetReq)
  | unblock (conn : ConnId) (seq : UInt32) (body : Option TargetReq)
  | getFriendList (conn : ConnId) (seq : UInt32)
  | getRequests (conn : ConnId) (seq : UInt32) (body : Option GetFriendRequestsReq)

def Request.conn : Request → ConnId
  | addFriend conn .. | handleRequest conn .. | deleteFriend conn .. | block conn .. | unblock conn ..
  | getFriendList conn .. | getRequests conn .. => conn

def handle : Request → Handler
  | .addFriend conn seq body => handleAddFriend conn seq body
  | .handleRequest conn seq body => FriendService.handleRequest conn seq body
  | .deleteFriend conn seq body => handleDeleteFriend conn seq body
  | .block conn seq body => handleBlock conn seq body
  | .unblock conn seq body => handleUnblock conn seq body
  | .getFriendList conn seq => handleGetFriendList conn seq
  | .getRequests conn seq body => handleGetRequests conn seq body

end NovaIIM.FriendService
