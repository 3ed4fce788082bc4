import NovaIIM.ConvService

/-!
The group service (`service/group_service.cpp`): creating and dismissing groups,
joining, leaving and removing members, roles and group information.

As in the friend service, the part of a handler behind its BEGIN has a name of
its own: `create`, `dismiss`, `approve` and `rewrite`.
-/
namespace NovaIIM.GroupService
open Store

def kMaxGroupMembers : Nat := 500

/-- `ContainsControlChars`. -/
def containsControlChars (s : Bytes) : Bool := s.any fun c => c < 0x20 || c = 0x7F

/-- `SendGroupNotify`. -/
def sendGroupNotify (conversationId excludeUserId : Int) (notify : GroupNotifyMsg) : Handler := do
  let members ← ConversationDao.getMembersByConversation conversationId
  .forEach members fun m =>
    if m.userId = excludeUserId then return ()
    else sendToUser m.userId { cmd := .groupNotify, body := .groupNotify notify }

/-- Send a packet to the users of a member list that was read earlier. -/
def sendToMembers (members : List ConversationMember) (excludeUserId : Int) (packet : Packet) : Handler :=
  .forEach members fun m =>
    if m.userId = excludeUserId then return () else sendToUser m.userId packet

/-! ### CreateGroup -/

def sendCreateGroupAck (conn : ConnId) (seq : UInt32) (e : Error) (conversationId groupId : Int) : Handler :=
  sendPacket conn .createGroupAck seq
    (.createGroupAck
      { code := e.code, msg := e.msg, conversationId := conversationId, groupId := groupId })

/-- The initial members: sorted, each once, without the creator. -/
def initialMembers (memberIds : List Int) (userId : Int) : List Int :=
  (memberIds.insertionSort fun a b => a ≤ b).dedup.filter fun id => id ≠ userId

/-- The loop that adds the initial members; it stops at the first that fails. -/
def addMembers (conversationId : Int) (now : Bytes) : List Int → Action Bool
  | [] => return true
  | mid :: rest => do
    let added ← ConversationDao.addMember
      { conversationId := conversationId, userId := mid, role := .member, joinedAt := now }
    if !added then return false else addMembers conversationId now rest

/-- Creation behind its BEGIN. -/
def create (conn : ConnId) (seq : UInt32) (userId : Int) (req : CreateGroupReq) (memberIds : List Int)
    (now : Bytes) (dao : DaoFactory := sqliteDaoFactory) : Handler := do
  let reply := fun e => sendCreateGroupAck conn seq e 0 0
  let conv ← ConversationDao.createConversation
    { type := .group, name := req.name, avatar := req.avatar, ownerId := userId,
      createdAt := now, updatedAt := now }
  match conv with
  | none => abort (reply errc.kDatabaseError) dao
  | some conversationId => do
    let group ← GroupDao.insertGroup
      { conversationId := conversationId, name := req.name, avatar := req.avatar, ownerId := userId,
        createdAt := now }
    match group with
    | none => abort (reply errc.kDatabaseError) dao
    | some groupId => do
      let owner ← ConversationDao.addMember
        { conversationId := conversationId, userId := userId, role := .owner, joinedAt := now }
      if !owner then abort (reply errc.kDatabaseError) dao
      else do
      let added ← addMembers conversationId now memberIds
      if !added then abort (reply errc.kDatabaseError) dao
      else do
      let committed ← dao.commit
      if !committed then abort (reply errc.kDatabaseError) dao
      else do
      sendCreateGroupAck conn seq errc.kOk conversationId groupId
      sendGroupNotify conversationId userId
        { conversationId := conversationId, notifyType := 1, operatorId := userId, targetIds := memberIds }

/-- `GroupService::HandleCreateGroup`. -/
def handleCreateGroup (conn : ConnId) (seq : UInt32) (body : Option CreateGroupReq)
    (dao : DaoFactory := sqliteDaoFactory) : Handler := do
  let me ← connection conn
  let reply := fun e => sendCreateGroupAck conn seq e 0 0
  if me.userId = 0 then reply errc.kNotAuthenticated
  else match body with
  | none => reply errc.kInvalidBody
  | some req =>
    if req.name.isEmpty then reply errc.group.kNameRequired
    else if 100 < req.name.length then reply errc.group.kNameTooLong
    else if containsControlChars req.name then
      reply ⟨errc.group.kNameRequired.code, "group name contains invalid characters"⟩
    else if 512 < req.avatar.length then reply ⟨errc.kInvalidBody.code, "avatar path too long"⟩
    else
    let memberIds := initialMembers req.memberIds me.userId
    if memberIds.length < 2 then reply errc.group.kNotEnoughMembers
    else if kMaxGroupMembers < memberIds.length + 1 then
      reply ⟨errc.kInvalidBody.code, "group exceeds max member limit"⟩
    else do
    let validUsers ← UserDao.findByIds memberIds
    if validUsers.length ≠ memberIds.length then reply errc.user.kUserNotFound
    else if validUsers.any (fun u => u.status = .banned) then
      reply ⟨errc.user.kUserNotFound.code, "target user is banned"⟩
    else do
    let now ← nowUtcStr
    let begun ← dao.beginTransaction
    if !begun then reply errc.kDatabaseError
    else create conn seq me.userId req memberIds now dao

/-! ### DismissGroup -/

/-- Dismissal behind its BEGIN. -/
def dismiss (conn : ConnId) (seq : UInt32) (userId conversationId : Int)
    (membersSnapshot : List ConversationMember) (dao : DaoFactory := sqliteDaoFactory) : Handler := do
  let reply := sendRsp conn .dismissGroupAck seq
  let deleted ← GroupDao.deleteByConversationId conversationId
  if !deleted then abort (reply errc.kDatabaseError) dao
  else do
  let removed ← ConversationDao.removeAllMembers conversationId
  if !removed then abort (reply errc.kDatabaseError) dao
  else do
  let committed ← dao.commit
  if !committed then abort (reply errc.kDatabaseError) dao
  else do
  sendToMembers membersSnapshot userId
    { cmd := .groupNotify
      body := .groupNotify { conversationId := conversationId, notifyType := 2, operatorId := userId } }
  sendToMembers membersSnapshot userId
    { cmd := .convUpdate, body := .convUpdate { conversationId := conversationId, updateType := 4 } }
  reply errc.kOk

/-- `GroupService::HandleDismissGroup`. -/
def handleDismissGroup (conn : ConnId) (seq : UInt32) (body : Option ConversationReq)
    (dao : DaoFactory := sqliteDaoFactory) : Handler := do
  let me ← connection conn
  let reply := sendRsp conn .dismissGroupAck seq
  if me.userId = 0 then reply errc.kNotAuthenticated
  else match body with
  | none => reply errc.kInvalidBody
  | some req =>
    if req.conversationId ≤ 0 then reply errc.kInvalidBody
    else do
    let group ← GroupDao.findByConversationId req.conversationId
    match group with
    | none => reply errc.group.kGroupNotFound
    | some group =>
      if group.ownerId ≠ me.userId then reply errc.group.kNotOwner
      else do
      let membersSnapshot ← ConversationDao.getMembersByConversation req.conversationId
      let begun ← dao.beginTransaction
      if !begun then reply errc.kDatabaseError
      else dismiss conn seq me.userId req.conversationId membersSnapshot dao

/-! ### JoinGroup and HandleJoinReq -/

/-- `GroupService::HandleJoinGroup`. -/
def handleJoinGroup (conn : ConnId) (seq : UInt32) (body : Option JoinGroupReq) : Handler := do
  let me ← connection conn
  let reply := sendRsp conn .joinGroupAck seq
  if me.userId = 0 then reply errc.kNotAuthenticated
  else match body with
  | none => reply errc.kInvalidBody
  | some req =>
    if req.conversationId ≤ 0 then reply errc.kInvalidBody
    else do
    let group ← GroupDao.findByConversationId req.conversationId
    if group.isNone then reply errc.group.kGroupNotFound
    else do
    let member ← ConversationDao.isMember req.conversationId me.userId
    if member then reply errc.group.kAlreadyMember
    else do
    let pending ← GroupDao.findPendingJoinRequest req.conversationId me.userId
    if pending.isSome then reply errc.group.kRequestPending
    else if 200 < req.remark.length then reply ⟨errc.kInvalidBody.code, "remark too long"⟩
    else do
    let id ← GroupDao.insertJoinRequest
      { conversationId := req.conversationId, userId := me.userId, remark := req.remark }
    if id.isNone then reply errc.kDatabaseError
    else reply errc.kOk

/-- The operator is the owner or an administrator. -/
def mayManage (member : Option ConversationMember) : Bool :=
  member.any fun m => m.role = .owner || m.role = .admin

/-- Admission behind its BEGIN. -/
def approve (conn : ConnId) (seq : UInt32) (userId requestId : Int) (jr : GroupJoinRequest)
    (dao : DaoFactory := sqliteDaoFactory) : Handler := do
  let reply := sendRsp conn .handleJoinReqAck seq
  let memberCount ← ConversationDao.countMembers jr.conversationId
  if (kMaxGroupMembers : Int) ≤ memberCount then
    abort (reply ⟨errc.kInvalidBody.code, "group is full"⟩) dao
  else do
  let now ← nowUtcStr
  let added ← ConversationDao.addMember
    { conversationId := jr.conversationId, userId := jr.userId, role := .member, joinedAt := now }
  if !added then abort (reply errc.kDatabaseError) dao
  else do
  let updated ← GroupDao.updateJoinRequestStatus requestId .accepted
  if !updated then abort (reply errc.kDatabaseError) dao
  else do
  let committed ← dao.commit
  if !committed then abort (reply errc.kDatabaseError) dao
  else do
  sendGroupNotify jr.conversationId 0
    { conversationId := jr.conversationId, notifyType := 3, operatorId := userId, targetIds := [jr.userId] }
  ConvService.broadcastConvUpdate jr.conversationId 0
    { conversationId := jr.conversationId, updateType := 2 }
  reply errc.kOk

/-- `GroupService::HandleJoinReq`. -/
def handleJoinReq (conn : ConnId) (seq : UInt32) (body : Option HandleJoinReqReq)
    (dao : DaoFactory := sqliteDaoFactory) : Handler := do
  let me ← connection conn
  let reply := sendRsp conn .handleJoinReqAck seq
  if me.userId = 0 then reply errc.kNotAuthenticated
  else match body with
  | none => reply errc.kInvalidBody
  | some req =>
    if req.requestId ≤ 0 ∨ req.action ≠ 1 ∧ req.action ≠ 2 then reply errc.kInvalidBody
    else do
    let found ← GroupDao.findJoinRequestById req.requestId
    match found with
    | none => reply errc.group.kRequestNotFound
    | some jr =>
      if jr.status ≠ .pending then reply errc.group.kRequestNotFound
      else do
      let member ← ConversationDao.findMember jr.conversationId me.userId
      if !mayManage member then reply errc.group.kNotAdminOrOwner
      else if req.action = 1 then do
        let applicant ← UserDao.findById jr.userId
        if applicant.all (fun u => u.status = .banned) then
          reply ⟨errc.user.kUserNotFound.code, "applicant is banned or deleted"⟩
        else do
        let begun ← dao.beginTransaction
        if !begun then reply errc.kDatabaseError
        else approve conn seq me.userId req.requestId jr dao
      else do
        let updated ← GroupDao.updateJoinRequestStatus req.requestId .rejected
        if !updated then reply errc.kDatabaseError
        else reply errc.kOk

/-! ### LeaveGroup and KickMember -/

/-- `GroupService::HandleLeaveGroup`. -/
def handleLeaveGroup (conn : ConnId) (seq : UInt32) (body : Option ConversationReq) : Handler := do
  let me ← connection conn
  let reply := sendRsp conn .leaveGroupAck seq
  if me.userId = 0 then reply errc.kNotAuthenticated
  else match body with
  | none => reply errc.kInvalidBody
  | some req =>
    if req.conversationId ≤ 0 then reply errc.kInvalidBody
    else do
    let member ← ConversationDao.findMember req.conversationId me.userId
    match member with
    | none => reply errc.group.kNotMember
    | some member =>
      if member.role = .owner then reply errc.group.kOwnerCannotLeave
      else do
      let removed ← ConversationDao.removeMember req.conversationId me.userId
      if !removed then reply errc.kDatabaseError
      else do
      sendGroupNotify req.conversationId me.userId
        { conversationId := req.conversationId, notifyType := 4, operatorId := me.userId,
          targetIds := [me.userId] }
      ConvService.broadcastConvUpdate req.conversationId me.userId
        { conversationId := req.conversationId, updateType := 2 }
      reply errc.kOk

/-- `GroupService::HandleKickMember`. -/
def handleKickMember (conn : ConnId) (seq : UInt32) (body : Option KickMemberReq) : Handler := do
  let me ← connection conn
  let reply := sendRsp conn .kickMemberAck seq
  if me.userId = 0 then reply errc.kNotAuthenticated
  else match body with
  | none => reply errc.kInvalidBody
  | some req =>
    if req.conversationId ≤ 0 ∨ req.targetUserId ≤ 0 then reply errc.kInvalidBody
    else if req.targetUserId = me.userId then reply errc.group.kCannotKickSelf
    else do
    let opMember ← ConversationDao.findMember req.conversationId me.userId
    match opMember with
    | none => reply errc.group.kNotAdminOrOwner
    | some operator =>
      if !mayManage (some operator) then reply errc.group.kNotAdminOrOwner
      else do
      let targetMember ← ConversationDao.findMember req.conversationId req.targetUserId
      match targetMember with
      | none => reply errc.group.kNotMember
      | some target =>
        if operator.role.code ≤ target.role.code then reply errc.group.kCannotKickHigherRole
        else do
        let removed ← ConversationDao.removeMember req.conversationId req.targetUserId
        if !removed then reply errc.kDatabaseError
        else do
        let notify : GroupNotifyMsg :=
          { conversationId := req.conversationId, notifyType := 5, operatorId := me.userId,
            targetIds := [req.targetUserId] }
        sendGroupNotify req.conversationId 0 notify
        -- the removed member is no longer among the members and is told separately
        sendToUser req.targetUserId { cmd := .groupNotify, body := .groupNotify notify }
        ConvService.broadcastConvUpdate req.conversationId 0
          { conversationId := req.conversationId, updateType := 2 }
        reply errc.kOk

/-! ### GetGroupInfo and UpdateGroup -/

/-- `GroupService::HandleGetGroupInfo`. -/
def handleGetGroupInfo (conn : ConnId) (seq : UInt32) (body : Option ConversationReq) : Handler := do
  let me ← connection conn
  let reply := fun e : Error =>
    sendPacket conn .getGroupInfoAck seq (.getGroupInfoAck { code := e.code, msg := e.msg })
  if me.userId = 0 then reply errc.kNotAuthenticated
  else match body with
  | none => reply errc.kInvalidBody
  | some req =>
    if req.conversationId ≤ 0 then reply errc.kInvalidBody
    else do
    let group ← GroupDao.findByConversationId req.conversationId
    match group with
    | none => reply errc.group.kGroupNotFound
    | some group => do
      let member ← ConversationDao.isMember req.conversationId me.userId
      if !member then reply errc.group.kNotMember
      else do
      let memberCount ← ConversationDao.countMembers req.conversationId
      sendPacket conn .getGroupInfoAck seq
        (.getGroupInfoAck
          { code := errc.kOk.code, msg := errc.kOk.msg, conversationId := req.conversationId,
            name := group.name, avatar := group.avatar, ownerId := group.ownerId,
            notice := group.notice, memberCount := memberCount, createdAt := group.createdAt })

/-- Why an update of a group is turned away before the database sees it. -/
def updateError (req : UpdateGroupReq) : Option Error :=
  if req.name ≠ [] ∧ 100 < req.name.length then some errc.group.kNameTooLong
  else if req.name ≠ [] ∧ containsControlChars req.name then
    some ⟨errc.group.kNameRequired.code, "group name contains invalid characters"⟩
  else if req.avatar ≠ [] ∧ 512 < req.avatar.length then
    some ⟨errc.kInvalidBody.code, "avatar path too long"⟩
  else if req.notice ≠ [] ∧ 1000 < req.notice.length then some errc.group.kNoticeTooLong
  else if req.name = [] ∧ req.avatar = [] ∧ req.notice = [] then some errc.group.kNothingToUpdate
  else none

/-- The group with the requested changes; a notice of one NUL byte clears the notice. -/
def updated (group : Group) (req : UpdateGroupReq) : Group :=
  { group with
    name := if req.name = [] then group.name else req.name
    avatar := if req.avatar = [] then group.avatar else req.avatar
    notice := if req.notice = [] then group.notice else if req.notice = [0] then [] else req.notice }

/-- The update behind its BEGIN: the group row, then the conversation row as it
    was read inside the transaction, with the new name and avatar. -/
def rewrite (conn : ConnId) (seq : UInt32) (userId : Int) (req : UpdateGroupReq) (group : Group)
    (dao : DaoFactory := sqliteDaoFactory) : Handler := do
  let reply := sendRsp conn .updateGroupAck seq
  let written ← GroupDao.updateGroup group
  if !written then abort (reply errc.kDatabaseError) dao
  else do
  let conv ← ConversationDao.findById req.conversationId
  let written ← (match conv with
    | none => pure true
    | some conv => ConversationDao.updateConversation
        { conv with
          name := if req.name = [] then conv.name else group.name
          avatar := if req.avatar = [] then conv.avatar else group.avatar })
  if !written then abort (reply errc.kDatabaseError) dao
  else do
  let committed ← dao.commit
  if !committed then abort (reply errc.kDatabaseError) dao
  else do
  sendGroupNotify req.conversationId userId
    { conversationId := req.conversationId, notifyType := 6, operatorId := userId }
  ConvService.broadcastConvUpdate req.conversationId userId
    { conversationId := req.conversationId, updateType := 3 }
  reply errc.kOk

/-- `GroupService::HandleUpdateGroup`. -/
def handleUpdateGroup (conn : ConnId) (seq : UInt32) (body : Option UpdateGroupReq)
    (dao : DaoFactory := sqliteDaoFactory) : Handler := do
  let me ← connection conn
  let reply := sendRsp conn .updateGroupAck seq
  if me.userId = 0 then reply errc.kNotAuthenticated
  else match body with
  | none => reply errc.kInvalidBody
  | some req =>
    if req.conversationId ≤ 0 then reply errc.kInvalidBody
    else do
    let member ← ConversationDao.findMember req.conversationId me.userId
    if !mayManage member then reply errc.group.kNotAdminOrOwner
    else do
    let group ← GroupDao.findByConversationId req.conversationId
    match group with
    | none => reply errc.group.kGroupNotFound
    | some group =>
      match updateError req with
      | some e => reply e
      | none => do
        let begun ← dao.beginTransaction
        if !begun then reply errc.kDatabaseError
        else rewrite conn seq me.userId req (updated group req) dao

/-! ### GetGroupMembers, GetMyGroups and SetMemberRole -/

/-- `GroupService::HandleGetGroupMembers`. -/
def handleGetGroupMembers (conn : ConnId) (seq : UInt32) (body : Option ConversationReq) : Handler := do
  let me ← connection conn
  let reply := fun e : Error =>
    sendPacket conn .getGroupMembersAck seq (.getGroupMembersAck { code := e.code, msg := e.msg })
  if me.userId = 0 then reply errc.kNotAuthenticated
  else match body with
  | none => reply errc.kInvalidBody
  | some req =>
    if req.conversationId ≤ 0 then reply errc.kInvalidBody
    else do
    let member ← ConversationDao.isMember req.conversationId me.userId
    if !member then reply errc.group.kNotMember
    else do
    let members ← ConversationDao.getMembersByConversation req.conversationId
    let users ← UserDao.findByIds (members.map ConversationMember.userId)
    let items := members.map fun m =>
      let user := users.find? fun u : User => u.id = m.userId
      { userId := m.userId, role := m.role.code, joinedAt := m.joinedAt,
        uid := user.elim [] User.uid, nickname := user.elim [] User.nickname,
        avatar := user.elim [] User.avatar : GroupMemberItem }
    sendPacket conn .getGroupMembersAck seq
      (.getGroupMembersAck { code := errc.kOk.code, msg := errc.kOk.msg, members := items })

/-- The number of members of each conversation of a list. -/
def countAll : List Int → Action (List (Int × Int))
  | [] => return []
  | cid :: rest => do
    let count ← ConversationDao.countMembers cid
    let counts ← countAll rest
    return (cid, count) :: counts

/-- `GroupService::HandleGetMyGroups`. -/
def handleGetMyGroups (conn : ConnId) (seq : UInt32) : Handler := do
  let me ← connection conn
  if me.userId = 0 then
    sendPacket conn .getMyGroupsAck seq
      (.getMyGroupsAck { code := errc.kNotAuthenticated.code, msg := errc.kNotAuthenticated.msg })
  else do
  let groups ← GroupDao.findGroupsByUser me.userId
  let myMemberships ← ConversationDao.getMembersByUser me.userId
  let counts ← countAll (groups.map Group.conversationId)
  -- both maps keep the last value they are given for a conversation
  let roleOf := fun cid =>
    (myMemberships.reverse.find? fun m : ConversationMember => m.conversationId = cid).elim 0
      fun m => m.role.code
  let countOf := fun cid => (counts.reverse.find? fun e : Int × Int => e.1 = cid).elim 0 Prod.snd
  let items := groups.map fun g =>
    { conversationId := g.conversationId, name := g.name, avatar := g.avatar,
      memberCount := countOf g.conversationId, myRole := roleOf g.conversationId : MyGroupItem }
  sendPacket conn .getMyGroupsAck seq
    (.getMyGroupsAck { code := errc.kOk.code, msg := errc.kOk.msg, groups := items })

/-- `GroupService::HandleSetMemberRole`. -/
def handleSetMemberRole (conn : ConnId) (seq : UInt32) (body : Option SetMemberRoleReq) : Handler := do
  let me ← connection conn
  let reply := sendRsp conn .setMemberRoleAck seq
  if me.userId = 0 then reply errc.kNotAuthenticated
  else match body with
  | none => reply errc.kInvalidBody
  | some req =>
    if req.conversationId ≤ 0 ∨ req.targetUserId ≤ 0 then reply errc.kInvalidBody
    else if req.role ≠ 0 ∧ req.role ≠ 1 then reply errc.group.kInvalidRole
    else do
    let opMember ← ConversationDao.findMember req.conversationId me.userId
    if !opMember.any (fun m => m.role = .owner) then reply errc.group.kNotOwner
    else do
    let target ← ConversationDao.findMember req.conversationId req.targetUserId
    if target.isNone then reply errc.group.kNotMember
    else if req.targetUserId = me.userId then
      reply ⟨errc.group.kCannotKickSelf.code, "cannot change own role"⟩
    else do
    let updated ← ConversationDao.updateMemberRole req.conversationId req.targetUserId
      (if req.role = 0 then .member else .admin)
    if !updated then reply errc.kDatabaseError
    else do
    sendGroupNotify req.conversationId 0
      { conversationId := req.conversationId, notifyType := 7, operatorId := me.userId,
        targetIds := [req.targetUserId] }
    reply errc.kOk

/-- A request to the service, with the connection and the packet seq it came with. -/
inductive Request where
  | createGroup (conn : ConnId) (seq : UInt32) (body : Option CreateGroupReq)
  | dismissGroup (conn : ConnId) (seq : UInt32) (body : Option ConversationReq)
  | joinGroup (conn : ConnId) (seq : UInt32) (body : Option JoinGroupReq)
  | handleJoinReq (conn : ConnId) (seq : UInt32) (body : Option HandleJoinReqReq)
  | leaveGroup (conn : ConnId) (seq : UInt32) (body : Option ConversationReq)
  | kickMember (conn : ConnId) (seq : UInt32) (body : Option KickMemberReq)
  | getGroupInfo (conn : ConnId) (seq : UInt32) (body : Option ConversationReq)
  | updateGroup (conn : ConnId) (seq : UInt32) (body : Option UpdateGroupReq)
  | getGroupMembers (conn : ConnId) (seq : UInt32) (body : Option ConversationReq)
  | getMyGroups (conn : ConnId) (seq : UInt32)
  | setMemberRole (conn : ConnId) (seq : UInt32) (body : Option SetMemberRoleReq)

def Request.conn : Request → ConnId
  | createGroup conn .. | dismissGroup conn .. | joinGroup conn .. | handleJoinReq conn ..
  | leaveGroup conn .. | kickMember conn .. | getGroupInfo conn .. | updateGroup conn ..
  | getGroupMembers conn .. | getMyGroups conn _ | setMemberRole conn .. => conn

def handle : Request → Handler
  | .createGroup conn seq body => handleCreateGroup conn seq body
  | .dismissGroup conn seq body => handleDismissGroup conn seq body
  | .joinGroup conn seq body => handleJoinGroup conn seq body
  | .handleJoinReq conn seq body => GroupService.handleJoinReq conn seq body
  | .leaveGroup conn seq body => handleLeaveGroup conn seq body
  | .kickMember conn seq body => handleKickMember conn seq body
  | .getGroupInfo conn seq body => handleGetGroupInfo conn seq body
  | .updateGroup conn seq body => handleUpdateGroup conn seq body
  | .getGroupMembers conn seq body => handleGetGroupMembers conn seq body
  | .getMyGroups conn seq => handleGetMyGroups conn seq
  | .setMemberRole conn seq body => handleSetMemberRole conn seq body

end NovaIIM.GroupService
