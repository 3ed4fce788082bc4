import NovaIIM.Dao

/-!
The conversation service (`service/conv_service.cpp`): the list of a user's
conversations, hiding, muting and pinning, and the `ConvUpdate` broadcast that
the message and group services use as well.
-/
namespace NovaIIM.ConvService
open Store

/-- The place where a text is cut: the last one at or before `pos` that does not
    split a character. -/
def cutPosition (s : Bytes) : Nat → Nat
  | 0 => 0
  | pos + 1 => if s.getD (pos + 1) 0 &&& 0xC0 = 0x80 then cutPosition s pos else pos + 1

/-- `TruncateUtf8`. -/
def truncateUtf8 (s : Bytes) (maxLen : Nat) : Bytes :=
  if s.length ≤ maxLen then s else s.take (cutPosition s maxLen)

/-- `BroadcastConvUpdate`. -/
def broadcastConvUpdate (conversationId excludeUserId : Int) (update : ConvUpdateMsg) : Handler := do
  let members ← ConversationDao.getMembersByConversation conversationId
  .forEach members fun m =>
    if m.userId = excludeUserId then return ()
    else sendToUser m.userId { cmd := .convUpdate, body := .convUpdate update }

/-- The previewed message of a conversation: the one with the greatest seq. -/
def latestOf (previews : List Message) (conversationId : Int) : Option Message :=
  previews.foldl (fun best m =>
    if m.conversationId = conversationId then
      match best with
      | none => some m
      | some b => if b.seq < m.seq then some m else best
    else best) none

/-- One entry of the conversation list. -/
def convItem (conv : Conversation) (m : ConversationMember) (other : Option Int)
    (users : List User) (latest : Option Message) : ConvItem :=
  let cached := fun id => users.find? fun u : User => u.id = id
  let name := match conv.type, other with
    | .private_, some id => (cached id).elim (ascii "[deleted]") User.nickname
    | .private_, none => []
    | _, _ => conv.name
  let avatar := match conv.type, other with
    | .private_, some id => (cached id).elim [] User.avatar
    | .private_, none => []
    | _, _ => conv.avatar
  let lastMsg : LastMsgBrief := match latest with
    | none => {}
    | some msg =>
      { senderUid := (cached msg.senderId).elim [] User.uid
        senderNickname := (cached msg.senderId).elim [] User.nickname
        content := truncateUtf8 msg.content 100
        msgType := msg.msgType
        serverTime := 0 }
  { conversationId := conv.id
    type := conv.type.code
    name := name
    avatar := avatar
    unreadCount := max 0 (conv.maxSeq - m.lastReadSeq)
    lastMsg := lastMsg
    mute := m.mute
    pinned := m.pinned
    updatedAt := conv.updatedAt }

def handleGetConvList (conn : ConnId) (seq : UInt32) : Handler := do
  let me ← connection conn
  if me.userId = 0 then
    sendPacket conn .getConvListAck seq
      (.getConvListAck { code := errc.kNotAuthenticated.code, msg := errc.kNotAuthenticated.msg })
  else
  let memberships ← ConversationDao.getMembersByUser me.userId
  let visible := memberships.filter fun m => m.hidden = 0
  let conversations ← ConversationDao.findByIds (visible.map ConversationMember.conversationId)
  let convOf := fun id => conversations.find? fun c : Conversation => c.id = id
  let listed := visible.filterMap fun m => (convOf m.conversationId).map fun c => (m, c)
  let previewConvs := listed.map fun (m, c) => (m.conversationId, max 0 (c.maxSeq - 1))
  let previews ← (if previewConvs.isEmpty then pure []
    else MessageDao.getLatestByConversations previewConvs 1)
  let privateConvIds := (listed.filter fun (_, c) => c.type = .private_).map fun (m, _) => m.conversationId
  let privateMembers ← (if privateConvIds.isEmpty then pure []
    else ConversationDao.getMembersByConversationIds privateConvIds)
  let others := privateMembers.filter fun m => m.userId ≠ me.userId
  -- the map keeps the last member it is given for a conversation
  let otherOf := fun id =>
    (others.reverse.find? fun m : ConversationMember => m.conversationId = id).map ConversationMember.userId
  let latest := latestOf previews
  let neededIds := others.map ConversationMember.userId ++
    (listed.filterMap fun (m, _) => latest m.conversationId).map Message.senderId
  let users ← (if neededIds.isEmpty then pure [] else UserDao.findByIds neededIds)
  let items := listed.map fun (m, c) => convItem c m (otherOf c.id) users (latest c.id)
  sendPacket conn .getConvListAck seq
    (.getConvListAck { code := errc.kOk.code, msg := errc.kOk.msg, conversations := items })

def handleDeleteConv (conn : ConnId) (seq : UInt32) (body : Option ConversationReq) : Handler := do
  let me ← connection conn
  let reply := sendRsp conn .deleteConvAck seq
  if me.userId = 0 then reply errc.kNotAuthenticated
  else match body with
  | none => reply errc.kInvalidBody
  | some req =>
    if req.conversationId ≤ 0 then reply errc.kInvalidBody
    else do
    let member ← ConversationDao.isMember req.conversationId me.userId
    if !member then reply errc.conv.kNotMember
    else do
    let hidden ← ConversationDao.updateMemberHidden req.conversationId me.userId 1
    if !hidden then reply errc.kDatabaseError
    else reply errc.kOk

def handleMuteConv (conn : ConnId) (seq : UInt32) (body : Option MuteConvReq) : Handler := do
  let me ← connection conn
  let reply := sendRsp conn .muteConvAck seq
  if me.userId = 0 then reply errc.kNotAuthenticated
  else match body with
  | none => reply errc.kInvalidBody
  | some req =>
    if req.conversationId ≤ 0 then reply errc.kInvalidBody
    else if req.mute ≠ 0 ∧ req.mute ≠ 1 then reply errc.kInvalidBody
    else do
    let member ← ConversationDao.findMember req.conversationId me.userId
    if member.isNone then reply errc.conv.kNotMember
    else do
    let muted ← ConversationDao.updateMemberMute req.conversationId me.userId req.mute
    if !muted then reply errc.kDatabaseError
    else reply errc.kOk

def handlePinConv (conn : ConnId) (seq : UInt32) (body : Option PinConvReq) : Handler := do
  let me ← connection conn
  let reply := sendRsp conn .pinConvAck seq
  if me.userId = 0 then reply errc.kNotAuthenticated
  else match body with
  | none => reply errc.kInvalidBody
  | some req =>
    if req.conversationId ≤ 0 then reply errc.kInvalidBody
    else if req.pinned ≠ 0 ∧ req.pinned ≠ 1 then reply errc.kInvalidBody
    else do
    let member ← ConversationDao.findMember req.conversationId me.userId
    if member.isNone then reply errc.conv.kNotMember
    else do
    let pinned ← ConversationDao.updateMemberPinned req.conversationId me.userId req.pinned
    if !pinned then reply errc.kDatabaseError
    else reply errc.kOk

/-- A request to the service, with the connection and the packet seq it came with. -/
inductive Request where
  | getConvList (conn : ConnId) (seq : UInt32)
  | deleteConv (conn : ConnId) (seq : UInt32) (body : Option ConversationReq)
  | muteConv (conn : ConnId) (seq : UInt32) (body : Option MuteConvReq)
  | pinConv (conn : ConnId) (seq : UInt32) (body : Option PinConvReq)

def Request.conn : Request → ConnId
  | getConvList conn _ | deleteConv conn .. | muteConv conn .. | pinConv conn .. => conn

def handle : Request → Handler
  | .getConvList conn seq => handleGetConvList conn seq
  | .deleteConv conn seq body => handleDeleteConv conn seq body
  | .muteConv conn seq body => handleMuteConv conn seq body
  | .pinConv conn seq body => handlePinConv conn seq body

end NovaIIM.ConvService
