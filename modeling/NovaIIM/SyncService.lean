import Mathlib.Algebra.Ring.Int.Defs
import NovaIIM.Dao

/-!
The sync service (`service/sync_service.cpp`): a page of the messages behind a
seq, and what a user has not read in any conversation.
-/
namespace NovaIIM.SyncService
open Store

/-- The page size of a request: the default for none, and never more than the maximum. -/
def pageLimit (syncDefault syncMax limit : Int) : Int :=
  let limit := if limit ≤ 0 then syncDefault else limit
  if syncMax < limit then syncMax else limit

/-- One message of a page; a sender that no longer exists is called `[deleted]`. -/
def syncItem (users : List User) (m : Message) : SyncMsgItem :=
  { serverSeq := m.seq
    senderUid := (users.find? fun u : User => u.id = m.senderId).elim (ascii "[deleted]") User.uid
    content := m.content
    msgType := m.msgType
    serverTime := m.createdAt
    status := m.status }

/-- The answer to a request, from the rows of the page. -/
def pageOf (limit : Int) (messages : List Message) (users : List User) : SyncMsgResp :=
  { code := errc.kOk.code
    messages := messages.map (syncItem users)
    hasMore := limit ≤ messages.length }

/-- `SendPacket` of a `SyncMsgResp`. -/
def sendSyncResp (conn : ConnId) (seq : UInt32) (resp : SyncMsgResp) : Handler :=
  sendPacket conn .syncMsgResp seq (.syncMsgResp resp)

/-- Step 3: the names of the senders, and the response. -/
def syncNamed (conn : ConnId) (seq : UInt32) (limit : Int) (messages : List Message) : Handler := do
  let users ← UserDao.findByIds (messages.map Message.senderId)
  sendSyncResp conn seq (pageOf limit messages users)

/-- Step 2: the messages behind `last_seq`. -/
def syncRead (conn : ConnId) (seq : UInt32) (req : SyncMsgReq) (limit : Int) : Handler := do
  let messages ← MessageDao.getAfterSeq req.conversationId req.lastSeq limit
  syncNamed conn seq limit messages

/-- The limit of a member's request. -/
def syncConfigured (conn : ConnId) (seq : UInt32) (req : SyncMsgReq) : Handler := do
  let config ← peek fun m => m.config
  syncRead conn seq req (pageLimit config.syncDefault config.syncMax req.limit)

/-- The membership check. -/
def syncChecked (conn : ConnId) (seq : UInt32) (userId : Int) (req : SyncMsgReq) : Handler := do
  let member ← ConversationDao.isMember req.conversationId userId
  if !member then sendSyncResp conn seq { code := errc.sync.kNotMember.code }
  else syncConfigured conn seq req

/-- `SyncService::HandleSyncMsg`. -/
def handleSyncMsg (conn : ConnId) (seq : UInt32) (body : Option SyncMsgReq) : Handler := do
  let me ← connection conn
  if me.userId = 0 then sendSyncResp conn seq { code := errc.kNotAuthenticated.code }
  else match body with
  | none => sendSyncResp conn seq { code := errc.kInvalidBody.code }
  | some req =>
    if req.conversationId ≤ 0 then sendSyncResp conn seq { code := errc.kInvalidBody.code }
    else syncChecked conn seq me.userId req

/-! ### SyncUnread -/

/-- The entry of a conversation without its messages. -/
def unreadItem (conv : Conversation) (m : ConversationMember) : UnreadItem :=
  { conversationId := m.conversationId, count := max 0 (conv.maxSeq - m.lastReadSeq) }

/-- A message of the snapshot; the name of a sender that no longer exists is empty here. -/
def unreadMessage (users : List User) (m : Message) : SyncMsgItem :=
  { serverSeq := m.seq
    senderUid := (users.find? fun u : User => u.id = m.senderId).elim [] User.uid
    content := m.content
    msgType := m.msgType
    serverTime := m.createdAt
    status := m.status }

/-- Step 4: the newest messages of every conversation with unread ones. -/
def unreadPreviews (items : List UnreadItem) (previews : List Message) (users : List User) : List UnreadItem :=
  items.map fun item =>
    { item with
      latestMessages :=
        (previews.filter fun m => m.conversationId = item.conversationId).map (unreadMessage users) }

/-- The previewed messages with their senders. -/
def unreadFilled (items : List UnreadItem) (previewConvs : List (Int × Int)) : Action (List UnreadItem) :=
  if previewConvs.isEmpty then return items
  else do
    let previews ← MessageDao.getLatestByConversations previewConvs 3
    let users ← UserDao.findByIds (previews.map Message.senderId)
    return unreadPreviews items previews users

def sendUnreadResp (conn : ConnId) (seq : UInt32) (resp : SyncUnreadResp) : Handler :=
  sendPacket conn .syncUnreadResp seq (.syncUnreadResp resp)

/-- `SyncService::HandleSyncUnread`. -/
def handleSyncUnread (conn : ConnId) (seq : UInt32) : Handler := do
  let me ← connection conn
  if me.userId = 0 then sendUnreadResp conn seq { code := errc.kNotAuthenticated.code }
  else do
  let memberships ← ConversationDao.getMembersByUser me.userId
  let conversations ← ConversationDao.findByIds (memberships.map ConversationMember.conversationId)
  let known := memberships.filterMap fun m =>
    (conversations.find? fun c : Conversation => c.id = m.conversationId).map fun c => (m, c)
  let unread := known.filter fun (m, c) => 0 < c.maxSeq - m.lastReadSeq
  let items ← unreadFilled (unread.map fun (m, c) => unreadItem c m)
    (unread.map fun (m, c) => (m.conversationId, max 0 (c.maxSeq - 3)))
  sendUnreadResp conn seq
    { code := errc.kOk.code
      items := items
      totalUnread := (known.map fun (m, c) => max 0 (c.maxSeq - m.lastReadSeq)).sum }

/-- A request to the service, with the connection and the packet seq it came with. -/
inductive Request where
  | syncMsg (conn : ConnId) (seq : UInt32) (body : Option SyncMsgReq)
  | syncUnread (conn : ConnId) (seq : UInt32)

def Request.conn : Request → ConnId
  | syncMsg conn .. | syncUnread conn _ => conn

def handle : Request → Handler
  | .syncMsg conn seq body => handleSyncMsg conn seq body
  | .syncUnread conn seq => handleSyncUnread conn seq

end NovaIIM.SyncService
