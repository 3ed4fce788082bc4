import Mathlib.Data.List.Sort
import NovaIIM.World

/-!
The data access objects (`dao/impl/*_dao_impl.cpp`).

Each call is one action. A query answers with the rows of its table in the order
of their ids. A statement that fails answers as ormpp does: an empty result, the
id 0, or `false`. The tables a statement leaves are named in `Tables`, so that
the proofs can speak of them.
-/
namespace NovaIIM
open Store

namespace Tables

def createConversation (conv : Conversation) (t : Tables) : Tables :=
  { t with conversations := t.conversations.insert conv }

def addMember (member : ConversationMember) (t : Tables) : Tables :=
  { t with members := t.members.insert member }

/-- `UPDATE conversations SET max_seq = max_seq + 1 WHERE id = …`. -/
def incrMaxSeq (conversationId : Int) (t : Tables) : Tables :=
  { t with
    conversations := t.conversations.update (fun r => r.id = conversationId)
      ⟨fun r => { r with maxSeq := r.maxSeq + 1 }, fun _ => rfl, fun _ _ => rfl⟩ }

/-- An `UPDATE conversation_members` of the rows of one member. -/
def updateMember (conversationId userId : Int) (selected : ConversationMember → Bool)
    (change : RowUpdate ConversationMember) (t : Tables) : Tables :=
  { t with
    members := t.members.update
      (fun r => r.conversationId = conversationId && r.userId = userId && selected r) change }

def removeMember (conversationId userId : Int) (t : Tables) : Tables :=
  { t with members := t.members.delete fun r => r.conversationId = conversationId && r.userId = userId }

def removeAllMembers (conversationId : Int) (t : Tables) : Tables :=
  { t with members := t.members.delete fun r => r.conversationId = conversationId }

/-- The row with the id of `conv` becomes `conv`, in all columns. -/
def updateConversation (conv : Conversation) (t : Tables) : Tables :=
  { t with
    conversations := t.conversations.update (fun r => r.id = conv.id)
      { apply := fun r => if r.id = conv.id then conv else r
        same_id := fun r => by
          show Conversation.id (if r.id = conv.id then conv else r) = Conversation.id r
          split <;> simp_all
        same_clash := fun _ _ => rfl } }

def insertMessage (msg : Message) (t : Tables) : Tables :=
  { t with messages := t.messages.insert msg }

def setMessageStatus (msgId : Int) (status : MsgStatus) (t : Tables) : Tables :=
  { t with
    messages := t.messages.update (fun r => r.id = msgId)
      ⟨fun r => { r with status := status }, fun _ => rfl, fun _ _ => rfl⟩ }

def insertUser (user : User) (t : Tables) : Tables :=
  { t with users := t.users.insert user }

def insertDevice (device : UserDevice) (t : Tables) : Tables :=
  { t with userDevices := t.userDevices.insert device }

def updateDevice (deviceRow : Int) (deviceType lastActiveAt : Bytes) (t : Tables) : Tables :=
  { t with
    userDevices := t.userDevices.update (fun r => r.id = deviceRow)
      ⟨fun r => { r with deviceType := deviceType, lastActiveAt := lastActiveAt },
        fun _ => rfl, fun _ _ => rfl⟩ }

def setUserStatus (id : Int) (status : AccountStatus) (t : Tables) : Tables :=
  { t with
    users := t.users.update (fun r => r.id = id)
      ⟨fun r => { r with status := status }, fun _ => rfl, fun _ _ => rfl⟩ }

def setNickname (id : Int) (nickname : Bytes) (t : Tables) : Tables :=
  { t with
    users := t.users.update (fun r => r.id = id)
      ⟨fun r => { r with nickname := nickname }, fun _ => rfl, fun _ _ => rfl⟩ }

def setAvatar (id : Int) (avatar : Bytes) (t : Tables) : Tables :=
  { t with
    users := t.users.update (fun r => r.id = id)
      ⟨fun r => { r with avatar := avatar }, fun _ => rfl, fun _ _ => rfl⟩ }

def setPasswordHash (id : Int) (passwordHash : Bytes) (t : Tables) : Tables :=
  { t with
    users := t.users.update (fun r => r.id = id)
      ⟨fun r => { r with passwordHash := passwordHash }, fun _ => rfl, fun _ _ => rfl⟩ }

def insertFile (file : UserFile) (t : Tables) : Tables :=
  { t with userFiles := t.userFiles.insert file }

def setFileStatus (id : Int) (status : FileStatus) (now : Bytes) (t : Tables) : Tables :=
  { t with
    userFiles := t.userFiles.update (fun r => r.id = id)
      ⟨fun r => { r with status := status, updatedAt := now }, fun _ => rfl, fun _ _ => rfl⟩ }

def setFilePath (id : Int) (path : Bytes) (t : Tables) : Tables :=
  { t with
    userFiles := t.userFiles.update (fun r => r.id = id)
      ⟨fun r => { r with filePath := path }, fun _ => rfl, fun _ _ => rfl⟩ }

def insertRequest (fr : FriendRequest) (t : Tables) : Tables :=
  { t with friendRequests := t.friendRequests.insert fr }

def setRequestStatus (id : Int) (status : FriendRequestStatus) (now : Bytes) (t : Tables) : Tables :=
  { t with
    friendRequests := t.friendRequests.update (fun r => r.id = id)
      ⟨fun r => { r with status := status, updatedAt := now }, fun _ => rfl, fun _ _ => rfl⟩ }

def insertFriendship (f : Friendship) (t : Tables) : Tables :=
  { t with friendships := t.friendships.insert f }

def setFriendshipStatus (userId friendId : Int) (status : FriendshipStatus) (now : Bytes) (t : Tables) :
    Tables :=
  { t with
    friendships := t.friendships.update (fun r => r.userId = userId && r.friendId = friendId)
      ⟨fun r => { r with status := status, updatedAt := now }, fun _ => rfl, fun _ _ => rfl⟩ }

def insertGroup (group : Group) (t : Tables) : Tables :=
  { t with groups := t.groups.insert group }

/-- The row with the id of `group` becomes `group`, in all columns. -/
def updateGroup (group : Group) (t : Tables) : Tables :=
  { t with
    groups := t.groups.update (fun r => r.id = group.id)
      { apply := fun r => if r.id = group.id then group else r
        same_id := fun r => by
          show Group.id (if r.id = group.id then group else r) = Group.id r
          split <;> simp_all
        same_clash := fun _ _ => rfl } }

def deleteGroup (conversationId : Int) (t : Tables) : Tables :=
  { t with groups := t.groups.delete fun r => r.conversationId = conversationId }

def insertJoinRequest (jr : GroupJoinRequest) (t : Tables) : Tables :=
  { t with groupJoinRequests := t.groupJoinRequests.insert jr }

def setJoinRequestStatus (id : Int) (status : JoinRequestStatus) (now : Bytes) (t : Tables) : Tables :=
  { t with
    groupJoinRequests := t.groupJoinRequests.update (fun r => r.id = id)
      ⟨fun r => { r with status := status, updatedAt := now }, fun _ => rfl, fun _ _ => rfl⟩ }

end Tables

/-- `get_insert_id_after_insert`, and `false` in place of the id 0. -/
def insertReturningId {ρ : Type} [Row ρ] (table : Tables → Table ρ) (row : ρ) (effect : Tables → Tables) :
    Action (Option Int) :=
  statement none
    (fun t => if (table t).insertId row = 0 then none else some ((table t).insertId row)) effect

namespace ConversationDao

/-- `CreateConversation`: the id of the new conversation. -/
def createConversation (conv : Conversation) : Action (Option Int) :=
  insertReturningId Tables.conversations conv (Tables.createConversation conv)

def addMember (member : ConversationMember) : Action Bool := do
  let id ← insertReturningId Tables.members member (Tables.addMember member)
  return id.isSome

/-- `IncrMaxSeq`: BEGIN, UPDATE, SELECT and COMMIT, with a deferred ROLLBACK. -/
def incrMaxSeq (conversationId : Int) : Action Int :=
  .atomic do
    let begun ← beginTransaction
    if !begun then return -1
    let updated ← execute (Tables.incrMaxSeq conversationId)
    if !updated then
      rollback
      return -1
    let convs ← query [] fun t => t.conversations.rows.filter fun r => r.id = conversationId
    match convs with
    | [] =>
      rollback
      return -1
    | conv :: _ =>
      let committed ← commit
      if !committed then
        rollback
        return -1
      return conv.maxSeq

def getMembersByUser (userId : Int) : Action (List ConversationMember) :=
  query [] fun t => t.members.rows.filter fun r => r.userId = userId

def getMembersByConversation (conversationId : Int) : Action (List ConversationMember) :=
  query [] fun t => t.members.rows.filter fun r => r.conversationId = conversationId

def getMembersByConversationIds (ids : List Int) : Action (List ConversationMember) :=
  if ids.isEmpty then return []
  else query [] fun t => t.members.rows.filter fun r => r.conversationId ∈ ids

def findById (id : Int) : Action (Option Conversation) :=
  query none fun t => t.conversations.rows.find? fun r => r.id = id

def findByIds (ids : List Int) : Action (List Conversation) :=
  if ids.isEmpty then return []
  else query [] fun t => t.conversations.rows.filter fun r => r.id ∈ ids

def isMember (conversationId userId : Int) : Action Bool :=
  query false fun t => t.members.rows.any fun r => r.conversationId = conversationId && r.userId = userId

/-- `UPDATE … WHERE … AND last_read_seq < seq`. -/
def updateLastReadSeq (conversationId userId seq : Int) : Action Bool :=
  if seq < 0 then return false
  else execute (Tables.updateMember conversationId userId (fun r => r.lastReadSeq < seq)
    ⟨fun r => { r with lastReadSeq := seq }, fun _ => rfl, fun _ _ => rfl⟩)

/-- `UPDATE … WHERE … AND last_ack_seq < seq`. -/
def updateLastAckSeq (conversationId userId seq : Int) : Action Bool :=
  if seq < 0 then return false
  else execute (Tables.updateMember conversationId userId (fun r => r.lastAckSeq < seq)
    ⟨fun r => { r with lastAckSeq := seq }, fun _ => rfl, fun _ _ => rfl⟩)

def updateMemberMute (conversationId userId mute : Int) : Action Bool :=
  execute (Tables.updateMember conversationId userId (fun _ => true)
    ⟨fun r => { r with mute := mute }, fun _ => rfl, fun _ _ => rfl⟩)

def updateMemberPinned (conversationId userId pinned : Int) : Action Bool :=
  execute (Tables.updateMember conversationId userId (fun _ => true)
    ⟨fun r => { r with pinned := pinned }, fun _ => rfl, fun _ _ => rfl⟩)

def updateMemberHidden (conversationId userId hidden : Int) : Action Bool :=
  execute (Tables.updateMember conversationId userId (fun _ => true)
    ⟨fun r => { r with hidden := hidden }, fun _ => rfl, fun _ _ => rfl⟩)

def findMember (conversationId userId : Int) : Action (Option ConversationMember) :=
  query none fun t => t.members.rows.find? fun r => r.conversationId = conversationId && r.userId = userId

def removeMember (conversationId userId : Int) : Action Bool :=
  execute (Tables.removeMember conversationId userId)

def removeAllMembers (conversationId : Int) : Action Bool :=
  execute (Tables.removeAllMembers conversationId)

def updateConversation (conv : Conversation) : Action Bool :=
  execute (Tables.updateConversation conv)

def countMembers (conversationId : Int) : Action Int :=
  query 0 fun t => (t.members.rows.filter fun r => r.conversationId = conversationId).length

def updateMemberRole (conversationId userId : Int) (role : MemberRole) : Action Bool :=
  execute (Tables.updateMember conversationId userId (fun _ => true)
    ⟨fun r => { r with role := role }, fun _ => rfl, fun _ _ => rfl⟩)

end ConversationDao

namespace MessageDao

def insert (msg : Message) : Action Bool := execute (Tables.insertMessage msg)

/-- The messages behind a seq, in ascending order of seq and at most `limit` of them. -/
def afterSeq (conversationId afterSeq : Int) (limit : Nat) (t : Tables) : List Message :=
  ((t.messages.rows.filter fun r : Message => r.conversationId = conversationId && afterSeq < r.seq).insertionSort
    fun a b => a.seq ≤ b.seq).take limit

/-- `GetAfterSeq`; a negative LIMIT is no limit. -/
def getAfterSeq (conversationId after limit : Int) : Action (List Message) :=
  query [] fun t =>
    afterSeq conversationId after (if limit < 0 then t.messages.rows.length else limit.toNat) t

/-- `UpdateStatus`: a SELECT, then an UPDATE of the status column. -/
def updateStatus (msgId : Int) (status : MsgStatus) : Action Bool :=
  .atomic do
    let res ← query none fun t => t.messages.rows.find? fun r => r.id = msgId
    match res with
    | none => return false
    | some _ => execute (Tables.setMessageStatus msgId status)

def findById (id : Int) : Action (Option Message) :=
  query none fun t => t.messages.rows.find? fun r => r.id = id

def findByConvSeq (conversationId seq : Int) : Action (Option Message) :=
  query none fun t => t.messages.rows.find? fun r => r.conversationId = conversationId && r.seq = seq

/-- The newest messages of one conversation behind a seq, the newest first. -/
def latest (conversationId afterSeq : Int) (limit : Nat) (t : Tables) : List Message :=
  ((t.messages.rows.filter fun r : Message => r.conversationId = conversationId && afterSeq < r.seq).insertionSort
    fun a b => b.seq ≤ a.seq).take limit

def kBatchSize : Nat := 100

/-- The loop over batches; each round takes at least one conversation off. -/
def latestBatches (limitPerConv : Nat) : Nat → List (Int × Int) → Action (List Message)
  | 0, _ => return []
  | rounds + 1, convFromSeqs =>
    if convFromSeqs.isEmpty then return []
    else do
      let batch ← query [] fun t =>
        (convFromSeqs.take kBatchSize).flatMap fun (conversationId, fromSeq) =>
          latest conversationId fromSeq limitPerConv t
      let rest ← latestBatches limitPerConv rounds (convFromSeqs.drop kBatchSize)
      return batch ++ rest

/-- `GetLatestByConversations`, one query for each hundred conversations: a `UNION ALL` of SELECTs in
    parentheses, with the rows that standard SQL gives it. SQLite takes no such SELECT beside another. -/
def getLatestByConversations (convFromSeqs : List (Int × Int)) (limitPerConv : Nat) :
    Action (List Message) :=
  latestBatches limitPerConv convFromSeqs.length convFromSeqs

end MessageDao

namespace UserDao

/-- LIKE does not tell the cases of ASCII letters apart. -/
def foldCase (c : UInt8) : UInt8 := if 65 ≤ c && c ≤ 90 then c + 32 else c

def findByUid (uid : Bytes) : Action (Option User) :=
  query none fun t => t.users.rows.find? fun r => r.uid = uid && r.status ≠ .deleted

def findByEmail (email : Bytes) : Action (Option User) :=
  query none fun t => t.users.rows.find? fun r => r.email = email && r.status ≠ .deleted

def findById (id : Int) : Action (Option User) :=
  query none fun t => t.users.rows.find? fun r => r.id = id && r.status ≠ .deleted

def findByIds (ids : List Int) : Action (List User) :=
  if ids.isEmpty then return []
  else query [] fun t => t.users.rows.filter fun r => r.id ∈ ids && r.status ≠ .deleted

/-- `Insert`: the id of the new user. -/
def insert (user : User) : Action (Option Int) :=
  insertReturningId Tables.users user (Tables.insertUser user)

/-- `SearchByNickname`: the first users whose nickname contains the keyword, in
    whatever case its letters are. -/
def searchByNickname (keyword : Bytes) (limit : Nat) : Action (List User) :=
  if 128 < keyword.length then return []
  else query [] fun t =>
    (t.users.rows.filter fun r =>
      decide (keyword.map foldCase <:+: r.nickname.map foldCase) && r.status ≠ .deleted).take limit

/-- `UpsertDevice`. -/
def upsertDevice (uid deviceId deviceType : Bytes) : Handler :=
  .atomic do
    let res ← query none fun t => t.userDevices.rows.find? fun r => r.uid = uid && r.deviceId = deviceId
    let now ← nowUtcStr
    match res with
    | none =>
      let _ ← execute (Tables.insertDevice
        { uid := uid, deviceId := deviceId, deviceType := deviceType, lastActiveAt := now })
    | some device =>
      let _ ← execute (Tables.updateDevice device.id deviceType now)

/-- `UpdateStatus`: the id of the user. -/
def updateStatus (uid : Bytes) (status : AccountStatus) : Action (Option Int) :=
  .atomic do
    let res ← findByUid uid
    match res with
    | none => return none
    | some user => do
      let updated ← execute (Tables.setUserStatus user.id status)
      return if updated then some user.id else none

/-- `UpdateNickname`: the id of the user. -/
def updateNickname (uid nickname : Bytes) : Action (Option Int) :=
  .atomic do
    let res ← findByUid uid
    match res with
    | none => return none
    | some user => do
      let updated ← execute (Tables.setNickname user.id nickname)
      return if updated then some user.id else none

/-- `UpdateAvatar`: the id of the user. -/
def updateAvatar (uid avatar : Bytes) : Action (Option Int) :=
  .atomic do
    let res ← findByUid uid
    match res with
    | none => return none
    | some user => do
      let updated ← execute (Tables.setAvatar user.id avatar)
      return if updated then some user.id else none

/-- `UpdatePassword`: the id of the user. -/
def updatePassword (uid passwordHash : Bytes) : Action (Option Int) :=
  .atomic do
    let res ← findByUid uid
    match res with
    | none => return none
    | some user => do
      let updated ← execute (Tables.setPasswordHash user.id passwordHash)
      return if updated then some user.id else none

end UserDao

namespace FileDao

/-- The file as `Insert` stores it, with the time filled in. -/
def stampFile (now : Bytes) (file : UserFile) : UserFile :=
  let createdAt := if file.createdAt.isEmpty then now else file.createdAt
  { file with createdAt := createdAt, updatedAt := createdAt }

def insert (file : UserFile) : Action Bool :=
  .atomic do
    let now ← nowUtcStr
    let file := stampFile now file
    let id ← insertReturningId Tables.userFiles file (Tables.insertFile file)
    return id.isSome

/-- `Insert` once more, with the id of the new file. -/
def insertId (file : UserFile) : Action (Option Int) :=
  .atomic do
    let now ← nowUtcStr
    let file := stampFile now file
    insertReturningId Tables.userFiles file (Tables.insertFile file)

def findById (id : Int) : Action (Option UserFile) :=
  query none fun t => t.userFiles.rows.find? fun r => r.id = id && r.status = .active

/-- The file types that the statements are built with. -/
def kAllowed : List Bytes := [ascii "avatar", ascii "image", ascii "voice", ascii "video", ascii "file"]

/-- `FindLatestByUserAndType`: the one with the greatest id. -/
def findLatestByUserAndType (userId : Int) (fileType : Bytes) : Action (Option UserFile) :=
  if fileType ∈ kAllowed then query none fun t =>
    (t.userFiles.rows.filter fun r =>
      r.userId = userId && r.fileType = fileType && r.status = .active).getLast?
  else return none

/-- `UpdatePath`: a SELECT, then an UPDATE of the path. -/
def updatePath (id : Int) (path : Bytes) : Action Bool :=
  .atomic do
    let res ← query none fun t => t.userFiles.rows.find? fun r => r.id = id
    match res with
    | none => return false
    | some _ => execute (Tables.setFilePath id path)

/-- The loop of `SoftDeleteByUserAndType`; it goes on behind a row that fails. -/
def softDeleteEach (now : Bytes) : List UserFile → Action Bool
  | [] => return true
  | f :: rest => do
    let done ← execute (Tables.setFileStatus f.id .deleted now)
    let others ← softDeleteEach now rest
    return done && others

def softDeleteByUserAndType (userId : Int) (fileType : Bytes) : Action Bool :=
  .atomic do
    let rows ← query [] fun t => t.userFiles.rows.filter fun r =>
      r.userId = userId && r.fileType = fileType && r.status = .active
    let now ← nowUtcStr
    softDeleteEach now rows

end FileDao

namespace FriendDao

/-- The request as `InsertRequest` stores it, with the time filled in. -/
def stampRequest (now : Bytes) (fr : FriendRequest) : FriendRequest :=
  let createdAt := if fr.createdAt.isEmpty then now else fr.createdAt
  { fr with createdAt := createdAt, updatedAt := createdAt }

/-- `InsertRequest`: the id of the new request. -/
def insertRequest (fr : FriendRequest) : Action (Option Int) :=
  .atomic do
    let now ← nowUtcStr
    let fr := stampRequest now fr
    insertReturningId Tables.friendRequests fr (Tables.insertRequest fr)

def findRequestById (id : Int) : Action (Option FriendRequest) :=
  query none fun t => t.friendRequests.rows.find? fun r => r.id = id

def findPendingRequest (fromId toId : Int) : Action (Option FriendRequest) :=
  query none fun t => t.friendRequests.rows.find? fun r =>
    r.fromId = fromId && r.toId = toId && r.status = .pending

def updateRequestStatus (id : Int) (status : FriendRequestStatus) : Action Bool :=
  .atomic do
    let now ← nowUtcStr
    execute (Tables.setRequestStatus id status now)

/-- `GetRequestsByUser`: the number of requests to a user, and a page of them, newest first. -/
def getRequestsByUser (userId offset limit : Int) : Action (Int × List FriendRequest) :=
  .atomic do
    let total ← query 0 fun t => (t.friendRequests.rows.filter fun r => r.toId = userId).length
    let items ← query [] fun t =>
      ((t.friendRequests.rows.filter fun r => r.toId = userId).reverse.drop offset.toNat).take limit.toNat
    return (total, items)

/-- The friendship as `InsertFriendship` stores it. -/
def stampFriendship (now : Bytes) (f : Friendship) : Friendship :=
  let createdAt := if f.createdAt.isEmpty then now else f.createdAt
  { f with createdAt := createdAt, updatedAt := createdAt }

def insertFriendship (f : Friendship) : Action Bool :=
  .atomic do
    let now ← nowUtcStr
    let f := stampFriendship now f
    let id ← insertReturningId Tables.friendships f (Tables.insertFriendship f)
    return id.isSome

def findFriendship (userId friendId : Int) : Action (Option Friendship) :=
  query none fun t => t.friendships.rows.find? fun r => r.userId = userId && r.friendId = friendId

def updateFriendshipStatus (userId friendId : Int) (status : FriendshipStatus) : Action Bool :=
  .atomic do
    let now ← nowUtcStr
    execute (Tables.setFriendshipStatus userId friendId status now)

def getFriendsByUser (userId : Int) : Action (List Friendship) :=
  query [] fun t => t.friendships.rows.filter fun r => r.userId = userId && r.status = .normal

end FriendDao

namespace GroupDao

/-- The group as `InsertGroup` stores it. -/
def stampGroup (now : Bytes) (group : Group) : Group :=
  { group with createdAt := if group.createdAt.isEmpty then now else group.createdAt }

/-- `InsertGroup`: the id of the new group. -/
def insertGroup (group : Group) : Action (Option Int) :=
  .atomic do
    let now ← nowUtcStr
    let group := stampGroup now group
    insertReturningId Tables.groups group (Tables.insertGroup group)

def findByConversationId (conversationId : Int) : Action (Option Group) :=
  query none fun t => t.groups.rows.find? fun r => r.conversationId = conversationId

def updateGroup (group : Group) : Action Bool := execute (Tables.updateGroup group)

def deleteByConversationId (conversationId : Int) : Action Bool :=
  execute (Tables.deleteGroup conversationId)

/-- `FindGroupsByUser`: one copy of the group for each membership row. -/
def findGroupsByUser (userId : Int) : Action (List Group) :=
  query [] fun t => t.groups.rows.flatMap fun g =>
    (t.members.rows.filter fun m => m.conversationId = g.conversationId && m.userId = userId).map fun _ => g

/-- The request as `InsertJoinRequest` stores it. -/
def stampJoinRequest (now : Bytes) (jr : GroupJoinRequest) : GroupJoinRequest :=
  let createdAt := if jr.createdAt.isEmpty then now else jr.createdAt
  { jr with createdAt := createdAt, updatedAt := createdAt }

def insertJoinRequest (jr : GroupJoinRequest) : Action (Option Int) :=
  .atomic do
    let now ← nowUtcStr
    let jr := stampJoinRequest now jr
    insertReturningId Tables.groupJoinRequests jr (Tables.insertJoinRequest jr)

def findPendingJoinRequest (conversationId userId : Int) : Action (Option GroupJoinRequest) :=
  query none fun t => t.groupJoinRequests.rows.find? fun r =>
    r.conversationId = conversationId && r.userId = userId && r.status = .pending

def findJoinRequestById (id : Int) : Action (Option GroupJoinRequest) :=
  query none fun t => t.groupJoinRequests.rows.find? fun r => r.id = id

def updateJoinRequestStatus (id : Int) (status : JoinRequestStatus) : Action Bool :=
  .atomic do
    let now ← nowUtcStr
    execute (Tables.setJoinRequestStatus id status now)

end GroupDao

/-! ### What the composite calls execute -/

/-- The text of the current time. -/
def nowText (w : World) : Bytes := Calendar.formatUtc (w.mem.systemMs / 1000)

@[simp] theorem run_nowUtcStr (w : World) : nowUtcStr.run w = ⟨nowText w, w, []⟩ := run_peek _ _

/-- A table without unique columns takes every row and numbers it. -/
theorem run_insertReturningId {ρ : Type} [Row ρ] (free : ∀ a b : ρ, Row.clash a b = false)
    (table : Tables → Table ρ) (row : ρ) (effect : Tables → Tables) (w : World) :
    (insertReturningId table row effect).run w =
      (statement none (fun t => some (((table t).lastId : Int) + 1)) effect : Action (Option Int)).run w := by
  have id : (table w.tables).insertId row = (table w.tables).lastId + 1 :=
    Table.insertId_free (by simp [Table.taken, free])
  have positive : ((table w.tables).lastId : Int) + 1 ≠ 0 := by omega
  simp [insertReturningId, id, positive]

theorem run_createConversation (conv : Conversation) (w : World) :
    (ConversationDao.createConversation conv).run w =
      (statement none (fun t => some ((t.conversations.lastId : Int) + 1))
        (Tables.createConversation conv) : Action (Option Int)).run w :=
  run_insertReturningId (fun _ _ => rfl) ..

theorem run_addMember (member : ConversationMember) (w : World) :
    (ConversationDao.addMember member).run w =
      (statement false (fun t => !t.members.taken member) (Tables.addMember member) : Action Bool).run w := by
  by_cases fault : w.fails <;>
    by_cases clash : w.tables.members.taken member <;>
    simp [ConversationDao.addMember, insertReturningId, fault, clash, Table.insertId_eq_zero]

theorem run_updateRequestStatus (id : Int) (status : FriendRequestStatus) (w : World) :
    (FriendDao.updateRequestStatus id status).run w =
      (execute (Tables.setRequestStatus id status (nowText w)) : Action Bool).run w := by
  simp [FriendDao.updateRequestStatus]

theorem run_insertRequest (fr : FriendRequest) (w : World) :
    (FriendDao.insertRequest fr).run w =
      (statement none (fun t => some ((t.friendRequests.lastId : Int) + 1))
        (Tables.insertRequest (FriendDao.stampRequest (nowText w) fr)) : Action (Option Int)).run w := by
  simpa [FriendDao.insertRequest] using run_insertReturningId (fun _ _ => rfl) ..

theorem run_insertFriendship (f : Friendship) (w : World) :
    (FriendDao.insertFriendship f).run w =
      (statement false (fun t => !t.friendships.taken (FriendDao.stampFriendship (nowText w) f))
        (Tables.insertFriendship (FriendDao.stampFriendship (nowText w) f)) : Action Bool).run w := by
  by_cases fault : w.fails <;>
    by_cases clash : w.tables.friendships.taken (FriendDao.stampFriendship (nowText w) f) <;>
    simp_all [FriendDao.insertFriendship, insertReturningId, Table.insertId_eq_zero]

theorem run_updateFriendshipStatus (userId friendId : Int) (status : FriendshipStatus) (w : World) :
    (FriendDao.updateFriendshipStatus userId friendId status).run w =
      (execute (Tables.setFriendshipStatus userId friendId status (nowText w)) : Action Bool).run w := by
  simp [FriendDao.updateFriendshipStatus]

theorem run_insertGroup (group : Group) (w : World) :
    (GroupDao.insertGroup group).run w =
      (statement none (fun t => some ((t.groups.lastId : Int) + 1))
        (Tables.insertGroup (GroupDao.stampGroup (nowText w) group)) : Action (Option Int)).run w := by
  simpa [GroupDao.insertGroup] using run_insertReturningId (fun _ _ => rfl) ..

theorem run_insertJoinRequest (jr : GroupJoinRequest) (w : World) :
    (GroupDao.insertJoinRequest jr).run w =
      (statement none (fun t => some ((t.groupJoinRequests.lastId : Int) + 1))
        (Tables.insertJoinRequest (GroupDao.stampJoinRequest (nowText w) jr)) : Action (Option Int)).run w := by
  simpa [GroupDao.insertJoinRequest] using run_insertReturningId (fun _ _ => rfl) ..

theorem run_updateJoinRequestStatus (id : Int) (status : JoinRequestStatus) (w : World) :
    (GroupDao.updateJoinRequestStatus id status).run w =
      (execute (Tables.setJoinRequestStatus id status (nowText w)) : Action Bool).run w := by
  simp [GroupDao.updateJoinRequestStatus]

theorem member_free {t : Tables} {member : ConversationMember}
    (free : ∀ m ∈ t.members.rows, ¬(m.conversationId = member.conversationId ∧ m.userId = member.userId)) :
    t.members.taken member = false := by
  simp only [Table.taken, List.any_eq_false]
  intro m inside clash
  simp only [Row.clash, Bool.and_eq_true, decide_eq_true_eq] at clash
  exact free m inside ⟨clash.1.symm, clash.2.symm⟩

theorem friendship_free {t : Tables} {friend : Friendship}
    (free : ∀ row ∈ t.friendships.rows, ¬(row.userId = friend.userId ∧ row.friendId = friend.friendId)) :
    t.friendships.taken friend = false := by
  simp only [Table.taken, List.any_eq_false]
  intro row inside clash
  simp only [Row.clash, Bool.and_eq_true, decide_eq_true_eq] at clash
  exact free row inside ⟨clash.1.symm, clash.2.symm⟩

/-- Without failures to come a new member is stored. -/
theorem sound_addMember {β : Type} {w : World} {member : ConversationMember} {f : Bool → Action β}
    {post : Outcome World Event β → Prop} (sound : w.faults = [])
    (free : ∀ m ∈ w.tables.members.rows, ¬(m.conversationId = member.conversationId ∧ m.userId = member.userId))
    (hit : (f true).Ensures (w.wrote (w.tables.addMember member)) post) :
    (ConversationDao.addMember member >>= f).Ensures w post := by
  refine sound_statement sound (run_addMember _ _) ?_
  rw [member_free free]
  exact hit

section InsertFriendship
variable {β : Type} {w : World} {friend : Friendship} {f : Bool → Action β} {post : Outcome World Event β → Prop}

/-- A friendship is stored when its pair has no row. -/
theorem sound_insertFriendship (sound : w.faults = [])
    (free : ∀ row ∈ w.tables.friendships.rows, ¬(row.userId = friend.userId ∧ row.friendId = friend.friendId))
    (hit : (f true).Ensures
      (w.wrote (w.tables.insertFriendship (FriendDao.stampFriendship (nowText w) friend))) post) :
    (FriendDao.insertFriendship friend >>= f).Ensures w post := by
  refine sound_statement sound (run_insertFriendship _ _) ?_
  rw [@friendship_free _ (FriendDao.stampFriendship (nowText w) friend) free]
  exact hit

/-- A friendship whose pair has a row is turned away. -/
theorem sound_clash {row : Friendship} (sound : w.faults = []) (inside : row ∈ w.tables.friendships.rows)
    (pair : row.userId = friend.userId ∧ row.friendId = friend.friendId)
    (miss : ∀ w', (f false).Ensures w' post) : (FriendDao.insertFriendship friend >>= f).Ensures w post := by
  have taken : w.tables.friendships.taken (FriendDao.stampFriendship (nowText w) friend) = true :=
    (Table.taken_iff _ _).mpr ⟨row, inside, by simp [Row.clash, FriendDao.stampFriendship, pair]⟩
  refine sound_statement sound (run_insertFriendship _ _) ?_
  rw [taken]
  exact miss _

end InsertFriendship

/-! ### Queries of several statements -/

theorem silent_findByIds (ids : List Int) : Silent (UserDao.findByIds ids) := by
  unfold UserDao.findByIds
  split
  · exact silent_ret _
  · exact silent_query _ _

/-- Without failures to come the users are found, asked for or not. -/
theorem sound_findByIds {β : Type} {w : World} {ids : List Int} {f : List User → Action β}
    {post : Outcome World Event β → Prop} (sound : w.faults = [])
    (hit : ∀ w' : World, Same w w' → w'.faults = [] →
      (f (w.tables.users.rows.filter fun r => r.id ∈ ids && r.status ≠ .deleted)).Ensures w' post) :
    (UserDao.findByIds ids >>= f).Ensures w post := by
  unfold UserDao.findByIds
  split
  · rename_i nobody
    have none : (w.tables.users.rows.filter fun r => r.id ∈ ids && r.status ≠ .deleted) = [] := by
      rw [List.isEmpty_iff.mp nobody]
      simp
    have rest := hit w (.refl w) sound
    rw [none] at rest
    exact rest
  · exact sound_query sound (hit w.spend ⟨rfl, rfl, rfl⟩ (by simp [sound]))

theorem silent_conversations (ids : List Int) : Silent (ConversationDao.findByIds ids) := by
  unfold ConversationDao.findByIds
  split
  · exact silent_ret _
  · exact silent_query _ _

theorem silent_membersOf (ids : List Int) : Silent (ConversationDao.getMembersByConversationIds ids) := by
  unfold ConversationDao.getMembersByConversationIds
  split
  · exact silent_ret _
  · exact silent_query _ _

theorem silent_getRequestsByUser (userId offset limit : Int) :
    Silent (FriendDao.getRequestsByUser userId offset limit) :=
  silent_atomic (silent_bind (silent_query _ _) fun _ => silent_bind (silent_query _ _) fun _ => silent_ret _)

theorem silent_latest (convFromSeqs : List (Int × Int)) (limitPerConv : Nat) :
    Silent (MessageDao.getLatestByConversations convFromSeqs limitPerConv) := by
  have loop : ∀ rounds convFromSeqs, Silent (MessageDao.latestBatches limitPerConv rounds convFromSeqs) := by
    intro rounds
    induction rounds with
    | zero => exact fun _ => silent_ret _
    | succ rounds ih =>
      intro convFromSeqs
      unfold MessageDao.latestBatches
      split
      · exact silent_ret _
      · exact silent_bind (silent_query _ _) fun _ => silent_bind (ih _) fun _ => silent_ret _
  exact loop _ _

end NovaIIM
