import NovaIIM.Plain
import NovaIIM.Router

/-!
Handlers that do not look at the contents of messages.

`Tables.masked` hides the contents of some messages. Most handlers are built of
statements that answer the same on masked tables and leave the messages alone, and
none but a login and a logout changes who is logged in where.
-/
namespace NovaIIM
open Store

/-- What stands for a content that is hidden. -/
def kHidden : Bytes := [0]

/-- A message whose content is hidden if its conversation and id are among the hidden ones. -/
def Message.masked (hidden : Int → Int → Bool) (m : Message) : Message :=
  if hidden m.conversationId m.id then { m with content := kHidden } else m

theorem Message.masked_id (hidden : Int → Int → Bool) (m : Message) : (m.masked hidden).id = m.id := by
  unfold Message.masked
  split <;> rfl

/-- The tables with the contents of some messages hidden. -/
def Tables.masked (hidden : Int → Int → Bool) (t : Tables) : Tables :=
  { t with
    messages := t.messages.update (fun _ => true)
      { apply := Message.masked hidden
        same_id := Message.masked_id hidden
        same_clash := fun _ _ => rfl } }

/-- The rows that neither the user service, the file service nor a ban writes. -/
def Tables.kept (t : Tables) :
    Table Message × Table Friendship × Table Conversation × Table ConversationMember × Table Group :=
  (t.messages, t.friendships, t.conversations, t.members, t.groups)

/-- The rows that neither the friend, the group nor the conversation service writes. -/
def Tables.spared (t : Tables) : Table Message × Table User := (t.messages, t.users)

/-- The rows that are about conversations, groups and friends. -/
def Tables.social (t : Tables) :
    (Table Message × Table Friendship × Table Conversation × Table ConversationMember × Table Group) ×
      Table FriendRequest × Table GroupJoinRequest :=
  (t.kept, t.friendRequests, t.groupJoinRequests)

/-- The rows that are left alone by what does not write the users either. -/
def Tables.settled (t : Tables) :
    ((Table Message × Table Friendship × Table Conversation × Table ConversationMember × Table Group) ×
      Table FriendRequest × Table GroupJoinRequest) × Table User :=
  (t.social, t.users)

/-- Who is logged in where, and the configuration. -/
structure Sessions where
  connections : ConnId → Connection
  connManager : ConnManager
  config : ServerConfig

def sessions (m : Server) : Sessions := ⟨m.connections, m.connManager, m.config⟩

/-- The limiter of the logins, and the clock it goes by. -/
def logins (m : Server) : RateLimiter × Nat := (m.loginLimiter, m.steady)

/-- What a login goes by. -/
def presence (m : Server) : Sessions × RateLimiter × Nat := (sessions m, logins m)

/-- Programs that neither see contents nor write what is about conversations, groups and friends,
    change neither a session nor the limiter and have no transaction. -/
abbrev AsideHandler {α : Type} (p : Action α) : Prop := Plain False Tables.masked Tables.social presence p

/-- Programs that leave the users alone as well. -/
abbrev SettledHandler {α : Type} (p : Action α) : Prop := Plain False Tables.masked Tables.settled presence p

section Weaker
variable {trans : Prop} {α μ : Type} {view : Server → μ} {p : Action α}

theorem Store.Plain.social (settled : Plain trans Tables.masked Tables.settled view p) :
    Plain trans Tables.masked Tables.social view p :=
  settled.weaken Prod.fst id id

theorem Store.Plain.kept (social : Plain trans Tables.masked Tables.social view p) :
    Plain trans Tables.masked Tables.kept view p :=
  social.weaken Prod.fst id id

theorem Store.Plain.spares (settled : Plain trans Tables.masked Tables.settled view p) :
    Plain trans Tables.masked Tables.spared view p :=
  settled.weaken (fun rows => (rows.1.1.1, rows.2)) id id

theorem Store.Plain.unseen {ρ : Type} {part : Tables → ρ} (plain : Plain trans Tables.masked part view p) :
    Plain trans Tables.masked part (fun _ => ()) p :=
  plain.weaken id (fun _ => ()) id

theorem Store.Plain.limiter {ρ : Type} {part : Tables → ρ} (plain : Plain trans Tables.masked part presence p) :
    Plain trans Tables.masked part logins p :=
  plain.weaken id Prod.snd id

end Weaker

section Steps
variable {trans : Prop} {ρ μ : Type} {part : Tables → ρ} {view : Server → μ} {conn : ConnId} {seq : UInt32}

/-- An insertion into a table other than the messages. -/
theorem plain_insert {δ : Type} [Row δ] {table : Tables → Table δ} {row : δ} {effect : Tables → Tables}
    (blind : ∀ hidden t, table (t.masked hidden) = table t)
    (commutes : ∀ hidden t, effect (Tables.masked hidden t) = (effect t).masked hidden)
    (apart : ∀ t, part (effect t) = part t) :
    Plain trans Tables.masked part view (insertReturningId table row effect) :=
  .statement (fun hidden t => by rw [blind]) commutes apart

theorem plain_sendToUser {userId : Int} {packet : Packet} :
    Plain trans Tables.masked part view (sendToUser userId packet) :=
  .bind (plain_peek _) fun _ => plain_forEach fun _ => plain_emits _

theorem plain_nowUtcStr : Plain trans Tables.masked part view nowUtcStr := plain_peek _

/-- A statement that needs the time. -/
theorem plain_stamped {α : Type} {p : Bytes → Action α} (plain : ∀ now, Plain trans Tables.masked part view (p now)) :
    Plain trans Tables.masked part view (.atomic (nowUtcStr >>= p)) := .atomic (.bind plain_nowUtcStr plain)

/-- What is published waits on the bus. -/
theorem MessageBus.plain_publish {ι : Type} {mask : ι → Tables → Tables} {event : BusEvent}
    (blind : ∀ (m : Server) bus, view { m with bus := bus } = view m) : Plain trans mask part view (publish event) :=
  plain_modify fun m => by
    split
    · exact blind m _
    · rfl

theorem AdminServer.plain_writeAuditLog : Plain trans Tables.masked part view writeAuditLog :=
  .bind (plain_execute (fun _ _ => rfl) fun _ => rfl) fun _ => .ret ()

theorem plain_createConversation {conv : Conversation} :
    Plain trans Tables.masked Tables.spared view (ConversationDao.createConversation conv) :=
  plain_insert (fun _ _ => rfl) (fun _ _ => rfl) fun _ => rfl

theorem plain_addMember {member : ConversationMember} :
    Plain trans Tables.masked Tables.spared view (ConversationDao.addMember member) :=
  .bind (plain_insert (fun _ _ => rfl) (fun _ _ => rfl) fun _ => rfl) fun _ => .ret _

theorem plain_insertRequest {fr : FriendRequest} :
    Plain trans Tables.masked Tables.spared view (FriendDao.insertRequest fr) :=
  plain_stamped fun _ => plain_insert (fun _ _ => rfl) (fun _ _ => rfl) fun _ => rfl

theorem plain_updateRequestStatus {id : Int} {status : FriendRequestStatus} :
    Plain trans Tables.masked Tables.spared view (FriendDao.updateRequestStatus id status) :=
  plain_stamped fun _ => plain_execute (fun _ _ => rfl) fun _ => rfl

theorem plain_getRequestsByUser {userId offset limit : Int} :
    Plain trans Tables.masked Tables.spared view (FriendDao.getRequestsByUser userId offset limit) :=
  .atomic (.bind (plain_query fun _ _ => rfl) fun _ => .bind (plain_query fun _ _ => rfl) fun _ => .ret _)

theorem plain_insertFriendship {f : Friendship} :
    Plain trans Tables.masked Tables.spared view (FriendDao.insertFriendship f) :=
  plain_stamped fun _ => .bind (plain_insert (fun _ _ => rfl) (fun _ _ => rfl) fun _ => rfl) fun _ => .ret _

theorem plain_updateFriendshipStatus {userId friendId : Int} {status : FriendshipStatus} :
    Plain trans Tables.masked Tables.spared view (FriendDao.updateFriendshipStatus userId friendId status) :=
  plain_stamped fun _ => plain_execute (fun _ _ => rfl) fun _ => rfl

theorem plain_insertGroup {group : Group} : Plain trans Tables.masked Tables.spared view (GroupDao.insertGroup group) :=
  plain_stamped fun _ => plain_insert (fun _ _ => rfl) (fun _ _ => rfl) fun _ => rfl

theorem plain_insertJoinRequest {jr : GroupJoinRequest} :
    Plain trans Tables.masked Tables.spared view (GroupDao.insertJoinRequest jr) :=
  plain_stamped fun _ => plain_insert (fun _ _ => rfl) (fun _ _ => rfl) fun _ => rfl

theorem plain_updateJoinRequestStatus {id : Int} {status : JoinRequestStatus} :
    Plain trans Tables.masked Tables.spared view (GroupDao.updateJoinRequestStatus id status) :=
  plain_stamped fun _ => plain_execute (fun _ _ => rfl) fun _ => rfl

theorem plain_insertUser {user : User} : Plain trans Tables.masked Tables.social view (UserDao.insert user) :=
  plain_insert (fun _ _ => rfl) (fun _ _ => rfl) fun _ => rfl

theorem plain_updateNickname {uid nickname : Bytes} :
    Plain trans Tables.masked Tables.social view (UserDao.updateNickname uid nickname) := by
  refine .atomic (.bind (plain_query fun _ _ => rfl) fun res => ?_)
  cases res with
  | none => exact .ret none
  | some user => exact .bind (plain_execute (fun _ _ => rfl) fun _ => rfl) fun _ => .ret _

theorem plain_updateAvatar {uid avatar : Bytes} :
    Plain trans Tables.masked Tables.social view (UserDao.updateAvatar uid avatar) := by
  refine .atomic (.bind (plain_query fun _ _ => rfl) fun res => ?_)
  cases res with
  | none => exact .ret none
  | some user => exact .bind (plain_execute (fun _ _ => rfl) fun _ => rfl) fun _ => .ret _

theorem plain_findByIds {ids : List Int} : Plain trans Tables.masked part view (UserDao.findByIds ids) :=
  plain_ite (.ret []) (plain_query fun _ _ => rfl)

theorem plain_searchByNickname {keyword : Bytes} {limit : Nat} :
    Plain trans Tables.masked Tables.settled view (UserDao.searchByNickname keyword limit) :=
  plain_ite (.ret []) (plain_query fun _ _ => rfl)

theorem plain_upsertDevice {uid deviceId deviceType : Bytes} :
    Plain trans Tables.masked Tables.settled view (UserDao.upsertDevice uid deviceId deviceType) := by
  refine .atomic (.bind (plain_query fun _ _ => rfl) fun res => .bind (plain_peek _) fun _ => ?_)
  cases res with
  | none => exact .bind (plain_execute (fun _ _ => rfl) fun _ => rfl) fun _ => .ret ()
  | some device => exact .bind (plain_execute (fun _ _ => rfl) fun _ => rfl) fun _ => .ret ()

theorem plain_insertFile {file : UserFile} : Plain trans Tables.masked Tables.settled view (FileDao.insert file) :=
  plain_stamped fun _ => .bind (plain_insert (fun _ _ => rfl) (fun _ _ => rfl) fun _ => rfl) fun _ => .ret _

theorem plain_insertFileId {file : UserFile} : Plain trans Tables.masked Tables.settled view (FileDao.insertId file) :=
  plain_stamped fun _ => plain_insert (fun _ _ => rfl) (fun _ _ => rfl) fun _ => rfl

theorem plain_findLatest {userId : Int} {fileType : Bytes} :
    Plain trans Tables.masked Tables.settled view (FileDao.findLatestByUserAndType userId fileType) :=
  plain_ite (plain_query fun _ _ => rfl) (.ret none)

theorem plain_updatePath {id : Int} {path : Bytes} :
    Plain trans Tables.masked Tables.settled view (FileDao.updatePath id path) := by
  refine .atomic (.bind (plain_query fun _ _ => rfl) fun res => ?_)
  cases res with
  | none => exact .ret false
  | some file => exact plain_execute (fun _ _ => rfl) fun _ => rfl

theorem plain_softDeleteEach {now : Bytes} {files : List UserFile} :
    Plain trans Tables.masked Tables.settled view (FileDao.softDeleteEach now files) := by
  induction files with
  | nil => exact .ret true
  | cons file rest ih =>
    exact .bind (plain_execute (fun _ _ => rfl) fun _ => rfl) fun _ => .bind ih fun _ => .ret _

theorem plain_softDelete {userId : Int} {fileType : Bytes} :
    Plain trans Tables.masked Tables.settled view (FileDao.softDeleteByUserAndType userId fileType) :=
  .atomic (.bind (plain_query fun _ _ => rfl) fun _ => .bind (plain_peek _) fun _ => plain_softDeleteEach)

theorem plain_addMembers {conversationId : Int} {now : Bytes} {ids : List Int} :
    Plain trans Tables.masked Tables.spared view (GroupService.addMembers conversationId now ids) := by
  induction ids with
  | nil => exact .ret true
  | cons id rest ih => exact .bind plain_addMember fun added => plain_ite (.ret false) ih

theorem plain_countAll {ids : List Int} : Plain trans Tables.masked Tables.spared view (GroupService.countAll ids) := by
  induction ids with
  | nil => exact .ret []
  | cons id rest ih => exact .bind (plain_query fun _ _ => rfl) fun _ => .bind ih fun _ => .ret _

theorem plain_broadcastConvUpdate {conversationId excludeUserId : Int} {update : ConvUpdateMsg} :
    Plain trans Tables.masked Tables.spared view (ConvService.broadcastConvUpdate conversationId excludeUserId update) :=
  .bind (plain_query fun _ _ => rfl) fun _ => plain_forEach fun _ => plain_ite (.ret ()) plain_sendToUser

theorem plain_sendToMembers {members : List ConversationMember} {excludeUserId : Int} {packet : Packet} :
    Plain trans Tables.masked Tables.spared view (GroupService.sendToMembers members excludeUserId packet) :=
  plain_forEach fun _ => plain_ite (.ret ()) plain_sendToUser

theorem plain_notifyFrom {senderId targetUserId notifyType requestId conversationId : Int} {remark : Bytes} :
    Plain trans Tables.masked Tables.spared view
      (FriendService.notifyFrom senderId targetUserId notifyType remark requestId conversationId) := by
  refine .bind (plain_query fun _ _ => rfl) fun me => ?_
  cases me with
  | none => exact .ret ()
  | some me => exact plain_sendToUser

end Steps

/-! ### Handlers -/

section Handlers
variable {conn : ConnId} {seq : UInt32}

/-- The requests whose handlers have a transaction. -/
def FriendService.Request.opens : FriendService.Request → Prop
  | handleRequest .. | deleteFriend .. => True
  | _ => False

/-- Programs that see no contents, write neither messages nor users and change neither a session nor the limiter. -/
abbrev SparingHandler {α : Type} (trans : Prop) (p : Action α) : Prop := Plain trans Tables.masked Tables.spared presence p

theorem plain_abort {ρ μ : Type} {part : Tables → ρ} {view : Server → μ} {reply : Handler}
    (replies : Plain True Tables.masked part view reply) : Plain True Tables.masked part view (abort reply) :=
  .bind replies fun _ => .rollback trivial

theorem plain_begin {ρ μ α : Type} {part : Tables → ρ} {view : Server → μ} {stop rest : Action α}
    (stops : Plain True Tables.masked part view stop) (goes : Plain True Tables.masked part view rest) :
    Plain True Tables.masked part view (do if !(← beginTransaction) then stop else rest) :=
  plain_check (.beginTransaction trivial) stops goes

namespace FriendService

theorem plain_handleAddFriend (body : Option AddFriendReq) : SparingHandler False (handleAddFriend conn seq body) := by
  refine .bind (plain_peek _) fun me => plain_ite (plain_emits _) ?_
  cases body with
  | none => exact plain_emits _
  | some req =>
    refine plain_ite (plain_emits _) (plain_ite (plain_emits _) ?_)
    refine plain_lookup (plain_query fun _ _ => rfl) (plain_emits _) fun target => plain_ite (plain_emits _) ?_
    refine .bind (plain_query fun _ _ => rfl) fun _ => plain_ite (plain_emits _) ?_
    refine .bind (plain_query fun _ _ => rfl) fun _ => plain_ite (plain_emits _) (plain_ite (plain_emits _) ?_)
    refine .bind (plain_query fun _ _ => rfl) fun _ => plain_ite (plain_emits _) ?_
    refine .bind (plain_query fun _ _ => rfl) fun _ => plain_ite (plain_emits _) (plain_ite (plain_emits _) ?_)
    refine plain_lookup plain_insertRequest (plain_emits _) fun id => ?_
    exact .bind plain_notifyFrom fun _ => plain_emits _

theorem plain_requestHandled {trans : Prop} {userId notifyType conversationId : Int} {fr : FriendRequest} :
    SparingHandler trans (requestHandled conn seq userId fr notifyType conversationId) :=
  .bind plain_notifyFrom fun _ => plain_emits _

theorem plain_pairUp {userId conversationId : Int} {fr : FriendRequest} :
    SparingHandler True (pairUp conn seq userId fr conversationId) := by
  have stop : ∀ e, SparingHandler True (abort (sendHandleFriendReqAck conn seq e 0)) := fun e => plain_abort (plain_emits _)
  refine plain_check plain_insertFriendship (stop _) (plain_check plain_insertFriendship (stop _) ?_)
  exact plain_check (.commit trivial) (stop _) plain_requestHandled

theorem plain_accept {userId requestId : Int} {fr : FriendRequest} :
    SparingHandler True (accept conn seq userId requestId fr) := by
  have stop : ∀ e, SparingHandler True (abort (sendHandleFriendReqAck conn seq e 0)) := fun e => plain_abort (plain_emits _)
  refine plain_check plain_updateRequestStatus (stop _) ?_
  refine plain_lookup plain_createConversation (stop _) fun conversationId => ?_
  exact plain_check plain_addMember (stop _) (plain_check plain_addMember (stop _) plain_pairUp)

theorem plain_handleRequest (body : Option HandleFriendReqReq) :
    SparingHandler True (FriendService.handleRequest conn seq body) := by
  refine .bind (plain_peek _) fun me => plain_ite (plain_emits _) ?_
  cases body with
  | none => exact plain_emits _
  | some req =>
    refine plain_ite (plain_emits _) (plain_ite (plain_emits _) ?_)
    refine plain_lookup (plain_query fun _ _ => rfl) (plain_emits _) fun fr => ?_
    refine plain_ite (plain_emits _) (plain_ite (plain_emits _) (plain_ite ?_ ?_))
    · refine .bind (plain_query fun _ _ => rfl) fun _ => plain_ite (plain_emits _) ?_
      exact plain_begin (plain_emits _) plain_accept
    · exact plain_check plain_updateRequestStatus (plain_emits _) plain_requestHandled

theorem plain_remove {myId targetId conversationId : Int} :
    SparingHandler True (remove conn seq myId targetId conversationId) := by
  have stop : ∀ e, SparingHandler True (abort (sendRsp conn .deleteFriendAck seq e)) := fun e => plain_abort (plain_emits _)
  have leaves : ∀ userId, SparingHandler True
      (if 0 < conversationId then ConversationDao.removeMember conversationId userId else pure true) := fun userId =>
    plain_ite (plain_execute (fun _ _ => rfl) fun _ => rfl) (.ret true)
  refine plain_check plain_updateFriendshipStatus (stop _) (plain_check plain_updateFriendshipStatus (stop _) ?_)
  refine plain_check (leaves _) (stop _) (plain_check (leaves _) (stop _) (plain_check (.commit trivial) (stop _) ?_))
  exact .bind plain_notifyFrom fun _ => plain_emits _

theorem plain_handleDeleteFriend (body : Option TargetReq) : SparingHandler True (handleDeleteFriend conn seq body) := by
  refine .bind (plain_peek _) fun me => plain_ite (plain_emits _) ?_
  cases body with
  | none => exact plain_emits _
  | some req =>
    refine plain_ite (plain_emits _) ?_
    refine plain_lookup (plain_query fun _ _ => rfl) (plain_emits _) fun target => ?_
    refine plain_lookup (plain_query fun _ _ => rfl) (plain_emits _) fun fs => plain_ite (plain_emits _) ?_
    exact plain_begin (plain_emits _) plain_remove

theorem plain_handleBlock (body : Option TargetReq) : SparingHandler False (handleBlock conn seq body) := by
  refine .bind (plain_peek _) fun me => plain_ite (plain_emits _) ?_
  cases body with
  | none => exact plain_emits _
  | some req =>
    refine plain_ite (plain_emits _) (plain_ite (plain_emits _) ?_)
    refine plain_lookup (plain_query fun _ _ => rfl) (plain_emits _) fun target => ?_
    refine .bind (plain_query fun _ _ => rfl) fun found => ?_
    cases found with
    | some fs =>
      exact plain_ite (plain_emits _) (plain_check plain_updateFriendshipStatus (plain_emits _) (plain_emits _))
    | none => exact plain_check plain_insertFriendship (plain_emits _) (plain_emits _)

theorem plain_handleUnblock (body : Option TargetReq) : SparingHandler False (handleUnblock conn seq body) := by
  refine .bind (plain_peek _) fun me => plain_ite (plain_emits _) ?_
  cases body with
  | none => exact plain_emits _
  | some req =>
    refine plain_ite (plain_emits _) ?_
    refine plain_lookup (plain_query fun _ _ => rfl) (plain_emits _) fun target => ?_
    refine plain_lookup (plain_query fun _ _ => rfl) (plain_emits _) fun fs => plain_ite (plain_emits _) ?_
    exact plain_check plain_updateFriendshipStatus (plain_emits _) (plain_emits _)

theorem plain_handleGetFriendList : SparingHandler False (handleGetFriendList conn seq) := by
  refine .bind (plain_peek _) fun me => plain_ite (plain_emits _) ?_
  exact .bind (plain_query fun _ _ => rfl) fun _ => .bind plain_findByIds fun _ => plain_emits _

theorem plain_handleGetRequests (body : Option GetFriendRequestsReq) :
    SparingHandler False (handleGetRequests conn seq body) := by
  refine .bind (plain_peek _) fun me => plain_ite (plain_emits _) ?_
  exact .bind plain_getRequestsByUser fun _ => .bind plain_findByIds fun _ => plain_emits _

theorem plain_handle (request : FriendService.Request) : SparingHandler request.opens (handle request) := by
  cases request with
  | addFriend conn seq body => exact plain_handleAddFriend body
  | handleRequest conn seq body => exact plain_handleRequest body
  | deleteFriend conn seq body => exact plain_handleDeleteFriend body
  | block conn seq body => exact plain_handleBlock body
  | unblock conn seq body => exact plain_handleUnblock body
  | getFriendList conn seq => exact plain_handleGetFriendList
  | getRequests conn seq body => exact plain_handleGetRequests body

end FriendService

namespace GroupService

theorem plain_sendGroupNotify {trans : Prop} {conversationId excludeUserId : Int} {notify : GroupNotifyMsg} :
    SparingHandler trans (sendGroupNotify conversationId excludeUserId notify) :=
  .bind (plain_query fun _ _ => rfl) fun _ => plain_forEach fun _ => plain_ite (.ret ()) plain_sendToUser

theorem plain_create {userId : Int} {req : CreateGroupReq} {memberIds : List Int} {now : Bytes} :
    SparingHandler True (create conn seq userId req memberIds now) := by
  have stop : ∀ e, SparingHandler True (abort (sendCreateGroupAck conn seq e 0 0)) := fun e => plain_abort (plain_emits _)
  refine plain_lookup plain_createConversation (stop _) fun conversationId => ?_
  refine plain_lookup plain_insertGroup (stop _) fun groupId => ?_
  refine plain_check plain_addMember (stop _) (plain_check plain_addMembers (stop _) ?_)
  exact plain_check (.commit trivial) (stop _) (.bind (plain_emits _) fun _ => plain_sendGroupNotify)

theorem plain_handleCreateGroup (body : Option CreateGroupReq) : SparingHandler True (handleCreateGroup conn seq body) := by
  refine .bind (plain_peek _) fun me => plain_ite (plain_emits _) ?_
  cases body with
  | none => exact plain_emits _
  | some req =>
    refine plain_ite (plain_emits _) (plain_ite (plain_emits _) (plain_ite (plain_emits _) (plain_ite (plain_emits _) ?_)))
    refine plain_ite (plain_emits _) (plain_ite (plain_emits _) ?_)
    refine .bind plain_findByIds fun _ => plain_ite (plain_emits _) (plain_ite (plain_emits _) ?_)
    exact .bind plain_nowUtcStr fun _ => plain_begin (plain_emits _) plain_create

theorem plain_dismiss {userId conversationId : Int} {membersSnapshot : List ConversationMember} :
    SparingHandler True (dismiss conn seq userId conversationId membersSnapshot) := by
  have stop : ∀ e, SparingHandler True (abort (sendRsp conn .dismissGroupAck seq e)) := fun e => plain_abort (plain_emits _)
  refine plain_check (plain_execute (fun _ _ => rfl) fun _ => rfl) (stop _) ?_
  refine plain_check (plain_execute (fun _ _ => rfl) fun _ => rfl) (stop _) (plain_check (.commit trivial) (stop _) ?_)
  exact .bind plain_sendToMembers fun _ => .bind plain_sendToMembers fun _ => plain_emits _

theorem plain_handleDismissGroup (body : Option ConversationReq) : SparingHandler True (handleDismissGroup conn seq body) := by
  refine .bind (plain_peek _) fun me => plain_ite (plain_emits _) ?_
  cases body with
  | none => exact plain_emits _
  | some req =>
    refine plain_ite (plain_emits _) ?_
    refine plain_lookup (plain_query fun _ _ => rfl) (plain_emits _) fun group => plain_ite (plain_emits _) ?_
    exact .bind (plain_query fun _ _ => rfl) fun _ => plain_begin (plain_emits _) plain_dismiss

theorem plain_handleJoinGroup (body : Option JoinGroupReq) : SparingHandler True (handleJoinGroup conn seq body) := by
  refine .bind (plain_peek _) fun me => plain_ite (plain_emits _) ?_
  cases body with
  | none => exact plain_emits _
  | some req =>
    refine plain_ite (plain_emits _) ?_
    refine .bind (plain_query fun _ _ => rfl) fun _ => plain_ite (plain_emits _) ?_
    refine .bind (plain_query fun _ _ => rfl) fun _ => plain_ite (plain_emits _) ?_
    refine .bind (plain_query fun _ _ => rfl) fun _ => plain_ite (plain_emits _) (plain_ite (plain_emits _) ?_)
    exact .bind plain_insertJoinRequest fun _ => plain_ite (plain_emits _) (plain_emits _)

theorem plain_approve {userId requestId : Int} {jr : GroupJoinRequest} :
    SparingHandler True (approve conn seq userId requestId jr) := by
  have stop : ∀ e, SparingHandler True (abort (sendRsp conn .handleJoinReqAck seq e)) := fun e => plain_abort (plain_emits _)
  refine .bind (plain_query fun _ _ => rfl) fun _ => plain_ite (stop _) (.bind plain_nowUtcStr fun _ => ?_)
  refine plain_check plain_addMember (stop _) (plain_check plain_updateJoinRequestStatus (stop _) ?_)
  refine plain_check (.commit trivial) (stop _) (.bind plain_sendGroupNotify fun _ => ?_)
  exact .bind plain_broadcastConvUpdate fun _ => plain_emits _

theorem plain_handleJoinReq (body : Option HandleJoinReqReq) : SparingHandler True (handleJoinReq conn seq body) := by
  refine .bind (plain_peek _) fun me => plain_ite (plain_emits _) ?_
  cases body with
  | none => exact plain_emits _
  | some req =>
    refine plain_ite (plain_emits _) ?_
    refine plain_lookup (plain_query fun _ _ => rfl) (plain_emits _) fun jr => plain_ite (plain_emits _) ?_
    refine .bind (plain_query fun _ _ => rfl) fun _ => plain_ite (plain_emits _) (plain_ite ?_ ?_)
    · refine .bind (plain_query fun _ _ => rfl) fun _ => plain_ite (plain_emits _) ?_
      exact plain_begin (plain_emits _) plain_approve
    · exact plain_check plain_updateJoinRequestStatus (plain_emits _) (plain_emits _)

theorem plain_handleLeaveGroup (body : Option ConversationReq) : SparingHandler True (handleLeaveGroup conn seq body) := by
  refine .bind (plain_peek _) fun me => plain_ite (plain_emits _) ?_
  cases body with
  | none => exact plain_emits _
  | some req =>
    refine plain_ite (plain_emits _) ?_
    refine plain_lookup (plain_query fun _ _ => rfl) (plain_emits _) fun member => plain_ite (plain_emits _) ?_
    refine plain_check (plain_execute (fun _ _ => rfl) fun _ => rfl) (plain_emits _) ?_
    exact .bind plain_sendGroupNotify fun _ => .bind plain_broadcastConvUpdate fun _ => plain_emits _

theorem plain_handleKickMember (body : Option KickMemberReq) : SparingHandler True (handleKickMember conn seq body) := by
  refine .bind (plain_peek _) fun me => plain_ite (plain_emits _) ?_
  cases body with
  | none => exact plain_emits _
  | some req =>
    refine plain_ite (plain_emits _) (plain_ite (plain_emits _) ?_)
    refine plain_lookup (plain_query fun _ _ => rfl) (plain_emits _) fun operator => plain_ite (plain_emits _) ?_
    refine plain_lookup (plain_query fun _ _ => rfl) (plain_emits _) fun target => plain_ite (plain_emits _) ?_
    refine plain_check (plain_execute (fun _ _ => rfl) fun _ => rfl) (plain_emits _) ?_
    refine .bind plain_sendGroupNotify fun _ => .bind plain_sendToUser fun _ => ?_
    exact .bind plain_broadcastConvUpdate fun _ => plain_emits _

theorem plain_handleGetGroupInfo (body : Option ConversationReq) : SparingHandler True (handleGetGroupInfo conn seq body) := by
  refine .bind (plain_peek _) fun me => plain_ite (plain_emits _) ?_
  cases body with
  | none => exact plain_emits _
  | some req =>
    refine plain_ite (plain_emits _) ?_
    refine plain_lookup (plain_query fun _ _ => rfl) (plain_emits _) fun group => ?_
    refine plain_check (plain_query fun _ _ => rfl) (plain_emits _) ?_
    exact .bind (plain_query fun _ _ => rfl) fun _ => plain_emits _

theorem plain_rewrite {userId : Int} {req : UpdateGroupReq} {group : Group} :
    SparingHandler True (rewrite conn seq userId req group) := by
  have stop : ∀ e, SparingHandler True (abort (sendRsp conn .updateGroupAck seq e)) := fun e => plain_abort (plain_emits _)
  refine plain_check (plain_execute (fun _ _ => rfl) fun _ => rfl) (stop _) (.bind (plain_query fun _ _ => rfl) fun conv => ?_)
  refine plain_check ?_ (stop _) (plain_check (.commit trivial) (stop _) ?_)
  · cases conv with
    | none => exact .ret true
    | some conv => exact plain_execute (fun _ _ => rfl) fun _ => rfl
  · exact .bind plain_sendGroupNotify fun _ => .bind plain_broadcastConvUpdate fun _ => plain_emits _

theorem plain_handleUpdateGroup (body : Option UpdateGroupReq) : SparingHandler True (handleUpdateGroup conn seq body) := by
  refine .bind (plain_peek _) fun me => plain_ite (plain_emits _) ?_
  cases body with
  | none => exact plain_emits _
  | some req =>
    refine plain_ite (plain_emits _) ?_
    refine .bind (plain_query fun _ _ => rfl) fun _ => plain_ite (plain_emits _) ?_
    refine plain_lookup (plain_query fun _ _ => rfl) (plain_emits _) fun group => ?_
    cases updateError req with
    | some e => exact plain_emits _
    | none => exact plain_begin (plain_emits _) plain_rewrite

theorem plain_handleGetGroupMembers (body : Option ConversationReq) :
    SparingHandler True (handleGetGroupMembers conn seq body) := by
  refine .bind (plain_peek _) fun me => plain_ite (plain_emits _) ?_
  cases body with
  | none => exact plain_emits _
  | some req =>
    refine plain_ite (plain_emits _) ?_
    refine plain_check (plain_query fun _ _ => rfl) (plain_emits _) ?_
    exact .bind (plain_query fun _ _ => rfl) fun _ => .bind plain_findByIds fun _ => plain_emits _

theorem plain_handleGetMyGroups : SparingHandler True (handleGetMyGroups conn seq) := by
  refine .bind (plain_peek _) fun me => plain_ite (plain_emits _) (.bind (plain_query fun _ _ => rfl) fun _ => ?_)
  exact .bind (plain_query fun _ _ => rfl) fun _ => .bind plain_countAll fun _ => plain_emits _

theorem plain_handleSetMemberRole (body : Option SetMemberRoleReq) : SparingHandler True (handleSetMemberRole conn seq body) := by
  refine .bind (plain_peek _) fun me => plain_ite (plain_emits _) ?_
  cases body with
  | none => exact plain_emits _
  | some req =>
    refine plain_ite (plain_emits _) (plain_ite (plain_emits _) ?_)
    refine .bind (plain_query fun _ _ => rfl) fun _ => plain_ite (plain_emits _) ?_
    refine .bind (plain_query fun _ _ => rfl) fun _ => plain_ite (plain_emits _) (plain_ite (plain_emits _) ?_)
    refine plain_check (plain_execute (fun _ _ => rfl) fun _ => rfl) (plain_emits _) ?_
    exact .bind plain_sendGroupNotify fun _ => plain_emits _

theorem plain_handle (request : GroupService.Request) : SparingHandler True (handle request) := by
  cases request with
  | createGroup conn seq body => exact plain_handleCreateGroup body
  | dismissGroup conn seq body => exact plain_handleDismissGroup body
  | joinGroup conn seq body => exact plain_handleJoinGroup body
  | handleJoinReq conn seq body => exact plain_handleJoinReq body
  | leaveGroup conn seq body => exact plain_handleLeaveGroup body
  | kickMember conn seq body => exact plain_handleKickMember body
  | getGroupInfo conn seq body => exact plain_handleGetGroupInfo body
  | updateGroup conn seq body => exact plain_handleUpdateGroup body
  | getGroupMembers conn seq body => exact plain_handleGetGroupMembers body
  | getMyGroups conn seq => exact plain_handleGetMyGroups
  | setMemberRole conn seq body => exact plain_handleSetMemberRole body

end GroupService

namespace FileService

theorem plain_uploadNew {userId : Int} {req : UploadReq} : SettledHandler (uploadNew conn seq userId req) := by
  refine plain_ite (plain_emits _) (.bind (plain_peek _) fun _ => ?_)
  refine plain_lookup plain_insertFileId (plain_emits _) fun fileId => ?_
  exact plain_check plain_updatePath (plain_emits _) (plain_emits _)

theorem plain_handleUpload (body : Option UploadReq) : SettledHandler (handleUpload conn seq body) := by
  refine .bind (plain_peek _) fun me => plain_ite (plain_emits _) ?_
  cases body with
  | none => exact plain_emits _
  | some req =>
    dsimp only
    cases uploadError req with
    | some e => exact plain_emits _
    | none =>
      refine .bind (plain_ite (.ret none) plain_findLatest) fun existing => ?_
      cases existing.filter fun f => f.hash = req.fileHash with
      | some file => exact plain_emits _
      | none => exact plain_uploadNew

theorem plain_handleUploadComplete (body : Option FileReq) : SettledHandler (handleUploadComplete conn seq body) := by
  refine .bind (plain_peek _) fun me => plain_ite (plain_emits _) ?_
  cases body with
  | none => exact plain_emits _
  | some req =>
    refine plain_ite (plain_emits _) ?_
    refine .bind (plain_query fun _ _ => rfl) fun found => ?_
    cases found.filter fun f => f.userId = me.userId with
    | none => exact plain_emits _
    | some file => exact plain_emits _

theorem plain_mayDownload {userId : Int} {file : UserFile} : SettledHandler (mayDownload userId file) :=
  plain_ite (.ret true) (.bind (plain_query fun _ _ => rfl) fun _ => .bind (plain_query fun _ _ => rfl) fun _ => .ret _)

theorem plain_handleDownload (body : Option FileReq) : SettledHandler (handleDownload conn seq body) := by
  refine .bind (plain_peek _) fun me => plain_ite (plain_emits _) ?_
  cases body with
  | none => exact plain_emits _
  | some req =>
    refine plain_ite (plain_emits _) ?_
    refine plain_lookup (plain_query fun _ _ => rfl) (plain_emits _) fun file => ?_
    exact plain_check plain_mayDownload (plain_emits _) (plain_emits _)

theorem plain_handle (request : FileService.Request) : SettledHandler (handle request) := by
  cases request with
  | upload conn seq body => exact plain_handleUpload body
  | uploadComplete conn seq body => exact plain_handleUploadComplete body
  | download conn seq body => exact plain_handleDownload body

end FileService

namespace ConvService

theorem plain_handleDeleteConv (body : Option ConversationReq) : SparingHandler False (handleDeleteConv conn seq body) := by
  refine .bind (plain_peek _) fun me => plain_ite (plain_emits _) ?_
  cases body with
  | none => exact plain_emits _
  | some req =>
    refine plain_ite (plain_emits _) ?_
    refine plain_check (plain_query fun _ _ => rfl) (plain_emits _) ?_
    exact plain_check (plain_execute (fun _ _ => rfl) fun _ => rfl) (plain_emits _) (plain_emits _)

theorem plain_handleMuteConv (body : Option MuteConvReq) : SparingHandler False (handleMuteConv conn seq body) := by
  refine .bind (plain_peek _) fun me => plain_ite (plain_emits _) ?_
  cases body with
  | none => exact plain_emits _
  | some req =>
    refine plain_ite (plain_emits _) (plain_ite (plain_emits _) ?_)
    refine .bind (plain_query fun _ _ => rfl) fun _ => plain_ite (plain_emits _) ?_
    exact plain_check (plain_execute (fun _ _ => rfl) fun _ => rfl) (plain_emits _) (plain_emits _)

theorem plain_handlePinConv (body : Option PinConvReq) : SparingHandler False (handlePinConv conn seq body) := by
  refine .bind (plain_peek _) fun me => plain_ite (plain_emits _) ?_
  cases body with
  | none => exact plain_emits _
  | some req =>
    refine plain_ite (plain_emits _) (plain_ite (plain_emits _) ?_)
    refine .bind (plain_query fun _ _ => rfl) fun _ => plain_ite (plain_emits _) ?_
    exact plain_check (plain_execute (fun _ _ => rfl) fun _ => rfl) (plain_emits _) (plain_emits _)

end ConvService

namespace MsgService

theorem plain_handleDeliverAck (body : Option DeliverAckReq) : SparingHandler False (handleDeliverAck conn body) := by
  refine .bind (plain_peek _) fun me => plain_ite (.ret ()) ?_
  cases body with
  | none => exact .ret ()
  | some req =>
    refine plain_ite ?_ (.ret ())
    refine .bind (plain_query fun _ _ => rfl) fun _ => plain_ite (.bind ?_ fun _ => .ret ()) (.ret ())
    exact plain_ite (.ret false) (plain_execute (fun _ _ => rfl) fun _ => rfl)

theorem plain_handleReadAck (body : Option ReadAckReq) : SparingHandler False (handleReadAck conn seq body) := by
  refine .bind (plain_peek _) fun me => plain_ite (.ret ()) ?_
  cases body with
  | none => exact plain_emits _
  | some req =>
    refine plain_ite (plain_emits _) ?_
    refine plain_check (plain_query fun _ _ => rfl) (plain_emits _) (.bind (plain_query fun _ _ => rfl) fun conv => ?_)
    refine plain_check (plain_ite (.ret false) ?_) (plain_emits _) (plain_emits _)
    exact plain_execute (fun _ _ => rfl) fun _ => rfl

end MsgService

namespace UserService

section Memory
variable {trans : Prop} {ι ρ μ : Type} {mask : ι → Tables → Tables} {part : Tables → ρ} {view : Server → μ} {key : Bytes}

theorem plain_registerAllow (blind : ∀ (m : Server) limiter, view { m with registerLimiter := limiter } = view m) :
    Plain trans mask part view (registerAllow key) :=
  .memory (fun m : Server => (m.registerLimiter.allow key m.steady).1)
    (fun m : Server => { m with registerLimiter := (m.registerLimiter.allow key m.steady).2 }) [] fun m => blind m _

theorem plain_recordRegister (blind : ∀ (m : Server) limiter, view { m with registerLimiter := limiter } = view m) :
    Plain trans mask part view (recordRegister key) := plain_modify fun m => blind m _

theorem plain_nextIdStr (blind : ∀ (m : Server) issued, view { m with issued := issued } = view m) :
    Plain trans mask part view nextIdStr :=
  .memory (fun m : Server => m.snowflake m.issued) (fun m : Server => { m with issued := m.issued + 1 }) [] fun m => blind m _

theorem plain_limiterAllow (blind : ∀ (m : Server) limiter, view { m with loginLimiter := limiter } = view m) :
    Plain trans mask part view (limiterAllow key) :=
  .memory (fun m : Server => (m.loginLimiter.allow key m.steady).1)
    (fun m : Server => { m with loginLimiter := (m.loginLimiter.allow key m.steady).2 }) [] fun m => blind m _

theorem plain_recordFailure (blind : ∀ (m : Server) limiter, view { m with loginLimiter := limiter } = view m) :
    Plain trans mask part view (recordFailure key) := plain_modify fun m => blind m _

theorem plain_resetLimiter (blind : ∀ (m : Server) limiter, view { m with loginLimiter := limiter } = view m) :
    Plain trans mask part view (resetLimiter key) := plain_modify fun m => blind m _

end Memory

theorem plain_handleHeartbeat : SettledHandler (handleHeartbeat conn seq) :=
  .bind (plain_peek _) fun _ => plain_ite (plain_emits _) (plain_emits _)

theorem plain_registerChecked {email nickname password : Bytes} :
    AsideHandler (registerChecked conn seq email nickname password) := by
  refine .bind (plain_peek _) fun config => plain_ite (plain_emits _) (.bind (plain_nextIdStr fun _ _ => rfl) fun uid => ?_)
  refine .bind plain_insertUser fun _ => plain_ite (plain_emits _) ?_
  exact .bind (plain_query fun _ _ => rfl) fun _ => plain_ite (plain_emits _) (plain_emits _)

theorem plain_handleRegister (body : Option RegisterReq) : AsideHandler (handleRegister conn seq body) := by
  cases body with
  | none => exact plain_emits _
  | some req =>
    refine plain_check (plain_ite (.ret true) (plain_registerAllow fun _ _ => rfl)) (plain_emits _) ?_
    cases emailError (emailToLower (trim req.email)) with
    | some e => exact plain_emits _
    | none =>
      refine .bind (plain_query fun _ _ => rfl) fun _ => plain_ite ?_ ?_
      · exact .bind (plain_recordRegister fun _ _ => rfl) fun _ => plain_emits _
      dsimp only
      cases registerError (trim req.nickname) req.password with
      | some e => exact plain_emits _
      | none => exact plain_registerChecked

theorem plain_handleSearchUser (body : Option SearchUserReq) : SettledHandler (handleSearchUser conn seq body) := by
  refine .bind (plain_peek _) fun me => plain_ite (plain_emits _) ?_
  cases body with
  | none => exact plain_emits _
  | some req =>
    refine plain_ite (plain_emits _) (plain_ite (plain_emits _) (.bind ?_ fun _ => plain_emits _))
    exact plain_ite (.bind (plain_query fun _ _ => rfl) fun _ => .ret _) plain_searchByNickname

theorem plain_handleGetProfile (body : Option GetUserProfileReq) : SettledHandler (handleGetProfile conn seq body) := by
  refine .bind (plain_peek _) fun me => plain_ite (plain_emits _) ?_
  cases body with
  | none => exact plain_emits _
  | some req =>
    exact plain_lookup (plain_query fun _ _ => rfl) (plain_emits _) fun user => plain_emits _

/-- Programs that leave conversations, groups and friends alone, in a transaction. -/
abbrev ProfileHandler {α : Type} (p : Action α) : Prop := Plain True Tables.masked Tables.social presence p

theorem plain_profileCommitted : ProfileHandler (profileCommitted conn seq) :=
  plain_check (.commit trivial) (plain_abort (plain_emits _)) (plain_emits _)

theorem plain_updateAvatarFile {uid avatar fileHash : Bytes} {user : User} :
    ProfileHandler (updateAvatarFile conn seq uid user avatar fileHash) := by
  refine plain_ite plain_profileCommitted (.bind plain_updateAvatar fun _ => plain_ite (plain_abort (plain_emits _)) ?_)
  refine .bind plain_softDelete.social fun _ => ?_
  exact plain_check plain_insertFile.social (plain_abort (plain_emits _)) plain_profileCommitted

theorem plain_updateProfile {uid nickname avatar fileHash : Bytes} {user : User} :
    ProfileHandler (updateProfile conn seq uid user nickname avatar fileHash) := by
  refine plain_ite plain_updateAvatarFile (.bind plain_updateNickname fun _ => ?_)
  exact plain_ite (plain_abort (plain_emits _)) plain_updateAvatarFile

theorem plain_handleUpdateProfile (body : Option UpdateProfileReq) : ProfileHandler (handleUpdateProfile conn seq body) := by
  refine .bind (plain_peek _) fun me => plain_ite (plain_emits _) ?_
  cases body with
  | none => exact plain_emits _
  | some req =>
    dsimp only
    cases profileError (trim req.nickname) (trim req.avatar) with
    | some e => exact plain_emits _
    | none =>
      refine plain_lookup (plain_query fun _ _ => rfl) (plain_emits _) fun user => ?_
      exact plain_begin (plain_emits _) plain_updateProfile

/-- Programs that change nothing but sessions and rows of devices, and keep the limiter of the logins. -/
abbrev SessionHandler {α : Type} (p : Action α) : Prop := Plain False Tables.masked Tables.settled logins p

theorem plain_endSession : SessionHandler (endSession conn) :=
  .bind (plain_peek _) fun _ => plain_ite (.ret ()) (.bind (plain_modify fun _ => rfl) fun _ => plain_modify fun _ => rfl)

theorem plain_removeConn {userId : Int} : SessionHandler (removeConn userId conn) := plain_modify fun _ => rfl

theorem plain_addConn {userId : Int} : SessionHandler (addConn userId conn) :=
  .bind (.memory (fun m : Server => (m.connManager.add (fun c => (m.connections c).deviceId) userId conn).2)
    (fun m : Server => { m with
      connManager := (m.connManager.add (fun c => (m.connections c).deviceId) userId conn).1 }) [] fun _ => rfl)
    fun _ => plain_forEach fun _ => plain_emits _

theorem plain_kickSameType {userId : Int} {deviceType : Bytes} : SessionHandler (kickSameType userId deviceType) :=
  plain_ite (.ret ()) (.bind (plain_peek _) fun _ => plain_forEach fun _ => .bind (plain_peek _) fun _ =>
    plain_ite (.bind (plain_emits _) fun _ => .bind plain_removeConn fun _ => plain_emits _) (.ret ()))

theorem plain_refuse {e : Error} : SessionHandler (refuse conn seq e) := .bind (plain_emits _) fun _ => plain_emits _

theorem plain_beginSession {user : User} {deviceId deviceType : Bytes} :
    SessionHandler (beginSession conn seq user deviceId deviceType) := by
  refine .bind (plain_modify fun _ => rfl) fun _ => .bind plain_addConn fun _ => ?_
  exact .bind (plain_ite (.ret ()) plain_upsertDevice) fun _ => plain_emits _

theorem plain_loginVerified {user : User} {deviceId deviceType : Bytes} :
    SessionHandler (loginVerified conn seq user deviceId deviceType) := by
  refine .bind (plain_peek _) fun mem => plain_ite plain_refuse ?_
  exact .bind plain_kickSameType fun _ => plain_beginSession

/-- A login changes the limiter as well. -/
abbrev LoginHandler {α : Type} (p : Action α) : Prop := Plain False Tables.masked Tables.settled (fun _ => ()) p

theorem plain_loginChecked (req : LoginReq) : LoginHandler (loginChecked conn seq req) := by
  have failed : ∀ key, LoginHandler (do recordFailure key; refuse conn seq errc.user.kInvalidCredentials) := fun key =>
    .bind (plain_recordFailure fun _ _ => rfl) fun _ => plain_refuse.unseen
  refine plain_check (plain_limiterAllow fun _ _ => rfl) plain_refuse.unseen ?_
  refine plain_lookup (plain_query fun _ _ => rfl) (failed _) fun user => plain_ite (failed _) ?_
  refine .bind (plain_peek _) fun config => plain_ite (failed _) (.bind (plain_resetLimiter fun _ _ => rfl) fun _ => ?_)
  exact plain_loginVerified.unseen

theorem plain_handleLogin (body : Option LoginReq) : LoginHandler (handleLogin conn seq body) := by
  refine .bind plain_endSession.unseen fun _ => ?_
  cases body with
  | none => exact plain_refuse.unseen
  | some req => exact plain_ite plain_refuse.unseen (plain_ite plain_refuse.unseen (plain_loginChecked req))

theorem plain_handleLogout : SessionHandler (handleLogout conn seq) :=
  .bind plain_endSession fun _ => .bind (plain_emits _) fun _ => plain_emits _

end UserService

theorem Gateway.plain_onDisconnected {conn : ConnId} : UserService.SessionHandler (onDisconnected conn) :=
  .bind (plain_peek _) fun _ => plain_ite (.ret ()) UserService.plain_removeConn

namespace AdminServer

theorem plain_kickAllConns {userId : Int} : SettledHandler (kickAllConns userId) :=
  .bind (plain_peek _) fun _ => .bind (plain_ite (MessageBus.plain_publish fun _ _ => rfl) (.ret ())) fun _ => .ret _

theorem plain_updateStatus {uid : Bytes} {status : AccountStatus} : AsideHandler (UserDao.updateStatus uid status) := by
  refine .atomic (.bind (plain_query fun _ _ => rfl) fun res => ?_)
  cases res with
  | none => exact .ret none
  | some user => exact .bind (plain_execute (fun _ _ => rfl) fun _ => rfl) fun _ => .ret _

theorem plain_setStatus (permitted : Bool) (uid : Bytes) (status : AccountStatus) (kick : Bool) :
    AsideHandler (setStatus permitted uid status kick) := by
  refine plain_ite (.ret _) (plain_ite (.ret _) (.bind plain_updateStatus fun updated => ?_))
  cases updated with
  | none => exact .ret _
  | some id =>
    refine .bind (plain_ite (.bind plain_kickAllConns.social fun _ => .ret ()) (.ret ())) fun _ => ?_
    exact .bind plain_writeAuditLog fun _ => .ret _

theorem plain_handleKickUser (permitted : Bool) (uid : Bytes) : SettledHandler (handleKickUser permitted uid) := by
  refine plain_ite (.ret _) (plain_ite (.ret _) (.bind (plain_query fun _ _ => rfl) fun user => ?_))
  cases user with
  | none => exact .ret _
  | some user =>
    exact .bind plain_kickAllConns fun _ => plain_ite (.ret _) (.bind plain_writeAuditLog fun _ => .ret _)

end AdminServer

/-- The dispatcher of the bus takes connections off the table, or tells members of a recall. -/
theorem Application.plain_dispatchMessage : UserService.SessionHandler dispatchMessage := by
  refine .bind (plain_peek _) fun bus => ?_
  cases bus with
  | nil => exact .ret ()
  | cons event rest =>
    refine .bind (plain_modify fun _ => rfl) fun _ => ?_
    cases event with
    | adminKickUser userId =>
      exact .bind (plain_peek _) fun _ => plain_forEach fun _ =>
        .bind (plain_emits _) fun _ => .bind UserService.plain_removeConn fun _ => plain_emits _
    | adminRecallMsg _ conversationId serverSeq =>
      exact .bind (plain_query fun _ _ => rfl) fun _ => plain_forEach fun _ => plain_sendToUser

end Handlers

/-! ### What is about conversations, groups and friends -/

/-- A program that writes nothing about conversations, groups and friends. -/
abbrev SocialKept {α : Type} (p : Action α) : Prop := Plain True Tables.masked Tables.social (fun _ : Server => ()) p

section Kept
variable {conn : ConnId}

theorem socialKept {trans : Prop} {α μ : Type} {view : Server → μ} {p : Action α}
    (plain : Plain trans Tables.masked Tables.social view p) : SocialKept p :=
  plain.weaken id (fun _ => ()) fun _ => trivial

theorem FileService.social_handle (request : FileService.Request) : SocialKept (handle request) :=
  socialKept (plain_handle request).social

theorem UserService.social_handle (request : UserService.Request) : SocialKept (handle request) := by
  cases request with
  | register conn seq body => exact socialKept (plain_handleRegister body)
  | login conn seq body => exact socialKept (plain_handleLogin body).social
  | logout conn seq => exact socialKept plain_handleLogout.social
  | heartbeat conn seq => exact socialKept plain_handleHeartbeat.social
  | searchUser conn seq body => exact socialKept (plain_handleSearchUser body).social
  | getProfile conn seq body => exact socialKept (plain_handleGetProfile body).social
  | updateProfile conn seq body => exact socialKept (plain_handleUpdateProfile body)

theorem Gateway.social_onDisconnected : SocialKept (onDisconnected conn) := socialKept plain_onDisconnected.social

theorem Application.social_dispatchMessage : SocialKept dispatchMessage := socialKept plain_dispatchMessage.social

theorem AdminServer.social_setStatus (permitted : Bool) (uid : Bytes) (status : AccountStatus) (kick : Bool) :
    SocialKept (setStatus permitted uid status kick) :=
  socialKept (plain_setStatus permitted uid status kick)

theorem AdminServer.social_handleKickUser (permitted : Bool) (uid : Bytes) : SocialKept (handleKickUser permitted uid) :=
  socialKept (plain_handleKickUser permitted uid).social

end Kept

/-! ### Inputs -/

/-- The inputs that are served by a look at messages, among them the one that stores them. -/
inductive Input.Looks : Input → Prop where
  | sendMsg (conn : ConnId) (seq : UInt32) (body : Option SendMsgReq) : Looks (.packet (.msg (.sendMsg conn seq body)))
  | recallMsg (conn : ConnId) (seq : UInt32) (body : Option RecallMsgReq) : Looks (.packet (.msg (.recallMsg conn seq body)))
  | syncMsg (conn : ConnId) (seq : UInt32) (body : Option SyncMsgReq) : Looks (.packet (.sync (.syncMsg conn seq body)))
  | syncUnread (conn : ConnId) (seq : UInt32) : Looks (.packet (.sync (.syncUnread conn seq)))
  | getConvList (conn : ConnId) (seq : UInt32) : Looks (.packet (.conv (.getConvList conn seq)))
  | recallMessage (permitted : Bool) (id : Int) : Looks (.admin (.recallMessage permitted id))

/-- The inputs that may write the rows of users. -/
inductive Input.WritesUsers : Input → Prop where
  | register (conn : ConnId) (seq : UInt32) (body : Option RegisterReq) : WritesUsers (.packet (.user (.register conn seq body)))
  | updateProfile (conn : ConnId) (seq : UInt32) (body : Option UpdateProfileReq) :
      WritesUsers (.packet (.user (.updateProfile conn seq body)))
  | banUser (permitted : Bool) (uid : Bytes) : WritesUsers (.admin (.banUser permitted uid))
  | unbanUser (permitted : Bool) (uid : Bytes) : WritesUsers (.admin (.unbanUser permitted uid))
  | deleteUser (permitted : Bool) (uid : Bytes) : WritesUsers (.admin (.deleteUser permitted uid))

/-- Whatever else arrives, its service spares the messages and the users. -/
theorem serve_spares (input : Input) : input.Looks ∨ input.WritesUsers ∨
    Plain True Tables.masked Tables.spared (fun _ => ()) (serve sqliteDaoFactory input) := by
  have spares : ∀ {trans : Prop} {μ : Type} {view : Server → μ} {p : Handler}, Plain trans Tables.masked Tables.spared view p →
      Plain True Tables.masked Tables.spared (fun _ => ()) p := fun plain => plain.weaken id (fun _ => ()) fun _ => trivial
  cases input with
  | packet request =>
    cases request with
    | user request =>
      cases request with
      | register conn seq body => exact .inr (.inl (.register ..))
      | updateProfile conn seq body => exact .inr (.inl (.updateProfile ..))
      | login conn seq body => exact .inr (.inr (spares (UserService.plain_handleLogin body).spares))
      | logout conn seq => exact .inr (.inr (spares UserService.plain_handleLogout.spares))
      | heartbeat conn seq => exact .inr (.inr (spares UserService.plain_handleHeartbeat.spares))
      | searchUser conn seq body => exact .inr (.inr (spares (UserService.plain_handleSearchUser body).spares))
      | getProfile conn seq body => exact .inr (.inr (spares (UserService.plain_handleGetProfile body).spares))
    | msg request =>
      cases request with
      | sendMsg conn seq body => exact .inl (.sendMsg ..)
      | recallMsg conn seq body => exact .inl (.recallMsg ..)
      | deliverAck conn body => exact .inr (.inr (spares (MsgService.plain_handleDeliverAck body)))
      | readAck conn seq body => exact .inr (.inr (spares (MsgService.plain_handleReadAck body)))
    | sync request =>
      cases request with
      | syncMsg conn seq body => exact .inl (.syncMsg ..)
      | syncUnread conn seq => exact .inl (.syncUnread ..)
    | friend request =>
      rw [serve, Router.dispatch, FriendService.handleWith_sqlite]
      exact .inr (.inr (spares (FriendService.plain_handle request)))
    | conv request =>
      cases request with
      | getConvList conn seq => exact .inl (.getConvList ..)
      | deleteConv conn seq body => exact .inr (.inr (spares (ConvService.plain_handleDeleteConv body)))
      | muteConv conn seq body => exact .inr (.inr (spares (ConvService.plain_handleMuteConv body)))
      | pinConv conn seq body => exact .inr (.inr (spares (ConvService.plain_handlePinConv body)))
    | group request =>
      rw [serve, Router.dispatch, GroupService.handleWith_sqlite]
      exact .inr (.inr (spares (GroupService.plain_handle request)))
    | file request => exact .inr (.inr (spares (FileService.plain_handle request).spares))
  | disconnected conn => exact .inr (.inr (spares Gateway.plain_onDisconnected.spares))
  | admin request =>
    cases request with
    | banUser permitted uid => exact .inr (.inl (.banUser ..))
    | unbanUser permitted uid => exact .inr (.inl (.unbanUser ..))
    | deleteUser permitted uid => exact .inr (.inl (.deleteUser ..))
    | kickUser permitted uid =>
      have kicks : SettledHandler (serve sqliteDaoFactory (.admin (.kickUser permitted uid))) :=
        .bind (AdminServer.plain_handleKickUser permitted uid) fun _ => .ret ()
      exact .inr (.inr (spares kicks.spares))
    | recallMessage permitted id => exact .inl (.recallMessage ..)
  | bus => exact .inr (.inr (spares Application.plain_dispatchMessage.spares))

/-- Whatever is served without a look at messages does not depend on their contents and leaves them. -/
theorem serve_plain (input : Input) : input.Looks ∨
    Plain True Tables.masked Tables.messages (fun _ => ()) (serve sqliteDaoFactory input) := by
  have plain : ∀ {trans : Prop} {μ : Type} {view : Server → μ} {p : Handler}, Plain trans Tables.masked Tables.social view p →
      Plain True Tables.masked Tables.messages (fun _ => ()) p := fun plain => plain.kept.weaken Prod.fst (fun _ => ()) fun _ => trivial
  have unit : ∀ {p : Action ApiReply}, AsideHandler p → AsideHandler (p >>= fun _ => (return () : Handler)) :=
    fun plain => .bind plain fun _ => .ret ()
  rcases serve_spares input with looks | writes | spares
  · exact .inl looks
  · right
    cases writes with
    | register conn seq body => exact plain (UserService.plain_handleRegister body)
    | updateProfile conn seq body => exact plain (UserService.plain_handleUpdateProfile body)
    | banUser permitted uid | unbanUser permitted uid | deleteUser permitted uid =>
      exact plain (unit (AdminServer.plain_setStatus ..))
  · exact .inr (spares.weaken Prod.fst id id)

end NovaIIM
