import NovaIIM.Credentials

/-!
Every request is answered once.

The packets of the server are pushes, which come of its own accord and have the seq 0, and
replies. A handler replies to its request once, on the connection the request came on, with the
command that answers it and the seq it came with, whatever statements fail; only the ack of a
delivery is not answered (`dispatch_answers`). So a client that goes by the seq of a packet takes
no reply for another's and no push for a reply.
-/
namespace NovaIIM
open Store

/-- The command and the seq of the reply to a request; a delivery has none. -/
def Router.Request.reply : Router.Request → Cmd × UInt32
  | .user (.register _ seq _) => (.registerAck, seq)
  | .user (.login _ seq _) => (.loginAck, seq)
  | .user (.logout _ seq) => (.logout, seq)
  | .user (.heartbeat _ seq) => (.heartbeatAck, seq)
  | .user (.searchUser _ seq _) => (.searchUserAck, seq)
  | .user (.getProfile _ seq _) => (.getUserProfileAck, seq)
  | .user (.updateProfile _ seq _) => (.updateProfileAck, seq)
  | .msg (.sendMsg _ seq _) => (.sendMsgAck, seq)
  | .msg (.recallMsg _ seq _) => (.recallMsgAck, seq)
  | .msg (.deliverAck _ _) => (.readAck, 0)
  | .msg (.readAck _ seq _) => (.readAck, seq)
  | .sync (.syncMsg _ seq _) => (.syncMsgResp, seq)
  | .sync (.syncUnread _ seq) => (.syncUnreadResp, seq)
  | .friend (.addFriend _ seq _) => (.addFriendAck, seq)
  | .friend (.handleRequest _ seq _) => (.handleFriendReqAck, seq)
  | .friend (.deleteFriend _ seq _) => (.deleteFriendAck, seq)
  | .friend (.block _ seq _) => (.blockFriendAck, seq)
  | .friend (.unblock _ seq _) => (.unblockFriendAck, seq)
  | .friend (.getFriendList _ seq) => (.getFriendListAck, seq)
  | .friend (.getRequests _ seq _) => (.getFriendRequestsAck, seq)
  | .conv (.getConvList _ seq) => (.getConvListAck, seq)
  | .conv (.deleteConv _ seq _) => (.deleteConvAck, seq)
  | .conv (.muteConv _ seq _) => (.muteConvAck, seq)
  | .conv (.pinConv _ seq _) => (.pinConvAck, seq)
  | .group (.createGroup _ seq _) => (.createGroupAck, seq)
  | .group (.dismissGroup _ seq _) => (.dismissGroupAck, seq)
  | .group (.joinGroup _ seq _) => (.joinGroupAck, seq)
  | .group (.handleJoinReq _ seq _) => (.handleJoinReqAck, seq)
  | .group (.leaveGroup _ seq _) => (.leaveGroupAck, seq)
  | .group (.kickMember _ seq _) => (.kickMemberAck, seq)
  | .group (.getGroupInfo _ seq _) => (.getGroupInfoAck, seq)
  | .group (.updateGroup _ seq _) => (.updateGroupAck, seq)
  | .group (.getGroupMembers _ seq _) => (.getGroupMembersAck, seq)
  | .group (.getMyGroups _ seq) => (.getMyGroupsAck, seq)
  | .group (.setMemberRole _ seq _) => (.setMemberRoleAck, seq)
  | .file (.upload _ seq _) => (.uploadAck, seq)
  | .file (.uploadComplete _ seq _) => (.uploadCompleteAck, seq)
  | .file (.download _ seq _) => (.downloadAck, seq)

/-- The packets that the server sends of its own accord. -/
def Cmd.isPush : Cmd → Bool
  | kickNotify | friendNotify | pushMsg | recallNotify | convUpdate | groupNotify => true
  | _ => false

/-- The replies among events, with the connections they are sent on. -/
def repliesOf (events : List Event) : List (ConnId × Packet) :=
  events.filterMap fun
    | .sent conn packet => if packet.cmd.isPush then none else some (conn, packet)
    | _ => none

theorem repliesOf_append (first second : List Event) : repliesOf (first ++ second) = repliesOf first ++ repliesOf second :=
  List.filterMap_append

/-- So many replies to one request, and pushes. -/
structure AnsweredOn (conn : ConnId) (cmd : Cmd) (seq : UInt32) (number : Nat) (events : List Event) : Prop where
  replies : ∃ bodies : List Body, bodies.length = number ∧
    repliesOf events = bodies.map fun body => (conn, { cmd := cmd, seq := seq, uid := 0, body := body })
  pushes : ∀ other packet, .sent other packet ∈ events → packet.cmd.isPush = true → packet.seq = 0 ∧ packet.uid = 0

section Answers
variable {conn : ConnId} {cmd : Cmd} {seq : UInt32} {number more : Nat} {α β : Type}

theorem answeredOn_nil : AnsweredOn conn cmd seq 0 [] := ⟨⟨[], rfl, rfl⟩, by simp⟩

theorem AnsweredOn.append {first second : List Event} (before : AnsweredOn conn cmd seq number first)
    (behind : AnsweredOn conn cmd seq more second) : AnsweredOn conn cmd seq (number + more) (first ++ second) := by
  obtain ⟨bodies, length, same⟩ := before.replies
  obtain ⟨bodies', length', same'⟩ := behind.replies
  refine ⟨⟨bodies ++ bodies', ?_, ?_⟩, fun other packet inside push => ?_⟩
  · rw [List.length_append, length, length']
  · rw [repliesOf_append, same, same', List.map_append]
  · rcases List.mem_append.mp inside with here | there
    · exact before.pushes other packet here push
    · exact behind.pushes other packet there push

/-- A program answers so many times. -/
def Answers (conn : ConnId) (cmd : Cmd) (seq : UInt32) (number : Nat) (p : Action α) : Prop :=
  ∀ w, AnsweredOn conn cmd seq number (p.run w).events

/-- A program that sends nothing. -/
def Wordless (p : Action α) : Prop := ∀ w, (p.run w).events = []

/-! ### Programs that send nothing -/

theorem wordless_ret (value : α) : Wordless (.ret value : Action α) := fun _ => rfl

theorem wordless_bind {p : Action α} {f : α → Action β} (first : Wordless p) (rest : ∀ a, Wordless (f a)) : Wordless (p >>= f) := by
  intro w
  rw [Prog.run_bind, first, rest]
  rfl

theorem wordless_ite {c : Prop} [Decidable c] {p q : Action α} (yes : Wordless p) (no : Wordless q) : Wordless (if c then p else q) := by
  split
  · exact yes
  · exact no

/-- A statement, a look at the memory or a change of it. -/
theorem wordless_step (update : World → World) (answer : World → α) : Wordless (.step update (fun _ => []) answer : Action α) := by
  intro w
  rw [Prog.run_step]

theorem wordless_atomic {p : Action α} (wordless : Wordless p) : Wordless (.atomic p) := by
  intro w
  rw [Prog.run_atomic]
  exact wordless w

theorem wordless_forEach {items : List β} {body : β → Handler} (each : ∀ item, Wordless (body item)) : Wordless (.forEach items body) := by
  induction items with
  | nil => exact wordless_ret ()
  | cons item rest ih => exact wordless_bind (each item) fun _ => ih

/-! ### Programs that answer -/

theorem answers_wordless {p : Action α} (wordless : Wordless p) : Answers conn cmd seq 0 p := by
  intro w
  rw [wordless w]
  exact answeredOn_nil

/-- What comes before the answer. -/
theorem answers_after {p : Action α} {f : α → Action β} (first : Answers conn cmd seq 0 p)
    (rest : ∀ a, Answers conn cmd seq number (f a)) : Answers conn cmd seq number (p >>= f) := by
  intro w
  rw [Prog.run_bind, ← Nat.zero_add number]
  exact (first w).append (rest _ _)

/-- What comes behind it. -/
theorem answers_before {p : Action α} {f : α → Action β} (first : Answers conn cmd seq number p)
    (rest : ∀ a, Answers conn cmd seq 0 (f a)) : Answers conn cmd seq number (p >>= f) := by
  intro w
  rw [Prog.run_bind, ← Nat.add_zero number]
  exact (first w).append (rest _ _)

theorem answers_ite {c : Prop} [Decidable c] {p q : Action α} (yes : Answers conn cmd seq number p)
    (no : Answers conn cmd seq number q) : Answers conn cmd seq number (if c then p else q) := by
  split
  · exact yes
  · exact no

theorem answers_reply (body : Body) (reply : cmd.isPush = false) : Answers conn cmd seq 1 (sendPacket conn cmd seq body) := by
  intro w
  have events : ((sendPacket conn cmd seq body).run w).events = [.sent conn { cmd := cmd, seq := seq, uid := 0, body := body }] := by
    simp [sendPacket, send]
  rw [events]
  refine ⟨⟨[body], rfl, by simp [repliesOf, reply]⟩, fun other packet inside push => ?_⟩
  obtain ⟨rfl, rfl⟩ := Event.sent.inj (List.mem_singleton.mp inside)
  rw [reply] at push
  cases push

theorem answers_push {other : ConnId} {packet : Packet} (push : packet.cmd.isPush = true) (seq_zero : packet.seq = 0)
    (uid_zero : packet.uid = 0) : Answers conn cmd seq 0 (send other packet) := by
  intro w
  have events : ((send other packet).run w).events = [.sent other packet] := by simp [send]
  rw [events]
  refine ⟨⟨[], rfl, by simp [repliesOf, push]⟩, fun c p inside _ => ?_⟩
  obtain ⟨rfl, rfl⟩ := Event.sent.inj (List.mem_singleton.mp inside)
  exact ⟨seq_zero, uid_zero⟩

theorem answers_close {other : ConnId} : Answers conn cmd seq 0 (close other) := by
  intro w
  have events : ((close other).run w).events = [.closed other] := by simp [close]
  rw [events]
  exact ⟨⟨[], rfl, rfl⟩, by simp⟩

theorem answers_forEach {items : List β} {body : β → Handler} (each : ∀ item, Answers conn cmd seq 0 (body item)) :
    Answers conn cmd seq 0 (.forEach items body) := by
  induction items with
  | nil => exact answers_wordless (wordless_ret ())
  | cons item rest ih => exact answers_after (each item) fun _ => ih

theorem answers_sendToUser {userId : Int} {packet : Packet} (push : packet.cmd.isPush = true) (seq_zero : packet.seq = 0)
    (uid_zero : packet.uid = 0) : Answers conn cmd seq 0 (sendToUser userId packet) :=
  answers_after (answers_wordless (wordless_step _ _)) fun _ => answers_forEach fun _ => answers_push push seq_zero uid_zero

end Answers

/-! ### What sends nothing -/

/-- The hooks of a backend send nothing. -/
structure WordlessHooks (dao : DaoFactory) : Prop where
  begin_ : Wordless dao.beginTransaction
  commit : Wordless dao.commit
  rollback : Wordless dao.rollback

theorem wordless_sqlite : WordlessHooks sqliteDaoFactory := ⟨wordless_step _ _, wordless_step _ _, wordless_step _ _⟩

theorem wordless_mysql : WordlessHooks mysqlDaoFactory := ⟨wordless_ret false, wordless_ret false, wordless_ret ()⟩

theorem MessageDao.wordless_latestBatches {limitPerConv rounds : Nat} {convFromSeqs : List (Int × Int)} :
    Wordless (latestBatches limitPerConv rounds convFromSeqs) := by
  induction rounds generalizing convFromSeqs with
  | zero => exact wordless_ret []
  | succ rounds ih => exact wordless_ite (wordless_ret []) (wordless_bind (wordless_step _ _) fun _ => wordless_bind ih fun _ => wordless_ret _)

theorem FileDao.wordless_softDeleteEach {now : Bytes} {files : List UserFile} : Wordless (softDeleteEach now files) := by
  induction files with
  | nil => exact wordless_ret true
  | cons file rest ih => exact wordless_bind (wordless_step _ _) fun _ => wordless_bind ih fun _ => wordless_ret _

theorem GroupService.wordless_addMembers {conversationId : Int} {now : Bytes} {memberIds : List Int} :
    Wordless (addMembers conversationId now memberIds) := by
  induction memberIds with
  | nil => exact wordless_ret true
  | cons mid rest ih =>
    exact wordless_bind (wordless_bind (wordless_step _ _) fun _ => wordless_ret _) fun _ => wordless_ite (wordless_ret false) ih

theorem GroupService.wordless_countAll {conversationIds : List Int} : Wordless (countAll conversationIds) := by
  induction conversationIds with
  | nil => exact wordless_ret []
  | cons cid rest ih => exact wordless_bind (wordless_step _ _) fun _ => wordless_bind ih fun _ => wordless_ret _

theorem MsgService.wordless_unhide {conversationId : Int} : Wordless (unhide conversationId) :=
  wordless_bind (wordless_step _ _) fun _ => wordless_forEach fun _ => wordless_ite (wordless_ret ()) (wordless_bind (wordless_step _ _) fun _ => wordless_ret ())

/-! ### The handlers -/

section Handlers
variable {dao : DaoFactory} {conn : ConnId} {seq : UInt32}

/-- A statement, or a look at the memory, in front of the answer. -/
theorem answers_look {cmd : Cmd} {number : Nat} {α β : Type} {update : World → World} {answer : World → α} {f : α → Action β}
    (rest : ∀ a, Answers conn cmd seq number (f a)) :
    Answers conn cmd seq number ((.step update (fun _ => []) answer : Action α) >>= f) :=
  answers_after (answers_wordless (wordless_step _ _)) rest

/-- What else sends nothing. -/
theorem answers_do {cmd : Cmd} {number : Nat} {α β : Type} {p : Action α} {f : α → Action β} (wordless : Wordless p)
    (rest : ∀ a, Answers conn cmd seq number (f a)) : Answers conn cmd seq number (p >>= f) :=
  answers_after (answers_wordless wordless) rest

/-- A section under a lock. -/
theorem answers_section {cmd : Cmd} {number : Nat} {α β : Type} {p : Action α} {f : α → Action β}
    (whole : Answers conn cmd seq number (p >>= f)) : Answers conn cmd seq number (.atomic p >>= f) := by
  intro w
  have same := whole w
  rw [Prog.run_bind] at same ⊢
  rwa [Prog.run_atomic]

/-- The reply in front of the rollback. -/
theorem answers_abort {cmd : Cmd} (hooks : WordlessHooks dao) {body : Body} (reply : cmd.isPush = false) :
    Answers conn cmd seq 1 (abort (sendPacket conn cmd seq body) dao) :=
  answers_before (answers_reply _ reply) fun _ => answers_wordless hooks.rollback

namespace UserService

theorem answers_refuse {e : Error} : Answers conn .loginAck seq 1 (refuse conn seq e) :=
  answers_before (answers_reply _ rfl) fun _ => answers_close

theorem answers_registerChecked {email nickname password : Bytes} :
    Answers conn .registerAck seq 1 (registerChecked conn seq email nickname password) := by
  refine answers_look fun config => answers_ite (answers_reply _ rfl) (answers_look fun uid => answers_look fun inserted => ?_)
  refine answers_ite (answers_reply _ rfl) (answers_look fun known => ?_)
  exact answers_ite (answers_reply _ rfl) (answers_reply _ rfl)

theorem answers_handleRegister (body : Option RegisterReq) : Answers conn .registerAck seq 1 (handleRegister conn seq body) := by
  cases body with
  | none => exact answers_reply _ rfl
  | some req =>
    refine answers_do (wordless_ite (wordless_ret true) (wordless_step _ _)) fun allowed => answers_ite (answers_reply _ rfl) ?_
    split
    · exact answers_reply _ rfl
    · refine answers_look fun known => answers_ite (answers_look fun _ => answers_reply _ rfl) ?_
      dsimp only
      split
      · exact answers_reply _ rfl
      · exact answers_registerChecked

theorem answers_kickSameType {cmd : Cmd} {userId : Int} {deviceType : Bytes} : Answers conn cmd seq 0 (kickSameType userId deviceType) := by
  refine answers_ite (answers_wordless (wordless_ret ())) (answers_look fun oldConns => answers_forEach fun old => answers_look fun fields => ?_)
  refine answers_ite (answers_after (answers_push rfl rfl rfl) fun _ => answers_look fun _ => answers_close) ?_
  exact answers_wordless (wordless_ret ())

theorem wordless_upsertDevice {uid deviceId deviceType : Bytes} : Wordless (UserDao.upsertDevice uid deviceId deviceType) := by
  refine wordless_atomic (wordless_bind (wordless_step _ _) fun res => wordless_bind (wordless_step _ _) fun now => ?_)
  cases res <;> exact wordless_bind (wordless_step _ _) fun _ => wordless_ret ()

theorem answers_loginVerified {user : User} {deviceId deviceType : Bytes} :
    Answers conn .loginAck seq 1 (loginVerified conn seq user deviceId deviceType) := by
  refine answers_look fun mem => answers_ite answers_refuse (answers_after answers_kickSameType fun _ => answers_look fun _ => ?_)
  refine answers_after (answers_look fun dropped => answers_forEach fun _ => answers_close) fun _ => ?_
  exact answers_do (wordless_ite (wordless_ret ()) wordless_upsertDevice) fun _ => answers_reply _ rfl

theorem answers_loginChecked (req : LoginReq) : Answers conn .loginAck seq 1 (loginChecked conn seq req) := by
  refine answers_look fun allowed => answers_ite answers_refuse (answers_look fun user => ?_)
  have refused : ∀ {email e}, Answers conn .loginAck seq 1 (recordFailure email >>= fun _ => refuse conn seq e) :=
    answers_look fun _ => answers_refuse
  cases user with
  | none => exact refused
  | some user =>
    refine answers_ite refused (answers_look fun config => answers_ite refused ?_)
    exact answers_look fun _ => answers_loginVerified

theorem wordless_endSession : Wordless (endSession conn) :=
  wordless_bind (wordless_step _ _) fun _ => wordless_ite (wordless_ret ()) (wordless_bind (wordless_step _ _) fun _ => wordless_step _ _)

theorem answers_handleLogin (body : Option LoginReq) : Answers conn .loginAck seq 1 (handleLogin conn seq body) := by
  refine answers_do wordless_endSession fun _ => ?_
  cases body with
  | none => exact answers_refuse
  | some req => exact answers_ite answers_refuse (answers_ite answers_refuse (answers_loginChecked req))

theorem answers_handleLogout : Answers conn .logout seq 1 (handleLogout conn seq) :=
  answers_do wordless_endSession fun _ => answers_before (answers_reply _ rfl) fun _ => answers_close

theorem answers_handleSearchUser (body : Option SearchUserReq) :
    Answers conn .searchUserAck seq 1 (handleSearchUser conn seq body) := by
  refine answers_look fun me => answers_ite (answers_reply _ rfl) ?_
  cases body with
  | none => exact answers_reply _ rfl
  | some req =>
    refine answers_ite (answers_reply _ rfl) (answers_ite (answers_reply _ rfl) (answers_do ?_ fun _ => answers_reply _ rfl))
    exact wordless_ite (wordless_bind (wordless_step _ _) fun _ => wordless_ret _) (wordless_ite (wordless_ret []) (wordless_step _ _))

theorem answers_handleGetProfile (body : Option GetUserProfileReq) :
    Answers conn .getUserProfileAck seq 1 (handleGetProfile conn seq body) := by
  refine answers_look fun me => answers_ite (answers_reply _ rfl) ?_
  cases body with
  | none => exact answers_reply _ rfl
  | some req =>
    refine answers_look fun user => ?_
    cases user <;> exact answers_reply _ rfl

theorem answers_profileCommitted (hooks : WordlessHooks dao) : Answers conn .updateProfileAck seq 1 (profileCommitted conn seq dao) :=
  answers_do hooks.commit fun _ => answers_ite (answers_abort hooks rfl) (answers_reply _ rfl)

theorem wordless_updateNickname {uid nickname : Bytes} : Wordless (UserDao.updateNickname uid nickname) := by
  refine wordless_atomic (wordless_bind (wordless_step _ _) fun res => ?_)
  cases res with
  | none => exact wordless_ret none
  | some user => exact wordless_bind (wordless_step _ _) fun _ => wordless_ret _

theorem wordless_updateAvatar {uid avatar : Bytes} : Wordless (UserDao.updateAvatar uid avatar) := by
  refine wordless_atomic (wordless_bind (wordless_step _ _) fun res => ?_)
  cases res with
  | none => exact wordless_ret none
  | some user => exact wordless_bind (wordless_step _ _) fun _ => wordless_ret _

theorem answers_updateAvatarFile (hooks : WordlessHooks dao) {uid avatar fileHash : Bytes} {user : User} :
    Answers conn .updateProfileAck seq 1 (updateAvatarFile conn seq uid user avatar fileHash dao) := by
  refine answers_ite (answers_profileCommitted hooks) (answers_do wordless_updateAvatar fun updated => ?_)
  refine answers_ite (answers_abort hooks rfl) (answers_do ?_ fun _ => answers_do ?_ fun inserted => ?_)
  · exact wordless_atomic (wordless_bind (wordless_step _ _) fun _ => wordless_bind (wordless_step _ _) fun _ => FileDao.wordless_softDeleteEach)
  · exact wordless_atomic (wordless_bind (wordless_step _ _) fun _ => wordless_bind (wordless_step _ _) fun _ => wordless_ret _)
  · exact answers_ite (answers_abort hooks rfl) (answers_profileCommitted hooks)

theorem answers_handleUpdateProfile (hooks : WordlessHooks dao) (body : Option UpdateProfileReq) :
    Answers conn .updateProfileAck seq 1 (handleUpdateProfile conn seq body dao) := by
  refine answers_look fun me => answers_ite (answers_reply _ rfl) ?_
  cases body with
  | none => exact answers_reply _ rfl
  | some req =>
    dsimp only
    split
    · exact answers_reply _ rfl
    · refine answers_look fun user => ?_
      cases user with
      | none => exact answers_reply _ rfl
      | some user =>
        refine answers_do hooks.begin_ fun begun => answers_ite (answers_reply _ rfl) ?_
        refine answers_ite (answers_updateAvatarFile hooks) (answers_do wordless_updateNickname fun updated => ?_)
        exact answers_ite (answers_abort hooks rfl) (answers_updateAvatarFile hooks)

theorem answers_handle (hooks : WordlessHooks dao) (request : UserService.Request) :
    Answers request.conn (Router.Request.user request).reply.1 (Router.Request.user request).reply.2 1 (handleWith dao request) := by
  cases request with
  | register conn seq body => exact answers_handleRegister body
  | login conn seq body => exact answers_handleLogin body
  | logout conn seq => exact answers_handleLogout
  | heartbeat conn seq => exact answers_look fun me => answers_ite (answers_reply _ rfl) (answers_reply _ rfl)
  | searchUser conn seq body => exact answers_handleSearchUser body
  | getProfile conn seq body => exact answers_handleGetProfile body
  | updateProfile conn seq body => exact answers_handleUpdateProfile hooks body

end UserService

namespace MsgService

theorem answers_broadcastEncoded {cmd : Cmd} {senderId conversationId : Int} {excludeDevice : Bytes} {packet : Packet}
    (push : packet.cmd.isPush = true) (seq_zero : packet.seq = 0) (uid_zero : packet.uid = 0) :
    Answers conn cmd seq 0 (broadcastEncoded senderId excludeDevice conversationId packet) := by
  refine answers_look fun members => answers_forEach fun member => answers_look fun conns => answers_forEach fun c => ?_
  exact answers_look fun device => answers_ite (answers_wordless (wordless_ret ())) (answers_push push seq_zero uid_zero)

theorem answers_broadcastConvUpdate {cmd : Cmd} {conversationId excludeUserId : Int} {update : ConvUpdateMsg} :
    Answers conn cmd seq 0 (ConvService.broadcastConvUpdate conversationId excludeUserId update) := by
  refine answers_look fun members => answers_forEach fun m => answers_ite (answers_wordless (wordless_ret ())) ?_
  exact answers_sendToUser rfl rfl rfl

theorem answers_quit {key : Bytes} {e : Error} :
    Answers conn .sendMsgAck seq 1 (dedupRemoveInflightIfNeeded key >>= fun _ => sendAckError conn seq e) :=
  answers_do (wordless_ite (wordless_ret ()) (wordless_step _ _)) fun _ => answers_reply _ rfl

/-- Looking a key up in the cache and putting it in is no reply. -/
theorem answers_dedup {cmd : Cmd} {α : Type} {update : World → World} {answer : World → α} {key : Bytes} :
    Answers conn cmd seq 0 (.step update (fun _ => [.dedup key]) answer : Action α) := by
  intro w
  rw [Prog.run_step]
  exact ⟨⟨[], rfl, rfl⟩, by simp⟩

/-- A send whose key is known or in flight is answered in the section under the lock. -/
theorem answers_dedupSection {key : Bytes} {p : Handler} (rest : Answers conn .sendMsgAck seq 1 p) :
    Answers conn .sendMsgAck seq 1 (dedupSection conn seq key >>= fun fresh => if !fresh then return () else p) := by
  refine answers_section ?_
  rw [bind_assoc]
  refine answers_after answers_dedup fun cached => ?_
  cases cached with
  | some ack =>
    dsimp only
    rw [bind_assoc]
    exact answers_before (answers_reply _ rfl) fun _ => answers_wordless (wordless_ret ())
  | none =>
    dsimp only
    rw [bind_assoc]
    refine answers_look fun marked => ?_
    cases marked with
    | true => exact rest
    | false =>
      simp only [Bool.not_false, if_true, bind_assoc]
      exact answers_before (answers_reply _ rfl) fun _ => answers_wordless (wordless_ret ())

theorem answers_sendStored {senderId serverSeq epochMs : Int} {req : SendMsgReq} :
    Answers conn .sendMsgAck seq 1 (sendStored conn seq senderId req serverSeq epochMs) := by
  refine answers_after ?_ fun _ => answers_before (answers_reply _ rfl) fun _ => answers_do wordless_unhide fun _ => ?_
  · refine answers_ite (answers_wordless (wordless_ret ())) fun w => ?_
    rw [Prog.run_atomic]
    exact answers_look (fun _ => answers_dedup) w
  · exact answers_look fun me => answers_after (answers_broadcastEncoded rfl rfl rfl) fun _ => answers_broadcastConvUpdate

theorem wordless_incrMaxSeq {conversationId : Int} : Wordless (ConversationDao.incrMaxSeq conversationId) := by
  refine wordless_atomic (wordless_bind (wordless_step _ _) fun begun => wordless_ite (wordless_ret _) ?_)
  refine wordless_bind (wordless_step _ _) fun updated => ?_
  cases updated with
  | false => exact wordless_bind (wordless_step _ _) fun _ => wordless_ret _
  | true =>
    refine wordless_bind (wordless_step _ _) fun convs => ?_
    cases convs with
    | nil => exact wordless_bind (wordless_step _ _) fun _ => wordless_ret _
    | cons conv rest =>
      refine wordless_bind (wordless_step _ _) fun committed => ?_
      cases committed with
      | false => exact wordless_bind (wordless_step _ _) fun _ => wordless_ret _
      | true => exact wordless_ret _

theorem answers_sendChecked {senderId : Int} {req : SendMsgReq} :
    Answers conn .sendMsgAck seq 1 (sendChecked conn seq senderId req) := by
  refine answers_look fun member => answers_ite answers_quit (answers_do wordless_incrMaxSeq fun serverSeq => ?_)
  exact answers_ite answers_quit (answers_look fun epochMs => answers_look fun inserted => answers_ite answers_quit answers_sendStored)

theorem answers_handleSendMsg (body : Option SendMsgReq) : Answers conn .sendMsgAck seq 1 (handleSendMsg conn seq body) := by
  refine answers_look fun me => answers_ite (answers_reply _ rfl) ?_
  cases body with
  | none => exact answers_reply _ rfl
  | some req =>
    refine answers_look fun config => ?_
    split
    · exact answers_reply _ rfl
    · exact answers_ite answers_sendChecked (answers_dedupSection answers_sendChecked)

theorem wordless_updateStatus {msgId : Int} {status : MsgStatus} : Wordless (MessageDao.updateStatus msgId status) := by
  refine wordless_atomic (wordless_bind (wordless_step _ _) fun res => ?_)
  cases res with
  | none => exact wordless_ret false
  | some msg => exact wordless_step _ _

theorem answers_handleRecallMsg (body : Option RecallMsgReq) : Answers conn .recallMsgAck seq 1 (handleRecallMsg conn seq body) := by
  refine answers_look fun me => answers_ite (answers_reply _ rfl) ?_
  cases body with
  | none => exact answers_reply _ rfl
  | some req =>
    refine answers_ite (answers_reply _ rfl) (answers_look fun member => answers_ite (answers_reply _ rfl) (answers_look fun found => ?_))
    cases found with
    | none => exact answers_reply _ rfl
    | some msg =>
      refine answers_ite (answers_reply _ rfl) (answers_ite (answers_reply _ rfl) (answers_look fun mem => ?_))
      split
      · exact answers_reply _ rfl
      · refine answers_do wordless_updateStatus fun updated => answers_ite (answers_reply _ rfl) ?_
        exact answers_before (answers_reply _ rfl) fun _ => answers_look fun sender => answers_broadcastEncoded rfl rfl rfl

theorem wordless_handleDeliverAck (body : Option DeliverAckReq) : Wordless (handleDeliverAck conn body) := by
  refine wordless_bind (wordless_step _ _) fun me => wordless_ite (wordless_ret ()) ?_
  cases body with
  | none => exact wordless_ret ()
  | some req =>
    refine wordless_ite (wordless_bind (wordless_step _ _) fun member => wordless_ite ?_ (wordless_ret ())) (wordless_ret ())
    exact wordless_bind (wordless_ite (wordless_ret false) (wordless_step _ _)) fun _ => wordless_ret ()

/-- The ack of a reader is answered if it comes on a connection that carries a user. -/
theorem answers_handleReadAck (body : Option ReadAckReq) {w : World} (known : (w.mem.connections conn).userId ≠ 0) :
    AnsweredOn conn .readAck seq 1 ((handleReadAck conn seq body).run w).events := by
  rw [handleReadAck, Prog.run_bind, connection, run_peek, if_neg known, List.nil_append]
  suffices answers : Answers conn .readAck seq 1 _ from answers w
  cases body with
  | none => exact answers_reply _ rfl
  | some req =>
    refine answers_ite (answers_reply _ rfl) (answers_look fun member => answers_ite (answers_reply _ rfl) (answers_look fun conv => ?_))
    exact answers_do (wordless_ite (wordless_ret false) (wordless_step _ _)) fun updated => answers_ite (answers_reply _ rfl) (answers_reply _ rfl)

end MsgService

theorem ConvService.answers_handle (request : ConvService.Request) :
    Answers request.conn (Router.Request.conv request).reply.1 (Router.Request.conv request).reply.2 1 (handle request) := by
  cases request with
  | getConvList conn seq =>
    refine answers_look fun me => answers_ite (answers_reply _ rfl) (answers_look fun memberships => ?_)
    refine answers_do (wordless_ite (wordless_ret []) (wordless_step _ _)) fun conversations => ?_
    refine answers_do (wordless_ite (wordless_ret []) MessageDao.wordless_latestBatches) fun previews => ?_
    refine answers_do (wordless_ite (wordless_ret []) (wordless_ite (wordless_ret []) (wordless_step _ _))) fun privateMembers => ?_
    exact answers_do (wordless_ite (wordless_ret []) (wordless_ite (wordless_ret []) (wordless_step _ _))) fun users => answers_reply _ rfl
  | deleteConv conn seq body =>
    refine answers_look fun me => answers_ite (answers_reply _ rfl) ?_
    cases body with
    | none => exact answers_reply _ rfl
    | some req =>
      refine answers_ite (answers_reply _ rfl) (answers_look fun member => answers_ite (answers_reply _ rfl) ?_)
      exact answers_look fun hidden => answers_ite (answers_reply _ rfl) (answers_reply _ rfl)
  | muteConv conn seq body | pinConv conn seq body =>
    refine answers_look fun me => answers_ite (answers_reply _ rfl) ?_
    cases body with
    | none => exact answers_reply _ rfl
    | some req =>
      refine answers_ite (answers_reply _ rfl) (answers_ite (answers_reply _ rfl) (answers_look fun member => ?_))
      exact answers_ite (answers_reply _ rfl) (answers_look fun changed => answers_ite (answers_reply _ rfl) (answers_reply _ rfl))

theorem SyncService.answers_handle (request : SyncService.Request) :
    Answers request.conn (Router.Request.sync request).reply.1 (Router.Request.sync request).reply.2 1 (handle request) := by
  cases request with
  | syncMsg conn seq body =>
    refine answers_look fun me => answers_ite (answers_reply _ rfl) ?_
    cases body with
    | none => exact answers_reply _ rfl
    | some req =>
      refine answers_ite (answers_reply _ rfl) (answers_look fun member => answers_ite (answers_reply _ rfl) ?_)
      refine answers_look fun config => answers_look fun messages => ?_
      exact answers_do (wordless_ite (wordless_ret []) (wordless_step _ _)) fun users => answers_reply _ rfl
  | syncUnread conn seq =>
    refine answers_look fun me => answers_ite (answers_reply _ rfl) (answers_look fun memberships => ?_)
    refine answers_do (wordless_ite (wordless_ret []) (wordless_step _ _)) fun conversations => answers_do ?_ fun items => answers_reply _ rfl
    refine wordless_ite (wordless_ret _) (wordless_bind MessageDao.wordless_latestBatches fun previews => ?_)
    exact wordless_bind (wordless_ite (wordless_ret []) (wordless_step _ _)) fun users => wordless_ret _

theorem FileService.answers_handle (request : FileService.Request) :
    Answers request.conn (Router.Request.file request).reply.1 (Router.Request.file request).reply.2 1 (handle request) := by
  cases request with
  | upload conn seq body =>
    refine answers_look fun me => answers_ite (answers_reply _ rfl) ?_
    cases body with
    | none => exact answers_reply _ rfl
    | some req =>
      dsimp only
      split
      · exact answers_reply _ rfl
      · refine answers_do (wordless_ite (wordless_ret none) (wordless_ite (wordless_step _ _) (wordless_ret none))) fun existing => ?_
        split
        · exact answers_reply _ rfl
        · refine answers_ite (answers_reply _ rfl) (answers_look fun systemMs => answers_do ?_ fun id => ?_)
          · exact wordless_atomic (wordless_bind (wordless_step _ _) fun _ => wordless_step _ _)
          · cases id with
            | none => exact answers_reply _ rfl
            | some fileId =>
              refine answers_do (wordless_atomic (wordless_bind (wordless_step _ _) fun res => ?_)) fun updated =>
                answers_ite (answers_reply _ rfl) (answers_reply _ rfl)
              cases res with
              | none => exact wordless_ret false
              | some file => exact wordless_step _ _
  | uploadComplete conn seq body =>
    refine answers_look fun me => answers_ite (answers_reply _ rfl) ?_
    cases body with
    | none => exact answers_reply _ rfl
    | some req =>
      refine answers_ite (answers_reply _ rfl) (answers_look fun file => ?_)
      split
      · exact answers_reply _ rfl
      · exact answers_reply _ rfl
  | download conn seq body =>
    refine answers_look fun me => answers_ite (answers_reply _ rfl) ?_
    cases body with
    | none => exact answers_reply _ rfl
    | some req =>
      refine answers_ite (answers_reply _ rfl) (answers_look fun file => ?_)
      cases file with
      | none => exact answers_reply _ rfl
      | some file =>
        refine answers_do (wordless_ite (wordless_ret true) ?_) fun allowed => answers_ite (answers_reply _ rfl) (answers_reply _ rfl)
        exact wordless_bind (wordless_step _ _) fun mine => wordless_bind (wordless_step _ _) fun theirs => wordless_ret _

namespace FriendService

theorem answers_notifyFrom {cmd : Cmd} {senderId targetUserId notifyType requestId conversationId : Int} {remark : Bytes} :
    Answers conn cmd seq 0 (notifyFrom senderId targetUserId notifyType remark requestId conversationId) := by
  refine answers_look fun me => ?_
  cases me with
  | none => exact answers_wordless (wordless_ret ())
  | some me => exact answers_sendToUser rfl rfl rfl

theorem wordless_stamped {α : Type} {insert : Bytes → Action α} (each : ∀ now, Wordless (insert now)) :
    Wordless (.atomic (nowUtcStr >>= insert)) :=
  wordless_atomic (wordless_bind (wordless_step _ _) each)

theorem answers_handleAddFriend (body : Option AddFriendReq) : Answers conn .addFriendAck seq 1 (handleAddFriend conn seq body) := by
  refine answers_look fun me => answers_ite (answers_reply _ rfl) ?_
  cases body with
  | none => exact answers_reply _ rfl
  | some req =>
    refine answers_ite (answers_reply _ rfl) (answers_ite (answers_reply _ rfl) (answers_look fun target => ?_))
    cases target with
    | none => exact answers_reply _ rfl
    | some target =>
      refine answers_ite (answers_reply _ rfl) (answers_look fun blocked => answers_ite (answers_reply _ rfl) ?_)
      refine answers_look fun existing => answers_ite (answers_reply _ rfl) (answers_ite (answers_reply _ rfl) ?_)
      refine answers_look fun pending => answers_ite (answers_reply _ rfl) (answers_look fun reversePending => ?_)
      refine answers_ite (answers_reply _ rfl) (answers_ite (answers_reply _ rfl) ?_)
      refine answers_do (wordless_stamped fun _ => wordless_step _ _) fun id => ?_
      cases id with
      | none => exact answers_reply _ rfl
      | some id => exact answers_after answers_notifyFrom fun _ => answers_reply _ rfl

theorem answers_requestHandled {userId notifyType conversationId : Int} {fr : FriendRequest} :
    Answers conn .handleFriendReqAck seq 1 (requestHandled conn seq userId fr notifyType conversationId) :=
  answers_after answers_notifyFrom fun _ => answers_reply _ rfl

theorem answers_accept (hooks : WordlessHooks dao) {userId requestId : Int} {fr : FriendRequest} :
    Answers conn .handleFriendReqAck seq 1 (accept conn seq userId requestId fr dao) := by
  have member : ∀ {m}, Wordless (ConversationDao.addMember m) := wordless_bind (wordless_step _ _) fun _ => wordless_ret _
  have friend : ∀ {f}, Wordless (FriendDao.insertFriendship f) :=
    wordless_stamped fun _ => wordless_bind (wordless_step _ _) fun _ => wordless_ret _
  have ends : ∀ {rest : Handler} {c : Prop} [Decidable c], Answers conn .handleFriendReqAck seq 1 rest →
      Answers conn .handleFriendReqAck seq 1 (if c then abort (sendHandleFriendReqAck conn seq errc.kDatabaseError 0) dao else rest) :=
    answers_ite (answers_abort hooks rfl)
  refine answers_do (wordless_stamped fun _ => wordless_step _ _) fun updated => ends (answers_look fun conv => ?_)
  cases conv with
  | none => exact answers_abort hooks rfl
  | some conversationId =>
    refine answers_do member fun m1 => ends (answers_do member fun m2 => ends ?_)
    refine answers_do friend fun f1 => ends (answers_do friend fun f2 => ends ?_)
    exact answers_do hooks.commit fun committed => ends answers_requestHandled

theorem answers_handleRequest (hooks : WordlessHooks dao) (body : Option HandleFriendReqReq) :
    Answers conn .handleFriendReqAck seq 1 (FriendService.handleRequest conn seq body dao) := by
  refine answers_look fun me => answers_ite (answers_reply _ rfl) ?_
  cases body with
  | none => exact answers_reply _ rfl
  | some req =>
    refine answers_ite (answers_reply _ rfl) (answers_ite (answers_reply _ rfl) (answers_look fun found => ?_))
    cases found with
    | none => exact answers_reply _ rfl
    | some fr =>
      refine answers_ite (answers_reply _ rfl) (answers_ite (answers_reply _ rfl) (answers_ite ?_ ?_))
      · refine answers_look fun requester => answers_ite (answers_reply _ rfl) ?_
        exact answers_do hooks.begin_ fun begun => answers_ite (answers_reply _ rfl) (answers_accept hooks)
      · refine answers_do (wordless_stamped fun _ => wordless_step _ _) fun updated => ?_
        exact answers_ite (answers_reply _ rfl) answers_requestHandled

theorem answers_remove (hooks : WordlessHooks dao) {myId targetId conversationId : Int} :
    Answers conn .deleteFriendAck seq 1 (remove conn seq myId targetId conversationId dao) := by
  have marked : ∀ {mine theirs status}, Wordless (FriendDao.updateFriendshipStatus mine theirs status) :=
    wordless_stamped fun _ => wordless_step _ _
  refine answers_do marked fun mine => answers_ite (answers_abort hooks rfl) ?_
  refine answers_do marked fun theirs => answers_ite (answers_abort hooks rfl) ?_
  refine answers_do (wordless_ite (wordless_step _ _) (wordless_ret true)) fun left => answers_ite (answers_abort hooks rfl) ?_
  refine answers_do (wordless_ite (wordless_step _ _) (wordless_ret true)) fun left => answers_ite (answers_abort hooks rfl) ?_
  refine answers_do hooks.commit fun committed => answers_ite (answers_abort hooks rfl) ?_
  exact answers_after answers_notifyFrom fun _ => answers_reply _ rfl

theorem answers_handleDeleteFriend (hooks : WordlessHooks dao) (body : Option TargetReq) :
    Answers conn .deleteFriendAck seq 1 (handleDeleteFriend conn seq body dao) := by
  refine answers_look fun me => answers_ite (answers_reply _ rfl) ?_
  cases body with
  | none => exact answers_reply _ rfl
  | some req =>
    refine answers_ite (answers_reply _ rfl) (answers_look fun target => ?_)
    cases target with
    | none => exact answers_reply _ rfl
    | some target =>
      refine answers_look fun fs => ?_
      cases fs with
      | none => exact answers_reply _ rfl
      | some fs =>
        refine answers_ite (answers_reply _ rfl) (answers_do hooks.begin_ fun begun => answers_ite (answers_reply _ rfl) ?_)
        exact answers_remove hooks

theorem answers_handleBlock (body : Option TargetReq) : Answers conn .blockFriendAck seq 1 (handleBlock conn seq body) := by
  refine answers_look fun me => answers_ite (answers_reply _ rfl) ?_
  cases body with
  | none => exact answers_reply _ rfl
  | some req =>
    refine answers_ite (answers_reply _ rfl) (answers_ite (answers_reply _ rfl) (answers_look fun target => ?_))
    cases target with
    | none => exact answers_reply _ rfl
    | some target =>
      refine answers_look fun fs => ?_
      cases fs with
      | some fs =>
        refine answers_ite (answers_reply _ rfl) (answers_do (wordless_stamped fun _ => wordless_step _ _) fun blocked => ?_)
        exact answers_ite (answers_reply _ rfl) (answers_reply _ rfl)
      | none =>
        refine answers_do (wordless_stamped fun _ => wordless_bind (wordless_step _ _) fun _ => wordless_ret _) fun blocked => ?_
        exact answers_ite (answers_reply _ rfl) (answers_reply _ rfl)

theorem answers_handleUnblock (body : Option TargetReq) : Answers conn .unblockFriendAck seq 1 (handleUnblock conn seq body) := by
  refine answers_look fun me => answers_ite (answers_reply _ rfl) ?_
  cases body with
  | none => exact answers_reply _ rfl
  | some req =>
    refine answers_ite (answers_reply _ rfl) (answers_look fun target => ?_)
    cases target with
    | none => exact answers_reply _ rfl
    | some target =>
      refine answers_look fun fs => ?_
      cases fs with
      | none => exact answers_reply _ rfl
      | some fs =>
        refine answers_ite (answers_reply _ rfl) (answers_do (wordless_stamped fun _ => wordless_step _ _) fun unblocked => ?_)
        exact answers_ite (answers_reply _ rfl) (answers_reply _ rfl)

theorem answers_handle (hooks : WordlessHooks dao) (request : FriendService.Request) :
    Answers request.conn (Router.Request.friend request).reply.1 (Router.Request.friend request).reply.2 1 (handleWith dao request) := by
  cases request with
  | addFriend conn seq body => exact answers_handleAddFriend body
  | handleRequest conn seq body => exact answers_handleRequest hooks body
  | deleteFriend conn seq body => exact answers_handleDeleteFriend hooks body
  | block conn seq body => exact answers_handleBlock body
  | unblock conn seq body => exact answers_handleUnblock body
  | getFriendList conn seq =>
    refine answers_look fun me => answers_ite (answers_reply _ rfl) (answers_look fun friends => ?_)
    exact answers_do (wordless_ite (wordless_ret []) (wordless_step _ _)) fun users => answers_reply _ rfl
  | getRequests conn seq body =>
    refine answers_look fun me => answers_ite (answers_reply _ rfl) (answers_do ?_ fun page => ?_)
    · exact wordless_atomic (wordless_bind (wordless_step _ _) fun _ => wordless_bind (wordless_step _ _) fun _ => wordless_ret _)
    · exact answers_do (wordless_ite (wordless_ret []) (wordless_step _ _)) fun users => answers_reply _ rfl

end FriendService

namespace GroupService

theorem answers_sendGroupNotify {cmd : Cmd} {conversationId excludeUserId : Int} {notify : GroupNotifyMsg} :
    Answers conn cmd seq 0 (sendGroupNotify conversationId excludeUserId notify) := by
  refine answers_look fun members => answers_forEach fun m => answers_ite (answers_wordless (wordless_ret ())) ?_
  exact answers_sendToUser rfl rfl rfl

theorem answers_sendToMembers {cmd : Cmd} {members : List ConversationMember} {excludeUserId : Int} {packet : Packet}
    (push : packet.cmd.isPush = true) (seq_zero : packet.seq = 0) (uid_zero : packet.uid = 0) :
    Answers conn cmd seq 0 (sendToMembers members excludeUserId packet) :=
  answers_forEach fun _ => answers_ite (answers_wordless (wordless_ret ())) (answers_sendToUser push seq_zero uid_zero)

/-- What is told after a change, in front of the reply. -/
theorem answers_told {cmd : Cmd} {conversationId exclude other : Int} {notify : GroupNotifyMsg} {update : ConvUpdateMsg}
    {rest : Handler} (replies : Answers conn cmd seq 1 rest) :
    Answers conn cmd seq 1 (sendGroupNotify conversationId exclude notify >>= fun _ =>
      ConvService.broadcastConvUpdate conversationId other update >>= fun _ => rest) :=
  answers_after answers_sendGroupNotify fun _ => answers_after MsgService.answers_broadcastConvUpdate fun _ => replies

theorem answers_create (hooks : WordlessHooks dao) {userId : Int} {req : CreateGroupReq} {memberIds : List Int} {now : Bytes} :
    Answers conn .createGroupAck seq 1 (create conn seq userId req memberIds now dao) := by
  refine answers_look fun conv => ?_
  cases conv with
  | none => exact answers_abort hooks rfl
  | some conversationId =>
    refine answers_do (FriendService.wordless_stamped fun _ => wordless_step _ _) fun group => ?_
    cases group with
    | none => exact answers_abort hooks rfl
    | some groupId =>
      refine answers_do (wordless_bind (wordless_step _ _) fun _ => wordless_ret _) fun owner => answers_ite (answers_abort hooks rfl) ?_
      refine answers_do wordless_addMembers fun added => answers_ite (answers_abort hooks rfl) ?_
      refine answers_do hooks.commit fun committed => answers_ite (answers_abort hooks rfl) ?_
      exact answers_before (answers_reply _ rfl) fun _ => answers_sendGroupNotify

theorem answers_handleCreateGroup (hooks : WordlessHooks dao) (body : Option CreateGroupReq) :
    Answers conn .createGroupAck seq 1 (handleCreateGroup conn seq body dao) := by
  refine answers_look fun me => answers_ite (answers_reply _ rfl) ?_
  cases body with
  | none => exact answers_reply _ rfl
  | some req =>
    refine answers_ite (answers_reply _ rfl) (answers_ite (answers_reply _ rfl) (answers_ite (answers_reply _ rfl) ?_))
    refine answers_ite (answers_reply _ rfl) (answers_ite (answers_reply _ rfl) (answers_ite (answers_reply _ rfl) ?_))
    refine answers_do (wordless_ite (wordless_ret []) (wordless_step _ _)) fun validUsers => answers_ite (answers_reply _ rfl) ?_
    refine answers_ite (answers_reply _ rfl) (answers_look fun now => answers_do hooks.begin_ fun begun => ?_)
    exact answers_ite (answers_reply _ rfl) (answers_create hooks)

theorem answers_dismiss (hooks : WordlessHooks dao) {userId conversationId : Int} {members : List ConversationMember} :
    Answers conn .dismissGroupAck seq 1 (dismiss conn seq userId conversationId members dao) := by
  refine answers_look fun deleted => answers_ite (answers_abort hooks rfl) (answers_look fun removed => ?_)
  refine answers_ite (answers_abort hooks rfl) (answers_do hooks.commit fun committed => answers_ite (answers_abort hooks rfl) ?_)
  exact answers_after (answers_sendToMembers rfl rfl rfl) fun _ =>
    answers_after (answers_sendToMembers rfl rfl rfl) fun _ => answers_reply _ rfl

theorem answers_handleDismissGroup (hooks : WordlessHooks dao) (body : Option ConversationReq) :
    Answers conn .dismissGroupAck seq 1 (handleDismissGroup conn seq body dao) := by
  refine answers_look fun me => answers_ite (answers_reply _ rfl) ?_
  cases body with
  | none => exact answers_reply _ rfl
  | some req =>
    refine answers_ite (answers_reply _ rfl) (answers_look fun group => ?_)
    cases group with
    | none => exact answers_reply _ rfl
    | some group =>
      refine answers_ite (answers_reply _ rfl) (answers_look fun members => answers_do hooks.begin_ fun begun => ?_)
      exact answers_ite (answers_reply _ rfl) (answers_dismiss hooks)

theorem answers_handleJoinGroup (body : Option JoinGroupReq) : Answers conn .joinGroupAck seq 1 (handleJoinGroup conn seq body) := by
  refine answers_look fun me => answers_ite (answers_reply _ rfl) ?_
  cases body with
  | none => exact answers_reply _ rfl
  | some req =>
    refine answers_ite (answers_reply _ rfl) (answers_look fun group => answers_ite (answers_reply _ rfl) ?_)
    refine answers_look fun member => answers_ite (answers_reply _ rfl) (answers_look fun pending => ?_)
    refine answers_ite (answers_reply _ rfl) (answers_ite (answers_reply _ rfl) ?_)
    refine answers_do (FriendService.wordless_stamped fun _ => wordless_step _ _) fun id => ?_
    exact answers_ite (answers_reply _ rfl) (answers_reply _ rfl)

theorem answers_approve (hooks : WordlessHooks dao) {userId requestId : Int} {jr : GroupJoinRequest} :
    Answers conn .handleJoinReqAck seq 1 (approve conn seq userId requestId jr dao) := by
  refine answers_look fun memberCount => answers_ite (answers_abort hooks rfl) (answers_look fun now => ?_)
  refine answers_do (wordless_bind (wordless_step _ _) fun _ => wordless_ret _) fun added => answers_ite (answers_abort hooks rfl) ?_
  refine answers_do (FriendService.wordless_stamped fun _ => wordless_step _ _) fun updated => answers_ite (answers_abort hooks rfl) ?_
  exact answers_do hooks.commit fun committed => answers_ite (answers_abort hooks rfl) (answers_told (answers_reply _ rfl))

theorem answers_handleJoinReq (hooks : WordlessHooks dao) (body : Option HandleJoinReqReq) :
    Answers conn .handleJoinReqAck seq 1 (GroupService.handleJoinReq conn seq body dao) := by
  refine answers_look fun me => answers_ite (answers_reply _ rfl) ?_
  cases body with
  | none => exact answers_reply _ rfl
  | some req =>
    refine answers_ite (answers_reply _ rfl) (answers_look fun found => ?_)
    cases found with
    | none => exact answers_reply _ rfl
    | some jr =>
      refine answers_ite (answers_reply _ rfl) (answers_look fun member => answers_ite (answers_reply _ rfl) (answers_ite ?_ ?_))
      · refine answers_look fun applicant => answers_ite (answers_reply _ rfl) ?_
        exact answers_do hooks.begin_ fun begun => answers_ite (answers_reply _ rfl) (answers_approve hooks)
      · refine answers_do (FriendService.wordless_stamped fun _ => wordless_step _ _) fun updated => ?_
        exact answers_ite (answers_reply _ rfl) (answers_reply _ rfl)

theorem answers_handleLeaveGroup (body : Option ConversationReq) : Answers conn .leaveGroupAck seq 1 (handleLeaveGroup conn seq body) := by
  refine answers_look fun me => answers_ite (answers_reply _ rfl) ?_
  cases body with
  | none => exact answers_reply _ rfl
  | some req =>
    refine answers_ite (answers_reply _ rfl) (answers_look fun member => ?_)
    cases member with
    | none => exact answers_reply _ rfl
    | some member =>
      refine answers_ite (answers_reply _ rfl) (answers_look fun removed => answers_ite (answers_reply _ rfl) ?_)
      exact answers_told (answers_reply _ rfl)

theorem answers_handleKickMember (body : Option KickMemberReq) : Answers conn .kickMemberAck seq 1 (handleKickMember conn seq body) := by
  refine answers_look fun me => answers_ite (answers_reply _ rfl) ?_
  cases body with
  | none => exact answers_reply _ rfl
  | some req =>
    refine answers_ite (answers_reply _ rfl) (answers_ite (answers_reply _ rfl) (answers_look fun opMember => ?_))
    cases opMember with
    | none => exact answers_reply _ rfl
    | some operator =>
      refine answers_ite (answers_reply _ rfl) (answers_look fun targetMember => ?_)
      cases targetMember with
      | none => exact answers_reply _ rfl
      | some target =>
        refine answers_ite (answers_reply _ rfl) (answers_look fun removed => answers_ite (answers_reply _ rfl) ?_)
        refine answers_after answers_sendGroupNotify fun _ => answers_after (answers_sendToUser rfl rfl rfl) fun _ => ?_
        exact answers_after MsgService.answers_broadcastConvUpdate fun _ => answers_reply _ rfl

theorem answers_rewrite (hooks : WordlessHooks dao) {userId : Int} {req : UpdateGroupReq} {group : Group} :
    Answers conn .updateGroupAck seq 1 (rewrite conn seq userId req group dao) := by
  refine answers_look fun written => answers_ite (answers_abort hooks rfl) (answers_look fun conv => answers_do ?_ fun written => ?_)
  · cases conv with
    | none => exact wordless_ret true
    | some conv => exact wordless_step _ _
  · refine answers_ite (answers_abort hooks rfl) (answers_do hooks.commit fun committed => answers_ite (answers_abort hooks rfl) ?_)
    exact answers_told (answers_reply _ rfl)

theorem answers_handleUpdateGroup (hooks : WordlessHooks dao) (body : Option UpdateGroupReq) :
    Answers conn .updateGroupAck seq 1 (handleUpdateGroup conn seq body dao) := by
  refine answers_look fun me => answers_ite (answers_reply _ rfl) ?_
  cases body with
  | none => exact answers_reply _ rfl
  | some req =>
    refine answers_ite (answers_reply _ rfl) (answers_look fun member => answers_ite (answers_reply _ rfl) (answers_look fun group => ?_))
    cases group with
    | none => exact answers_reply _ rfl
    | some group =>
      dsimp only
      split
      · exact answers_reply _ rfl
      · exact answers_do hooks.begin_ fun begun => answers_ite (answers_reply _ rfl) (answers_rewrite hooks)

theorem answers_handleGetGroupInfo (body : Option ConversationReq) :
    Answers conn .getGroupInfoAck seq 1 (handleGetGroupInfo conn seq body) := by
  refine answers_look fun me => answers_ite (answers_reply _ rfl) ?_
  cases body with
  | none => exact answers_reply _ rfl
  | some req =>
    refine answers_ite (answers_reply _ rfl) (answers_look fun group => ?_)
    cases group with
    | none => exact answers_reply _ rfl
    | some group =>
      exact answers_look fun member => answers_ite (answers_reply _ rfl) (answers_look fun memberCount => answers_reply _ rfl)

theorem answers_handleGetGroupMembers (body : Option ConversationReq) :
    Answers conn .getGroupMembersAck seq 1 (handleGetGroupMembers conn seq body) := by
  refine answers_look fun me => answers_ite (answers_reply _ rfl) ?_
  cases body with
  | none => exact answers_reply _ rfl
  | some req =>
    refine answers_ite (answers_reply _ rfl) (answers_look fun member => answers_ite (answers_reply _ rfl) ?_)
    exact answers_look fun members => answers_do (wordless_ite (wordless_ret []) (wordless_step _ _)) fun users => answers_reply _ rfl

theorem answers_handleSetMemberRole (body : Option SetMemberRoleReq) :
    Answers conn .setMemberRoleAck seq 1 (handleSetMemberRole conn seq body) := by
  refine answers_look fun me => answers_ite (answers_reply _ rfl) ?_
  cases body with
  | none => exact answers_reply _ rfl
  | some req =>
    refine answers_ite (answers_reply _ rfl) (answers_ite (answers_reply _ rfl) (answers_look fun opMember => ?_))
    refine answers_ite (answers_reply _ rfl) (answers_look fun target => answers_ite (answers_reply _ rfl) ?_)
    refine answers_ite (answers_reply _ rfl) (answers_look fun updated => answers_ite (answers_reply _ rfl) ?_)
    exact answers_after answers_sendGroupNotify fun _ => answers_reply _ rfl

theorem answers_handle (hooks : WordlessHooks dao) (request : GroupService.Request) :
    Answers request.conn (Router.Request.group request).reply.1 (Router.Request.group request).reply.2 1 (handleWith dao request) := by
  cases request with
  | createGroup conn seq body => exact answers_handleCreateGroup hooks body
  | dismissGroup conn seq body => exact answers_handleDismissGroup hooks body
  | joinGroup conn seq body => exact answers_handleJoinGroup body
  | handleJoinReq conn seq body => exact answers_handleJoinReq hooks body
  | leaveGroup conn seq body => exact answers_handleLeaveGroup body
  | kickMember conn seq body => exact answers_handleKickMember body
  | getGroupInfo conn seq body => exact answers_handleGetGroupInfo body
  | updateGroup conn seq body => exact answers_handleUpdateGroup hooks body
  | getGroupMembers conn seq body => exact answers_handleGetGroupMembers body
  | getMyGroups conn seq =>
    refine answers_look fun me => answers_ite (answers_reply _ rfl) (answers_look fun groups => answers_look fun mine => ?_)
    exact answers_do wordless_countAll fun counts => answers_reply _ rfl
  | setMemberRole conn seq body => exact answers_handleSetMemberRole body

end GroupService

end Handlers

/-! ### The router -/

/-- How many replies a request has. -/
def Router.Request.replies : Router.Request → Nat
  | .msg (.deliverAck ..) => 0
  | _ => 1

/-- A request of a user, or one that needs no session, is answered once, on its connection and with its seq. -/
theorem dispatch_answers {dao : DaoFactory} (hooks : WordlessHooks dao) (request : Router.Request) {w : World}
    (known : request.Open ∨ (w.mem.connections request.conn).userId ≠ 0) :
    AnsweredOn request.conn request.reply.1 request.reply.2 request.replies ((Router.dispatch dao request).run w).events := by
  cases request with
  | user request => exact UserService.answers_handle hooks request w
  | msg request =>
    have known : (w.mem.connections request.conn).userId ≠ 0 := known.resolve_left fun open_ => by cases open_
    cases request with
    | sendMsg conn seq body => exact MsgService.answers_handleSendMsg body w
    | recallMsg conn seq body => exact MsgService.answers_handleRecallMsg body w
    | deliverAck conn body => exact answers_wordless (MsgService.wordless_handleDeliverAck body) w
    | readAck conn seq body => exact MsgService.answers_handleReadAck body known
  | sync request => exact SyncService.answers_handle request w
  | friend request => exact FriendService.answers_handle hooks request w
  | conv request => exact ConvService.answers_handle request w
  | group request => exact GroupService.answers_handle hooks request w
  | file request => exact FileService.answers_handle request w

/-! ### What is no packet -/

theorem Gateway.wordless_onDisconnected {other : ConnId} : Wordless (onDisconnected other) :=
  wordless_bind (wordless_step _ _) fun _ => wordless_ite (wordless_ret ()) (wordless_step _ _)

namespace AdminServer

theorem wordless_kickAllConns {userId : Int} : Wordless (kickAllConns userId) :=
  wordless_bind (wordless_step _ _) fun _ => wordless_bind (wordless_ite (wordless_step _ _) (wordless_ret ())) fun _ => wordless_ret _

theorem wordless_writeAuditLog : Wordless writeAuditLog := wordless_bind (wordless_step _ _) fun _ => wordless_ret ()

theorem wordless_setStatus {permitted : Bool} {uid : Bytes} {status : AccountStatus} {kick : Bool} :
    Wordless (setStatus permitted uid status kick) := by
  refine wordless_ite (wordless_ret _) (wordless_ite (wordless_ret _) (wordless_bind (wordless_atomic ?_) fun updated => ?_))
  · refine wordless_bind (wordless_step _ _) fun res => ?_
    cases res with
    | none => exact wordless_ret none
    | some user => exact wordless_bind (wordless_step _ _) fun _ => wordless_ret _
  · cases updated with
    | none => exact wordless_ret _
    | some id =>
      refine wordless_bind (wordless_ite (wordless_bind wordless_kickAllConns fun _ => wordless_ret ()) (wordless_ret ())) fun _ => ?_
      exact wordless_bind wordless_writeAuditLog fun _ => wordless_ret _

/-- The admin server answers over HTTP. -/
theorem wordless_handle (request : Request) : Wordless (handle request) := by
  cases request with
  | banUser permitted uid | unbanUser permitted uid | deleteUser permitted uid => exact wordless_setStatus
  | kickUser permitted uid =>
    refine wordless_ite (wordless_ret _) (wordless_ite (wordless_ret _) (wordless_bind (wordless_step _ _) fun user => ?_))
    cases user with
    | none => exact wordless_ret _
    | some user =>
      refine wordless_bind wordless_kickAllConns fun _ => wordless_ite (wordless_ret _) ?_
      exact wordless_bind wordless_writeAuditLog fun _ => wordless_ret _
  | recallMessage permitted id =>
    refine wordless_ite (wordless_ret _) (wordless_ite (wordless_ret _) (wordless_bind (wordless_step _ _) fun msg => ?_))
    cases msg with
    | none => exact wordless_ret _
    | some msg =>
      refine wordless_bind MsgService.wordless_updateStatus fun updated => wordless_ite (wordless_ret _) ?_
      exact wordless_bind (wordless_step _ _) fun _ => wordless_bind wordless_writeAuditLog fun _ => wordless_ret _

end AdminServer

/-- The subscribers of the bus send pushes. -/
theorem Application.answers_dispatchMessage {conn : ConnId} {cmd : Cmd} {seq : UInt32} : Answers conn cmd seq 0 dispatchMessage := by
  refine answers_look fun bus => ?_
  cases bus with
  | nil => exact answers_wordless (wordless_ret ())
  | cons event rest =>
    refine answers_look fun _ => ?_
    cases event with
    | adminKickUser userId =>
      refine answers_look fun conns => answers_forEach fun c => ?_
      exact answers_after (answers_push rfl rfl rfl) fun _ => answers_look fun _ => answers_close
    | adminRecallMsg id conversationId serverSeq =>
      exact answers_look fun members => answers_forEach fun m => answers_sendToUser rfl rfl rfl

/-- Whatever is no packet is answered on no connection. -/
theorem serve_answers (dao : DaoFactory) {input : Input} (other : ∀ request, input ≠ .packet request) {conn : ConnId} {cmd : Cmd}
    {seq : UInt32} : Answers conn cmd seq 0 (serve dao input) := by
  cases input with
  | packet request => exact absurd rfl (other request)
  | disconnected c => exact answers_wordless Gateway.wordless_onDisconnected
  | admin request => exact answers_wordless (wordless_bind (AdminServer.wordless_handle request) fun _ => wordless_ret ())
  | bus => exact Application.answers_dispatchMessage

end NovaIIM
