import NovaIIM.Calls
import NovaIIM.FriendService

/-!
What the friend service writes.

`FriendEffect request me` relates the tables before and after a request on a
connection with the fields `me`, whatever statements fail. The writes of an
acceptance or a deletion come as a path of single writes, since a transaction
whose rollback fails leaves the writes it got to. Every case carries what the
handler had read from the tables when it came to write.
-/
namespace NovaIIM
open Store
open Relation (ReflTransGen)

/-- One write of the acceptance of a request. -/
inductive AcceptWrite (fr : FriendRequest) : Tables → Tables → Prop where
  | marked (t : Tables) (now : Bytes) : AcceptWrite fr t (t.setRequestStatus fr.id .accepted now)
  | conversation (t : Tables) : AcceptWrite fr t (t.createConversation { type := .private_ })
  | member (t : Tables) (conversationId userId : Int) (party : userId = fr.fromId ∨ userId = fr.toId)
      (created : conversationId ≤ t.conversations.lastId) :
      AcceptWrite fr t (t.addMember { conversationId := conversationId, userId := userId })
  | friendship (t : Tables) (f : Friendship)
      (parties : f.userId = fr.fromId ∧ f.friendId = fr.toId ∨ f.userId = fr.toId ∧ f.friendId = fr.fromId) :
      AcceptWrite fr t (t.insertFriendship f)

/-- One write of the deletion of a friend. -/
inductive DeleteWrite (myId targetId conversationId : Int) : Tables → Tables → Prop where
  | mine (t : Tables) (now : Bytes) :
      DeleteWrite myId targetId conversationId t (t.setFriendshipStatus myId targetId .deleted now)
  | theirs (t : Tables) (now : Bytes) :
      DeleteWrite myId targetId conversationId t (t.setFriendshipStatus targetId myId .deleted now)
  | left (t : Tables) (userId : Int) :
      DeleteWrite myId targetId conversationId t (t.removeMember conversationId userId)

/-- The request asks to delete a user as a friend. -/
def FriendService.Request.Deletes (request : FriendService.Request) (t : Tables) (target : User) : Prop :=
  ∃ conn seq req, request = .deleteFriend conn seq (some req) ∧ target ∈ t.users.rows ∧ target.uid = req.targetUid

/-- The request asks to unblock a user. -/
def FriendService.Request.Unblocks (request : FriendService.Request) (t : Tables) (target : User) : Prop :=
  ∃ conn seq req, request = .unblock conn seq (some req) ∧ target ∈ t.users.rows ∧ target.uid = req.targetUid

/-- What a request to the friend service on a connection does to the tables. -/
inductive FriendEffect (request : FriendService.Request) (me : Connection) (t : Tables) : Tables → Prop where
  | unchanged : FriendEffect request me t t
  | requested (fr : FriendRequest) (target : User) (sender : fr.fromId = me.userId)
      (receiver : fr.toId = target.id) (known : target ∈ t.users.rows) (other : target.uid ≠ me.uid) :
      FriendEffect request me t (t.insertRequest fr)
  | rejected (id : Int) (now : Bytes) : FriendEffect request me t (t.setRequestStatus id .rejected now)
  | accepted (fr : FriendRequest) (known : fr ∈ t.friendRequests.rows) (pending : fr.status = .pending)
      (mine : fr.toId = me.userId) {t' : Tables} (writes : ReflTransGen (AcceptWrite fr) t t') :
      FriendEffect request me t t'
  | deleted (row : Friendship) (known : row ∈ t.friendships.rows) (normal : row.status = .normal)
      (mine : row.userId = me.userId) (target : User) (asked : request.Deletes t target)
      (named : row.friendId = target.id) {t' : Tables}
      (writes : ReflTransGen (DeleteWrite me.userId target.id row.conversationId) t t') :
      FriendEffect request me t t'
  | blocked (row : Friendship) (known : row ∈ t.friendships.rows) (status : row.status ≠ .blocked)
      (mine : row.userId = me.userId) (now : Bytes) :
      FriendEffect request me t (t.setFriendshipStatus me.userId row.friendId .blocked now)
  | blockedNew (f : Friendship) (mine : f.userId = me.userId) (status : f.status = .blocked) :
      FriendEffect request me t (t.insertFriendship f)
  | unblocked (row : Friendship) (known : row ∈ t.friendships.rows) (status : row.status = .blocked)
      (mine : row.userId = me.userId) (target : User) (asked : request.Unblocks t target)
      (named : row.friendId = target.id) (now : Bytes) :
      FriendEffect request me t (t.setFriendshipStatus me.userId target.id .deleted now)

namespace FriendService

theorem silent_notifyFrom {senderId targetUserId notifyType : Int} {remark : Bytes}
    {requestId conversationId : Int} :
    Silent (notifyFrom senderId targetUserId notifyType remark requestId conversationId) := by
  refine silent_bind (silent_query _ _) fun me => ?_
  cases me with
  | none => exact silent_ret ()
  | some me => exact silent_sendToUser

theorem silent_requestHandled {conn : ConnId} {seq : UInt32} {userId : Int} {fr : FriendRequest}
    {notifyType conversationId : Int} :
    Silent (requestHandled conn seq userId fr notifyType conversationId) :=
  silent_bind silent_notifyFrom fun _ => silent_sendPacket

private theorem pairUp_writes (conn : ConnId) (seq : UInt32) (userId : Int) (fr : FriendRequest)
    (start : Tables) (conversationId : Int) (w : World) :
    InTransaction (AcceptWrite fr) start (pairUp conn seq userId fr conversationId) w := by
  have stop : ∀ e w, InTransaction (AcceptWrite fr) start
      (abort (sendHandleFriendReqAck conn seq e 0)) w := fun _ _ => inTransaction_abort silent_sendPacket
  refine inTransaction_statement (run_insertFriendship _ _) (.friendship _ _ (.inl ⟨rfl, rfl⟩)) (stop _ _) ?_
  refine inTransaction_ite (fun _ => stop _ _) fun _ => ?_
  refine inTransaction_statement (run_insertFriendship _ _) (.friendship _ _ (.inr ⟨rfl, rfl⟩)) (stop _ _) ?_
  refine inTransaction_ite (fun _ => stop _ _) fun _ => ?_
  exact inTransaction_commit (stop _ _) silent_requestHandled

private theorem befriend_writes (conn : ConnId) (seq : UInt32) (userId : Int) (fr : FriendRequest)
    (start : Tables) {conversationId : Int} {w : World}
    (created : conversationId ≤ w.tables.conversations.lastId) :
    InTransaction (AcceptWrite fr) start (befriend conn seq userId fr conversationId) w := by
  have stop : ∀ e w, InTransaction (AcceptWrite fr) start
      (abort (sendHandleFriendReqAck conn seq e 0)) w := fun _ _ => inTransaction_abort silent_sendPacket
  refine inTransaction_statement (run_addMember _ _) (.member _ _ _ (.inl rfl) created) (stop _ _) ?_
  refine inTransaction_ite (fun _ => stop _ _) fun _ => ?_
  refine inTransaction_statement (run_addMember _ _) (.member _ _ _ (.inr rfl) created) (stop _ _) ?_
  exact inTransaction_ite (fun _ => stop _ _) fun _ => pairUp_writes _ _ _ _ _ _ _

/-- Acceptance behind its BEGIN makes writes of `AcceptWrite` only. -/
theorem accept_writes (conn : ConnId) (seq : UInt32) (userId : Int) (fr : FriendRequest) (start : Tables)
    (w : World) : InTransaction (AcceptWrite fr) start (accept conn seq userId fr.id fr) w := by
  have stop : ∀ e w, InTransaction (AcceptWrite fr) start
      (abort (sendHandleFriendReqAck conn seq e 0)) w := fun _ _ => inTransaction_abort silent_sendPacket
  refine inTransaction_statement (run_updateRequestStatus _ _ _) (.marked _ _) (stop _ _) ?_
  refine inTransaction_statement (run_createConversation _ _) (.conversation _) (stop _ _) ?_
  refine befriend_writes conn seq userId fr start ?_
  have free : ∀ t : Tables, t.conversations.taken { type := .private_ } = false :=
    fun t => by simp [Table.taken, Row.clash]
  simp [Tables.createConversation, Table.lastId_insert_free (free _)]

/-- Deletion behind its BEGIN makes writes of `DeleteWrite` only. -/
theorem remove_writes (conn : ConnId) (seq : UInt32) (myId targetId conversationId : Int) (start : Tables)
    (w : World) :
    InTransaction (DeleteWrite myId targetId conversationId) start
      (remove conn seq myId targetId conversationId) w := by
  have stop : ∀ e w, InTransaction (DeleteWrite myId targetId conversationId) start
      (abort (sendRsp conn .deleteFriendAck seq e)) w := fun _ _ => inTransaction_abort silent_sendRsp
  refine inTransaction_statement (run_updateFriendshipStatus ..) (.mine _ _) (stop _ _) ?_
  refine inTransaction_statement (run_updateFriendshipStatus ..) (.theirs _ _) (stop _ _) ?_
  have finish : ∀ w, InTransaction (DeleteWrite myId targetId conversationId) start (do
      let committed ← commit
      if !committed then abort (sendRsp conn .deleteFriendAck seq errc.kDatabaseError)
      else do
        notifyFrom myId targetId 4 [] 0 0
        sendRsp conn .deleteFriendAck seq errc.kOk) w :=
    fun w => inTransaction_commit (stop _ _) (silent_bind silent_notifyFrom fun _ => silent_sendRsp)
  by_cases private_ : 0 < conversationId
  · simp only [private_, if_true]
    refine inTransaction_execute rfl (.left _ _) (stop _ _) ?_
    refine inTransaction_execute rfl (.left _ _) (stop _ _) ?_
    exact finish _
  · simp only [private_, if_false]
    exact finish _

variable {conn : ConnId} {seq : UInt32} {w : World}

/-- The user that a lookup by uid finds. -/
theorem found_by_uid {t : Tables} {uid : Bytes} {target : User}
    (found : t.users.rows.find? (fun r => r.uid = uid && r.status ≠ .deleted) = some target) :
    target ∈ t.users.rows ∧ target.uid = uid := by
  have named := List.find?_some found
  simp only [Bool.and_eq_true, decide_eq_true_eq] at named
  exact ⟨List.mem_of_find?_eq_some found, named.1⟩

/-- A reply in place of any write. -/
private theorem turned_away {p : Handler} {request : Request} (silent : Silent p) {me : Connection}
    (w : World) : Does (FriendEffect request me) p w := does_silent silent .unchanged

theorem handleAddFriend_does (body : Option AddFriendReq) :
    Does (FriendEffect (.addFriend conn seq body) (w.mem.connections conn)) (handleAddFriend conn seq body) w := by
  have stop : ∀ {request me} e (w : World), Does (FriendEffect request me) (sendAddFriendAck conn seq e 0) w :=
    fun _ w => turned_away silent_sendPacket w
  refine does_peek (does_ite (fun _ => stop _ _) fun _ => ?_)
  cases body with
  | none => exact stop _ _
  | some req =>
    refine does_ite (fun _ => stop _ _) fun _ => does_ite (fun _ => stop _ _) fun other => ?_
    refine does_lookup (stop _ _) fun target found => ?_
    refine does_ite (fun _ => stop _ _) fun _ => ?_
    obtain ⟨known, named⟩ := found_by_uid found
    refine does_query_any fun _ => does_ite (fun _ => stop _ _) fun _ => ?_
    refine does_query_any fun _ => does_ite (fun _ => stop _ _) fun _ => does_ite (fun _ => stop _ _) fun _ => ?_
    refine does_query_any fun _ => does_ite (fun _ => stop _ _) fun _ => ?_
    refine does_query_any fun _ => does_ite (fun _ => stop _ _) fun _ => does_ite (fun _ => stop _ _) fun _ => ?_
    refine does_statement (run_insertRequest _ _) .unchanged
      (.requested _ target rfl rfl known (named ▸ other)) fun id => ?_
    cases id with
    | none => exact silent_sendPacket
    | some id => exact silent_bind silent_notifyFrom fun _ => silent_sendPacket

theorem handleRequest_does (body : Option HandleFriendReqReq) :
    Does (FriendEffect (.handleRequest conn seq body) (w.mem.connections conn)) (handleRequest conn seq body) w := by
  have stop : ∀ {request me} e (w : World), Does (FriendEffect request me) (sendHandleFriendReqAck conn seq e 0) w :=
    fun _ w => turned_away silent_sendPacket w
  refine does_peek (does_ite (fun _ => stop _ _) fun _ => ?_)
  cases body with
  | none => exact stop _ _
  | some req =>
    refine does_ite (fun _ => stop _ _) fun _ => does_ite (fun _ => stop _ _) fun _ => ?_
    refine does_lookup (stop _ _) fun fr found => ?_
    have known : fr ∈ w.tables.friendRequests.rows := List.mem_of_find?_eq_some found
    have named : req.requestId = fr.id := by simpa [eq_comm] using List.find?_some found
    refine does_ite (fun _ => stop _ _) fun mine => does_ite (fun _ => stop _ _) fun pending => ?_
    refine does_ite (fun _ => ?_) fun _ => ?_
    · refine does_query_any fun _ => does_ite (fun _ => stop _ _) fun _ => ?_
      rw [named]
      refine does_begin .unchanged silent_sendPacket (accept_writes _ _ _ fr _ _) fun t writes => ?_
      exact .accepted fr known (not_not.mp pending) (not_not.mp mine) writes
    · refine does_statement (run_updateRequestStatus ..) .unchanged (.rejected _ _) fun updated => ?_
      cases updated with
      | false => exact silent_sendPacket
      | true => exact silent_requestHandled

theorem handleDeleteFriend_does (body : Option TargetReq) :
    Does (FriendEffect (.deleteFriend conn seq body) (w.mem.connections conn)) (handleDeleteFriend conn seq body) w := by
  have stop : ∀ {request me} e (w : World), Does (FriendEffect request me) (sendRsp conn .deleteFriendAck seq e) w :=
    fun _ w => turned_away silent_sendRsp w
  refine does_peek (does_ite (fun _ => stop _ _) fun _ => ?_)
  cases body with
  | none => exact stop _ _
  | some req =>
    refine does_ite (fun _ => stop _ _) fun _ => ?_
    refine does_lookup (stop _ _) fun target user => ?_
    refine does_lookup (stop _ _) fun row found => ?_
    have named := List.find?_some found
    simp only [Bool.and_eq_true, decide_eq_true_eq] at named
    refine does_ite (fun _ => stop _ _) fun normal => ?_
    refine does_begin .unchanged silent_sendRsp (remove_writes _ _ _ _ _ _ _) fun t writes => ?_
    exact .deleted row (List.mem_of_find?_eq_some found) (not_not.mp normal) named.1 target
      ⟨conn, seq, req, rfl, found_by_uid user⟩ named.2 writes

theorem handleBlock_does (body : Option TargetReq) :
    Does (FriendEffect (.block conn seq body) (w.mem.connections conn)) (handleBlock conn seq body) w := by
  have stop : ∀ {request me} e (w : World), Does (FriendEffect request me) (sendRsp conn .blockFriendAck seq e) w :=
    fun _ w => turned_away silent_sendRsp w
  have answer : ∀ done : Bool, Silent (if !done then sendRsp conn .blockFriendAck seq errc.kDatabaseError
      else sendRsp conn .blockFriendAck seq errc.kOk) := by
    intro done
    cases done <;> exact silent_sendRsp
  refine does_peek (does_ite (fun _ => stop _ _) fun _ => ?_)
  cases body with
  | none => exact stop _ _
  | some req =>
    refine does_ite (fun _ => stop _ _) fun _ => does_ite (fun _ => stop _ _) fun _ => ?_
    refine does_lookup (stop _ _) fun target _ => does_lookup ?_ fun row found => ?_
    · exact does_statement (run_insertFriendship ..) .unchanged (.blockedNew _ rfl rfl) answer
    · have named := List.find?_some found
      simp only [Bool.and_eq_true, decide_eq_true_eq] at named
      refine does_ite (fun _ => stop _ _) fun free => ?_
      refine does_statement (run_updateFriendshipStatus ..) .unchanged ?_ answer
      rw [← named.2]
      exact .blocked row (List.mem_of_find?_eq_some found) free named.1 _

theorem handleUnblock_does (body : Option TargetReq) :
    Does (FriendEffect (.unblock conn seq body) (w.mem.connections conn)) (handleUnblock conn seq body) w := by
  have stop : ∀ {request me} e (w : World), Does (FriendEffect request me) (sendRsp conn .unblockFriendAck seq e) w :=
    fun _ w => turned_away silent_sendRsp w
  refine does_peek (does_ite (fun _ => stop _ _) fun _ => ?_)
  cases body with
  | none => exact stop _ _
  | some req =>
    refine does_ite (fun _ => stop _ _) fun _ => ?_
    refine does_lookup (stop _ _) fun target user => ?_
    refine does_lookup (stop _ _) fun row found => ?_
    have named := List.find?_some found
    simp only [Bool.and_eq_true, decide_eq_true_eq] at named
    refine does_ite (fun _ => stop _ _) fun blocked => ?_
    refine does_statement (run_updateFriendshipStatus ..) .unchanged ?_ fun unblocked => ?_
    · exact .unblocked row (List.mem_of_find?_eq_some found) (not_not.mp blocked) named.1 target
        ⟨conn, seq, req, rfl, found_by_uid user⟩ named.2 _
    · cases unblocked <;> exact silent_sendRsp

theorem silent_handleGetFriendList : Silent (handleGetFriendList conn seq) := by
  refine silent_bind (silent_peek _) fun me => silent_ite silent_sendPacket ?_
  refine silent_bind (silent_query _ _) fun friends => ?_
  exact silent_bind (silent_findByIds _) fun _ => silent_sendPacket

theorem silent_handleGetRequests {body : Option GetFriendRequestsReq} :
    Silent (handleGetRequests conn seq body) := by
  refine silent_bind (silent_peek _) fun me => silent_ite silent_sendPacket ?_
  refine silent_bind (silent_getRequestsByUser _ _ _) fun page => ?_
  exact silent_bind (silent_findByIds _) fun _ => silent_sendPacket

/-- What a request to the service does to the tables, whatever statements fail. -/
theorem handle_does (request : Request) (w : World) :
    Does (FriendEffect request (w.mem.connections request.conn)) (handle request) w := by
  cases request with
  | addFriend conn seq body => exact handleAddFriend_does body
  | handleRequest conn seq body => exact handleRequest_does body
  | deleteFriend conn seq body => exact handleDeleteFriend_does body
  | block conn seq body => exact handleBlock_does body
  | unblock conn seq body => exact handleUnblock_does body
  | getFriendList conn seq => exact turned_away silent_handleGetFriendList w
  | getRequests conn seq body => exact turned_away silent_handleGetRequests w

end FriendService
end NovaIIM
