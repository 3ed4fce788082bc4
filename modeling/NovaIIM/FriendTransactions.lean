import NovaIIM.FriendWrites
import NovaIIM.Replies

/-!
What a request to the friend service comes to when its transaction is closed.

With any statement failing, a request that is answered with an error has left the
tables alone as long as no ROLLBACK fails, and one that is answered with OK has
made all of its writes: `handleAddFriend_settled` and the other `_settled`
theorems say which, and `FriendStep` gathers them for the runs of the service.
-/
namespace NovaIIM
open Store

namespace Tables

/-- The insertion of a member. -/
def memberWrite (member : ConversationMember) : Write Tables :=
  guarded (fun t => t.members.taken member) (addMember member)

/-- The insertion of a friendship. -/
def friendshipWrite (f : Friendship) : Write Tables :=
  guarded (fun t => t.friendships.taken f) (insertFriendship f)

end Tables

namespace FriendService

/-- The friendship rows that an acceptance stores. -/
def pairRow (now : Bytes) (userId friendId conversationId : Int) : Friendship :=
  FriendDao.stampFriendship now
    { userId := userId, friendId := friendId, conversationId := conversationId, status := .normal }

/-- The writes of the acceptance of a request. -/
def acceptWrites (fr : FriendRequest) (now : Bytes) (t : Tables) : List (Write Tables) :=
  let conversationId := (t.conversations.lastId : Int) + 1
  [plain (Tables.setRequestStatus fr.id .accepted now),
    plain (Tables.createConversation { type := .private_ }),
    Tables.memberWrite { conversationId := conversationId, userId := fr.fromId },
    Tables.memberWrite { conversationId := conversationId, userId := fr.toId },
    Tables.friendshipWrite (pairRow now fr.fromId fr.toId conversationId),
    Tables.friendshipWrite (pairRow now fr.toId fr.fromId conversationId)]

/-- The writes of the deletion of a friend. -/
def deleteWrites (myId targetId conversationId : Int) (now : Bytes) : List (Write Tables) :=
  [plain (Tables.setFriendshipStatus myId targetId .deleted now),
    plain (Tables.setFriendshipStatus targetId myId .deleted now)] ++
  if 0 < conversationId then
    [plain (Tables.removeMember conversationId myId), plain (Tables.removeMember conversationId targetId)]
  else []

/-- The tables behind all writes of an acceptance. -/
def acceptedTables (fr : FriendRequest) (now : Bytes) (t : Tables) : Tables :=
  let conversationId := (t.conversations.lastId : Int) + 1
  ((((t.setRequestStatus fr.id .accepted now).createConversation { type := .private_ }).addMember
    { conversationId := conversationId, userId := fr.fromId }).addMember
    { conversationId := conversationId, userId := fr.toId }).insertFriendship
    (pairRow now fr.fromId fr.toId conversationId) |>.insertFriendship
    (pairRow now fr.toId fr.fromId conversationId)

/-- An acceptance of which no write was turned away. -/
structure Accepted (fr : FriendRequest) (now : Bytes) (t t' : Tables) : Prop where
  tables : t' = acceptedTables fr now t
  asker : t.members.taken { conversationId := (t.conversations.lastId : Int) + 1, userId := fr.fromId } = false
  asked : (t.members.insert { conversationId := (t.conversations.lastId : Int) + 1, userId := fr.fromId }).taken
    { conversationId := (t.conversations.lastId : Int) + 1, userId := fr.toId } = false
  there : t.friendships.taken (pairRow now fr.fromId fr.toId ((t.conversations.lastId : Int) + 1)) = false
  back : (t.friendships.insert (pairRow now fr.fromId fr.toId ((t.conversations.lastId : Int) + 1))).taken
    (pairRow now fr.toId fr.fromId ((t.conversations.lastId : Int) + 1)) = false

theorem accepted_of_writes {fr : FriendRequest} {now : Bytes} {t t' : Tables}
    (writes : applyAll (acceptWrites fr now t) t = some t') : Accepted fr now t t' := by
  simp only [acceptWrites, Tables.memberWrite, Tables.friendshipWrite, applyAll_plain, applyAll_guarded,
    applyAll_nil, Option.some.injEq] at writes
  obtain ⟨asker, asked, there, back, tables⟩ := writes
  exact ⟨tables.symm, asker, asked, there, back⟩

section Mute
variable {conn : ConnId} {cmd : Cmd}

theorem mute_notifyFrom {senderId targetUserId notifyType : Int} {remark : Bytes} {requestId conversationId : Int}
    (other : cmd ≠ .friendNotify) :
    Mute conn cmd (notifyFrom senderId targetUserId notifyType remark requestId conversationId) := by
  refine mute_bind (mute_query _ _) fun me => ?_
  cases me with
  | none => exact mute_ret ()
  | some me => exact mute_sendToUser other.symm

theorem replies_requestHandled (conn : ConnId) (seq : UInt32) (userId : Int) (fr : FriendRequest)
    (notifyType conversationId : Int) (w : World) :
    replies conn .handleFriendReqAck ((requestHandled conn seq userId fr notifyType conversationId).run w).events =
      [0] := by
  rw [requestHandled, replies_after (mute_notifyFrom (by decide))]
  exact replies_sendPacket _ _ _

end Mute

/-! ### Acceptance and deletion -/

section Behind
variable {conn : ConnId} {seq : UInt32} {w : World} {intended : Tables → Prop} {start : Tables}
  {ws : List (Write Tables)}

private theorem refused_accept {e : Error} (bad : e.code ≠ 0) (w : World) :
    Refused conn .handleFriendReqAck ((sendHandleFriendReqAck conn seq e 0).run w).events :=
  ⟨_, bad, replies_sendPacket _ _ _⟩

private theorem stop_accept {e : Error} (bad : e.code ≠ 0) (w : World) :
    Settles (Refused conn .handleFriendReqAck) (Granted conn .handleFriendReqAck intended) start ws
      (abort (sendHandleFriendReqAck conn seq e 0)) w :=
  settles_abort silent_sendPacket (refused_accept bad w)

/-- The insertions behind the two memberships. -/
private theorem pairUp_settles (userId : Int) (fr : FriendRequest) (conversationId : Int)
    (reached : ∀ t, applyAll (ws ++
      [Tables.friendshipWrite (pairRow (nowText w) fr.fromId fr.toId conversationId),
        Tables.friendshipWrite (pairRow (nowText w) fr.toId fr.fromId conversationId)]) start = some t → intended t) :
    Settles (Refused conn .handleFriendReqAck) (Granted conn .handleFriendReqAck intended) start ws
      (pairUp conn seq userId fr conversationId) w := by
  have database : errc.kDatabaseError.code ≠ 0 := by decide
  refine settles_insert (run_insertFriendship _ _) (fun _ => stop_accept database _) (fun _ => stop_accept database _) ?_
  refine settles_insert (run_insertFriendship _ _) (fun _ => stop_accept database _) (fun _ => stop_accept database _) ?_
  refine settles_commit (fun _ => stop_accept database _) silent_requestHandled fun _ done => ⟨?_, reached _ ?_⟩
  · exact replies_requestHandled _ _ _ _ _ _ _
  · rw [List.append_assoc] at done
    exact done

/-- Behind its BEGIN an acceptance makes all writes or none. -/
theorem accept_settles (userId : Int) (fr : FriendRequest) (same : w.tables = start)
    (reached : ∀ t, applyAll (acceptWrites fr (nowText w) start) start = some t → intended t) :
    Settles (Refused conn .handleFriendReqAck) (Granted conn .handleFriendReqAck intended) start []
      (accept conn seq userId fr.id fr) w := by
  have database : errc.kDatabaseError.code ≠ 0 := by decide
  subst same
  refine settles_execute (run_updateRequestStatus _ _ _) (fun _ => stop_accept database _) fun _ => ?_
  refine settles_statement (run_createConversation _ _) (fun _ => stop_accept database _) fun _ => ?_
  refine settles_insert (run_addMember _ _) (fun _ => stop_accept database _) (fun _ => stop_accept database _) ?_
  refine settles_insert (run_addMember _ _) (fun _ => stop_accept database _) (fun _ => stop_accept database _) ?_
  exact pairUp_settles userId fr _ reached

private theorem stop_delete {e : Error} (bad : e.code ≠ 0) (w : World) :
    Settles (Refused conn .deleteFriendAck) (Granted conn .deleteFriendAck intended) start ws
      (abort (sendRsp conn .deleteFriendAck seq e)) w :=
  settles_abort silent_sendRsp (refused_sendRsp bad w)

/-- Behind its BEGIN a deletion makes all writes or none. -/
theorem remove_settles (myId targetId conversationId : Int)
    (reached : ∀ t, applyAll (deleteWrites myId targetId conversationId (nowText w)) start = some t → intended t) :
    Settles (Refused conn .deleteFriendAck) (Granted conn .deleteFriendAck intended) start []
      (remove conn seq myId targetId conversationId) w := by
  have database : errc.kDatabaseError.code ≠ 0 := by decide
  refine settles_execute (run_updateFriendshipStatus ..) (fun _ => stop_delete database _) fun _ => ?_
  refine settles_execute (run_updateFriendshipStatus ..) (fun _ => stop_delete database _) fun _ => ?_
  have finish : ∀ ws w, (∀ t, applyAll ws start = some t → intended t) →
      Settles (Refused conn .deleteFriendAck) (Granted conn .deleteFriendAck intended) start ws (do
        let committed ← commit
        if !committed then abort (sendRsp conn .deleteFriendAck seq errc.kDatabaseError)
        else do
          notifyFrom myId targetId 4 [] 0 0
          sendRsp conn .deleteFriendAck seq errc.kOk) w := by
    intro ws w reached
    refine settles_commit (fun _ => stop_delete database _) (silent_bind silent_notifyFrom fun _ => silent_sendRsp)
      fun _ done => ⟨?_, reached _ done⟩
    exact (replies_after (mute_notifyFrom (by decide)) _).trans (replies_sendRsp _ _ _)
  unfold deleteWrites at reached
  by_cases shared : 0 < conversationId
  · rw [if_pos shared] at reached
    simp only [shared, if_true]
    refine settles_execute rfl (fun _ => stop_delete database _) fun _ => ?_
    refine settles_execute rfl (fun _ => stop_delete database _) fun _ => ?_
    exact finish _ _ reached
  · rw [if_neg shared] at reached
    simp only [shared, if_false]
    exact finish _ _ reached

end Behind

/-! ### The handlers -/

/-- A pending request from one user to another. -/
def Asks (t : Tables) (fromId toId : Int) : Prop :=
  ∃ fr ∈ t.friendRequests.rows, fr.fromId = fromId ∧ fr.toId = toId ∧ fr.status = .pending

/-- The row of one user for another has a status. -/
def HasStatus (t : Tables) (userId friendId : Int) (status : FriendshipStatus) : Prop :=
  ∃ row ∈ t.friendships.rows, row.userId = userId ∧ row.friendId = friendId ∧ row.status = status

instance (t : Tables) (userId friendId : Int) (status : FriendshipStatus) :
    Decidable (HasStatus t userId friendId status) :=
  inferInstanceAs (Decidable (∃ row ∈ t.friendships.rows, _))

/-- No check of a friend request turns it away, and its statements are executed as far as
    a failed one would do so. -/
structure Unhindered (me : Connection) (faults : List Bool) (t : Tables) (req : AddFriendReq) (target : User) :
    Prop where
  authenticated : me.userId ≠ 0
  uid : req.targetUid ≠ [] ∧ req.targetUid.length ≤ 255 ∧ req.targetUid ≠ me.uid
  remark : req.remark.length ≤ 200
  known : target ∈ t.users.rows
  named : target.uid = req.targetUid
  standing : target.status = .normal
  found : ¬StatementFails faults 0
  unblocked : HasStatus t target.id me.userId .blocked → StatementFails faults 1
  stranger : HasStatus t me.userId target.id .normal ∨ HasStatus t me.userId target.id .blocked →
    StatementFails faults 2
  unasked : Asks t me.userId target.id → StatementFails faults 3
  unasked' : Asks t target.id me.userId → StatementFails faults 4
  stored : ¬StatementFails faults 5

/-- What a request that is answered with OK has read and written, on a connection with the
    fields `me` and with the failures `faults` to come. -/
inductive FriendStep (me : Connection) (faults : List Bool) (now : Bytes) (t : Tables) : Request → Tables → Prop where
  | requested (conn : ConnId) (seq : UInt32) (req : AddFriendReq) (target : User)
      (unhindered : Unhindered me faults t req target) :
      FriendStep me faults now t (.addFriend conn seq (some req))
        (t.insertRequest (FriendDao.stampRequest now
          { fromId := me.userId, toId := target.id, message := req.remark }))
  | accepted (conn : ConnId) (seq : UInt32) (req : HandleFriendReqReq) (fr : FriendRequest)
      (known : fr ∈ t.friendRequests.rows) (named : fr.id = req.requestId) (mine : fr.toId = me.userId)
      (pending : fr.status = .pending) (action : req.action = 1) (t' : Tables)
      (writes : applyAll (acceptWrites fr now t) t = some t') :
      FriendStep me faults now t (.handleRequest conn seq (some req)) t'
  | rejected (conn : ConnId) (seq : UInt32) (req : HandleFriendReqReq) (fr : FriendRequest)
      (known : fr ∈ t.friendRequests.rows) (named : fr.id = req.requestId) (mine : fr.toId = me.userId)
      (pending : fr.status = .pending) (action : req.action = 2) :
      FriendStep me faults now t (.handleRequest conn seq (some req)) (t.setRequestStatus fr.id .rejected now)
  | deleted (conn : ConnId) (seq : UInt32) (req : TargetReq) (target : User) (known : target ∈ t.users.rows)
      (named : target.uid = req.targetUid) (row : Friendship) (there : row ∈ t.friendships.rows)
      (pair : row.userId = me.userId ∧ row.friendId = target.id) (normal : row.status = .normal) (t' : Tables)
      (writes : applyAll (deleteWrites me.userId target.id row.conversationId now) t = some t') :
      FriendStep me faults now t (.deleteFriend conn seq (some req)) t'
  | blocked (conn : ConnId) (seq : UInt32) (req : TargetReq) (target : User) (known : target ∈ t.users.rows)
      (named : target.uid = req.targetUid) (row : Friendship) (there : row ∈ t.friendships.rows)
      (pair : row.userId = me.userId ∧ row.friendId = target.id) (free : row.status ≠ .blocked) :
      FriendStep me faults now t (.block conn seq (some req))
        (t.setFriendshipStatus me.userId target.id .blocked now)
  | blockedStranger (conn : ConnId) (seq : UInt32) (req : TargetReq) (target : User) (known : target ∈ t.users.rows)
      (named : target.uid = req.targetUid)
      (free : t.friendships.taken (FriendDao.stampFriendship now
        { userId := me.userId, friendId := target.id, status := .blocked }) = false) :
      FriendStep me faults now t (.block conn seq (some req))
        (t.insertFriendship (FriendDao.stampFriendship now
          { userId := me.userId, friendId := target.id, status := .blocked }))
  | unblocked (conn : ConnId) (seq : UInt32) (req : TargetReq) (target : User) (known : target ∈ t.users.rows)
      (named : target.uid = req.targetUid) (row : Friendship) (there : row ∈ t.friendships.rows)
      (pair : row.userId = me.userId ∧ row.friendId = target.id) (blocked : row.status = .blocked) :
      FriendStep me faults now t (.unblock conn seq (some req))
        (t.setFriendshipStatus me.userId target.id .deleted now)

/-- The command that answers a request. -/
def Request.ack : Request → Cmd
  | addFriend .. => .addFriendAck
  | handleRequest .. => .handleFriendReqAck
  | deleteFriend .. => .deleteFriendAck
  | block .. => .blockFriendAck
  | unblock .. => .unblockFriendAck
  | getFriendList .. => .getFriendListAck
  | getRequests .. => .getFriendRequestsAck

/-- A request is refused and the tables stay, or it is granted with a step. -/
def StepsTo (request : Request) (w : World) (o : Outcome World Event Unit) : Prop :=
  Settled (Refused request.conn request.ack)
    (Granted request.conn request.ack
      (FriendStep (w.mem.connections request.conn) w.faults (nowText w) w.tables request)) w.tables o

section Handlers
variable {conn : ConnId} {seq : UInt32} {w : World}

/-- Without the failure of its query there is no pending request. -/
private theorem unasked_of {s : World} {fromId toId : Int}
    (missing : ¬(if s.fails = true then none else s.tables.friendRequests.rows.find? fun r =>
      r.fromId = fromId && r.toId = toId && r.status = .pending).isSome = true)
    (asks : Asks s.tables fromId toId) : s.fails = true := by
  by_contra works
  rw [if_neg works, List.find?_isSome] at missing
  rcases asks with ⟨fr, there, from_, to_, pending⟩
  exact missing ⟨fr, there, by simp [from_, to_, pending]⟩

/-- Without the failure of its query the row has no status that is asked for. -/
private theorem status_of {s : World} {userId friendId : Int} {status : FriendshipStatus}
    (missing : ¬(if s.fails = true then none else s.tables.friendships.rows.find? fun r =>
      r.userId = userId && r.friendId = friendId).any (fun f => f.status = status) = true)
    (has : HasStatus s.tables userId friendId status) : s.fails = true := by
  by_contra works
  rcases has with ⟨row, there, user, friend, same⟩
  have found : (s.tables.friendships.rows.find? fun r => r.userId = userId && r.friendId = friendId) = some row := by
    refine Table.find_eq there (by simp [user, friend]) fun other inside pair => ?_
    simp only [Bool.and_eq_true, decide_eq_true_eq] at pair
    exact Table.eq_of_clash inside there (by simp [Row.clash, pair, user, friend])
  rw [if_neg works, found] at missing
  exact missing (by simp [same])

theorem handleAddFriend_settled (body : Option AddFriendReq) :
    (handleAddFriend conn seq body).Ensures w (StepsTo (.addFriend conn seq body) w) := by
  have stop : ∀ e (s : World), e.code ≠ 0 → s.tables = w.tables →
      (sendAddFriendAck conn seq e 0).Ensures s (StepsTo (.addFriend conn seq body) w) :=
    fun e s bad same => settled_refused silent_sendPacket same ⟨_, bad, replies_sendPacket _ _ _⟩
  refine ensures_peek (Prog.ensures_ite (fun _ => stop _ _ (by decide) rfl) fun authenticated => ?_)
  cases body with
  | none => exact stop _ _ (by decide) rfl
  | some req =>
    refine Prog.ensures_ite (fun _ => stop _ _ (by decide) rfl) fun shape => ?_
    refine Prog.ensures_ite (fun _ => stop _ _ (by decide) rfl) fun other => ?_
    refine ensures_query (fun _ => stop _ _ (by decide) rfl) fun found => ?_
    cases answer : w.tables.users.rows.find? (fun r => r.uid = req.targetUid && r.status ≠ .deleted) with
    | none => exact stop _ _ (by decide) rfl
    | some target =>
    obtain ⟨known, named⟩ := found_by_uid answer
    refine Prog.ensures_ite (fun _ => stop _ _ (by decide) rfl) fun free => ?_
    refine ensures_answer (Prog.ensures_ite (fun _ => stop _ _ (by decide) rfl) fun unblocked => ?_)
    refine ensures_answer (Prog.ensures_ite (fun _ => stop _ _ (by decide) rfl) fun stranger => ?_)
    refine Prog.ensures_ite (fun _ => stop _ _ (by decide) rfl) fun stranger' => ?_
    refine ensures_answer (Prog.ensures_ite (fun _ => stop _ _ (by decide) rfl) fun missing => ?_)
    refine ensures_answer (Prog.ensures_ite (fun _ => stop _ _ (by decide) rfl) fun missing' => ?_)
    refine Prog.ensures_ite (fun _ => stop _ _ (by decide) rfl) fun remark => ?_
    refine ensures_statement (run_insertRequest _ _) (fun _ => stop _ _ (by decide) rfl) fun stored => ?_
    refine settled_done (silent_bind silent_notifyFrom fun _ => silent_sendPacket) ⟨?_, ?_⟩
    · have other : Cmd.addFriendAck ≠ .friendNotify := by decide
      exact (replies_after (mute_notifyFrom other) _).trans (replies_sendPacket _ _ _)
    · refine .requested conn seq req target ?_
      have alive : target.status ≠ .deleted := by
        have := List.find?_some answer
        simp only [Bool.and_eq_true, decide_eq_true_eq] at this
        exact this.2
      constructor
      case authenticated => exact authenticated
      case uid => exact ⟨by simpa using (not_or.mp shape).1, not_lt.mp (not_or.mp shape).2, other⟩
      case remark => exact not_lt.mp remark
      case known => exact known
      case named => exact named
      case standing => cases status : target.status <;> simp_all
      case found => simpa [StatementFails, fails] using found
      case unblocked =>
        intro has
        simpa [StatementFails, fails] using status_of unblocked has
      case stranger =>
        rintro (has | has)
        · simpa [StatementFails, fails] using status_of stranger has
        · simpa [StatementFails, fails] using status_of stranger' has
      case unasked =>
        intro asks
        simpa [StatementFails, fails] using unasked_of missing asks
      case unasked' =>
        intro asks
        simpa [StatementFails, fails] using unasked_of missing' asks
      case stored => simpa [StatementFails, fails] using stored

theorem handleRequest_settled (body : Option HandleFriendReqReq) :
    (handleRequest conn seq body).Ensures w (StepsTo (.handleRequest conn seq body) w) := by
  have stop : ∀ e (s : World), e.code ≠ 0 → s.tables = w.tables →
      (sendHandleFriendReqAck conn seq e 0).Ensures s (StepsTo (.handleRequest conn seq body) w) :=
    fun e s bad same => settled_refused silent_sendPacket same ⟨_, bad, replies_sendPacket _ _ _⟩
  refine ensures_peek (Prog.ensures_ite (fun _ => stop _ _ (by decide) rfl) fun _ => ?_)
  cases body with
  | none => exact stop _ _ (by decide) rfl
  | some req =>
    refine Prog.ensures_ite (fun _ => stop _ _ (by decide) rfl) fun _ => ?_
    refine Prog.ensures_ite (fun _ => stop _ _ (by decide) rfl) fun valid => ?_
    refine ensures_lookup (stop _ _ (by decide) rfl) fun fr found => ?_
    have known : fr ∈ w.tables.friendRequests.rows := List.mem_of_find?_eq_some found
    have named : fr.id = req.requestId := by simpa using List.find?_some found
    refine Prog.ensures_ite (fun _ => stop _ _ (by decide) rfl) fun mine => ?_
    refine Prog.ensures_ite (fun _ => stop _ _ (by decide) rfl) fun pending => ?_
    refine Prog.ensures_ite (fun action => ?_) fun action => ?_
    · refine ensures_any fun requester => Prog.ensures_ite (fun _ => stop _ _ (by decide) rfl) fun _ => ?_
      refine settled_begin rfl (fun _ => stop _ _ (by decide) rfl) fun _ => ?_
      rw [← named]
      refine accept_settles _ fr rfl fun t writes => ?_
      exact .accepted conn seq req fr known named (not_not.mp mine) (not_not.mp pending) action t writes
    · refine ensures_statement (run_updateRequestStatus ..) (fun _ => stop _ _ (by decide) rfl) fun _ => ?_
      refine settled_done silent_requestHandled ⟨replies_requestHandled _ _ _ _ _ _ _, ?_⟩
      rw [← named]
      exact .rejected conn seq req fr known named (not_not.mp mine) (not_not.mp pending) (by omega)

/-- The handlers that answer with a code alone. -/
private theorem stop_sendRsp {request : Request} {e : Error} (bad : e.code ≠ 0) {s : World}
    (same : s.tables = w.tables) :
    (sendRsp request.conn request.ack seq e).Ensures s (StepsTo request w) :=
  settled_refused silent_sendRsp same (refused_sendRsp bad _)

/-- The reply behind the one write of a block or an unblock. -/
private theorem answered {request : Request} {s : World}
    (step : FriendStep (w.mem.connections request.conn) w.faults (nowText w) w.tables request s.tables) :
    (sendRsp request.conn request.ack seq errc.kOk).Ensures s (StepsTo request w) :=
  settled_done silent_sendRsp ⟨replies_sendRsp _ _ _, step⟩

theorem handleDeleteFriend_settled (body : Option TargetReq) :
    (handleDeleteFriend conn seq body).Ensures w (StepsTo (.deleteFriend conn seq body) w) := by
  have stop : ∀ e (s : World), e.code ≠ 0 → s.tables = w.tables →
      (sendRsp conn .deleteFriendAck seq e).Ensures s (StepsTo (.deleteFriend conn seq body) w) :=
    fun e s bad same => stop_sendRsp bad same
  refine ensures_peek (Prog.ensures_ite (fun _ => stop _ _ (by decide) rfl) fun _ => ?_)
  cases body with
  | none => exact stop _ _ (by decide) rfl
  | some req =>
    refine Prog.ensures_ite (fun _ => stop _ _ (by decide) rfl) fun _ => ?_
    refine ensures_lookup (stop _ _ (by decide) rfl) fun target user => ?_
    refine ensures_lookup (stop _ _ (by decide) rfl) fun row found => ?_
    have pair := List.find?_some found
    simp only [Bool.and_eq_true, decide_eq_true_eq] at pair
    refine Prog.ensures_ite (fun _ => stop _ _ (by decide) rfl) fun normal => ?_
    refine settled_begin rfl (fun _ => stop _ _ (by decide) rfl) fun _ => remove_settles _ _ _ fun t writes => ?_
    exact .deleted conn seq req target (found_by_uid user).1 (found_by_uid user).2 row
      (List.mem_of_find?_eq_some found) pair (not_not.mp normal) t writes

theorem handleBlock_settled (body : Option TargetReq) :
    (handleBlock conn seq body).Ensures w (StepsTo (.block conn seq body) w) := by
  have stop : ∀ e (s : World), e.code ≠ 0 → s.tables = w.tables →
      (sendRsp conn .blockFriendAck seq e).Ensures s (StepsTo (.block conn seq body) w) :=
    fun e s bad same => stop_sendRsp bad same
  refine ensures_peek (Prog.ensures_ite (fun _ => stop _ _ (by decide) rfl) fun _ => ?_)
  cases body with
  | none => exact stop _ _ (by decide) rfl
  | some req =>
    refine Prog.ensures_ite (fun _ => stop _ _ (by decide) rfl) fun _ => ?_
    refine Prog.ensures_ite (fun _ => stop _ _ (by decide) rfl) fun _ => ?_
    refine ensures_lookup (stop _ _ (by decide) rfl) fun target user => ?_
    obtain ⟨known, named⟩ := found_by_uid user
    refine ensures_lookup ?_ fun row found => ?_
    · refine ensures_insert (run_insertFriendship _ _) (fun _ => stop _ _ (by decide) rfl) (fun clash => ?_) fun free => ?_
      · refine stop _ _ (by decide) ?_
        rw [wrote_tables, Tables.insertFriendship, Table.insert_taken clash]
        rfl
      · exact answered (.blockedStranger conn seq req target known named free)
    · have pair := List.find?_some found
      simp only [Bool.and_eq_true, decide_eq_true_eq] at pair
      refine Prog.ensures_ite (fun _ => stop _ _ (by decide) rfl) fun free => ?_
      refine ensures_statement (run_updateFriendshipStatus ..) (fun _ => stop _ _ (by decide) rfl) fun _ => ?_
      exact answered (.blocked conn seq req target known named row (List.mem_of_find?_eq_some found) pair free)

theorem handleUnblock_settled (body : Option TargetReq) :
    (handleUnblock conn seq body).Ensures w (StepsTo (.unblock conn seq body) w) := by
  have stop : ∀ e (s : World), e.code ≠ 0 → s.tables = w.tables →
      (sendRsp conn .unblockFriendAck seq e).Ensures s (StepsTo (.unblock conn seq body) w) :=
    fun e s bad same => stop_sendRsp bad same
  refine ensures_peek (Prog.ensures_ite (fun _ => stop _ _ (by decide) rfl) fun _ => ?_)
  cases body with
  | none => exact stop _ _ (by decide) rfl
  | some req =>
    refine Prog.ensures_ite (fun _ => stop _ _ (by decide) rfl) fun _ => ?_
    refine ensures_lookup (stop _ _ (by decide) rfl) fun target user => ?_
    obtain ⟨known, named⟩ := found_by_uid user
    refine ensures_lookup (stop _ _ (by decide) rfl) fun row found => ?_
    have pair := List.find?_some found
    simp only [Bool.and_eq_true, decide_eq_true_eq] at pair
    refine Prog.ensures_ite (fun _ => stop _ _ (by decide) rfl) fun blocked => ?_
    refine ensures_statement (run_updateFriendshipStatus ..) (fun _ => stop _ _ (by decide) rfl) fun _ => ?_
    exact answered (.unblocked conn seq req target known named row (List.mem_of_find?_eq_some found) pair
      (not_not.mp blocked))

/-- As long as its transaction is closed, a request leaves the tables alone or takes them by a
    step. -/
theorem handle_steps (request : Request)
    (rolledBack : ((handle request).run w).state.saved = none) :
    ((handle request).run w).state.tables = w.tables ∨
      FriendStep (w.mem.connections request.conn) w.faults (nowText w) w.tables request
        ((handle request).run w).state.tables := by
  have settled : StepsTo request w ((handle request).run w) ∨
      ((handle request).run w).state.tables = w.tables := by
    cases request with
    | addFriend conn seq body => exact .inl (handleAddFriend_settled body)
    | handleRequest conn seq body => exact .inl (handleRequest_settled body)
    | deleteFriend conn seq body => exact .inl (handleDeleteFriend_settled body)
    | block conn seq body => exact .inl (handleBlock_settled body)
    | unblock conn seq body => exact .inl (handleUnblock_settled body)
    | getFriendList conn seq => exact .inr (silent_handleGetFriendList w).tables
    | getRequests conn seq body => exact .inr (silent_handleGetRequests w).tables
  rcases settled with settled | same
  · rcases settled rolledBack with ⟨-, same⟩ | ⟨-, step⟩
    · exact .inl same
    · exact .inr step
  · exact .inl same

end Handlers
end FriendService
end NovaIIM
