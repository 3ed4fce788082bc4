import NovaIIM.FriendTransactions
import NovaIIM.GroupWrites

/-!
What a request to the group service comes to when its transaction is closed.

As in the friend service, a request that is answered with an error has left the
tables alone as long as no ROLLBACK fails, and one that is answered with OK has
made the writes of a `GroupStep`. All of them are the writes it is meant to make,
except in an update of the group information: when the query for the conversation
fails, the group row alone is rewritten (`GroupStep.halfUpdated`).
-/
namespace NovaIIM
open Store

namespace GroupService

/-- A member of a conversation with a role. -/
def memberOf (conversationId userId : Int) (role : MemberRole) (now : Bytes) : ConversationMember :=
  { conversationId := conversationId, userId := userId, role := role, joinedAt := now }

/-- The writes of the creation of a group. -/
def createWrites (userId : Int) (req : CreateGroupReq) (memberIds : List Int) (now : Bytes) (t : Tables) :
    List (Write Tables) :=
  let conversationId := (t.conversations.lastId : Int) + 1
  [plain (Tables.createConversation
      { type := .group, name := req.name, avatar := req.avatar, ownerId := userId,
        createdAt := now, updatedAt := now }),
    plain (Tables.insertGroup (GroupDao.stampGroup now
      { conversationId := conversationId, name := req.name, avatar := req.avatar, ownerId := userId,
        createdAt := now })),
    Tables.memberWrite (memberOf conversationId userId .owner now)] ++
  memberIds.map fun id => Tables.memberWrite (memberOf conversationId id .member now)

/-- The writes of a dismissal. -/
def dismissWrites (conversationId : Int) : List (Write Tables) :=
  [plain (Tables.deleteGroup conversationId), plain (Tables.removeAllMembers conversationId)]

/-- How many members a conversation has. -/
def memberCount (t : Tables) (conversationId : Int) : Nat :=
  (t.members.rows.filter fun r => r.conversationId = conversationId).length

/-- The writes of an admission. -/
def approveWrites (jr : GroupJoinRequest) (now : Bytes) : List (Write Tables) :=
  [Tables.memberWrite (memberOf jr.conversationId jr.userId .member now),
    plain (Tables.setJoinRequestStatus jr.id .accepted now)]

/-- The conversation row with the requested changes. -/
def rewritten (req : UpdateGroupReq) (group : Group) (conv : Conversation) : Conversation :=
  { conv with
    name := if req.name = [] then conv.name else group.name
    avatar := if req.avatar = [] then conv.avatar else group.avatar }

/-- The conversation with an id. -/
def conversationOf (conversationId : Int) (t : Tables) : Option Conversation :=
  t.conversations.rows.find? fun r => r.id = conversationId

/-- The group of a conversation. -/
def groupOf (conversationId : Int) (t : Tables) : Option Group :=
  t.groups.rows.find? fun r => r.conversationId = conversationId

/-- A conversation row that is written as it is stays. -/
theorem updateConversation_same {t : Tables} {conv : Conversation} (inside : conv ∈ t.conversations.rows) :
    t.updateConversation conv = t := by
  unfold Tables.updateConversation
  rw [Table.update_same fun r there selected => ?_]
  have same : r.id = conv.id := of_decide_eq_true selected
  show (if r.id = conv.id then conv else r) = r
  rw [if_pos same, Table.eq_of_id there inside same]

/-- The writes of an update of the group information: both rows, if the conversation has one. -/
def updateWrites (req : UpdateGroupReq) (group : Group) (t : Tables) : List (Write Tables) :=
  plain (Tables.updateGroup group) ::
    (conversationOf req.conversationId t).toList.map fun conv => plain (Tables.updateConversation (rewritten req group conv))

section Mute
variable {conn : ConnId} {cmd : Cmd}

theorem mute_sendGroupNotify {conversationId excludeUserId : Int} {notify : GroupNotifyMsg}
    (other : cmd ≠ .groupNotify) : Mute conn cmd (sendGroupNotify conversationId excludeUserId notify) := by
  refine mute_bind (mute_query _ _) fun members => mute_forEach fun m => ?_
  split
  · exact mute_ret ()
  · exact mute_sendToUser other.symm

theorem mute_broadcastConvUpdate {conversationId excludeUserId : Int} {update : ConvUpdateMsg}
    (other : cmd ≠ .convUpdate) :
    Mute conn cmd (ConvService.broadcastConvUpdate conversationId excludeUserId update) := by
  refine mute_bind (mute_query _ _) fun members => mute_forEach fun m => ?_
  split
  · exact mute_ret ()
  · exact mute_sendToUser other.symm

theorem mute_sendToMembers {members : List ConversationMember} {excludeUserId : Int} {packet : Packet}
    (other : packet.cmd ≠ cmd) : Mute conn cmd (sendToMembers members excludeUserId packet) := by
  refine mute_forEach fun m => ?_
  split
  · exact mute_ret ()
  · exact mute_sendToUser other

end Mute

/-! ### Behind a BEGIN -/

section Behind
variable {conn : ConnId} {seq : UInt32} {w : World} {intended : Tables → Prop} {start : Tables}
  {ws : List (Write Tables)} {cmd : Cmd}

/-- The way out of a transaction whose reply is a code alone. -/
private theorem stop_sendRsp {e : Error} (bad : e.code ≠ 0) (w : World) :
    Settles (Refused conn cmd) (Granted conn cmd intended) start ws (abort (sendRsp conn cmd seq e)) w :=
  settles_abort silent_sendRsp (refused_sendRsp bad w)

private theorem stop_create {e : Error} (bad : e.code ≠ 0) (w : World) :
    Settles (Refused conn .createGroupAck) (Granted conn .createGroupAck intended) start ws
      (abort (sendCreateGroupAck conn seq e 0 0)) w :=
  settles_abort silent_sendPacket ⟨_, bad, replies_sendPacket _ _ _⟩

/-- Members are added one by one, up to the first that fails. -/
private theorem addMembers_settles {refused : List Event → Prop} {done : List Event → Tables → Prop}
    {conversationId : Int} {now : Bytes} {f : Bool → Handler} (ids : List Int)
    (stop : ∀ ws w, Settles refused done start ws (f false) w)
    (rest : ∀ w', Settles refused done start
      (ws ++ ids.map fun id => Tables.memberWrite (memberOf conversationId id .member now)) (f true) w')
    (w : World) : Settles refused done start ws (addMembers conversationId now ids >>= f) w := by
  induction ids generalizing ws w with
  | nil =>
    have := rest w
    rwa [List.map_nil, List.append_nil] at this
  | cons mid ids ih =>
    rw [addMembers, bind_assoc]
    refine settles_insert (run_addMember _ _) (fun _ => stop _ _) (fun _ => stop _ _) (ih (fun w' => ?_) _)
    have := rest w'
    rwa [List.map_cons, List.append_cons] at this

theorem create_settles (userId : Int) (req : CreateGroupReq) (memberIds : List Int) (now : Bytes)
    (clock : now = nowText w) (same : w.tables = start)
    (reached : ∀ t, applyAll (createWrites userId req memberIds now start) start = some t → intended t) :
    Settles (Refused conn .createGroupAck) (Granted conn .createGroupAck intended) start []
      (create conn seq userId req memberIds now) w := by
  have database : errc.kDatabaseError.code ≠ 0 := by decide
  subst same
  rw [clock] at reached ⊢
  refine settles_statement (run_createConversation _ _) (fun _ => stop_create database _) fun _ => ?_
  refine settles_statement (run_insertGroup _ _) (fun _ => stop_create database _) fun _ => ?_
  refine settles_insert (run_addMember _ _) (fun _ => stop_create database _) (fun _ => stop_create database _) ?_
  refine addMembers_settles memberIds (fun _ _ => stop_create database _) (fun w' => ?_) _
  refine settles_commit (fun _ => stop_create database _) (silent_bind silent_sendPacket fun _ => silent_sendGroupNotify)
    fun _ done => ⟨?_, reached _ done⟩
  have other : Cmd.createGroupAck ≠ .groupNotify := by decide
  exact (replies_before (fun _ => mute_sendGroupNotify other) _).trans (replies_sendPacket _ _ _)

theorem dismiss_settles (userId conversationId : Int) (membersSnapshot : List ConversationMember)
    (reached : ∀ t, applyAll (dismissWrites conversationId) start = some t → intended t) :
    Settles (Refused conn .dismissGroupAck) (Granted conn .dismissGroupAck intended) start []
      (dismiss conn seq userId conversationId membersSnapshot) w := by
  have database : errc.kDatabaseError.code ≠ 0 := by decide
  refine settles_execute rfl (fun _ => stop_sendRsp database _) fun _ => settles_execute rfl (fun _ => stop_sendRsp database _) fun _ => ?_
  refine settles_commit (fun _ => stop_sendRsp database _) ?_ fun _ done => ⟨?_, reached _ done⟩
  · exact silent_bind silent_sendToMembers fun _ => silent_bind silent_sendToMembers fun _ => silent_sendRsp
  · have other : Cmd.groupNotify ≠ .dismissGroupAck := by decide
    have other' : Cmd.convUpdate ≠ .dismissGroupAck := by decide
    refine (replies_after (mute_sendToMembers other) _).trans ?_
    exact (replies_after (mute_sendToMembers other') _).trans (replies_sendRsp _ _ _)

theorem approve_settles (userId : Int) (jr : GroupJoinRequest) (same : w.tables = start)
    (reached : ∀ t, (w.fails = false → memberCount start jr.conversationId < kMaxGroupMembers) →
      applyAll (approveWrites jr (nowText w)) start = some t → intended t) :
    Settles (Refused conn .handleJoinReqAck) (Granted conn .handleJoinReqAck intended) start []
      (approve conn seq userId jr.id jr) w := by
  have database : errc.kDatabaseError.code ≠ 0 := by decide
  refine settles_answer (settles_ite (fun _ => stop_sendRsp (by decide) _) fun room => settles_peek ?_)
  refine settles_insert (run_addMember _ _) (fun _ => stop_sendRsp database _) (fun _ => stop_sendRsp database _) ?_
  refine settles_execute (run_updateJoinRequestStatus _ _ _) (fun _ => stop_sendRsp database _) fun _ => ?_
  refine settles_commit (fun _ => stop_sendRsp database _) ?_ fun _ done => ⟨?_, reached _ (fun works => ?_) done⟩
  · exact silent_bind silent_sendGroupNotify fun _ =>
      silent_bind ConvService.silent_broadcastConvUpdate fun _ => silent_sendRsp
  · have other : Cmd.handleJoinReqAck ≠ .groupNotify := by decide
    have other' : Cmd.handleJoinReqAck ≠ .convUpdate := by decide
    refine (replies_after (mute_sendGroupNotify other) _).trans ?_
    exact (replies_after (mute_broadcastConvUpdate other') _).trans (replies_sendRsp _ _ _)
  · rw [works, if_neg Bool.false_ne_true, same] at room
    unfold memberCount
    omega

/-- An update writes both rows, or the group row alone when it does not get to see the conversation. -/
theorem rewrite_settles {skips : Prop} {missed : Tables → Prop} (userId : Int) (req : UpdateGroupReq) (group : Group)
    (same : w.tables = start)
    (exact_ : skips ↔ Clear 1 w.faults ∧ StatementFails w.faults 1 ∧ ¬StatementFails w.faults 2 ∧
      ∃ conv, conversationOf req.conversationId start = some conv ∧ rewritten req group conv ≠ conv)
    (reached : ∀ t, applyAll (updateWrites req group start) start = some t → intended t)
    (left : skips → missed (start.updateGroup group)) :
    Settles (RefusedUnless conn .updateGroupAck skips) (GrantedEither conn .updateGroupAck skips intended missed) start []
      (rewrite conn seq userId req group) w := by
  have database : errc.kDatabaseError.code ≠ 0 := by decide
  have stop : ∀ ws w', ¬skips → Settles (RefusedUnless conn .updateGroupAck skips)
      (GrantedEither conn .updateGroupAck skips intended missed) start ws
      (abort (sendRsp conn .updateGroupAck seq errc.kDatabaseError)) w' :=
    fun ws w' otherwise => settles_abort silent_sendRsp ⟨refused_sendRsp database _, otherwise⟩
  subst same
  refine settles_execute rfl (fun fault => stop _ _ fun skips => ?_) fun works => ?_
  · exact Bool.false_ne_true ((exact_.mp skips).1.1.symm.trans fault)
  have finish : ∀ ws w', (skips → w'.fails = false) → (w'.fails = false → ∀ t, applyAll ws w.tables = some t →
        skips ∧ missed t ∨ ¬skips ∧ intended t) →
      Settles (RefusedUnless conn .updateGroupAck skips) (GrantedEither conn .updateGroupAck skips intended missed) w.tables ws (do
        let committed ← commit
        if !committed then abort (sendRsp conn .updateGroupAck seq errc.kDatabaseError)
        else do
        sendGroupNotify req.conversationId userId
          { conversationId := req.conversationId, notifyType := 6, operatorId := userId }
        ConvService.broadcastConvUpdate req.conversationId userId
          { conversationId := req.conversationId, updateType := 3 }
        sendRsp conn .updateGroupAck seq errc.kOk) w' := by
    intro ws w' needs fits
    refine settles_commit (fun fault => stop _ _ fun skips => ?_) ?_ fun works done => ⟨?_, fits works _ done⟩
    · exact Bool.false_ne_true ((needs skips).symm.trans fault)
    · exact silent_bind silent_sendGroupNotify fun _ =>
        silent_bind ConvService.silent_broadcastConvUpdate fun _ => silent_sendRsp
    · have other : Cmd.updateGroupAck ≠ .groupNotify := by decide
      have other' : Cmd.updateGroupAck ≠ .convUpdate := by decide
      refine (replies_after (mute_sendGroupNotify other) _).trans ?_
      exact (replies_after (mute_broadcastConvUpdate other') _).trans (replies_sendRsp _ _ _)
  refine settles_lookup (fun miss => ?_) fun conv works' found => ?_
  · cases known : conversationOf req.conversationId w.tables with
    | none =>
      have whole : ¬skips := by
        intro skips
        obtain ⟨conv, here, -⟩ := (exact_.mp skips).2.2.2
        exact absurd (known.symm.trans here) (Option.some_ne_none _).symm
      refine finish _ _ (fun skips => absurd skips whole) fun _ t done => .inr ⟨whole, reached t ?_⟩
      rw [updateWrites, known]
      exact done
    | some conv =>
      have fault : StatementFails w.faults 1 := by
        rcases miss with fault | missing
        · simpa [StatementFails, fails] using fault
        · exact absurd (known.symm.trans missing) (Option.some_ne_none _)
      by_cases changed : rewritten req group conv = conv
      · have whole : ¬skips := by
          intro skips
          obtain ⟨conv', here, differs⟩ := (exact_.mp skips).2.2.2
          cases known.symm.trans here
          exact differs changed
        refine finish _ _ (fun skips => absurd skips whole) fun _ t done => .inr ⟨whole, reached t ?_⟩
        have inside : conv ∈ (w.tables.updateGroup group).conversations.rows := List.mem_of_find?_eq_some known
        rw [updateWrites, known, Option.toList_some, List.map_singleton, applyAll_plain, applyAll_plain, changed,
          updateConversation_same inside]
        exact done
      · refine finish _ _ (fun skips => ?_) fun works' t done => ?_
        · have committed := (exact_.mp skips).2.2.1
          simpa [StatementFails, fails] using committed
        · have now_ : skips := by
            refine exact_.mpr ⟨⟨works, trivial⟩, fault, ?_, conv, known, changed⟩
            simpa [StatementFails, fails] using works'
          cases done
          exact .inl ⟨now_, left now_⟩
  · have whole : ¬skips := by
      intro skips
      have fault := (exact_.mp skips).2.1
      have works'' : ¬StatementFails w.faults 1 := by simpa [StatementFails, fails] using works'
      exact works'' fault
    refine settles_execute rfl (fun _ => stop _ _ whole) fun _ =>
      finish _ _ (fun skips => absurd skips whole) fun _ t done => .inr ⟨whole, reached t ?_⟩
    rw [updateWrites, show conversationOf req.conversationId w.tables = some conv from found]
    exact done

end Behind

/-! ### The handlers -/

/-- A member with the right to manage a conversation. -/
def Manages (t : Tables) (conversationId userId : Int) : Prop :=
  ∃ m ∈ t.members.rows, m.conversationId = conversationId ∧ m.userId = userId ∧ mayManage (some m) = true

/-- A pending request to join a conversation. -/
def AsksToJoin (t : Tables) (conversationId userId : Int) : Prop :=
  ∃ jr ∈ t.groupJoinRequests.rows, jr.conversationId = conversationId ∧ jr.userId = userId ∧ jr.status = .pending

/-- A user is a member of a conversation. -/
def Joined (t : Tables) (conversationId userId : Int) : Prop :=
  ∃ m ∈ t.members.rows, m.conversationId = conversationId ∧ m.userId = userId

instance (t : Tables) (conversationId userId : Int) : Decidable (Joined t conversationId userId) :=
  inferInstanceAs (Decidable (∃ m ∈ t.members.rows, _))

/-- What a request that is answered with OK has read and written, on a connection with the
    fields `me` and with the failures `faults` to come. -/
inductive GroupStep (me : Connection) (faults : List Bool) (now : Bytes) (t : Tables) : Request → Tables → Prop where
  | created (conn : ConnId) (seq : UInt32) (req : CreateGroupReq)
      (room : (initialMembers req.memberIds me.userId).length + 1 ≤ kMaxGroupMembers) (t' : Tables)
      (writes : applyAll (createWrites me.userId req (initialMembers req.memberIds me.userId) now t) t = some t') :
      GroupStep me faults now t (.createGroup conn seq (some req)) t'
  | dismissed (conn : ConnId) (seq : UInt32) (req : ConversationReq) (group : Group) (known : group ∈ t.groups.rows)
      (named : group.conversationId = req.conversationId) (owner : group.ownerId = me.userId) (t' : Tables)
      (writes : applyAll (dismissWrites req.conversationId) t = some t') :
      GroupStep me faults now t (.dismissGroup conn seq (some req)) t'
  | asked (conn : ConnId) (seq : UInt32) (req : JoinGroupReq) (group : Group) (known : group ∈ t.groups.rows)
      (named : group.conversationId = req.conversationId)
      (outsider : Joined t req.conversationId me.userId → StatementFails faults 1)
      (unasked : AsksToJoin t req.conversationId me.userId → StatementFails faults 2) :
      GroupStep me faults now t (.joinGroup conn seq (some req))
        (t.insertJoinRequest (GroupDao.stampJoinRequest now
          { conversationId := req.conversationId, userId := me.userId, remark := req.remark }))
  | approved (conn : ConnId) (seq : UInt32) (req : HandleJoinReqReq) (jr : GroupJoinRequest)
      (known : jr ∈ t.groupJoinRequests.rows) (named : jr.id = req.requestId) (pending : jr.status = .pending)
      (manager : Manages t jr.conversationId me.userId) (action : req.action = 1)
      (room : ¬StatementFails faults 4 → memberCount t jr.conversationId < kMaxGroupMembers) (t' : Tables)
      (writes : applyAll (approveWrites jr now) t = some t') :
      GroupStep me faults now t (.handleJoinReq conn seq (some req)) t'
  | rejected (conn : ConnId) (seq : UInt32) (req : HandleJoinReqReq) (jr : GroupJoinRequest)
      (known : jr ∈ t.groupJoinRequests.rows) (named : jr.id = req.requestId) (pending : jr.status = .pending)
      (manager : Manages t jr.conversationId me.userId) (action : req.action = 2) :
      GroupStep me faults now t (.handleJoinReq conn seq (some req)) (t.setJoinRequestStatus jr.id .rejected now)
  | left (conn : ConnId) (seq : UInt32) (req : ConversationReq) (member : ConversationMember)
      (known : member ∈ t.members.rows) (mine : member.conversationId = req.conversationId ∧ member.userId = me.userId)
      (role : member.role ≠ .owner) (found : ¬StatementFails faults 0) (removed : ¬StatementFails faults 1) :
      GroupStep me faults now t (.leaveGroup conn seq (some req)) (t.removeMember req.conversationId me.userId)
  | kicked (conn : ConnId) (seq : UInt32) (req : KickMemberReq) (manager : Manages t req.conversationId me.userId)
      (target : ConversationMember) (known : target ∈ t.members.rows)
      (named : target.conversationId = req.conversationId ∧ target.userId = req.targetUserId)
      (role : target.role ≠ .owner) :
      GroupStep me faults now t (.kickMember conn seq (some req)) (t.removeMember req.conversationId req.targetUserId)
  | updated (conn : ConnId) (seq : UInt32) (req : UpdateGroupReq) (manager : Manages t req.conversationId me.userId)
      (group : Group) (known : group ∈ t.groups.rows) (named : group.conversationId = req.conversationId)
      (t' : Tables) (writes : applyAll (updateWrites req (GroupService.updated group req) t) t = some t') :
      GroupStep me faults now t (.updateGroup conn seq (some req)) t'
  | halfUpdated (conn : ConnId) (seq : UInt32) (req : UpdateGroupReq)
      (manager : Manages t req.conversationId me.userId) (group : Group) (known : group ∈ t.groups.rows)
      (named : group.conversationId = req.conversationId) (skipped : StatementFails faults 4)
      (conversation : conversationOf req.conversationId t ≠ none) :
      GroupStep me faults now t (.updateGroup conn seq (some req)) (t.updateGroup (GroupService.updated group req))
  | roleSet (conn : ConnId) (seq : UInt32) (req : SetMemberRoleReq) (operator : ConversationMember)
      (known : operator ∈ t.members.rows)
      (mine : operator.conversationId = req.conversationId ∧ operator.userId = me.userId)
      (owner : operator.role = .owner) (other : req.targetUserId ≠ me.userId) (role : MemberRole)
      (below : role ≠ .owner) :
      GroupStep me faults now t (.setMemberRole conn seq (some req))
        (t.updateMember req.conversationId req.targetUserId (fun _ => true)
          ⟨fun r => { r with role := role }, fun _ => rfl, fun _ _ => rfl⟩)

/-- The command that answers a request. -/
def Request.ack : Request → Cmd
  | createGroup .. => .createGroupAck
  | dismissGroup .. => .dismissGroupAck
  | joinGroup .. => .joinGroupAck
  | handleJoinReq .. => .handleJoinReqAck
  | leaveGroup .. => .leaveGroupAck
  | kickMember .. => .kickMemberAck
  | getGroupInfo .. => .getGroupInfoAck
  | updateGroup .. => .updateGroupAck
  | getGroupMembers .. => .getGroupMembersAck
  | getMyGroups .. => .getMyGroupsAck
  | setMemberRole .. => .setMemberRoleAck

/-- A request is refused and the tables stay, or it is granted with a step. -/
def StepsTo (request : Request) (w : World) (o : Outcome World Event Unit) : Prop :=
  Settled (Refused request.conn request.ack)
    (Granted request.conn request.ack
      (GroupStep (w.mem.connections request.conn) w.faults (nowText w) w.tables request)) w.tables o

section Handlers
variable {conn : ConnId} {seq : UInt32} {w : World}

/-- An error in place of any write. -/
private theorem sent_away (request : Request) {e : Error} (bad : e.code ≠ 0) {s : World} (same : s.tables = w.tables) :
    (sendRsp request.conn request.ack seq e).Ensures s (StepsTo request w) :=
  settled_refused silent_sendRsp same (refused_sendRsp bad _)

/-- What a search for a member finds. -/
private theorem found_member {t : Tables} {conversationId userId : Int} {m : ConversationMember}
    (found : t.members.rows.find? (fun r => r.conversationId = conversationId && r.userId = userId) = some m) :
    m ∈ t.members.rows ∧ m.conversationId = conversationId ∧ m.userId = userId := by
  have selected := List.find?_some found
  simp only [Bool.and_eq_true, decide_eq_true_eq] at selected
  exact ⟨List.mem_of_find?_eq_some found, selected⟩

/-- A manager that a query has found. -/
private theorem manages_of {s : World} {conversationId userId : Int}
    (manager : ¬(!mayManage (if s.fails = true then none else s.tables.members.rows.find? fun r =>
      r.conversationId = conversationId && r.userId = userId)) = true) : Manages s.tables conversationId userId := by
  cases fault : s.fails with
  | true => simp [fault, mayManage] at manager
  | false =>
    rw [fault, if_neg Bool.false_ne_true] at manager
    cases found : s.tables.members.rows.find? (fun r => r.conversationId = conversationId && r.userId = userId) with
    | none => simp [found, mayManage] at manager
    | some m =>
      obtain ⟨known, conv, user⟩ := found_member found
      rw [found] at manager
      exact ⟨m, known, conv, user, by simpa using manager⟩

theorem handleCreateGroup_settled (body : Option CreateGroupReq) :
    (handleCreateGroup conn seq body).Ensures w (StepsTo (.createGroup conn seq body) w) := by
  have stop : ∀ e (s : World), e.code ≠ 0 → s.tables = w.tables →
      (sendCreateGroupAck conn seq e 0 0).Ensures s (StepsTo (.createGroup conn seq body) w) :=
    fun e s bad same => settled_refused silent_sendPacket same ⟨_, bad, replies_sendPacket _ _ _⟩
  refine ensures_peek (Prog.ensures_ite (fun _ => stop _ _ (by decide) rfl) fun _ => ?_)
  cases body with
  | none => exact stop _ _ (by decide) rfl
  | some req =>
    refine Prog.ensures_ite (fun _ => stop _ _ (by decide) rfl) fun _ => ?_
    refine Prog.ensures_ite (fun _ => stop _ _ (by decide) rfl) fun _ => ?_
    refine Prog.ensures_ite (fun _ => stop _ _ (by decide) rfl) fun _ => ?_
    refine Prog.ensures_ite (fun _ => stop _ _ (by decide) rfl) fun _ => ?_
    refine Prog.ensures_ite (fun _ => stop _ _ (by decide) rfl) fun some_ => ?_
    refine Prog.ensures_ite (fun _ => stop _ _ (by decide) rfl) fun room => ?_
    have asked : (initialMembers req.memberIds (w.mem.connections conn).userId).isEmpty = false := by
      by_contra empty
      simp_all
    simp only [UserDao.findByIds, asked]
    refine ensures_any fun validUsers => ?_
    refine Prog.ensures_ite (fun _ => stop _ _ (by decide) rfl) fun _ => ?_
    refine Prog.ensures_ite (fun _ => stop _ _ (by decide) rfl) fun _ => ?_
    refine ensures_peek (settled_begin rfl (fun _ => stop _ _ (by decide) rfl) fun _ => ?_)
    refine create_settles _ req _ _ rfl rfl fun t writes => ?_
    exact .created conn seq req (not_lt.mp room) t writes

theorem handleDismissGroup_settled (body : Option ConversationReq) :
    (handleDismissGroup conn seq body).Ensures w (StepsTo (.dismissGroup conn seq body) w) := by
  have stop : ∀ e (s : World), e.code ≠ 0 → s.tables = w.tables →
      (sendRsp conn .dismissGroupAck seq e).Ensures s (StepsTo (.dismissGroup conn seq body) w) :=
    fun e s bad same => sent_away (.dismissGroup conn seq body) bad same
  refine ensures_peek (Prog.ensures_ite (fun _ => stop _ _ (by decide) rfl) fun _ => ?_)
  cases body with
  | none => exact stop _ _ (by decide) rfl
  | some req =>
    refine Prog.ensures_ite (fun _ => stop _ _ (by decide) rfl) fun _ => ?_
    refine ensures_lookup (stop _ _ (by decide) rfl) fun group found => ?_
    have named : group.conversationId = req.conversationId := by simpa using List.find?_some found
    refine Prog.ensures_ite (fun _ => stop _ _ (by decide) rfl) fun owner => ?_
    refine ensures_any fun membersSnapshot => settled_begin rfl (fun _ => stop _ _ (by decide) rfl) fun _ => ?_
    refine dismiss_settles _ _ _ fun t writes => ?_
    exact .dismissed conn seq req group (List.mem_of_find?_eq_some found) named (not_not.mp owner) t writes

theorem handleJoinGroup_settled (body : Option JoinGroupReq) :
    (handleJoinGroup conn seq body).Ensures w (StepsTo (.joinGroup conn seq body) w) := by
  have stop : ∀ e (s : World), e.code ≠ 0 → s.tables = w.tables →
      (sendRsp conn .joinGroupAck seq e).Ensures s (StepsTo (.joinGroup conn seq body) w) :=
    fun e s bad same => sent_away (.joinGroup conn seq body) bad same
  refine ensures_peek (Prog.ensures_ite (fun _ => stop _ _ (by decide) rfl) fun _ => ?_)
  cases body with
  | none => exact stop _ _ (by decide) rfl
  | some req =>
    refine Prog.ensures_ite (fun _ => stop _ _ (by decide) rfl) fun _ => ?_
    refine ensures_query (fun _ => stop _ _ (by decide) rfl) fun _ => ?_
    cases found : w.tables.groups.rows.find? (fun r => r.conversationId = req.conversationId) with
    | none => exact stop _ _ (by decide) rfl
    | some group =>
    have named : group.conversationId = req.conversationId := by simpa using List.find?_some found
    refine Prog.ensures_ite (fun _ => stop _ _ (by decide) rfl) fun _ => ?_
    refine ensures_answer (Prog.ensures_ite (fun _ => stop _ _ (by decide) rfl) fun outsider => ?_)
    refine ensures_answer (Prog.ensures_ite (fun _ => stop _ _ (by decide) rfl) fun unasked => ?_)
    refine Prog.ensures_ite (fun _ => stop _ _ (by decide) rfl) fun _ => ?_
    refine ensures_statement (run_insertJoinRequest _ _) (fun _ => stop _ _ (by decide) rfl) fun _ => ?_
    refine settled_done silent_sendRsp ⟨replies_sendRsp _ _ _, ?_⟩
    refine .asked conn seq req group (List.mem_of_find?_eq_some found) named ?_ ?_
    · rintro ⟨m, there, conv, (user : m.userId = (w.mem.connections conn).userId)⟩
      by_contra works
      have fine : w.spend.fails = false := by simpa [StatementFails, fails] using works
      rw [fine, if_neg Bool.false_ne_true] at outsider
      exact outsider (List.any_eq_true.mpr ⟨m, there, by simp [conv, user]⟩)
    · rintro ⟨jr, there, conv, (user : jr.userId = (w.mem.connections conn).userId), pending⟩
      by_contra works
      have fine : w.spend.spend.fails = false := by simpa [StatementFails, fails] using works
      rw [fine, if_neg Bool.false_ne_true, List.find?_isSome] at unasked
      exact unasked ⟨jr, there, by simp [conv, user, pending]⟩

theorem handleJoinReq_settled (body : Option HandleJoinReqReq) :
    (handleJoinReq conn seq body).Ensures w (StepsTo (.handleJoinReq conn seq body) w) := by
  have stop : ∀ e (s : World), e.code ≠ 0 → s.tables = w.tables →
      (sendRsp conn .handleJoinReqAck seq e).Ensures s (StepsTo (.handleJoinReq conn seq body) w) :=
    fun e s bad same => sent_away (.handleJoinReq conn seq body) bad same
  refine ensures_peek (Prog.ensures_ite (fun _ => stop _ _ (by decide) rfl) fun _ => ?_)
  cases body with
  | none => exact stop _ _ (by decide) rfl
  | some req =>
    refine Prog.ensures_ite (fun _ => stop _ _ (by decide) rfl) fun valid => ?_
    refine ensures_lookup (stop _ _ (by decide) rfl) fun jr found => ?_
    have known : jr ∈ w.tables.groupJoinRequests.rows := List.mem_of_find?_eq_some found
    have named : jr.id = req.requestId := by simpa using List.find?_some found
    refine Prog.ensures_ite (fun _ => stop _ _ (by decide) rfl) fun pending => ?_
    refine ensures_answer (Prog.ensures_ite (fun _ => stop _ _ (by decide) rfl) fun manager => ?_)
    have manages : Manages w.tables jr.conversationId (w.mem.connections conn).userId := manages_of (s := w.spend) manager
    refine Prog.ensures_ite (fun action => ?_) fun action => ?_
    · refine ensures_any fun applicant => Prog.ensures_ite (fun _ => stop _ _ (by decide) rfl) fun _ => ?_
      refine settled_begin rfl (fun _ => stop _ _ (by decide) rfl) fun _ => ?_
      rw [← named]
      refine approve_settles _ jr rfl fun t room writes => ?_
      refine .approved conn seq req jr known named (not_not.mp pending) manages action (fun works => room ?_) t writes
      simpa [StatementFails, fails] using works
    · refine ensures_statement (run_updateJoinRequestStatus ..) (fun _ => stop _ _ (by decide) rfl) fun _ => ?_
      refine settled_done silent_sendRsp ⟨replies_sendRsp _ _ _, ?_⟩
      rw [← named]
      exact .rejected conn seq req jr known named (not_not.mp pending) manages (by omega)

/-- The pushes of a membership change, before the reply. -/
private theorem changed_settled {request : Request} {userId : Int} {notify : GroupNotifyMsg} {update : ConvUpdateMsg}
    {conversationId excluded : Int} {s : World} (quiet : request.ack ≠ .groupNotify) (quiet' : request.ack ≠ .convUpdate)
    (step : GroupStep (w.mem.connections request.conn) w.faults (nowText w) w.tables request s.tables) :
    (sendGroupNotify conversationId userId notify >>= fun _ =>
      ConvService.broadcastConvUpdate conversationId excluded update >>= fun _ =>
        sendRsp request.conn request.ack seq errc.kOk).Ensures s (StepsTo request w) := by
  refine settled_done (silent_bind silent_sendGroupNotify fun _ =>
    silent_bind ConvService.silent_broadcastConvUpdate fun _ => silent_sendRsp) ⟨?_, step⟩
  refine (replies_after (mute_sendGroupNotify quiet) _).trans ?_
  exact (replies_after (mute_broadcastConvUpdate quiet') _).trans (replies_sendRsp _ _ _)

theorem handleLeaveGroup_settled (body : Option ConversationReq) :
    (handleLeaveGroup conn seq body).Ensures w (StepsTo (.leaveGroup conn seq body) w) := by
  have stop : ∀ e (s : World), e.code ≠ 0 → s.tables = w.tables →
      (sendRsp conn .leaveGroupAck seq e).Ensures s (StepsTo (.leaveGroup conn seq body) w) :=
    fun e s bad same => sent_away (.leaveGroup conn seq body) bad same
  refine ensures_peek (Prog.ensures_ite (fun _ => stop _ _ (by decide) rfl) fun _ => ?_)
  cases body with
  | none => exact stop _ _ (by decide) rfl
  | some req =>
    refine Prog.ensures_ite (fun _ => stop _ _ (by decide) rfl) fun _ => ?_
    refine ensures_query (fun _ => stop _ _ (by decide) rfl) fun works => ?_
    cases found : w.tables.members.rows.find? (fun r =>
      r.conversationId = req.conversationId && r.userId = (w.mem.connections conn).userId) with
    | none => exact stop _ _ (by decide) rfl
    | some member =>
    obtain ⟨known, mine⟩ := found_member found
    refine Prog.ensures_ite (fun _ => stop _ _ (by decide) rfl) fun role => ?_
    refine ensures_execute rfl (fun _ => stop _ _ (by decide) rfl) fun removed => ?_
    have quiet : Cmd.leaveGroupAck ≠ .groupNotify := by decide
    have quiet' : Cmd.leaveGroupAck ≠ .convUpdate := by decide
    have step : GroupStep (w.mem.connections conn) w.faults (nowText w) w.tables (.leaveGroup conn seq (some req))
        (w.tables.removeMember req.conversationId (w.mem.connections conn).userId) := by
      refine .left conn seq req member known mine role ?_ ?_
      · simpa [StatementFails, fails] using works
      · simpa [StatementFails, fails] using removed
    exact changed_settled quiet quiet' step

theorem handleKickMember_settled (body : Option KickMemberReq) :
    (handleKickMember conn seq body).Ensures w (StepsTo (.kickMember conn seq body) w) := by
  have stop : ∀ e (s : World), e.code ≠ 0 → s.tables = w.tables →
      (sendRsp conn .kickMemberAck seq e).Ensures s (StepsTo (.kickMember conn seq body) w) :=
    fun e s bad same => sent_away (.kickMember conn seq body) bad same
  refine ensures_peek (Prog.ensures_ite (fun _ => stop _ _ (by decide) rfl) fun _ => ?_)
  cases body with
  | none => exact stop _ _ (by decide) rfl
  | some req =>
    refine Prog.ensures_ite (fun _ => stop _ _ (by decide) rfl) fun _ => ?_
    refine Prog.ensures_ite (fun _ => stop _ _ (by decide) rfl) fun _ => ?_
    refine ensures_lookup (stop _ _ (by decide) rfl) fun operator foundOperator => ?_
    obtain ⟨there, conv, user⟩ := found_member foundOperator
    refine Prog.ensures_ite (fun _ => stop _ _ (by decide) rfl) fun manager => ?_
    refine ensures_lookup (stop _ _ (by decide) rfl) fun target found => ?_
    obtain ⟨known, named⟩ := found_member found
    refine Prog.ensures_ite (fun _ => stop _ _ (by decide) rfl) fun lower => ?_
    refine ensures_execute rfl (fun _ => stop _ _ (by decide) rfl) fun _ => ?_
    have step : GroupStep (w.mem.connections conn) w.faults (nowText w) w.tables (.kickMember conn seq (some req))
        (w.tables.removeMember req.conversationId req.targetUserId) := by
      refine .kicked conn seq req ⟨operator, there, conv, user, by simpa using manager⟩ target known named ?_
      rintro owner
      rw [owner] at lower
      cases role : operator.role <;> simp [role, MemberRole.code] at lower
    refine settled_done ?_ ⟨?_, step⟩
    · exact silent_bind silent_sendGroupNotify fun _ => silent_bind silent_sendToUser fun _ =>
        silent_bind ConvService.silent_broadcastConvUpdate fun _ => silent_sendRsp
    · have quiet : Cmd.kickMemberAck ≠ .groupNotify := by decide
      have quiet' : Cmd.kickMemberAck ≠ .convUpdate := by decide
      refine (replies_after (mute_sendGroupNotify quiet) _).trans ?_
      refine (replies_after (mute_sendToUser quiet.symm) _).trans ?_
      exact (replies_after (mute_broadcastConvUpdate quiet') _).trans (replies_sendRsp _ _ _)

/-- An update of the group information goes through, but for the conversation row. -/
structure SkipsConversation (me : Connection) (faults : List Bool) (t : Tables) (req : UpdateGroupReq) : Prop where
  known : me.userId ≠ 0
  named : 0 < req.conversationId
  manager : mayManage (t.members.rows.find? fun r => r.conversationId = req.conversationId && r.userId = me.userId) = true
  valid : updateError req = none
  executed : Clear 4 faults
  unread : StatementFails faults 4
  committed : ¬StatementFails faults 5
  outdated : ∃ group, groupOf req.conversationId t = some group ∧
    ∃ conv, conversationOf req.conversationId t = some conv ∧ rewritten req (GroupService.updated group req) conv ≠ conv

/-- What an update of the group information comes to, with the requests that miss the conversation row told apart. -/
theorem handleUpdateGroup_either (req : UpdateGroupReq) :
    (handleUpdateGroup conn seq (some req)).Ensures w (Settled
      (RefusedUnless conn .updateGroupAck (SkipsConversation (w.mem.connections conn) w.faults w.tables req))
      (GrantedEither conn .updateGroupAck (SkipsConversation (w.mem.connections conn) w.faults w.tables req)
        (fun t => Manages w.tables req.conversationId (w.mem.connections conn).userId ∧
          ∃ group, groupOf req.conversationId w.tables = some group ∧
            applyAll (updateWrites req (GroupService.updated group req) w.tables) w.tables = some t)
        (fun t => Manages w.tables req.conversationId (w.mem.connections conn).userId ∧
          ∃ group, groupOf req.conversationId w.tables = some group ∧
            t = w.tables.updateGroup (GroupService.updated group req))) w.tables) := by
  generalize me : w.mem.connections conn = who
  generalize skipped : SkipsConversation who w.faults w.tables req = skips
  have stop : ∀ {intended missed : Tables → Prop} (e : Error) (s : World), e.code ≠ 0 → s.tables = w.tables → ¬skips →
      (sendRsp conn .updateGroupAck seq e).Ensures s
        (Settled (RefusedUnless conn .updateGroupAck skips) (GrantedEither conn .updateGroupAck skips intended missed) w.tables) :=
    fun e s bad same otherwise => settled_refused silent_sendRsp same ⟨refused_sendRsp bad _, otherwise⟩
  refine ensures_peek ?_
  rw [me]
  refine Prog.ensures_ite (fun zero => stop _ _ (by decide) rfl ?_) fun nonzero => ?_
  · rw [← skipped]
    exact fun skips => skips.known zero
  refine Prog.ensures_ite (fun negative => stop _ _ (by decide) rfl ?_) fun named => ?_
  · rw [← skipped]
    exact fun skips => absurd skips.named (not_lt.mpr negative)
  refine ensures_answer (Prog.ensures_ite (fun other => stop _ _ (by decide) rfl ?_) fun manager => ?_)
  · rw [← skipped]
    intro skips
    have works : w.fails = false := skips.executed.1
    rw [works, if_neg Bool.false_ne_true, skips.manager] at other
    cases other
  have manages : Manages w.tables req.conversationId who.userId := manages_of (s := w) manager
  refine ensures_found (fun miss => stop _ _ (by decide) rfl ?_) fun group works found => ?_
  · rw [← skipped]
    intro skips
    rcases miss with fault | missing
    · exact Bool.false_ne_true (skips.executed.2.1.symm.trans fault)
    · obtain ⟨group, known, -⟩ := skips.outdated
      exact absurd (known.symm.trans missing) (Option.some_ne_none _)
  have known : groupOf req.conversationId w.tables = some group := found
  dsimp only
  cases invalid : updateError req with
  | some e =>
    refine stop _ _ ?_ rfl ?_
    · unfold updateError at invalid
      split_ifs at invalid <;> cases invalid <;> decide
    · rw [← skipped]
      exact fun skips => absurd (invalid.symm.trans skips.valid) (Option.some_ne_none _)
  | none =>
    refine settled_begin_or rfl silent_sendRsp (fun fault => ⟨refused_sendRsp (by decide) _, ?_⟩) fun works' => ?_
    · rw [← skipped]
      exact fun skips => Bool.false_ne_true (skips.executed.2.2.1.symm.trans fault)
    refine rewrite_settles _ req _ rfl ?_ (fun t writes => ⟨manages, group, known, writes⟩) fun _ => ⟨manages, group, known, rfl⟩
    rw [← skipped]
    constructor
    · rintro ⟨-, -, -, -, executed, unread, committed, group', known', conv, here, differs⟩
      cases known.symm.trans known'
      refine ⟨⟨executed.2.2.2.1, trivial⟩, ?_, ?_, conv, here, differs⟩
      · simpa [StatementFails] using unread
      · simpa [StatementFails] using committed
    · rintro ⟨executed, unread, committed, conv, here, differs⟩
      have first : w.fails = false := by
        by_contra fault
        rw [if_pos (Bool.eq_true_of_not_eq_false fault)] at manager
        exact manager rfl
      rw [if_neg (first ▸ Bool.false_ne_true)] at manager
      refine ⟨nonzero, not_le.mp named, ?_, invalid, ⟨first, works, works', executed⟩, ?_, ?_, group, known, conv, here, differs⟩
      · simpa using manager
      · simpa [StatementFails] using unread
      · simpa [StatementFails] using committed

theorem handleUpdateGroup_settled (body : Option UpdateGroupReq) :
    (handleUpdateGroup conn seq body).Ensures w (StepsTo (.updateGroup conn seq body) w) := by
  cases body with
  | none =>
    have stop : ∀ e (s : World), e.code ≠ 0 → s.tables = w.tables →
        (sendRsp conn .updateGroupAck seq e).Ensures s (StepsTo (.updateGroup conn seq none) w) :=
      fun e s bad same => sent_away (.updateGroup conn seq none) bad same
    exact ensures_peek (Prog.ensures_ite (fun _ => stop _ _ (by decide) rfl) fun _ => stop _ _ (by decide) rfl)
  | some req =>
    refine (handleUpdateGroup_either req).imp (fun _ refused => refused.1) fun events t granted => ⟨granted.1, ?_⟩
    rcases granted.2 with ⟨skips, manages, group, found, rfl⟩ | ⟨-, manages, group, found, writes⟩
    all_goals
      have known : group ∈ w.tables.groups.rows := List.mem_of_find?_eq_some found
      have named : group.conversationId = req.conversationId := by simpa using List.find?_some found
    · refine .halfUpdated conn seq req manages group known named skips.unread ?_
      obtain ⟨-, -, conv, here, -⟩ := skips.outdated
      rw [here]
      exact Option.some_ne_none _
    · exact .updated conn seq req manages group known named t writes

theorem handleSetMemberRole_settled (body : Option SetMemberRoleReq) :
    (handleSetMemberRole conn seq body).Ensures w (StepsTo (.setMemberRole conn seq body) w) := by
  have stop : ∀ e (s : World), e.code ≠ 0 → s.tables = w.tables →
      (sendRsp conn .setMemberRoleAck seq e).Ensures s (StepsTo (.setMemberRole conn seq body) w) :=
    fun e s bad same => sent_away (.setMemberRole conn seq body) bad same
  refine ensures_peek (Prog.ensures_ite (fun _ => stop _ _ (by decide) rfl) fun _ => ?_)
  cases body with
  | none => exact stop _ _ (by decide) rfl
  | some req =>
    refine Prog.ensures_ite (fun _ => stop _ _ (by decide) rfl) fun _ => ?_
    refine Prog.ensures_ite (fun _ => stop _ _ (by decide) rfl) fun _ => ?_
    refine ensures_lookup (stop _ _ (by decide) rfl) fun operator found => ?_
    obtain ⟨known, mine⟩ := found_member found
    refine Prog.ensures_ite (fun _ => stop _ _ (by decide) rfl) fun owner => ?_
    refine ensures_any fun target => Prog.ensures_ite (fun _ => stop _ _ (by decide) rfl) fun _ => ?_
    refine Prog.ensures_ite (fun _ => stop _ _ (by decide) rfl) fun other => ?_
    refine ensures_execute rfl (fun _ => stop _ _ (by decide) rfl) fun _ => ?_
    refine settled_done (silent_bind silent_sendGroupNotify fun _ => silent_sendRsp) ⟨?_, ?_⟩
    · have quiet : Cmd.setMemberRoleAck ≠ .groupNotify := by decide
      exact (replies_after (mute_sendGroupNotify quiet) _).trans (replies_sendRsp _ _ _)
    · refine .roleSet conn seq req operator known mine (by simpa using owner) other _ ?_
      split <;> decide

/-- As long as its transaction is closed, a request leaves the tables alone or takes them by a
    step. -/
theorem handle_steps (request : Request) (rolledBack : ((handle request).run w).state.saved = none) :
    ((handle request).run w).state.tables = w.tables ∨
      GroupStep (w.mem.connections request.conn) w.faults (nowText w) w.tables request
        ((handle request).run w).state.tables := by
  have settled : StepsTo request w ((handle request).run w) ∨
      ((handle request).run w).state.tables = w.tables := by
    cases request with
    | createGroup conn seq body => exact .inl (handleCreateGroup_settled body)
    | dismissGroup conn seq body => exact .inl (handleDismissGroup_settled body)
    | joinGroup conn seq body => exact .inl (handleJoinGroup_settled body)
    | handleJoinReq conn seq body => exact .inl (handleJoinReq_settled body)
    | leaveGroup conn seq body => exact .inl (handleLeaveGroup_settled body)
    | kickMember conn seq body => exact .inl (handleKickMember_settled body)
    | getGroupInfo conn seq body => exact .inr (silent_handleGetGroupInfo body w).tables
    | updateGroup conn seq body => exact .inl (handleUpdateGroup_settled body)
    | getGroupMembers conn seq body => exact .inr (silent_handleGetGroupMembers body w).tables
    | getMyGroups conn seq => exact .inr (silent_handleGetMyGroups w).tables
    | setMemberRole conn seq body => exact .inl (handleSetMemberRole_settled body)
  rcases settled with settled | same
  · rcases settled rolledBack with ⟨-, same⟩ | ⟨-, step⟩
    · exact .inl same
    · exact .inr step
  · exact .inl same

end Handlers

/-! ### Without failures no transaction is left open -/

section Closes
variable {conn : ConnId} {seq : UInt32}

private theorem abort_sendRsp {cmd : Cmd} {e : Error} {opened : Bool} :
    Closes opened (abort (sendRsp conn cmd seq e)) :=
  closes_abort fun s => by simp [sendRsp, sendPacket, send]

private theorem abort_create {e : Error} {opened : Bool} : Closes opened (abort (sendCreateGroupAck conn seq e 0 0)) :=
  closes_abort fun s => by simp [sendCreateGroupAck, sendPacket, send]

private theorem addMembers_closes {conversationId : Int} {now : Bytes} {f : Bool → Handler}
    (rest : ∀ added, Closes true (f added)) (ids : List Int) :
    Closes true (addMembers conversationId now ids >>= f) := by
  induction ids with
  | nil => exact rest true
  | cons mid ids ih =>
    rw [addMembers, bind_assoc]
    refine closes_statement (fun s => ⟨_, _, _, run_addMember _ s⟩) fun added => ?_
    cases added with
    | false => exact rest false
    | true => exact ih

private theorem create_closes (userId : Int) (req : CreateGroupReq) (memberIds : List Int) (now : Bytes) :
    Closes true (create conn seq userId req memberIds now) := by
  refine closes_statement (fun s => ⟨_, _, _, run_createConversation _ s⟩) fun conv => ?_
  cases conv with
  | none => exact abort_create
  | some conversationId =>
  refine closes_statement (fun s => ⟨_, _, _, run_insertGroup _ s⟩) fun group => ?_
  cases group with
  | none => exact abort_create
  | some groupId =>
  refine closes_statement (fun s => ⟨_, _, _, run_addMember _ s⟩) fun owner => closes_ite abort_create ?_
  refine addMembers_closes (fun added => closes_ite abort_create ?_) memberIds
  exact closes_commit (silent_bind silent_sendPacket fun _ => silent_sendGroupNotify)

private theorem dismiss_closes (userId conversationId : Int) (membersSnapshot : List ConversationMember) :
    Closes true (dismiss conn seq userId conversationId membersSnapshot) := by
  refine closes_execute fun _ => closes_ite abort_sendRsp (closes_execute fun _ => closes_ite abort_sendRsp ?_)
  exact closes_commit (silent_bind silent_sendToMembers fun _ => silent_bind silent_sendToMembers fun _ => silent_sendRsp)

private theorem silent_changed {cmd : Cmd} {userId : Int} {notify : GroupNotifyMsg} {update : ConvUpdateMsg}
    {conversationId excluded : Int} {e : Error} :
    Silent (sendGroupNotify conversationId userId notify >>= fun _ =>
      ConvService.broadcastConvUpdate conversationId excluded update >>= fun _ => sendRsp conn cmd seq e) :=
  silent_bind silent_sendGroupNotify fun _ =>
    silent_bind ConvService.silent_broadcastConvUpdate fun _ => silent_sendRsp

private theorem approve_closes (userId requestId : Int) (jr : GroupJoinRequest) :
    Closes true (approve conn seq userId requestId jr) := by
  refine closes_query fun count => closes_ite abort_sendRsp (closes_peek fun now => ?_)
  refine closes_statement (fun s => ⟨_, _, _, run_addMember _ s⟩) fun added => closes_ite abort_sendRsp ?_
  refine closes_statement (fun s => ⟨_, _, _, run_updateJoinRequestStatus _ _ s⟩) fun _ => closes_ite abort_sendRsp ?_
  exact closes_commit silent_changed

private theorem rewrite_closes (userId : Int) (req : UpdateGroupReq) (group : Group) :
    Closes true (rewrite conn seq userId req group) := by
  have finish : ∀ written : Bool, Closes true (do
      if !written then abort (sendRsp conn .updateGroupAck seq errc.kDatabaseError)
      else do
      let committed ← commit
      if !committed then abort (sendRsp conn .updateGroupAck seq errc.kDatabaseError)
      else do
      sendGroupNotify req.conversationId userId
        { conversationId := req.conversationId, notifyType := 6, operatorId := userId }
      ConvService.broadcastConvUpdate req.conversationId userId
        { conversationId := req.conversationId, updateType := 3 }
      sendRsp conn .updateGroupAck seq errc.kOk) :=
    fun written => closes_ite abort_sendRsp (closes_commit silent_changed)
  refine closes_execute fun _ => closes_ite abort_sendRsp (closes_query fun conv => ?_)
  cases conv with
  | none => exact finish true
  | some conv => exact closes_execute finish

/-- The handlers of a service have a closed transaction wherever they answer with a code. -/
private theorem away {cmd : Cmd} {e : Error} : Closes false (sendRsp conn cmd seq e) := closes_silent silent_sendRsp

private theorem handleCreateGroup_closes (body : Option CreateGroupReq) :
    Closes false (handleCreateGroup conn seq body) := by
  have stop : ∀ e, Closes false (sendCreateGroupAck conn seq e 0 0) := fun _ => closes_silent silent_sendPacket
  refine closes_peek fun me => closes_ite (stop _) ?_
  cases body with
  | none => exact stop _
  | some req =>
    refine closes_ite (stop _) (closes_ite (stop _) (closes_ite (stop _) (closes_ite (stop _) ?_)))
    refine closes_ite (stop _) (closes_ite (stop _) ?_)
    have found : ∀ users : List User, Closes false (do
        if users.length ≠ (initialMembers req.memberIds me.userId).length then
          sendCreateGroupAck conn seq errc.user.kUserNotFound 0 0
        else if users.any (fun u => u.status = .banned) then
          sendCreateGroupAck conn seq ⟨errc.user.kUserNotFound.code, "target user is banned"⟩ 0 0
        else do
        let now ← nowUtcStr
        let begun ← beginTransaction
        if !begun then sendCreateGroupAck conn seq errc.kDatabaseError 0 0
        else create conn seq me.userId req (initialMembers req.memberIds me.userId) now) := by
      intro users
      refine closes_ite (stop _) (closes_ite (stop _) (closes_peek fun now => closes_begin ?_))
      exact create_closes _ _ _ _
    unfold UserDao.findByIds
    split
    · exact found []
    · exact closes_query found

/-- A request that is served without failures leaves no transaction open. -/
theorem handle_closes (request : Request) : Closes false (handle request) := by
  cases request with
  | createGroup conn seq body => exact handleCreateGroup_closes body
  | getGroupInfo conn seq body => exact closes_silent (silent_handleGetGroupInfo body)
  | getGroupMembers conn seq body => exact closes_silent (silent_handleGetGroupMembers body)
  | getMyGroups conn seq => exact closes_silent silent_handleGetMyGroups
  | dismissGroup conn seq body =>
    refine closes_peek fun me => closes_ite away ?_
    cases body with
    | none => exact away
    | some req =>
      refine closes_ite away (closes_query fun group => ?_)
      cases group with
      | none => exact away
      | some group => exact closes_ite away (closes_query fun _ => closes_begin (dismiss_closes _ _ _))
  | joinGroup conn seq body =>
    refine closes_peek fun me => closes_ite away ?_
    cases body with
    | none => exact away
    | some req =>
      refine closes_ite away (closes_query fun _ => closes_ite away (closes_query fun _ => closes_ite away ?_))
      refine closes_query fun _ => closes_ite away (closes_ite away ?_)
      exact closes_statement (fun s => ⟨_, _, _, run_insertJoinRequest _ s⟩) fun id => closes_ite away away
  | handleJoinReq conn seq body =>
    refine closes_peek fun me => closes_ite away ?_
    cases body with
    | none => exact away
    | some req =>
      refine closes_ite away (closes_query fun found => ?_)
      cases found with
      | none => exact away
      | some jr =>
        refine closes_ite away (closes_query fun _ => closes_ite away (closes_ite ?_ ?_))
        · exact closes_query fun _ => closes_ite away (closes_begin (approve_closes _ _ _))
        · exact closes_statement (fun s => ⟨_, _, _, run_updateJoinRequestStatus _ _ s⟩) fun _ => closes_ite away away
  | leaveGroup conn seq body =>
    refine closes_peek fun me => closes_ite away ?_
    cases body with
    | none => exact away
    | some req =>
      refine closes_ite away (closes_query fun member => ?_)
      cases member with
      | none => exact away
      | some member => exact closes_ite away (closes_execute fun _ => closes_ite away (closes_silent silent_changed))
  | kickMember conn seq body =>
    refine closes_peek fun me => closes_ite away ?_
    cases body with
    | none => exact away
    | some req =>
      refine closes_ite away (closes_ite away (closes_query fun operator => ?_))
      cases operator with
      | none => exact away
      | some operator =>
        refine closes_ite away (closes_query fun target => ?_)
        cases target with
        | none => exact away
        | some target =>
          refine closes_ite away (closes_execute fun _ => closes_ite away (closes_silent ?_))
          exact silent_bind silent_sendGroupNotify fun _ => silent_bind silent_sendToUser fun _ =>
            silent_bind ConvService.silent_broadcastConvUpdate fun _ => silent_sendRsp
  | updateGroup conn seq body =>
    refine closes_peek fun me => closes_ite away ?_
    cases body with
    | none => exact away
    | some req =>
      refine closes_ite away (closes_query fun member => closes_ite away (closes_query fun group => ?_))
      cases group with
      | none => exact away
      | some group =>
        dsimp only
        cases updateError req with
        | some e => exact away
        | none => exact closes_begin (rewrite_closes _ _ _)
  | setMemberRole conn seq body =>
    refine closes_peek fun me => closes_ite away ?_
    cases body with
    | none => exact away
    | some req =>
      refine closes_ite away (closes_ite away (closes_query fun _ => closes_ite away ?_))
      refine closes_query fun _ => closes_ite away (closes_ite away (closes_execute fun _ => closes_ite away ?_))
      exact closes_silent (silent_bind silent_sendGroupNotify fun _ => silent_sendRsp)

end Closes
end GroupService
end NovaIIM
