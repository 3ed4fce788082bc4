import NovaIIM.ConvWrites
import NovaIIM.GroupService

/-!
What the group service writes.

A request takes the tables along a path of `GroupWrite`, whatever statements
fail. A conversation is created without messages, and the row that rewrites one
keeps the id and the `max_seq` that the handler read in the same transaction.
-/
namespace NovaIIM
open Store
open Relation (ReflTransGen)

/-- One write of the group service. -/
inductive GroupWrite (t : Tables) : Tables → Prop where
  | conversation (conv : Conversation) (empty : conv.maxSeq = 0) : GroupWrite t (t.createConversation conv)
  | rewritten (row conv : Conversation) (known : row ∈ t.conversations.rows) (same : conv.id = row.id)
      (kept : conv.maxSeq = row.maxSeq) : GroupWrite t (t.updateConversation conv)
  | member (member : ConversationMember) (unread : member.lastReadSeq = 0) : GroupWrite t (t.addMember member)
  | left (conversationId userId : Int) : GroupWrite t (t.removeMember conversationId userId)
  | emptied (conversationId : Int) : GroupWrite t (t.removeAllMembers conversationId)
  | role (conversationId userId : Int) (selected : ConversationMember → Bool)
      (change : RowUpdate ConversationMember) (unread : KeepsRead change) :
      GroupWrite t (t.updateMember conversationId userId selected change)
  | founded (group : Group) : GroupWrite t (t.insertGroup group)
  | renamed (group : Group) : GroupWrite t (t.updateGroup group)
  | dismissed (conversationId : Int) : GroupWrite t (t.deleteGroup conversationId)
  | asked (jr : GroupJoinRequest) : GroupWrite t (t.insertJoinRequest jr)
  | answered (id : Int) (status : JoinRequestStatus) (now : Bytes) :
      GroupWrite t (t.setJoinRequestStatus id status now)

namespace GroupService
variable {conn : ConnId} {seq : UInt32} {w : World}

theorem silent_sendGroupNotify {conversationId excludeUserId : Int} {notify : GroupNotifyMsg} :
    Silent (sendGroupNotify conversationId excludeUserId notify) := by
  refine silent_bind (silent_query _ _) fun members => silent_forEach fun m => ?_
  split
  · exact silent_ret ()
  · exact silent_sendToUser

theorem silent_sendToMembers {members : List ConversationMember} {excludeUserId : Int} {packet : Packet} :
    Silent (sendToMembers members excludeUserId packet) := by
  refine silent_forEach fun m => ?_
  split
  · exact silent_ret ()
  · exact silent_sendToUser

theorem silent_countAll (ids : List Int) : Silent (countAll ids) := by
  induction ids with
  | nil => exact silent_ret _
  | cons cid rest ih => exact silent_bind (silent_query _ _) fun _ => silent_bind ih fun _ => silent_ret _

/-! ### Behind a BEGIN -/

/-- Members are added one by one, up to the first that fails. -/
private theorem addMembers_writes {start : Tables} {conversationId : Int} {now : Bytes} {f : Bool → Handler}
    (rest : ∀ added w, InTransaction GroupWrite start (f added) w) (ids : List Int) (w : World) :
    InTransaction GroupWrite start (addMembers conversationId now ids >>= f) w := by
  induction ids generalizing w with
  | nil => exact rest true w
  | cons mid ids ih =>
    rw [addMembers, bind_assoc]
    refine inTransaction_statement (run_addMember _ _) (.member _ rfl) (rest _ _) ?_
    cases w.tables.members.taken _ with
    | true => exact rest _ _
    | false => exact ih _

theorem create_writes (userId : Int) (req : CreateGroupReq) (memberIds : List Int) (now : Bytes)
    (start : Tables) (w : World) :
    InTransaction GroupWrite start (create conn seq userId req memberIds now) w := by
  have stop : ∀ e w, InTransaction GroupWrite start (abort (sendCreateGroupAck conn seq e 0 0)) w :=
    fun _ _ => inTransaction_abort silent_sendPacket
  refine inTransaction_statement (run_createConversation _ _) (.conversation _ rfl) (stop _ _) ?_
  refine inTransaction_statement (run_insertGroup _ _) (.founded _) (stop _ _) ?_
  refine inTransaction_statement (run_addMember _ _) (.member _ rfl) (stop _ _) ?_
  refine inTransaction_ite (fun _ => stop _ _) fun _ => ?_
  refine addMembers_writes (fun added w => inTransaction_ite (fun _ => stop _ _) fun _ => ?_) _ _
  exact inTransaction_commit (stop _ _) (silent_bind silent_sendPacket fun _ => silent_sendGroupNotify)

theorem dismiss_writes (userId conversationId : Int) (membersSnapshot : List ConversationMember)
    (start : Tables) (w : World) :
    InTransaction GroupWrite start (dismiss conn seq userId conversationId membersSnapshot) w := by
  have stop : ∀ e w, InTransaction GroupWrite start (abort (sendRsp conn .dismissGroupAck seq e)) w :=
    fun _ _ => inTransaction_abort silent_sendRsp
  refine inTransaction_execute rfl (.dismissed _) (stop _ _) ?_
  refine inTransaction_execute rfl (.emptied _) (stop _ _) ?_
  refine inTransaction_commit (stop _ _) ?_
  exact silent_bind silent_sendToMembers fun _ => silent_bind silent_sendToMembers fun _ => silent_sendRsp

theorem approve_writes (userId requestId : Int) (jr : GroupJoinRequest) (start : Tables) (w : World) :
    InTransaction GroupWrite start (approve conn seq userId requestId jr) w := by
  have stop : ∀ e w, InTransaction GroupWrite start (abort (sendRsp conn .handleJoinReqAck seq e)) w :=
    fun _ _ => inTransaction_abort silent_sendRsp
  refine inTransaction_query_any fun memberCount => inTransaction_ite (fun _ => stop _ _) fun _ => ?_
  refine inTransaction_peek ?_
  refine inTransaction_statement (run_addMember _ _) (.member _ rfl) (stop _ _) ?_
  refine inTransaction_ite (fun _ => stop _ _) fun _ => ?_
  refine inTransaction_execute (run_updateJoinRequestStatus _ _ _) (.answered _ _ _) (stop _ _) ?_
  refine inTransaction_commit (stop _ _) ?_
  exact silent_bind silent_sendGroupNotify fun _ =>
    silent_bind ConvService.silent_broadcastConvUpdate fun _ => silent_sendRsp

theorem rewrite_writes (userId : Int) (req : UpdateGroupReq) (group : Group) (start : Tables) (w : World) :
    InTransaction GroupWrite start (rewrite conn seq userId req group) w := by
  have stop : ∀ e w, InTransaction GroupWrite start (abort (sendRsp conn .updateGroupAck seq e)) w :=
    fun _ _ => inTransaction_abort silent_sendRsp
  refine inTransaction_execute rfl (.renamed _) (stop _ _) ?_
  have finish : ∀ written w, InTransaction GroupWrite start (do
      if !written then abort (sendRsp conn .updateGroupAck seq errc.kDatabaseError)
      else do
      let committed ← commit
      if !committed then abort (sendRsp conn .updateGroupAck seq errc.kDatabaseError)
      else do
      sendGroupNotify req.conversationId userId
        { conversationId := req.conversationId, notifyType := 6, operatorId := userId }
      ConvService.broadcastConvUpdate req.conversationId userId
        { conversationId := req.conversationId, updateType := 3 }
      sendRsp conn .updateGroupAck seq errc.kOk) w := by
    refine fun written w => inTransaction_ite (fun _ => stop _ _) fun _ => inTransaction_commit (stop _ _) ?_
    exact silent_bind silent_sendGroupNotify fun _ =>
      silent_bind ConvService.silent_broadcastConvUpdate fun _ => silent_sendRsp
  refine inTransaction_lookup (finish true _) fun conv found => ?_
  refine inTransaction_execute rfl ?_ (finish _ _) (finish _ _)
  exact .rewritten conv _ (List.mem_of_find?_eq_some found) rfl rfl

/-! ### The handlers -/

private theorem turned_away {p : Handler} (silent : Silent p) (w : World) :
    Does (ReflTransGen GroupWrite) p w := does_silent silent .refl

theorem handleCreateGroup_does (body : Option CreateGroupReq) :
    Does (ReflTransGen GroupWrite) (handleCreateGroup conn seq body) w := by
  have stop : ∀ e (w : World), Does (ReflTransGen GroupWrite) (sendCreateGroupAck conn seq e 0 0) w :=
    fun _ w => turned_away silent_sendPacket w
  refine does_peek (does_ite (fun _ => stop _ _) fun _ => ?_)
  cases body with
  | none => exact stop _ _
  | some req =>
    refine does_ite (fun _ => stop _ _) fun _ => does_ite (fun _ => stop _ _) fun _ => ?_
    refine does_ite (fun _ => stop _ _) fun _ => does_ite (fun _ => stop _ _) fun _ => ?_
    refine does_ite (fun _ => stop _ _) fun some_ => does_ite (fun _ => stop _ _) fun _ => ?_
    have asked : (initialMembers req.memberIds (w.mem.connections conn).userId).isEmpty = false := by
      by_contra empty
      simp_all
    simp only [UserDao.findByIds, asked]
    refine does_query_any fun _ => does_ite (fun _ => stop _ _) fun _ => does_ite (fun _ => stop _ _) fun _ => ?_
    refine does_peek (does_begin .refl silent_sendPacket (create_writes _ _ _ _ _ _) fun t writes => writes)

theorem handleDismissGroup_does (body : Option ConversationReq) :
    Does (ReflTransGen GroupWrite) (handleDismissGroup conn seq body) w := by
  have stop : ∀ e (w : World), Does (ReflTransGen GroupWrite) (sendRsp conn .dismissGroupAck seq e) w :=
    fun _ w => turned_away silent_sendRsp w
  refine does_peek (does_ite (fun _ => stop _ _) fun _ => ?_)
  cases body with
  | none => exact stop _ _
  | some req =>
    refine does_ite (fun _ => stop _ _) fun _ => ?_
    refine does_lookup (stop _ _) fun group _ => does_ite (fun _ => stop _ _) fun _ => ?_
    refine does_query_any fun membersSnapshot => ?_
    exact does_begin .refl silent_sendRsp (dismiss_writes _ _ _ _ _) fun t writes => writes

theorem handleJoinGroup_does (body : Option JoinGroupReq) :
    Does (ReflTransGen GroupWrite) (handleJoinGroup conn seq body) w := by
  have stop : ∀ e (w : World), Does (ReflTransGen GroupWrite) (sendRsp conn .joinGroupAck seq e) w :=
    fun _ w => turned_away silent_sendRsp w
  refine does_peek (does_ite (fun _ => stop _ _) fun _ => ?_)
  cases body with
  | none => exact stop _ _
  | some req =>
    refine does_ite (fun _ => stop _ _) fun _ => ?_
    refine does_query_any fun _ => does_ite (fun _ => stop _ _) fun _ => ?_
    refine does_query_any fun _ => does_ite (fun _ => stop _ _) fun _ => ?_
    refine does_query_any fun _ => does_ite (fun _ => stop _ _) fun _ => does_ite (fun _ => stop _ _) fun _ => ?_
    refine does_statement (run_insertJoinRequest _ _) .refl (.single (.asked _)) fun id => ?_
    cases id <;> exact silent_sendRsp

theorem handleJoinReq_does (body : Option HandleJoinReqReq) :
    Does (ReflTransGen GroupWrite) (handleJoinReq conn seq body) w := by
  have stop : ∀ e (w : World), Does (ReflTransGen GroupWrite) (sendRsp conn .handleJoinReqAck seq e) w :=
    fun _ w => turned_away silent_sendRsp w
  refine does_peek (does_ite (fun _ => stop _ _) fun _ => ?_)
  cases body with
  | none => exact stop _ _
  | some req =>
    refine does_ite (fun _ => stop _ _) fun _ => ?_
    refine does_lookup (stop _ _) fun jr _ => does_ite (fun _ => stop _ _) fun _ => ?_
    refine does_query_any fun member => does_ite (fun _ => stop _ _) fun _ => does_ite (fun _ => ?_) fun _ => ?_
    · refine does_query_any fun _ => does_ite (fun _ => stop _ _) fun _ => ?_
      exact does_begin .refl silent_sendRsp (approve_writes _ _ _ _ _) fun t writes => writes
    · refine does_execute (run_updateJoinRequestStatus _ _ _) .refl (.single (.answered _ _ _)) fun updated => ?_
      cases updated <;> exact silent_sendRsp

theorem handleLeaveGroup_does (body : Option ConversationReq) :
    Does (ReflTransGen GroupWrite) (handleLeaveGroup conn seq body) w := by
  have stop : ∀ e (w : World), Does (ReflTransGen GroupWrite) (sendRsp conn .leaveGroupAck seq e) w :=
    fun _ w => turned_away silent_sendRsp w
  refine does_peek (does_ite (fun _ => stop _ _) fun _ => ?_)
  cases body with
  | none => exact stop _ _
  | some req =>
    refine does_ite (fun _ => stop _ _) fun _ => ?_
    refine does_lookup (stop _ _) fun member _ => does_ite (fun _ => stop _ _) fun _ => ?_
    refine does_execute rfl .refl (.single (.left _ _)) fun removed => ?_
    cases removed with
    | false => exact silent_sendRsp
    | true =>
      exact silent_bind silent_sendGroupNotify fun _ =>
        silent_bind ConvService.silent_broadcastConvUpdate fun _ => silent_sendRsp

theorem handleKickMember_does (body : Option KickMemberReq) :
    Does (ReflTransGen GroupWrite) (handleKickMember conn seq body) w := by
  have stop : ∀ e (w : World), Does (ReflTransGen GroupWrite) (sendRsp conn .kickMemberAck seq e) w :=
    fun _ w => turned_away silent_sendRsp w
  refine does_peek (does_ite (fun _ => stop _ _) fun _ => ?_)
  cases body with
  | none => exact stop _ _
  | some req =>
    refine does_ite (fun _ => stop _ _) fun _ => does_ite (fun _ => stop _ _) fun _ => ?_
    refine does_lookup (stop _ _) fun operator _ => does_ite (fun _ => stop _ _) fun _ => ?_
    refine does_lookup (stop _ _) fun target _ => does_ite (fun _ => stop _ _) fun _ => ?_
    refine does_execute rfl .refl (.single (.left _ _)) fun removed => ?_
    cases removed with
    | false => exact silent_sendRsp
    | true =>
      exact silent_bind silent_sendGroupNotify fun _ => silent_bind silent_sendToUser fun _ =>
        silent_bind ConvService.silent_broadcastConvUpdate fun _ => silent_sendRsp

theorem handleUpdateGroup_does (body : Option UpdateGroupReq) :
    Does (ReflTransGen GroupWrite) (handleUpdateGroup conn seq body) w := by
  have stop : ∀ e (w : World), Does (ReflTransGen GroupWrite) (sendRsp conn .updateGroupAck seq e) w :=
    fun _ w => turned_away silent_sendRsp w
  refine does_peek (does_ite (fun _ => stop _ _) fun _ => ?_)
  cases body with
  | none => exact stop _ _
  | some req =>
    refine does_ite (fun _ => stop _ _) fun _ => ?_
    refine does_query_any fun member => does_ite (fun _ => stop _ _) fun _ => ?_
    refine does_lookup (stop _ _) fun group _ => ?_
    dsimp only
    cases updateError req with
    | some e => exact stop _ _
    | none => exact does_begin .refl silent_sendRsp (rewrite_writes _ _ _ _ _) fun t writes => writes

theorem handleSetMemberRole_does (body : Option SetMemberRoleReq) :
    Does (ReflTransGen GroupWrite) (handleSetMemberRole conn seq body) w := by
  have stop : ∀ e (w : World), Does (ReflTransGen GroupWrite) (sendRsp conn .setMemberRoleAck seq e) w :=
    fun _ w => turned_away silent_sendRsp w
  refine does_peek (does_ite (fun _ => stop _ _) fun _ => ?_)
  cases body with
  | none => exact stop _ _
  | some req =>
    refine does_ite (fun _ => stop _ _) fun _ => does_ite (fun _ => stop _ _) fun _ => ?_
    refine does_query_any fun operator => does_ite (fun _ => stop _ _) fun _ => ?_
    refine does_query_any fun target => does_ite (fun _ => stop _ _) fun _ => does_ite (fun _ => stop _ _) fun _ => ?_
    refine does_execute rfl .refl (.single (.role _ _ _ _ fun _ => rfl)) fun updated => ?_
    cases updated with
    | false => exact silent_sendRsp
    | true => exact silent_bind silent_sendGroupNotify fun _ => silent_sendRsp

theorem silent_handleGetGroupInfo (body : Option ConversationReq) :
    Silent (handleGetGroupInfo conn seq body) := by
  refine silent_bind (silent_peek _) fun me => silent_ite silent_sendPacket ?_
  cases body with
  | none => exact silent_sendPacket
  | some req =>
    refine silent_ite silent_sendPacket (silent_bind (silent_query _ _) fun group => ?_)
    cases group with
    | none => exact silent_sendPacket
    | some group =>
      refine silent_bind (silent_query _ _) fun member => silent_ite silent_sendPacket ?_
      exact silent_bind (silent_query _ _) fun _ => silent_sendPacket

theorem silent_handleGetGroupMembers (body : Option ConversationReq) :
    Silent (handleGetGroupMembers conn seq body) := by
  refine silent_bind (silent_peek _) fun me => silent_ite silent_sendPacket ?_
  cases body with
  | none => exact silent_sendPacket
  | some req =>
    refine silent_ite silent_sendPacket (silent_bind (silent_query _ _) fun member => ?_)
    refine silent_ite silent_sendPacket (silent_bind (silent_query _ _) fun members => ?_)
    exact silent_bind (silent_findByIds _) fun _ => silent_sendPacket

theorem silent_handleGetMyGroups : Silent (handleGetMyGroups conn seq) := by
  refine silent_bind (silent_peek _) fun me => silent_ite silent_sendPacket ?_
  refine silent_bind (silent_query _ _) fun groups => silent_bind (silent_query _ _) fun memberships => ?_
  exact silent_bind (silent_countAll _) fun _ => silent_sendPacket

/-- What a request to the service does to the tables, whatever statements fail. -/
theorem handle_does (request : Request) (w : World) :
    Does (ReflTransGen GroupWrite) (handle request) w := by
  cases request with
  | createGroup conn seq body => exact handleCreateGroup_does body
  | dismissGroup conn seq body => exact handleDismissGroup_does body
  | joinGroup conn seq body => exact handleJoinGroup_does body
  | handleJoinReq conn seq body => exact handleJoinReq_does body
  | leaveGroup conn seq body => exact handleLeaveGroup_does body
  | kickMember conn seq body => exact handleKickMember_does body
  | getGroupInfo conn seq body => exact turned_away (silent_handleGetGroupInfo body) w
  | updateGroup conn seq body => exact handleUpdateGroup_does body
  | getGroupMembers conn seq body => exact turned_away (silent_handleGetGroupMembers body) w
  | getMyGroups conn seq => exact turned_away silent_handleGetMyGroups w
  | setMemberRole conn seq body => exact handleSetMemberRole_does body

end GroupService
end NovaIIM
