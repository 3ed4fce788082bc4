import NovaIIM.GroupInvariant
import NovaIIM.ProfileTransactions
import NovaIIM.Services

/-!
The requests that are served by a transaction are all or nothing.

`Transactional.writes` are the writes that a request is there to make, found in the
tables as they are when it comes. Two handlers go on when a statement inside of
their transaction has failed: `GroupService::HandleUpdateGroup` takes a failed query
for the conversation for one that found nothing, and
`UserService::HandleUpdateProfile` does not look at the soft deletion of the old
files. The requests that meet these failures (`Skips`) are the only ones whose
writes are not all there behind an OK.
-/
namespace NovaIIM
open Store

/-- A request that is served by a transaction. -/
inductive Transactional where
  | createGroup (conn : ConnId) (seq : UInt32) (body : Option CreateGroupReq)
  | dismissGroup (conn : ConnId) (seq : UInt32) (body : Option ConversationReq)
  | handleJoinReq (conn : ConnId) (seq : UInt32) (body : Option HandleJoinReqReq)
  | updateGroup (conn : ConnId) (seq : UInt32) (body : Option UpdateGroupReq)
  | handleRequest (conn : ConnId) (seq : UInt32) (body : Option HandleFriendReqReq)
  | deleteFriend (conn : ConnId) (seq : UInt32) (body : Option TargetReq)
  | updateProfile (conn : ConnId) (seq : UInt32) (body : Option UpdateProfileReq)

namespace Transactional

def handle : Transactional → Handler
  | createGroup conn seq body => GroupService.handleCreateGroup conn seq body
  | dismissGroup conn seq body => GroupService.handleDismissGroup conn seq body
  | handleJoinReq conn seq body => GroupService.handleJoinReq conn seq body
  | updateGroup conn seq body => GroupService.handleUpdateGroup conn seq body
  | handleRequest conn seq body => FriendService.handleRequest conn seq body
  | deleteFriend conn seq body => FriendService.handleDeleteFriend conn seq body
  | updateProfile conn seq body => UserService.handleUpdateProfile conn seq body

def conn : Transactional → ConnId
  | createGroup conn .. | dismissGroup conn .. | handleJoinReq conn .. | updateGroup conn .. | handleRequest conn ..
  | deleteFriend conn .. | updateProfile conn .. => conn

/-- The command that answers a request. -/
def ack : Transactional → Cmd
  | createGroup .. => .createGroupAck
  | dismissGroup .. => .dismissGroupAck
  | handleJoinReq .. => .handleJoinReqAck
  | updateGroup .. => .updateGroupAck
  | handleRequest .. => .handleFriendReqAck
  | deleteFriend .. => .deleteFriendAck
  | updateProfile .. => .updateProfileAck

/-- The writes for a join request, for the action of the manager. -/
def joinWrites (req : HandleJoinReqReq) (now : Bytes) (jr : GroupJoinRequest) : List (Write Tables) :=
  if req.action = 1 then GroupService.approveWrites jr now
  else [plain (Tables.setJoinRequestStatus jr.id .rejected now)]

/-- The writes for a friend request, for the action of the one who was asked. -/
def friendWrites (req : HandleFriendReqReq) (now : Bytes) (t : Tables) (fr : FriendRequest) : List (Write Tables) :=
  if req.action = 1 then FriendService.acceptWrites fr now t
  else [plain (Tables.setRequestStatus fr.id .rejected now)]

/-- The row of one user about another one with a uid. -/
def friendshipWith (userId : Int) (uid : Bytes) (t : Tables) : Option Friendship :=
  (t.users.rows.find? fun r => r.uid = uid).bind fun target =>
    t.friendships.rows.find? fun r => r.userId = userId && r.friendId = target.id

/-- The writes that a request is there to make, on a connection with the fields `me`. -/
def writes (me : Connection) (now : Bytes) (t : Tables) : Transactional → List (Write Tables)
  | createGroup _ _ (some req) =>
    GroupService.createWrites me.userId req (GroupService.initialMembers req.memberIds me.userId) now t
  | dismissGroup _ _ (some req) => GroupService.dismissWrites req.conversationId
  | handleJoinReq _ _ (some req) =>
    ((t.groupJoinRequests.rows.find? fun r => r.id = req.requestId).map (joinWrites req now)).getD []
  | updateGroup _ _ (some req) =>
    ((GroupService.groupOf req.conversationId t).map fun group =>
      GroupService.updateWrites req (GroupService.updated group req) t).getD []
  | handleRequest _ _ (some req) =>
    ((t.friendRequests.rows.find? fun r => r.id = req.requestId).map (friendWrites req now t)).getD []
  | deleteFriend _ _ (some req) =>
    ((friendshipWith me.userId req.targetUid t).map fun row =>
      FriendService.deleteWrites me.userId row.friendId row.conversationId now).getD []
  | updateProfile _ _ (some req) =>
    ((UserService.userOf me.uid t).map fun user =>
      UserService.profileWrites user (UserService.trim req.nickname) (UserService.trim req.avatar) req.fileHash now t).getD []
  | _ => []

/-- The request is to go through although one of its writes is not made. -/
def Skips (w : World) : Transactional → Prop
  | updateGroup conn _ (some req) =>
    GroupService.SkipsConversation (w.mem.connections conn) w.faults w.tables req
  | updateProfile conn _ (some req) => UserService.SkipsFiles (w.mem.connections conn) w.faults w.tables req
  | _ => False

/-- The tables hold all the writes of a request. -/
def Written (w : World) (request : Transactional) (t : Tables) : Prop :=
  applyAll (request.writes (w.mem.connections request.conn) (nowText w) w.tables) w.tables = some t

/-- A request is refused and the tables are as before, or it is granted and all of its writes are there. -/
def AllOrNothing (w : World) (request : Transactional) : Prop :=
  Refused request.conn request.ack (request.handle.run w).events ∧ (request.handle.run w).state.tables = w.tables ∨
  Granted request.conn request.ack (Written w request) (request.handle.run w).events (request.handle.run w).state.tables

section Whole
variable {w : World} {conn : ConnId} {seq : UInt32}

/-- A handler that settles with its writes is all or nothing. -/
private theorem whole {request : Transactional} (rolledBack : (request.handle.run w).state.saved = none)
    {done : List Event → Tables → Prop}
    (settled : request.handle.Ensures w (Store.Settled (Refused request.conn request.ack) done w.tables))
    (written : ∀ events t, done events t → Granted request.conn request.ack (Written w request) events t) :
    AllOrNothing w request := by
  rcases settled rolledBack with ⟨reply, same⟩ | granted
  · exact .inl ⟨reply, same⟩
  · exact .inr (written _ _ granted)

private theorem createGroup_whole (body : Option CreateGroupReq)
    (rolledBack : ((createGroup conn seq body).handle.run w).state.saved = none) :
    AllOrNothing w (createGroup conn seq body) := by
  refine whole rolledBack (GroupService.handleCreateGroup_settled body) fun events t granted => ⟨granted.1, ?_⟩
  cases granted.2 with
  | created _ _ req room _ writes => exact writes

private theorem dismissGroup_whole (body : Option ConversationReq)
    (rolledBack : ((dismissGroup conn seq body).handle.run w).state.saved = none) :
    AllOrNothing w (dismissGroup conn seq body) := by
  refine whole rolledBack (GroupService.handleDismissGroup_settled body) fun events t granted => ⟨granted.1, ?_⟩
  cases granted.2 with
  | dismissed _ _ req group known named owner _ writes => exact writes

private theorem handleJoinReq_whole (body : Option HandleJoinReqReq)
    (rolledBack : ((handleJoinReq conn seq body).handle.run w).state.saved = none) :
    AllOrNothing w (handleJoinReq conn seq body) := by
  have only : ∀ {req : HandleJoinReqReq} {jr : GroupJoinRequest}, jr ∈ w.tables.groupJoinRequests.rows →
      jr.id = req.requestId → w.tables.groupJoinRequests.rows.find? (fun r => r.id = req.requestId) = some jr := by
    intro req jr known named
    refine Table.find_eq known (decide_eq_true named) fun other there same => ?_
    exact Table.eq_of_id there known ((of_decide_eq_true same).trans named.symm)
  refine whole rolledBack (GroupService.handleJoinReq_settled body) fun events t granted => ⟨granted.1, ?_⟩
  cases granted.2 with
  | approved _ _ req jr known named pending manager action room _ made =>
    simp only [Written, writes, only known named, Option.map_some, Option.getD_some, joinWrites, if_pos action]
    exact made
  | rejected _ _ req jr known named pending manager action =>
    have other : req.action ≠ 1 := by omega
    simp only [Written, writes, only known named, Option.map_some, Option.getD_some, joinWrites, if_neg other]
    rfl

private theorem handleRequest_whole (body : Option HandleFriendReqReq)
    (rolledBack : ((handleRequest conn seq body).handle.run w).state.saved = none) :
    AllOrNothing w (handleRequest conn seq body) := by
  have only : ∀ {req : HandleFriendReqReq} {fr : FriendRequest}, fr ∈ w.tables.friendRequests.rows →
      fr.id = req.requestId → w.tables.friendRequests.rows.find? (fun r => r.id = req.requestId) = some fr := by
    intro req fr known named
    refine Table.find_eq known (decide_eq_true named) fun other there same => ?_
    exact Table.eq_of_id there known ((of_decide_eq_true same).trans named.symm)
  refine whole rolledBack (FriendService.handleRequest_settled body) fun events t granted => ⟨granted.1, ?_⟩
  cases granted.2 with
  | accepted _ _ req fr known named mine pending action _ made =>
    simp only [Written, writes, only known named, Option.map_some, Option.getD_some, friendWrites, if_pos action]
    exact made
  | rejected _ _ req fr known named mine pending action =>
    have other : req.action ≠ 1 := by omega
    simp only [Written, writes, only known named, Option.map_some, Option.getD_some, friendWrites, if_neg other]
    rfl

private theorem deleteFriend_whole (body : Option TargetReq)
    (rolledBack : ((deleteFriend conn seq body).handle.run w).state.saved = none) :
    AllOrNothing w (deleteFriend conn seq body) := by
  refine whole rolledBack (FriendService.handleDeleteFriend_settled body) fun events t granted => ⟨granted.1, ?_⟩
  cases granted.2 with
  | deleted _ _ req target known named row there pair normal _ made =>
    have user : w.tables.users.rows.find? (fun r => r.uid = req.targetUid) = some target := by
      refine Table.find_eq known (decide_eq_true named) fun other inside same => ?_
      refine Table.eq_of_clash inside known ?_
      simp [Row.clash, (of_decide_eq_true same : other.uid = req.targetUid), named]
    have pair : row.userId = (w.mem.connections conn).userId ∧ row.friendId = target.id := pair
    have found : friendshipWith (w.mem.connections conn).userId req.targetUid w.tables = some row := by
      unfold friendshipWith
      rw [user, Option.bind_some]
      refine Table.find_eq there (by simp [pair]) fun other inside same => ?_
      have same : other.userId = (w.mem.connections conn).userId ∧ other.friendId = target.id := by simpa using same
      refine Table.eq_of_clash inside there ?_
      simp [Row.clash, same, pair]
    simp only [Written, writes, Transactional.conn, found, Option.map_some, Option.getD_some, pair.2]
    exact made

/-- A handler that tells apart the requests that miss a write. -/
private theorem whole_unless {request : Transactional} {skips : Prop} {intended missed : Tables → Prop}
    (rolledBack : (request.handle.run w).state.saved = none)
    (settled : request.handle.Ensures w (Store.Settled (RefusedUnless request.conn request.ack skips)
      (GrantedEither request.conn request.ack skips intended missed) w.tables))
    (written : ∀ t, intended t → Written w request t) (lacks : skips → ∀ t, missed t → ¬Written w request t) :
    AllOrNothing w request ↔ ¬skips := by
  rcases settled rolledBack with ⟨⟨reply, otherwise⟩, same⟩ | ⟨reply, ⟨now_, there⟩ | ⟨otherwise, there⟩⟩
  · exact iff_of_true (.inl ⟨reply, same⟩) otherwise
  · refine iff_of_false ?_ (not_not_intro now_)
    rintro (⟨⟨code, bad, reply'⟩, -⟩ | ⟨-, done⟩)
    · exact bad (List.cons.inj (reply'.symm.trans reply)).1
    · exact lacks now_ _ there done
  · exact iff_of_true (.inr ⟨reply, written _ there⟩) otherwise

private theorem updateGroup_whole (req : UpdateGroupReq)
    (rolledBack : ((updateGroup conn seq (some req)).handle.run w).state.saved = none) :
    AllOrNothing w (updateGroup conn seq (some req)) ↔
      ¬GroupService.SkipsConversation (w.mem.connections conn) w.faults w.tables req := by
  refine whole_unless rolledBack (GroupService.handleUpdateGroup_either req) ?_ ?_
  · rintro t ⟨-, group, known, made⟩
    simp only [Written, writes, known, Option.map_some, Option.getD_some]
    exact made
  · rintro skips t ⟨-, group, known, rfl⟩ made
    obtain ⟨group', known', conv, here, differs⟩ := skips.outdated
    cases known.symm.trans known'
    simp only [Written, writes, known, Option.map_some, Option.getD_some, GroupService.updateWrites, here,
      Option.toList_some, List.map_singleton, applyAll_plain, applyAll_nil, Option.some.injEq] at made
    -- the row with the changes would be in the table next to the one it replaces
    have inside : conv ∈ w.tables.conversations.rows := List.mem_of_find?_eq_some here
    have changed : GroupService.rewritten req (GroupService.updated group req) conv ∈
        ((w.tables.updateGroup (GroupService.updated group req)).updateConversation
          (GroupService.rewritten req (GroupService.updated group req) conv)).conversations.rows :=
      (mem_replaced inside (if_pos rfl)).mpr (.inl rfl)
    rw [made] at changed
    exact differs (Table.eq_of_id changed inside rfl)

private theorem updateProfile_whole (req : UpdateProfileReq)
    (rolledBack : ((updateProfile conn seq (some req)).handle.run w).state.saved = none) :
    AllOrNothing w (updateProfile conn seq (some req)) ↔
      ¬UserService.SkipsFiles (w.mem.connections conn) w.faults w.tables req := by
  refine whole_unless rolledBack (UserService.handleUpdateProfile_settled conn seq req w) ?_ ?_
  · rintro t ⟨user, known, made⟩
    simp only [Written, writes, Transactional.conn, known, Option.map_some, Option.getD_some]
    exact made
  · rintro skips t ⟨user, known, f, inside, stays⟩ made
    simp only [Written, writes, Transactional.conn, known, Option.map_some, Option.getD_some] at made
    obtain ⟨there, active⟩ := List.mem_filter.mp inside
    have active : f.status = .active := by
      simp only [Bool.and_eq_true, decide_eq_true_eq] at active
      exact active.2
    rw [UserService.profileWrites, if_neg skips.avatar] at made
    split at made
    · exact UserService.avatarWrites_gone made inside there active stays
    · exact UserService.avatarWrites_gone (applyAll_plain.mp made) inside there active stays

end Whole

/-- With a ROLLBACK that does not fail, a request is all or nothing unless it skips a write. -/
theorem all_or_nothing (w : World) (request : Transactional) (rolledBack : (request.handle.run w).state.saved = none) :
    AllOrNothing w request ↔ ¬request.Skips w := by
  cases request with
  | createGroup conn seq body => exact iff_of_true (createGroup_whole body rolledBack) not_false
  | dismissGroup conn seq body => exact iff_of_true (dismissGroup_whole body rolledBack) not_false
  | handleJoinReq conn seq body => exact iff_of_true (handleJoinReq_whole body rolledBack) not_false
  | handleRequest conn seq body => exact iff_of_true (handleRequest_whole body rolledBack) not_false
  | deleteFriend conn seq body => exact iff_of_true (deleteFriend_whole body rolledBack) not_false
  | updateGroup conn seq body =>
    cases body with
    | some req => exact updateGroup_whole req rolledBack
    | none =>
      refine iff_of_true (whole rolledBack (GroupService.handleUpdateGroup_settled none) fun events t granted => ?_) not_false
      cases granted.2
  | updateProfile conn seq body =>
    cases body with
    | some req => exact updateProfile_whole req rolledBack
    | none =>
      have stop : ∀ e : Error, e.code ≠ 0 → (sendRsp conn .updateProfileAck seq e).Ensures w
          (Store.Settled (Refused conn .updateProfileAck) (fun _ _ => False) w.tables) :=
        fun e bad => settled_refused silent_sendRsp rfl (refused_sendRsp bad _)
      refine iff_of_true (whole rolledBack ?_ fun _ _ granted => False.elim granted) not_false
      exact ensures_peek (Prog.ensures_ite (fun _ => stop _ (by decide)) fun _ => stop _ (by decide))

end Transactional

/-! ### A group of three users -/

open Transactional

/-- User 1 creates a group with the other two. -/
private def foundedGroup : List (Call Request) :=
  [{ connections := fun conn => { userId := conn },
     request := .group (.createGroup 1 0 (some { name := [103], avatar := [], memberIds := [2, 3] })) }]

/-- The server behind it, with a list of failures to come. -/
private def foundedWith (faults : List Bool) : World :=
  { after (perform handle) threeUsers foundedGroup with faults := faults }

/-- The group gets a new name. -/
private def newName : Transactional :=
  .updateGroup 1 0 (some { conversationId := 1, name := [110], avatar := [], notice := [] })

private def names (t : Tables) : List Bytes := t.conversations.rows.map Conversation.name

/-- The query for the conversation fails, and the conversation keeps its name behind an OK. -/
theorem transaction_skips_conversation :
    ¬∀ (calls : List (Call Request)) (faults : List Bool) (request : Transactional),
      (request.handle.run { after (perform handle) threeUsers calls with faults := faults }).state.saved = none →
        AllOrNothing { after (perform handle) threeUsers calls with faults := faults } request := by
  intro claim
  have whole := claim foundedGroup [false, false, false, false, true] newName (by decide)
  have granted : replies 1 .updateGroupAck
      (newName.handle.run (foundedWith [false, false, false, false, true])).events = [0] := by decide
  have old : names (newName.handle.run (foundedWith [false, false, false, false, true])).state.tables = [[103]] := by decide
  have new : (applyAll (newName.writes { userId := 1 } (nowText (foundedWith [])) (foundedWith []).tables)
      (foundedWith []).tables).map names = some [[110]] := by decide
  rcases whole with ⟨⟨code, bad, reply⟩, -⟩ | ⟨-, written⟩
  · exact bad (List.cons.inj (reply.symm.trans granted)).1
  · have kept : some [([110] : Bytes)] = some [[103]] :=
      new.symm.trans ((congrArg (Option.map names) written).trans (congrArg some old))
    revert kept
    decide

/-- When the COMMIT fails, nothing is written. -/
theorem all_or_nothing_commit : AllOrNothing (foundedWith [false, false, false, false, false, false, true]) newName :=
  (all_or_nothing _ newName (by decide)).mpr fun skips => absurd skips.unread (by decide)

end NovaIIM
