import NovaIIM.GroupTransactions
import NovaIIM.Writers

/-!
Whatever is served without failures leaves no transaction open.

Most handlers have no transaction statement. A send allocates its seq in a transaction of
its own, and the others that open one (`accept`, `remove`, `updateProfile` and those of the
group service) close it on every way out.
-/
namespace NovaIIM
open Store

/-! ### The friend service -/

namespace FriendService
variable {conn : ConnId} {seq : UInt32}

private theorem stop {opened : Bool} {e : Error} : Closes opened (abort (sendHandleFriendReqAck conn seq e 0)) :=
  closes_abort fun s => by simp [sendHandleFriendReqAck, sendPacket, send]

private theorem stop_remove {opened : Bool} {e : Error} : Closes opened (abort (sendRsp conn .deleteFriendAck seq e)) :=
  closes_abort fun s => by simp [sendRsp, sendPacket, send]

private theorem accept_closes (userId requestId : Int) (fr : FriendRequest) :
    Closes true (accept conn seq userId requestId fr) := by
  refine closes_statement (fun s => ⟨_, _, _, run_updateRequestStatus _ _ s⟩) fun _ => closes_ite stop ?_
  refine closes_statement (fun s => ⟨_, _, _, run_createConversation _ s⟩) fun conv => ?_
  cases conv with
  | none => exact stop
  | some conversationId =>
  refine closes_statement (fun s => ⟨_, _, _, run_addMember _ s⟩) fun _ => closes_ite stop ?_
  refine closes_statement (fun s => ⟨_, _, _, run_addMember _ s⟩) fun _ => closes_ite stop ?_
  refine closes_statement (fun s => ⟨_, _, _, run_insertFriendship _ s⟩) fun _ => closes_ite stop ?_
  refine closes_statement (fun s => ⟨_, _, _, run_insertFriendship _ s⟩) fun _ => closes_ite stop ?_
  exact closes_commit silent_requestHandled

private theorem remove_closes (myId targetId conversationId : Int) :
    Closes true (remove conn seq myId targetId conversationId) := by
  have left : ∀ userId, Outside (if 0 < conversationId then ConversationDao.removeMember conversationId userId else pure true) :=
    fun userId => outside_ite (outside_execute _) (outside_ret true)
  refine closes_statement (fun s => ⟨_, _, _, run_updateFriendshipStatus _ _ _ s⟩) fun _ => closes_ite stop_remove ?_
  refine closes_statement (fun s => ⟨_, _, _, run_updateFriendshipStatus _ _ _ s⟩) fun _ => closes_ite stop_remove ?_
  refine closes_behind (left myId) fun _ => closes_ite stop_remove (closes_behind (left targetId) fun _ => ?_)
  exact closes_ite stop_remove (closes_commit (silent_bind silent_notifyFrom fun _ => silent_sendRsp))

/-- A request that is served without failures leaves no transaction open. -/
theorem handle_closes (request : Request) : Closes false (handle request) := by
  have away : ∀ {conn seq cmd e}, Closes false (sendRsp conn cmd seq e) := closes_silent silent_sendRsp
  cases request with
  | addFriend conn seq body =>
    have refused : ∀ e, Closes false (sendAddFriendAck conn seq e 0) := fun _ => closes_silent silent_sendPacket
    refine closes_peek fun me => closes_ite (refused _) ?_
    cases body with
    | none => exact refused _
    | some req =>
      refine closes_ite (refused _) (closes_ite (refused _) (closes_query fun target => ?_))
      cases target with
      | none => exact refused _
      | some target =>
        refine closes_ite (refused _) (closes_query fun _ => closes_ite (refused _) (closes_query fun _ => ?_))
        refine closes_ite (refused _) (closes_ite (refused _) (closes_query fun _ => closes_ite (refused _) ?_))
        refine closes_query fun _ => closes_ite (refused _) (closes_ite (refused _) ?_)
        refine closes_statement (fun s => ⟨_, _, _, run_insertRequest _ s⟩) fun id => ?_
        cases id with
        | none => exact refused _
        | some id => exact closes_silent (silent_bind silent_notifyFrom fun _ => silent_sendPacket)
  | handleRequest conn seq body =>
    have refused : ∀ e, Closes false (sendHandleFriendReqAck conn seq e 0) := fun _ => closes_silent silent_sendPacket
    refine closes_peek fun me => closes_ite (refused _) ?_
    cases body with
    | none => exact refused _
    | some req =>
      refine closes_ite (refused _) (closes_ite (refused _) (closes_query fun found => ?_))
      cases found with
      | none => exact refused _
      | some fr =>
        refine closes_ite (refused _) (closes_ite (refused _) (closes_ite ?_ ?_))
        · exact closes_query fun _ => closes_ite (refused _) (closes_begin (accept_closes _ _ _))
        · refine closes_statement (fun s => ⟨_, _, _, run_updateRequestStatus _ _ s⟩) fun _ => closes_ite (refused _) ?_
          exact closes_silent silent_requestHandled
  | deleteFriend conn seq body =>
    refine closes_peek fun me => closes_ite away ?_
    cases body with
    | none => exact away
    | some req =>
      refine closes_ite away (closes_query fun target => ?_)
      cases target with
      | none => exact away
      | some target =>
        refine closes_query fun fs => ?_
        cases fs with
        | none => exact away
        | some fs => exact closes_ite away (closes_begin (remove_closes _ _ _))
  | block conn seq body =>
    refine closes_peek fun me => closes_ite away ?_
    cases body with
    | none => exact away
    | some req =>
      refine closes_ite away (closes_ite away (closes_query fun target => ?_))
      cases target with
      | none => exact away
      | some target =>
        refine closes_query fun fs => ?_
        cases fs with
        | none =>
          exact closes_statement (fun s => ⟨_, _, _, run_insertFriendship _ s⟩) fun _ => closes_ite away away
        | some fs =>
          refine closes_ite away ?_
          exact closes_statement (fun s => ⟨_, _, _, run_updateFriendshipStatus _ _ _ s⟩) fun _ => closes_ite away away
  | unblock conn seq body =>
    refine closes_peek fun me => closes_ite away ?_
    cases body with
    | none => exact away
    | some req =>
      refine closes_ite away (closes_query fun target => ?_)
      cases target with
      | none => exact away
      | some target =>
        refine closes_query fun fs => ?_
        cases fs with
        | none => exact away
        | some fs =>
          refine closes_ite away ?_
          exact closes_statement (fun s => ⟨_, _, _, run_updateFriendshipStatus _ _ _ s⟩) fun _ => closes_ite away away
  | getFriendList conn seq => exact closes_silent silent_handleGetFriendList
  | getRequests conn seq body => exact closes_silent silent_handleGetRequests

end FriendService

/-! ### The user service -/

namespace UserService
variable {conn : ConnId} {seq : UInt32}

private theorem stop_update {opened : Bool} {e : Error} : Closes opened (abort (sendRsp conn .updateProfileAck seq e)) :=
  closes_abort fun s => by simp [sendRsp, sendPacket, send]

private theorem updateAvatarFile_closes (uid : Bytes) (user : User) (avatar fileHash : Bytes) :
    Closes true (updateAvatarFile conn seq uid user avatar fileHash) := by
  have updated : AsideHandler (UserDao.updateAvatar uid avatar) := plain_updateAvatar
  have deleted : AsideHandler (FileDao.softDeleteByUserAndType user.id (ascii "avatar")) := plain_softDelete.social
  have inserted : ∀ file, AsideHandler (FileDao.insert file) := fun _ => plain_insertFile.social
  have done : Closes true (profileCommitted conn seq) := closes_commit silent_sendRsp
  refine closes_ite done (closes_behind updated.outside fun _ => closes_ite stop_update ?_)
  exact closes_behind deleted.outside fun _ => closes_behind (inserted _).outside fun _ => closes_ite stop_update done

private theorem updateProfile_closes (uid : Bytes) (user : User) (nickname avatar fileHash : Bytes) :
    Closes true (updateProfile conn seq uid user nickname avatar fileHash) := by
  have updated : AsideHandler (UserDao.updateNickname uid nickname) := plain_updateNickname
  refine closes_ite (updateAvatarFile_closes _ _ _ _) (closes_behind updated.outside fun _ => ?_)
  exact closes_ite stop_update (updateAvatarFile_closes _ _ _ _)

private theorem handleUpdateProfile_closes (body : Option UpdateProfileReq) :
    Closes false (handleUpdateProfile conn seq body) := by
  have away : ∀ {e}, Closes false (sendRsp conn .updateProfileAck seq e) := closes_silent silent_sendRsp
  refine closes_peek fun me => closes_ite away ?_
  cases body with
  | none => exact away
  | some req =>
    dsimp only
    cases profileError (trim req.nickname) (trim req.avatar) with
    | some e => exact away
    | none =>
      refine closes_query fun user => ?_
      cases user with
      | none => exact away
      | some user =>
        exact closes_begin (updateProfile_closes _ _ _ _ _)

theorem handle_closes (request : Request) : Closes false (handle request) := by
  cases request with
  | register conn seq body => exact closes_outside (plain_handleRegister body).outside
  | login conn seq body => exact closes_outside (plain_handleLogin body).outside
  | logout conn seq => exact closes_outside plain_handleLogout.outside
  | heartbeat conn seq => exact closes_outside plain_handleHeartbeat.outside
  | searchUser conn seq body => exact closes_outside (plain_handleSearchUser body).outside
  | getProfile conn seq body => exact closes_outside (plain_handleGetProfile body).outside
  | updateProfile conn seq body => exact handleUpdateProfile_closes body

end UserService

/-! ### The message service -/

namespace MsgService

/-- The allocation of a seq closes its transaction. -/
theorem outside_generateSeq (conversationId : Int) : Outside (generateSeq conversationId) := by
  intro w sound
  show (ConversationDao.incrMaxSeq conversationId).Ensures w fun o => o.state.saved = w.saved ∧ o.state.faults = []
  refine Prog.ensures_atomic (ensures_begin (fun _ => ⟨rfl, spend_sound sound⟩) fun _ closed => ?_)
  have opened : w.opened.faults = [] := by simp [sound]
  have undo : ∀ w' : World, w'.faults = [] →
      (rollback >>= fun _ => (.ret (-1) : Action Int)).Ensures w' fun o => o.state.saved = w.saved ∧ o.state.faults = [] := by
    intro w' sound'
    show ((rollback : Handler).run w').state.saved = w.saved ∧ ((rollback : Handler).run w').state.faults = []
    rw [run_rollback, if_neg (by simp [fails_sound sound'])]
    exact ⟨closed.symm, by simp [Store.undone, sound']⟩
  refine ensures_execute rfl (fun _ => undo _ (spend_sound opened)) fun _ => ?_
  refine ensures_query (fun _ => undo _ (spend_sound (spend_sound opened))) fun _ => ?_
  split
  · exact undo _ (spend_sound (spend_sound opened))
  · refine sound_commit (spend_sound (spend_sound opened)) (by simp) ⟨?_, by simp [sound]⟩
    rw [closed]
    rfl

private theorem outside_sendPacket {conn : ConnId} {cmd : Cmd} {seq : UInt32} {body : Body} :
    Outside (sendPacket conn cmd seq body) := outside_emits _

private theorem outside_dedupFind (key : Bytes) : Outside (dedupFind key) := fun _ sound => ⟨rfl, sound⟩

private theorem outside_dedupInsert (key : Bytes) (ack : SendMsgAck) : Outside (dedupInsert key ack) := fun _ sound => ⟨rfl, sound⟩

private theorem outside_tryMarkInflight (key : Bytes) : Outside (tryMarkInflight key) := fun _ sound => ⟨rfl, sound⟩

private theorem outside_removal (key : Bytes) : Outside (dedupRemoveInflightIfNeeded key) :=
  outside_ite (outside_ret ()) (outside_modify _)

private theorem outside_sendDelivered (conn : ConnId) (senderId : Int) (req : SendMsgReq) (serverSeq epochMs : Int) :
    Outside (sendDelivered conn senderId req serverSeq epochMs) := by
  refine outside_bind (outside_bind (outside_query _ _) fun members => outside_forEach fun m => ?_) fun _ =>
    outside_bind (outside_peek _) fun me => outside_bind (outside_bind (outside_query _ _) fun members =>
      outside_forEach fun m => outside_bind (outside_peek _) fun conns => outside_forEach fun c => ?_) fun _ =>
        outside_bind (outside_query _ _) fun members => outside_forEach fun m => ?_
  · exact outside_ite (outside_ret ()) (outside_bind (outside_execute _) fun _ => outside_ret ())
  · exact outside_bind (outside_peek _) fun device => outside_ite (outside_ret ()) (outside_emits _)
  · exact outside_ite (outside_ret ()) (outside_bind (outside_peek _) fun conns => outside_forEach fun c => outside_emits _)

private theorem outside_sendChecked (conn : ConnId) (seq : UInt32) (senderId : Int) (req : SendMsgReq) :
    Outside (sendChecked conn seq senderId req) := by
  have quit : ∀ e, Outside (do dedupRemoveInflightIfNeeded req.clientMsgId; sendAckError conn seq e) :=
    fun e => outside_bind (outside_removal _) fun _ => outside_sendPacket
  refine outside_bind (outside_query _ _) fun member => outside_ite (quit _) ?_
  refine outside_bind (outside_generateSeq _) fun serverSeq => outside_ite (quit _) ?_
  refine outside_bind (outside_peek _) fun epochMs => outside_bind (outside_execute _) fun inserted => outside_ite (quit _) ?_
  refine outside_bind (outside_ite (outside_ret ()) (outside_atomic ?_)) fun _ => outside_bind outside_sendPacket fun _ =>
    outside_sendDelivered _ _ _ _ _
  exact outside_bind (outside_modify _) fun _ => outside_dedupInsert _ _

theorem outside_handleSendMsg (conn : ConnId) (seq : UInt32) (body : Option SendMsgReq) :
    Outside (handleSendMsg conn seq body) := by
  refine outside_bind (outside_peek _) fun me => outside_ite outside_sendPacket ?_
  cases body with
  | none => exact outside_sendPacket
  | some req =>
    refine outside_bind (outside_peek _) fun config => ?_
    split
    · exact outside_sendPacket
    · refine outside_ite (outside_sendChecked _ _ _ _) (outside_bind (outside_atomic ?_) fun fresh =>
        outside_ite (outside_ret ()) (outside_sendChecked _ _ _ _))
      refine outside_bind (outside_dedupFind _) fun cached => ?_
      cases cached with
      | some ack => exact outside_bind outside_sendPacket fun _ => outside_ret _
      | none =>
        refine outside_bind (outside_tryMarkInflight _) fun marked => outside_ite ?_ (outside_ret _)
        exact outside_bind outside_sendPacket fun _ => outside_ret _

/-- A change of a status has no transaction statement. -/
theorem outside_updateStatus (id : Int) (status : MsgStatus) : Outside (MessageDao.updateStatus id status) := by
  refine outside_atomic (outside_bind (outside_query _ _) fun found => ?_)
  cases found with
  | none => exact outside_ret _
  | some msg => exact outside_execute _

theorem outside_handleRecallMsg (conn : ConnId) (seq : UInt32) (body : Option RecallMsgReq) :
    Outside (handleRecallMsg conn seq body) := by
  refine outside_bind (outside_peek _) fun me => outside_ite outside_sendPacket ?_
  cases body with
  | none => exact outside_sendPacket
  | some req =>
    refine outside_ite outside_sendPacket (outside_bind (outside_query _ _) fun member => outside_ite outside_sendPacket ?_)
    refine outside_bind (outside_query _ _) fun found => ?_
    cases found with
    | none => exact outside_sendPacket
    | some msg =>
      refine outside_ite outside_sendPacket (outside_ite outside_sendPacket (outside_bind (outside_peek _) fun mem => ?_))
      split
      · exact outside_sendPacket
      · refine outside_bind (outside_updateStatus _ _) fun updated => outside_ite outside_sendPacket ?_
        refine outside_bind outside_sendPacket fun _ => outside_bind (outside_peek _) fun sender => ?_
        refine outside_bind (outside_query _ _) fun members => outside_forEach fun m => ?_
        refine outside_bind (outside_peek _) fun conns => outside_forEach fun c => ?_
        exact outside_bind (outside_peek _) fun device => outside_ite (outside_ret ()) (outside_emits _)

theorem handle_closes (request : Request) : Closes false (handle request) := by
  cases request with
  | sendMsg conn seq body => exact closes_outside (outside_handleSendMsg conn seq body)
  | recallMsg conn seq body => exact closes_outside (outside_handleRecallMsg conn seq body)
  | deliverAck conn body => exact closes_outside (plain_handleDeliverAck body).outside
  | readAck conn seq body => exact closes_outside (plain_handleReadAck body).outside

end MsgService

/-! ### The readers -/

namespace SyncService

theorem silent_handleSyncMsg (conn : ConnId) (seq : UInt32) (body : Option SyncMsgReq) :
    Silent (handleSyncMsg conn seq body) := by
  refine silent_bind (silent_peek _) fun me => silent_ite silent_sendPacket ?_
  cases body with
  | none => exact silent_sendPacket
  | some req =>
    refine silent_ite silent_sendPacket (silent_bind (silent_query _ _) fun member => silent_ite silent_sendPacket ?_)
    refine silent_bind (silent_peek _) fun config => silent_bind (silent_query _ _) fun messages => ?_
    exact silent_bind (silent_findByIds _) fun users => silent_sendPacket

theorem silent_handleSyncUnread (conn : ConnId) (seq : UInt32) : Silent (handleSyncUnread conn seq) := by
  refine silent_bind (silent_peek _) fun me => silent_ite silent_sendPacket ?_
  refine silent_bind (silent_query _ _) fun memberships => silent_bind (silent_ite (silent_ret _) (silent_query _ _)) fun _ => ?_
  refine silent_bind (silent_ite (silent_ret _) ?_) fun _ => silent_sendPacket
  exact silent_bind (silent_latest _ _) fun _ => silent_bind (silent_findByIds _) fun _ => silent_ret _

theorem handle_closes (request : Request) : Closes false (handle request) := by
  cases request with
  | syncMsg conn seq body => exact closes_silent (silent_handleSyncMsg conn seq body)
  | syncUnread conn seq => exact closes_silent (silent_handleSyncUnread conn seq)

end SyncService

theorem ConvService.handle_closes (request : ConvService.Request) : Closes false (ConvService.handle request) := by
  cases request with
  | getConvList conn seq => exact closes_silent silent_handleGetConvList
  | deleteConv conn seq body => exact closes_outside (plain_handleDeleteConv body).outside
  | muteConv conn seq body => exact closes_outside (plain_handleMuteConv body).outside
  | pinConv conn seq body => exact closes_outside (plain_handlePinConv body).outside

/-! ### The server -/

theorem AdminServer.handle_outside (request : AdminServer.Request) : Outside (AdminServer.handle request) := by
  cases request with
  | banUser permitted uid => exact (plain_setStatus ..).outside
  | unbanUser permitted uid => exact (plain_setStatus ..).outside
  | deleteUser permitted uid => exact (plain_setStatus ..).outside
  | kickUser permitted uid => exact (plain_handleKickUser ..).outside
  | recallMessage permitted id =>
    have published : ∀ event, Outside (MessageBus.publish event) := fun _ => outside_modify _
    have logged : AsideHandler writeAuditLog := plain_writeAuditLog
    refine outside_ite (outside_ret _) (outside_ite (outside_ret _) (outside_bind (outside_query _ _) fun found => ?_))
    cases found with
    | none => exact outside_ret _
    | some msg =>
      refine outside_bind (MsgService.outside_updateStatus _ _) fun _ => outside_ite (outside_ret _) ?_
      exact outside_bind (published _) fun _ => outside_bind logged.outside fun _ => outside_ret _

theorem serve_closes (input : Input) : Closes false (serve sqliteDaoFactory input) := by
  cases input with
  | packet request =>
    cases request with
    | user request =>
      rw [serve, Router.dispatch, UserService.handleWith_sqlite]
      exact UserService.handle_closes request
    | msg request => exact MsgService.handle_closes request
    | sync request => exact SyncService.handle_closes request
    | friend request =>
      rw [serve, Router.dispatch, FriendService.handleWith_sqlite]
      exact FriendService.handle_closes request
    | conv request => exact ConvService.handle_closes request
    | group request =>
      rw [serve, Router.dispatch, GroupService.handleWith_sqlite]
      exact GroupService.handle_closes request
    | file request => exact closes_outside (FileService.plain_handle request).outside
  | disconnected conn => exact closes_outside Gateway.plain_onDisconnected.outside
  | admin request => exact closes_outside (outside_bind (AdminServer.handle_outside request) fun _ => outside_ret ())
  | bus => exact closes_outside Application.plain_dispatchMessage.outside

/-- Between arrivals without failures no transaction is open. -/
theorem closed_received {w : World} {arrival : Arrival} (closed : w.saved = none) (sound : arrival.faults = []) :
    (receive sqliteDaoFactory w arrival).saved = none :=
  serve_closes arrival.input _ sound (by simp [closed])

end NovaIIM
