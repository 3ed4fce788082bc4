import NovaIIM.MsgService
import NovaIIM.UserService

/-!
What an administrator does to users and messages (`admin/admin_server.cpp`), and what
the rest of the server does about it (the subscribers of `core/application.cpp`).

A handler of the admin server answers over HTTP; it reaches the connections of users
through the message bus, whose one dispatcher hands the events over in their order.
-/
namespace NovaIIM
open Store

/-- `http_helper.h`: a reply is a code, a text and an HTTP status. -/
structure ApiReply where
  code : Int
  msg : String
  httpStatus : Nat
deriving DecidableEq, Repr

namespace apiErr
def kInvalidUserId : ApiReply := ⟨1, "invalid user id", 400⟩
def kInvalidMessageId : ApiReply := ⟨1, "invalid message id", 400⟩
def kPermissionDenied : ApiReply := ⟨3, "permission denied", 403⟩
def kUserNotFound : ApiReply := ⟨4, "user not found", 200⟩
def kMessageNotFound : ApiReply := ⟨4, "message not found", 200⟩
def kUserNotOnline : ApiReply := ⟨4, "user not online", 200⟩
def kRecallFailed : ApiReply := ⟨5, "failed to recall message", 500⟩
end apiErr

/-- `JsonOk`. -/
def jsonOk : ApiReply := ⟨0, "ok", 200⟩

namespace MessageBus

/-- The capacity that `ServerContext` gives its bus. -/
def kQueueCapacity : Nat := 4096

/-- `publish` under `FullPolicy::ReturnFalse`: an event that finds the queue full is dropped. -/
def publish (event : BusEvent) : Handler :=
  modify fun m => if m.bus.length < kQueueCapacity then { m with bus := m.bus ++ [event] } else m

end MessageBus

namespace AdminServer

/-- `WriteAuditLog`: a row in a table that no handler here reads. -/
def writeAuditLog : Handler := do
  let _ ← execute fun t => t

/-- `KickAllConns`. -/
def kickAllConns (userId : Int) : Action Nat := do
  let conns ← getConns userId
  (if 0 < conns.length then MessageBus.publish (.adminKickUser userId) else return ())
  return conns.length

/-- The new status of a user, by `HandleBanUser`, `HandleUnbanUser` and `HandleDeleteUser`. -/
def setStatus (permitted : Bool) (uid : Bytes) (status : AccountStatus) (kick : Bool) : Action ApiReply :=
  if !permitted then return apiErr.kPermissionDenied
  else if uid.isEmpty then return apiErr.kInvalidUserId
  else do
  let updated ← UserDao.updateStatus uid status
  match updated with
  | none => return apiErr.kUserNotFound
  | some id => do
    (if kick then do
      let _ ← kickAllConns id
      return ()
    else return ())
    writeAuditLog
    return jsonOk

/-- `AdminServer::HandleBanUser`; `permitted` is the outcome of `RequirePermission`. -/
def handleBanUser (permitted : Bool) (uid : Bytes) : Action ApiReply := setStatus permitted uid .banned true

/-- `AdminServer::HandleUnbanUser`. -/
def handleUnbanUser (permitted : Bool) (uid : Bytes) : Action ApiReply := setStatus permitted uid .normal false

/-- `AdminServer::HandleDeleteUser`. -/
def handleDeleteUser (permitted : Bool) (uid : Bytes) : Action ApiReply := setStatus permitted uid .deleted true

/-- `AdminServer::HandleKickUser`. -/
def handleKickUser (permitted : Bool) (uid : Bytes) : Action ApiReply :=
  if !permitted then return apiErr.kPermissionDenied
  else if uid.isEmpty then return apiErr.kInvalidUserId
  else do
  let user ← UserDao.findByUid uid
  match user with
  | none => return apiErr.kUserNotFound
  | some user => do
    let kicked ← kickAllConns user.id
    if kicked = 0 then return apiErr.kUserNotOnline
    else do
    writeAuditLog
    return jsonOk

/-- `AdminServer::HandleRecallMessage`. -/
def handleRecallMessage (permitted : Bool) (id : Int) : Action ApiReply :=
  if !permitted then return apiErr.kPermissionDenied
  else if id ≤ 0 then return apiErr.kInvalidMessageId
  else do
  let msg ← MessageDao.findById id
  match msg with
  | none => return apiErr.kMessageNotFound
  | some msg => do
    let updated ← MessageDao.updateStatus id .recalled
    if !updated then return apiErr.kRecallFailed
    else do
    MessageBus.publish (.adminRecallMsg id msg.conversationId msg.seq)
    writeAuditLog
    return jsonOk

/-- A request to the admin server. -/
inductive Request where
  | banUser (permitted : Bool) (uid : Bytes)
  | unbanUser (permitted : Bool) (uid : Bytes)
  | deleteUser (permitted : Bool) (uid : Bytes)
  | kickUser (permitted : Bool) (uid : Bytes)
  | recallMessage (permitted : Bool) (id : Int)

def handle : Request → Action ApiReply
  | .banUser permitted uid => handleBanUser permitted uid
  | .unbanUser permitted uid => handleUnbanUser permitted uid
  | .deleteUser permitted uid => handleDeleteUser permitted uid
  | .kickUser permitted uid => handleKickUser permitted uid
  | .recallMessage permitted id => handleRecallMessage permitted id

end AdminServer

/-! ### The subscribers -/

namespace Application

/-- The subscriber of `kAdminKickUser`: the connections are told, taken off the table and closed. -/
def onAdminKickUser (userId : Int) : Handler := do
  let conns ← getConns userId
  .forEach conns fun c => do
    sendPacket c .kickNotify 0 (.rspBase ⟨errc.kick.kAdminKick.code, errc.kick.kAdminKick.msg⟩)
    UserService.removeConn userId c
    close c

/-- The subscriber of `kAdminRecallMsg`: every connection of a member is told. -/
def onAdminRecallMsg (conversationId serverSeq : Int) : Handler := do
  let members ← ConversationDao.getMembersByConversation conversationId
  .forEach members fun m => sendToUser m.userId
    { cmd := .recallNotify
      body := .recallNotify { conversationId := conversationId, serverSeq := serverSeq, operatorUid := [] } }

def onEvent : BusEvent → Handler
  | .adminKickUser userId => onAdminKickUser userId
  | .adminRecallMsg _ conversationId serverSeq => onAdminRecallMsg conversationId serverSeq

/-- The dispatcher of the bus takes the next event. -/
def dispatchMessage : Handler := do
  let bus ← peek fun m => m.bus
  match bus with
  | [] => return ()
  | event :: rest => do
    modify fun m => { m with bus := rest }
    onEvent event

end Application
end NovaIIM
