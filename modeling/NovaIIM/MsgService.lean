import NovaIIM.ConvService

/-!
The message service (`service/msg_service.cpp`): sending, recalling and
acknowledging messages.

`handleSendMsg` is written in the stages at which other threads can come in
between: the section under `dedup_mutex_` that looks the key up and marks it in
flight, the membership check, the allocation of a seq, the insertion of the row,
the section that fills the cache, the reply and the pushes.
-/
namespace NovaIIM.MsgService
open Store

/-- `kInflightTimeout`: 30 seconds, in nanoseconds. -/
def kInflightTimeout : Nat := 30000000000

/-- `DedupFind`, with the key it uses as an event. -/
def dedupFind (key : Bytes) : Action (Option SendMsgAck) :=
  .step (fun w => { w with mem := { w.mem with dedup := (w.mem.dedup.dedupFind key).2 } })
    (fun _ => [.dedup key]) fun w => (w.mem.dedup.dedupFind key).1

/-- `DedupInsert`, with the key it uses as an event. -/
def dedupInsert (key : Bytes) (ack : SendMsgAck) : Handler :=
  .step (fun w => { w with mem := { w.mem with
      dedup := w.mem.dedup.dedupInsert w.mem.config.dedupCacheSize key ack } })
    (fun _ => [.dedup key]) fun _ => ()

/-- `TryMarkInflight` on the map of marks. -/
def mark (inFlight : AList fun _ : Bytes => Nat) (key : Bytes) (now : Nat) :
    Bool × AList fun _ : Bytes => Nat :=
  match inFlight.lookup key with
  | none => (true, inFlight.insert key now)
  | some marked =>
    if kInflightTimeout ≤ now - marked then (true, inFlight.insert key now) else (false, inFlight)

def tryMarkInflight (key : Bytes) : Action Bool :=
  .step (fun w => { w with mem := { w.mem with inFlight := (mark w.mem.inFlight key w.mem.steady).2 } })
    (fun _ => []) fun w => (mark w.mem.inFlight key w.mem.steady).1

/-- `in_flight_.erase(key)`. -/
def removeInflight (key : Bytes) : Handler :=
  modify fun m => { m with inFlight := m.inFlight.erase key }

/-- `DedupRemoveInflightIfNeeded`. -/
def dedupRemoveInflightIfNeeded (key : Bytes) : Handler :=
  if key.isEmpty then return () else removeInflight key

/-- `SendPacket` of a `SendMsgAck`. -/
def sendAck (conn : ConnId) (seq : UInt32) (ack : SendMsgAck) : Handler :=
  sendPacket conn .sendMsgAck seq (.sendMsgAck ack)

def sendAckError (conn : ConnId) (seq : UInt32) (e : Error) : Handler :=
  sendAck conn seq { code := e.code, msg := e.msg }

/-- `GenerateSeq`. -/
def generateSeq (conversationId : Int) : Action Int := ConversationDao.incrMaxSeq conversationId

/-- `BroadcastEncoded`: to every device of every member but the sending one. -/
def broadcastEncoded (senderId : Int) (excludeDevice : Bytes) (conversationId : Int) (packet : Packet) :
    Handler := do
  let members ← ConversationDao.getMembersByConversation conversationId
  .forEach members fun member => do
    let conns ← getConns member.userId
    .forEach conns fun c => do
      let device ← connection c
      if member.userId = senderId ∧ excludeDevice ≠ [] ∧ device.deviceId = excludeDevice then return ()
      else send c packet

/-! ### HandleSendMsg -/

/-- The checks of a request that need nothing but the request. -/
def validate (maxContentSize : Nat) (req : SendMsgReq) : Option Error :=
  if req.content.isEmpty then some errc.msg.kContentEmpty
  else if maxContentSize < req.content.length then some errc.msg.kContentTooLarge
  else if !isValidMsgType req.msgType then some errc.msg.kInvalidMsgType
  else if req.conversationId ≤ 0 then some errc.msg.kInvalidConversation
  else if 256 < req.clientMsgId.length then some errc.kInvalidBody
  else none

/-- The section under the lock in front of a send: a key that was answered before
    gets the same answer, one that is being worked on gets `kServerBusy`. -/
def dedupSection (conn : ConnId) (seq : UInt32) (key : Bytes) : Action Bool :=
  .atomic do
    let cached ← dedupFind key
    match cached with
    | some ack =>
      sendAck conn seq ack
      return false
    | none =>
      let marked ← tryMarkInflight key
      if !marked then
        sendAckError conn seq errc.kServerBusy
        return false
      return true

/-- The section under the lock behind an insertion. -/
def dedupFill (key : Bytes) (ack : SendMsgAck) : Handler :=
  if key.isEmpty then return ()
  else .atomic do
    removeInflight key
    dedupInsert key ack

/-- Step 5.5: a conversation that a member has hidden comes back. -/
def unhide (conversationId : Int) : Handler := do
  let members ← ConversationDao.getMembersByConversation conversationId
  .forEach members fun m =>
    if m.hidden = 0 then return ()
    else do
      let _ ← ConversationDao.updateMemberHidden conversationId m.userId 0

/-- Steps 5.5 to 7: what follows the reply. -/
def sendDelivered (conn : ConnId) (senderId : Int) (req : SendMsgReq) (serverSeq epochMs : Int) :
    Handler := do
  unhide req.conversationId
  let me ← connection conn
  broadcastEncoded senderId me.deviceId req.conversationId
    { cmd := .pushMsg
      body := .pushMsg
        { conversationId := req.conversationId, senderUid := me.uid, content := req.content,
          serverSeq := serverSeq, serverTime := epochMs, msgType := req.msgType } }
  ConvService.broadcastConvUpdate req.conversationId senderId
    { conversationId := req.conversationId, updateType := 1,
      data := ConvService.truncateUtf8 req.content 100 }

/-- Steps 4 and 5: the row is stored. -/
def sendStored (conn : ConnId) (seq : UInt32) (senderId : Int) (req : SendMsgReq)
    (serverSeq epochMs : Int) : Handler := do
  let ack : SendMsgAck :=
    { code := errc.kOk.code, msg := errc.kOk.msg, serverSeq := serverSeq, serverTime := epochMs }
  dedupFill req.clientMsgId ack
  sendAck conn seq ack
  sendDelivered conn senderId req serverSeq epochMs

/-- The row of a request. -/
def messageOf (senderId : Int) (req : SendMsgReq) (serverSeq epochMs : Int) : Message :=
  { conversationId := req.conversationId
    senderId := senderId
    seq := serverSeq
    msgType := req.msgType
    content := req.content
    clientMsgId := req.clientMsgId
    status := .normal
    createdAt := Calendar.formatUtc (epochMs / 1000) }

/-- Step 3: the clock is read and the row inserted. -/
def sendInsert (conn : ConnId) (seq : UInt32) (senderId : Int) (req : SendMsgReq) (serverSeq : Int) :
    Handler := do
  let epochMs ← peek fun m => m.systemMs
  let inserted ← MessageDao.insert (messageOf senderId req serverSeq epochMs)
  if !inserted then do
    dedupRemoveInflightIfNeeded req.clientMsgId
    sendAckError conn seq errc.kDatabaseError
  else sendStored conn seq senderId req serverSeq epochMs

/-- Step 2: the seq is allocated. -/
def sendAllocate (conn : ConnId) (seq : UInt32) (senderId : Int) (req : SendMsgReq) : Handler := do
  let serverSeq ← generateSeq req.conversationId
  if serverSeq < 0 then do
    dedupRemoveInflightIfNeeded req.clientMsgId
    sendAckError conn seq errc.msg.kConversationNotFound
  else sendInsert conn seq senderId req serverSeq

/-- The membership check. -/
def sendChecked (conn : ConnId) (seq : UInt32) (senderId : Int) (req : SendMsgReq) : Handler := do
  let member ← ConversationDao.isMember req.conversationId senderId
  if !member then do
    dedupRemoveInflightIfNeeded req.clientMsgId
    sendAckError conn seq errc.msg.kNotMember
  else sendAllocate conn seq senderId req

/-- A request that passed the checks on its own. -/
def sendValid (conn : ConnId) (seq : UInt32) (senderId : Int) (req : SendMsgReq) : Handler :=
  if req.clientMsgId.isEmpty then sendChecked conn seq senderId req
  else do
    let fresh ← dedupSection conn seq req.clientMsgId
    if !fresh then return () else sendChecked conn seq senderId req

/-- `MsgService::HandleSendMsg`. -/
def handleSendMsg (conn : ConnId) (seq : UInt32) (body : Option SendMsgReq) : Handler := do
  let me ← connection conn
  if me.userId = 0 then sendAckError conn seq errc.kNotAuthenticated
  else match body with
  | none => sendAckError conn seq errc.kInvalidBody
  | some req =>
    let config ← peek fun m => m.config
    match validate config.maxContentSize req with
    | some e => sendAckError conn seq e
    | none => sendValid conn seq me.userId req

/-! ### HandleRecallMsg -/

/-- Why a message may no longer be recalled, by its timestamp. -/
def recallExpired (createdAt : Bytes) (nowSeconds timeoutSecs : Int) : Option Error :=
  if createdAt.isEmpty then some ⟨errc.kDatabaseError.code, "invalid message timestamp"⟩
  else match Calendar.scanUtc createdAt with
  | none => some ⟨errc.kDatabaseError.code, "invalid message timestamp"⟩
  | some msgTime =>
    if msgTime < 0 then some ⟨errc.kDatabaseError.code, "invalid message timestamp"⟩
    else if 0 < msgTime ∧ timeoutSecs < nowSeconds - msgTime then some errc.msg.kRecallTimeout
    else none

/-- `MsgService::HandleRecallMsg`. -/
def handleRecallMsg (conn : ConnId) (seq : UInt32) (body : Option RecallMsgReq) : Handler := do
  let me ← connection conn
  let reply := sendRsp conn .recallMsgAck seq
  if me.userId = 0 then reply errc.kNotAuthenticated
  else match body with
  | none => reply errc.kInvalidBody
  | some req =>
    if req.conversationId ≤ 0 ∨ req.serverSeq ≤ 0 then reply errc.msg.kInvalidConversation
    else do
    let member ← ConversationDao.isMember req.conversationId me.userId
    if !member then reply errc.msg.kNotMember
    else do
    let found ← MessageDao.findByConvSeq req.conversationId req.serverSeq
    match found with
    | none => reply errc.msg.kMsgNotFound
    | some msg =>
      if msg.status = .recalled then reply errc.msg.kRecallAlready
      else if msg.senderId ≠ me.userId then reply errc.msg.kRecallNoPermission
      else do
      let mem ← peek id
      match recallExpired msg.createdAt (mem.systemMs / 1000) mem.config.recallTimeoutSecs with
      | some e => reply e
      | none =>
        let updated ← MessageDao.updateStatus msg.id .recalled
        if !updated then reply errc.kDatabaseError
        else do
        reply errc.kOk
        let sender ← connection conn
        broadcastEncoded me.userId sender.deviceId req.conversationId
          { cmd := .recallNotify
            body := .recallNotify
              { conversationId := req.conversationId, serverSeq := req.serverSeq,
                operatorUid := sender.uid } }

/-! ### Acknowledgements -/

/-- `MsgService::HandleDeliverAck`; it has no reply. -/
def handleDeliverAck (conn : ConnId) (body : Option DeliverAckReq) : Handler := do
  let me ← connection conn
  if me.userId = 0 then return ()
  else match body with
  | none => return ()
  | some req =>
    if 0 < req.conversationId ∧ 0 < req.serverSeq then do
      let member ← ConversationDao.isMember req.conversationId me.userId
      if member then do
        let _ ← ConversationDao.updateLastAckSeq req.conversationId me.userId req.serverSeq
      else return ()
    else return ()

/-- The seq up to which a member has read, held down to the last one of the conversation. -/
def clampRead (conv : Option Conversation) (readUpToSeq : Int) : Int :=
  match conv with
  | some conv => if 0 < conv.maxSeq then min readUpToSeq conv.maxSeq else readUpToSeq
  | none => readUpToSeq

/-- `MsgService::HandleReadAck`. -/
def handleReadAck (conn : ConnId) (seq : UInt32) (body : Option ReadAckReq) : Handler := do
  let me ← connection conn
  let reply := sendRsp conn .readAck seq
  if me.userId = 0 then return ()
  else match body with
  | none => reply errc.kInvalidBody
  | some req =>
    if req.conversationId ≤ 0 ∨ req.readUpToSeq ≤ 0 then reply errc.kInvalidBody
    else do
    let member ← ConversationDao.isMember req.conversationId me.userId
    if !member then reply errc.msg.kNotMember
    else do
    let conv ← ConversationDao.findById req.conversationId
    let updated ← ConversationDao.updateLastReadSeq req.conversationId me.userId
      (clampRead conv req.readUpToSeq)
    if !updated then reply errc.kDatabaseError
    else reply ⟨errc.kOk.code, ""⟩

/-- A request to the service, with the connection and the packet seq it came with. -/
inductive Request where
  | sendMsg (conn : ConnId) (seq : UInt32) (body : Option SendMsgReq)
  | recallMsg (conn : ConnId) (seq : UInt32) (body : Option RecallMsgReq)
  | deliverAck (conn : ConnId) (body : Option DeliverAckReq)
  | readAck (conn : ConnId) (seq : UInt32) (body : Option ReadAckReq)

def Request.conn : Request → ConnId
  | sendMsg conn .. | recallMsg conn .. | deliverAck conn _ | readAck conn .. => conn

def handle : Request → Handler
  | .sendMsg conn seq body => handleSendMsg conn seq body
  | .recallMsg conn seq body => handleRecallMsg conn seq body
  | .deliverAck conn body => handleDeliverAck conn body
  | .readAck conn seq body => handleReadAck conn seq body

end NovaIIM.MsgService
