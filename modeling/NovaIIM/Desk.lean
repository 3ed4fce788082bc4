import NovaIIM.ChatStore
import NovaIIM.Services
import NovaIIM.SyncService

/-!
The chat store with the server behind it.

The operations of the store put requests on their way, the server takes them up in any
order, with other requests in between, and the results come back in any order. The bridge
and the client library pass arguments and results on as they are.
-/
namespace NovaIIM.Desktop
open Store

/-- A request of the store on its way; a text carries the local id of its entry. -/
inductive Asked where
  | page (conversationId lastSeq limit : Int)
  | read (conversationId readUpToSeq : Int)
  | text (conversationId : Int) (content : Bytes) (localId : Nat)

/-- A result on its way back, with what it is the result of. -/
inductive Answer where
  | page (conversationId : Int) (data : ChatStore.SyncMessagesResult)
  | text (conversationId : Int) (content : Bytes) (localId : Nat) (data : ChatStore.SendMsgResult)

/-- A server, a store and what is on its way between them. -/
structure Desk where
  world : World
  store : ChatStore
  asked : List Asked := []
  answered : List Answer := []
  /-- the sends that the server has acknowledged, with the seqs it answered -/
  acked : List (Nat × Int) := []

inductive DeskMove where
  | select (conversationId : Int)
  | loadMore
  | send (content : Bytes) (msgType now : Int)
  /-- the server takes up the request at a position; the client gives a text its id -/
  | serve (i : Nat) (around : Surroundings) (clientMsgId : Bytes)
  /-- the result at a position is delivered -/
  | deliver (i : Nat)
  /-- a stored message is pushed -/
  | push (conversationId serverSeq : Int) (senderUid : Bytes) (serverTime : Int)
  /-- the server takes up a request that is not the store's -/
  | meanwhile (call : Call Request)

/-- A request that goes over the bridge. -/
def askedOf (localId : Nat) : BridgeCall → Asked
  | .syncMessages conversationId lastSeq limit => .page conversationId lastSeq limit
  | .sendReadAck conversationId readUpToSeq => .read conversationId readUpToSeq
  | .sendMessage to_ content => .text to_ content localId

/-- `SyncService::SyncMessages`: what a response is passed on as. -/
def syncResult (resp : SyncMsgResp) : ChatStore.SyncMessagesResult :=
  if resp.code = 0 then { success := true, messages := resp.messages, hasMore := resp.hasMore }
  else { success := false }

/-- `MessageService::SendTextMessage`: what an ack is passed on as. -/
def sendResult (ack : SendMsgAck) : ChatStore.SendMsgResult :=
  if ack.code = 0 then { success := true, serverSeq := ack.serverSeq, serverTime := ack.serverTime }
  else { success := false }

/-- The page that was sent to a connection. -/
def pageSent (conn : ConnId) : Event → Option SyncMsgResp
  | .sent to_ packet => match packet.body with
    | .syncMsgResp resp => if to_ = conn ∧ packet.cmd = .syncMsgResp then some resp else none
    | _ => none
  | _ => none

/-- The ack that was sent to a connection. -/
def ackSent (conn : ConnId) : Event → Option SendMsgAck
  | .sent to_ packet => match packet.body with
    | .sendMsgAck ack => if to_ = conn ∧ packet.cmd = .sendMsgAck then some ack else none
    | _ => none
  | _ => none

/-- The send that a text becomes. -/
def textReq (conversationId : Int) (content clientMsgId : Bytes) : SendMsgReq :=
  { conversationId := conversationId, content := content, clientMsgId := clientMsgId }

namespace Desk

/-- An operation of the store. -/
def operate (d : Desk) (outcome : ChatStore × List BridgeCall) : Desk :=
  { d with
    store := outcome.1
    asked := d.asked ++ outcome.2.map (askedOf outcome.1.localIdCounter) }

/-- The server takes a request up. -/
def serve (conn : ConnId) (d : Desk) (around : Surroundings) (clientMsgId : Bytes) : Asked → Desk
  | .page conversationId lastSeq limit =>
    let o := served SyncService.handle d.world
      ⟨around, .syncMsg conn 0 (some { conversationId := conversationId, lastSeq := lastSeq, limit := limit })⟩
    { d with
      world := o.state
      answered := d.answered ++ (o.events.filterMap (pageSent conn)).map fun resp =>
        .page conversationId (syncResult resp) }
  | .read conversationId readUpToSeq =>
    let call : Call Request :=
      ⟨around, .msg (.readAck conn 0 (some { conversationId := conversationId, readUpToSeq := readUpToSeq }))⟩
    { d with world := perform handle d.world call }
  | .text conversationId content localId =>
    let o := served handle d.world
      ⟨around, .msg (.sendMsg conn 0 (some (textReq conversationId content clientMsgId)))⟩
    let results := (o.events.filterMap (ackSent conn)).map sendResult
    { d with
      world := o.state
      answered := d.answered ++ results.map (.text conversationId content localId)
      acked := d.acked ++ (results.filter ChatStore.SendMsgResult.success).map fun data => (localId, data.serverSeq) }

/-- A result reaches the store. -/
def deliver (d : Desk) : Answer → Desk
  | .page _ data => { d with store := d.store.syncMessagesResult data }
  | .text _ _ _ data => { d with store := d.store.sendMsgResult data }

/-- The push of a stored message. -/
def pushOf (m : Message) (senderUid : Bytes) (serverTime : Int) : PushMsg :=
  { conversationId := m.conversationId, senderUid := senderUid, content := m.content, serverSeq := m.seq,
    serverTime := serverTime, msgType := m.msgType }

def step (conn : ConnId) (d : Desk) : DeskMove → Desk
  | .select conversationId => d.operate (d.store.selectConversation conversationId)
  | .loadMore => d.operate d.store.loadMoreHistory
  | .send content msgType now => d.operate (d.store.sendMessage content msgType now)
  | .serve i around clientMsgId =>
    match d.asked[i]? with
    | none => d
    | some request => serve conn { d with asked := d.asked.eraseIdx i } around clientMsgId request
  | .deliver i =>
    match d.answered[i]? with
    | none => d
    | some answer => deliver { d with answered := d.answered.eraseIdx i } answer
  | .push conversationId serverSeq senderUid serverTime =>
    match d.world.tables.messages.rows.find? fun m => m.conversationId = conversationId && m.seq = serverSeq with
    | none => d
    | some m => { d with store := d.store.newMessage (pushOf m senderUid serverTime) }
  | .meanwhile call => { d with world := perform handle d.world call }

end Desk

end NovaIIM.Desktop
