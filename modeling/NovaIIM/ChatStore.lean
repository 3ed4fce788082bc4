import NovaIIM.Protocol

/-!
The chat store of the desktop client (`stores/chat.ts`).

The store keeps the list of conversations, the conversation that is open and the
messages in its window. Its operations send requests over the bridge and return
at once; the answers come back as events, which its handlers take in. An event
names neither the request it answers nor, but for a push, a conversation.
-/
namespace NovaIIM.Desktop

inductive SendStatus where
  | sending | sent | failed
deriving DecidableEq, Repr

/-- A message in the window. -/
structure ChatMessage where
  sender : Bytes
  content : Bytes
  self : Bool
  serverSeq : Int
  serverTime : Int
  msgType : Int
  /-- 0 is normal, 1 is recalled -/
  status : Int
  sendStatus : Option SendStatus := none
  localId : Option Nat := none
deriving DecidableEq, Repr

structure ChatStore where
  conversations : List ConvItem := []
  /-- the conversation that is open, by its id -/
  activeConv : Option Int := none
  messages : List ChatMessage := []
  loadingHistory : Bool := false
  hasMore : Bool := false
  currentUid : Bytes := []
  localIdCounter : Nat := 0
deriving DecidableEq, Repr

/-- What the store sends over the bridge. -/
inductive BridgeCall where
  | syncMessages (conversationId lastSeq limit : Int)
  | sendReadAck (conversationId readUpToSeq : Int)
  | sendMessage (to_ : Int) (content : Bytes)
deriving DecidableEq, Repr

/-- `find` and a change of what it found. -/
def changeFirst {α : Type} (test : α → Bool) (change : α → α) : List α → List α
  | [] => []
  | a :: rest => if test a then change a :: rest else a :: changeFirst test change rest

/-- The status of a message as a number. -/
def statusCode : MsgStatus → Int
  | .normal => 0
  | .recalled => 1
  | .deleted => 2

namespace ChatStore

/-- The conversation of the list with an id, changed. -/
def withConversation (s : ChatStore) (conversationId : Int) (change : ConvItem → ConvItem) : ChatStore :=
  { s with conversations := changeFirst (fun c => c.conversationId = conversationId) change s.conversations }

/-! ### Operations -/

/-- `selectConversation`: the window is emptied, and the history is asked for from the start. -/
def selectConversation (s : ChatStore) (conversationId : Int) : ChatStore × List BridgeCall :=
  ({ s.withConversation conversationId (fun c => { c with unreadCount := 0 }) with
      activeConv := some conversationId
      messages := []
      hasMore := false
      loadingHistory := true },
    [.syncMessages conversationId 0 30, .sendReadAck conversationId 0])

def loadMoreHistory (s : ChatStore) : ChatStore × List BridgeCall :=
  match s.activeConv with
  | none => (s, [])
  | some conversationId =>
    if s.loadingHistory || !s.hasMore then (s, [])
    else
      let oldestSeq := (s.messages.head?.map ChatMessage.serverSeq).getD 0
      ({ s with loadingHistory := true },
        [.syncMessages conversationId (if 0 < oldestSeq then oldestSeq - 1 else 0) 30])

/-- `sendMessage`: the message is shown at once, with no seq. -/
def sendMessage (s : ChatStore) (content : Bytes) (msgType now : Int) : ChatStore × List BridgeCall :=
  match s.activeConv with
  | none => (s, [])
  | some conversationId =>
    let lid := s.localIdCounter + 1
    ({ s with
        localIdCounter := lid
        messages := s.messages ++
          [{ sender := s.currentUid, content := content, self := true, serverSeq := 0, serverTime := now,
             msgType := msgType, status := 0, sendStatus := some .sending, localId := some lid }] },
      [.sendMessage conversationId content])

/-! ### Events -/

/-- The conversation with an id first, then the others. -/
def toTop (conversations : List ConvItem) (conversationId : Int) : List ConvItem :=
  match conversations.find? fun c => c.conversationId = conversationId with
  | none => conversations
  | some conv => conv :: conversations.eraseP fun c => c.conversationId = conversationId

/-- `newMessage`: into the list, and into the window if its conversation is open. -/
def newMessage (s : ChatStore) (data : PushMsg) : ChatStore :=
  let open_ := s.activeConv = some data.conversationId
  let listed := s.withConversation data.conversationId fun c =>
    { c with
      lastMsg := { senderUid := data.senderUid, senderNickname := [], content := data.content,
                   msgType := data.msgType, serverTime := data.serverTime }
      unreadCount := if open_ then c.unreadCount else c.unreadCount + 1 }
  let entry : ChatMessage :=
    { sender := data.senderUid, content := data.content, self := data.senderUid = s.currentUid,
      serverSeq := data.serverSeq, serverTime := data.serverTime, msgType := data.msgType, status := 0 }
  { listed with
    conversations := toTop listed.conversations data.conversationId
    messages := if open_ then s.messages ++ [entry] else s.messages }

/-- The payload of `sendMsgResult`. -/
structure SendMsgResult where
  success : Bool
  serverSeq : Int := 0
  serverTime : Int := 0
deriving DecidableEq, Repr

/-- The entry that a result is taken for: the first of the user's own that is being sent. -/
def isPending (m : ChatMessage) : Bool := m.self && m.sendStatus = some .sending

/-- What a result does to its entry. -/
def settle (data : SendMsgResult) (pending : ChatMessage) : ChatMessage :=
  if data.success then
    { pending with
      sendStatus := some .sent
      serverSeq := if data.serverSeq ≠ 0 then data.serverSeq else pending.serverSeq
      serverTime := if data.serverTime ≠ 0 then data.serverTime else pending.serverTime }
  else { pending with sendStatus := some .failed }

def sendMsgResult (s : ChatStore) (data : SendMsgResult) : ChatStore :=
  { s with messages := changeFirst isPending (settle data) s.messages }

/-- An item of a page as an entry of the window. -/
def historyEntry (currentUid : Bytes) (m : SyncMsgItem) : ChatMessage :=
  { sender := m.senderUid, content := m.content, self := m.senderUid = currentUid, serverSeq := m.serverSeq,
    serverTime := 0, msgType := m.msgType, status := statusCode m.status }

/-- The payload of `syncMessagesResult`. -/
structure SyncMessagesResult where
  success : Bool
  messages : List SyncMsgItem := []
  hasMore : Bool := false
deriving DecidableEq, Repr

/-- `syncMessagesResult`: the page goes in front of what is in the window. -/
def syncMessagesResult (s : ChatStore) (data : SyncMessagesResult) : ChatStore :=
  if data.success then
    { s with
      loadingHistory := false
      hasMore := data.hasMore
      messages := data.messages.map (historyEntry s.currentUid) ++ s.messages }
  else { s with loadingHistory := false }

end ChatStore
end NovaIIM.Desktop
