import NovaIIM.MsgService
import NovaIIM.Readers

/-!
What a send and a recall do in two runs side by side.

Two sends that differ in their content leave the same tables behind the mask, if the row
that is stored is hidden; the pushes go to the connections of members of the conversation.
-/
namespace NovaIIM
open Store

section Rows
variable {hidden : Int → Int → Bool}

theorem masked_insertMessage {t t' : Tables} (alike : t.masked hidden = t'.masked hidden) {m m' : Message}
    (fresh : (t.messages.fresh m).masked hidden = (t.messages.fresh m').masked hidden) :
    (t.insertMessage m).masked hidden = (t'.insertMessage m').masked hidden := by
  have last : t.messages.lastId = t'.messages.lastId := by
    have := congrArg (fun t : Tables => t.messages.lastId) alike
    exact this
  have free : ∀ (t : Table Message) (m : Message), t.taken m = false := fun t m => by
    simp [Table.taken, Row.clash]
  have messages : ((t.insertMessage m).masked hidden).messages = ((t'.insertMessage m').masked hidden).messages := by
    refine Table.ext ?_ ?_
    · have rows := rows_alike alike
      have numbered : t'.messages.fresh m' = t.messages.fresh m' := by
        unfold Table.fresh
        rw [last]
      unfold AlikeRows at rows
      simp [Tables.masked, Tables.insertMessage, Table.rows_insert_free (free _ _), rows, fresh, numbered]
    · simp [Tables.masked, Tables.insertMessage, Table.update, Table.insert, free, last]
  calc (t.insertMessage m).masked hidden
      = { t.masked hidden with messages := ((t.insertMessage m).masked hidden).messages } := rfl
    _ = { t'.masked hidden with messages := ((t'.insertMessage m').masked hidden).messages } := by rw [alike, messages]
    _ = (t'.insertMessage m').masked hidden := rfl

end Rows

/-! ### Sends -/

section Pushes
variable {hidden : Int → Int → Bool} {fits : Tables → Prop} {seen : Sessions}
  {R : Event → Event → Prop} {conversationId : Int}

/-- Two packets to the connections of a member of the conversation are related. -/
def ReachesMembers (fits : Tables → Prop) (seen : Sessions) (R : Event → Event → Prop)
    (conversationId : Int) (packet packet' : Packet) : Prop :=
  ∀ userId, Belongs fits conversationId userId → ∀ c ∈ seen.connManager.getConns userId,
    R (.sent c packet) (.sent c packet')

/-- So are two packets of the deliveries of two contents, if these are the same or any two packets are related. -/
def DeliversAlike (fits : Tables → Prop) (seen : Sessions) (R : Event → Event → Prop) (req : SendMsgReq) (content : Bytes) : Prop :=
  content = req.content ∨ ∀ packet packet', ReachesMembers fits seen R req.conversationId packet packet'

theorem DeliversAlike.packets {req : SendMsgReq} {content : Bytes} (reflexive : ∀ e, R e e) (reaches : DeliversAlike fits seen R req content)
    (packetOf : Bytes → Packet) : ReachesMembers fits seen R req.conversationId (packetOf req.content) (packetOf content) := by
  obtain rfl | all := reaches
  · exact fun _ _ _ _ => reflexive _
  · exact all _ _

theorem twins_getConns (userId : Int) :
    Twins (Beside hidden fits seen) (fun a b => a = b ∧ a = seen.connManager.getConns userId) R (getConns userId) (getConns userId) :=
  twins_mono (twins_peek _) (fun a b ⟨same, m, sees, looks⟩ => ⟨same, by rw [← looks, ← sees]; rfl⟩) fun _ _ r => r

theorem twins_getMembers (conversationId : Int) :
    Twins (Beside hidden fits seen) (fun a b => a = b ∧ ∀ m ∈ a, Belongs fits conversationId m.userId) R
      (ConversationDao.getMembersByConversation conversationId) (ConversationDao.getMembersByConversation conversationId) := by
  refine twins_blind (fun _ => rfl) (fun m none => nomatch none) fun t fit m inside => ⟨t, fit, m, ?_⟩
  obtain ⟨there, named⟩ := List.mem_filter.mp inside
  exact ⟨there, by simpa using named, rfl⟩

theorem twins_send {c : ConnId} {packet packet' : Packet} (related : R (.sent c packet) (.sent c packet')) :
    Twins (Beside hidden fits seen) (fun _ _ => True) R (send c packet) (send c packet') :=
  twins_emits (.cons related .nil)

theorem MsgService.twins_broadcastEncoded {packet packet' : Packet} (reaches : ReachesMembers fits seen R conversationId packet packet')
    (senderId : Int) (device : Bytes) :
    Twins (Beside hidden fits seen) (fun _ _ => True) R (broadcastEncoded senderId device conversationId packet)
      (broadcastEncoded senderId device conversationId packet') := by
  refine twins_bind (twins_getMembers _) ?_
  rintro members _ ⟨rfl, belong⟩
  refine twins_forEach fun member inside => twins_bind (twins_getConns _) ?_
  rintro conns - ⟨rfl, rfl⟩
  refine twins_forEach fun c listed => twins_bind (twins_connection c) ?_
  rintro device - ⟨rfl, rfl⟩
  exact twins_ite (fun _ => twins_ret trivial) fun _ => twins_send (reaches _ (belong member inside) c listed)

theorem ConvService.twins_broadcastConvUpdate {update update' : ConvUpdateMsg}
    (reaches : ReachesMembers fits seen R conversationId { cmd := .convUpdate, body := .convUpdate update }
      { cmd := .convUpdate, body := .convUpdate update' }) (userId : Int) :
    Twins (Beside hidden fits seen) (fun _ _ => True) R (broadcastConvUpdate conversationId userId update)
      (broadcastConvUpdate conversationId userId update') := by
  refine twins_bind (twins_getMembers _) ?_
  rintro members _ ⟨rfl, belong⟩
  refine twins_forEach fun member inside => twins_ite (fun _ => twins_ret trivial) fun _ => ?_
  refine twins_bind (twins_getConns _) ?_
  rintro conns - ⟨rfl, rfl⟩
  exact twins_forEach fun c listed => twins_send (reaches _ (belong member inside) c listed)

end Pushes

section Sends
variable {hidden : Int → Int → Bool} {fits fits' : Tables → Prop} {seen : Sessions}
  {R : Event → Event → Prop} {conn : ConnId} {seq : UInt32} {req : SendMsgReq} {content : Bytes}

/-- What a send does to the tables, from ones that meet `fits` to ones that meet `fits'`. -/
structure Sendable (hidden : Int → Int → Bool) (fits fits' : Tables → Prop) (req : SendMsgReq) (content : Bytes) : Prop where
  numbered : ∀ t, fits t → fits (t.incrMaxSeq req.conversationId)
  stored : ∀ t m, fits t → fits' (t.insertMessage m)
  weaker : ∀ t, fits t → fits' t
  unhidden : ∀ t userId, fits' t → fits' (t.updateMember req.conversationId userId (fun _ => true)
    ⟨fun r => { r with hidden := 0 }, fun _ => rfl, fun _ _ => rfl⟩)
  hides : ∀ t, fits t → content = req.content ∨ hidden req.conversationId (t.messages.lastId + 1) = true

namespace MsgService

theorem twins_unhide (sendable : Sendable hidden fits fits' req content) :
    Twins (Beside hidden fits' seen) (fun _ _ => True) R (unhide req.conversationId) (unhide req.conversationId) := by
  refine twins_bind (twins_getMembers _) ?_
  rintro members _ ⟨rfl, -⟩
  refine twins_forEach fun member _ => twins_ite (fun _ => twins_ret trivial) fun _ => ?_
  refine twins_bind (twins_execute (fun t t' alike => ?_) fun t fit => sendable.unhidden t _ fit) fun _ _ _ => twins_ret trivial
  exact congrArg (Tables.updateMember _ _ _ _) alike

theorem twins_sendDelivered (reflexive : ∀ e, R e e) (sendable : Sendable hidden fits fits' req content)
    (reaches : DeliversAlike fits' seen R req content) (senderId serverSeq epochMs : Int) :
    Twins (Beside hidden fits' seen) (fun _ _ => True) R (sendDelivered conn senderId req serverSeq epochMs)
      (sendDelivered conn senderId { req with content := content } serverSeq epochMs) := by
  refine twins_bind (twins_unhide sendable) fun _ _ _ => twins_bind (twins_connection conn) ?_
  rintro me - ⟨rfl, -⟩
  have pushes := reaches.packets reflexive fun content =>
    { cmd := .pushMsg
      body := .pushMsg
        { conversationId := req.conversationId, senderUid := me.uid, content := content, serverSeq := serverSeq,
          serverTime := epochMs, msgType := req.msgType } }
  have updates := reaches.packets reflexive fun content =>
    { cmd := .convUpdate
      body := .convUpdate
        { conversationId := req.conversationId, updateType := 1, data := ConvService.truncateUtf8 content 100 } }
  exact twins_bind (twins_broadcastEncoded pushes _ _) fun _ _ _ => ConvService.twins_broadcastConvUpdate updates _

theorem twins_dedupFill (reflexive : ∀ e, R e e) (key : Bytes) (ack : SendMsgAck) :
    Twins (Beside hidden fits seen) (fun _ _ => True) R (dedupFill key ack) (dedupFill key ack) := by
  refine twins_ite (fun _ => twins_ret trivial) fun _ => twins_atomic ?_
  refine twins_bind (twins_memory (fun _ => ()) (fun m : Server => { m with inFlight := m.inFlight.erase key }) .nil
    fun _ => rfl) fun _ _ _ => ?_
  refine twins_mono (twins_memory (fun _ => ()) (fun m : Server =>
    { m with dedup := m.dedup.dedupInsert m.config.dedupCacheSize key ack }) (.cons (reflexive _) .nil) fun _ => rfl)
    (fun _ _ _ => trivial) fun _ _ r => r

theorem twins_reply (reflexive : ∀ e, R e e) {cmd : Cmd} {body : Body} :
    Twins (Beside hidden fits seen) (fun _ _ => True) R (sendPacket conn cmd seq body) (sendPacket conn cmd seq body) :=
  twins_send (reflexive _)

theorem twins_removeInflight (key : Bytes) :
    Twins (Beside hidden fits seen) (fun _ _ => True) R (dedupRemoveInflightIfNeeded key) (dedupRemoveInflightIfNeeded key) :=
  twins_ite (fun _ => twins_ret trivial) fun _ =>
    twins_mono (twins_memory (fun _ => ()) (fun m : Server => { m with inFlight := m.inFlight.erase key }) .nil fun _ => rfl)
      (fun _ _ _ => trivial) fun _ _ r => r

theorem leads_sendInsert (reflexive : ∀ e, R e e) (sendable : Sendable hidden fits fits' req content)
    (reaches : DeliversAlike fits' seen R req content) (senderId serverSeq : Int) :
    Leads (Beside hidden fits seen) (Beside hidden fits' seen) (fun _ _ => True) R
      (sendInsert conn seq senderId req serverSeq)
      (sendInsert conn seq senderId { req with content := content } serverSeq) := by
  refine leads_bind (twins_peek _) ?_
  rintro epochMs - ⟨rfl, -⟩
  refine leads_bind (leads_statement (V := Eq) rfl (fun _ _ _ _ => rfl) (fun t t' alike fit => ?_) (fun t => sendable.stored t _)
    sendable.weaker) ?_
  · refine masked_insertMessage alike ?_
    show ({ messageOf senderId req serverSeq epochMs with id := (t.messages.lastId : Int) + 1 } : Message).masked hidden =
      ({ messageOf senderId { req with content := content } serverSeq epochMs with id := (t.messages.lastId : Int) + 1 } :
        Message).masked hidden
    rcases sendable.hides t fit with same | veiled
    · rw [same]
    · simp only [Message.masked, messageOf, veiled, if_true]
  · rintro inserted - rfl
    refine twins_ite (fun _ => ?_) fun _ => ?_
    · exact twins_bind (twins_removeInflight _) fun _ _ _ => twins_reply reflexive
    · refine twins_bind (twins_dedupFill reflexive _ _) fun _ _ _ => twins_bind (twins_reply reflexive) fun _ _ _ => ?_
      exact twins_sendDelivered reflexive sendable reaches _ _ _

/-- A way out before the message is stored. -/
theorem leads_refused {p p' : Handler} (weaker : ∀ t, fits t → fits' t)
    (twins : Twins (Beside hidden fits seen) (fun _ _ => True) R p p') :
    Leads (Beside hidden fits seen) (Beside hidden fits' seen) (fun _ _ => True) R p p' :=
  leads_mono twins (fun _ _ same => same.weaken weaker) (fun _ _ r => r) fun _ _ r => r

theorem twins_generateSeq (conversationId : Int) (numbered : ∀ t, fits t → fits (t.incrMaxSeq conversationId)) :
    Twins (Beside hidden fits seen) Eq R (generateSeq conversationId) (generateSeq conversationId) := by
  have undone : Twins (Beside hidden fits seen) Eq R (rollback >>= fun _ => return (-1 : Int))
      (rollback >>= fun _ => return (-1 : Int)) := twins_bind twins_rollback fun _ _ _ => twins_ret rfl
  refine twins_atomic (twins_bind twins_begin ?_)
  rintro begun - rfl
  refine twins_ite (fun _ => twins_ret rfl) fun _ => twins_bind (twins_execute (fun t t' alike => ?_) numbered) ?_
  · exact congrArg (Tables.incrMaxSeq _) alike
  rintro updated - rfl
  refine twins_ite (fun _ => undone) fun _ => twins_bind (V := Eq) (twins_query rfl fun t t' alike _ => ?_) ?_
  · have := congrArg (fun t : Tables => t.conversations.rows.filter fun r => r.id = conversationId) alike
    exact this
  rintro convs - rfl
  cases convs with
  | nil => exact undone
  | cons conv rest =>
    refine twins_bind twins_commit ?_
    rintro committed - rfl
    exact twins_ite (fun _ => undone) fun _ => twins_ret rfl

theorem leads_sendChecked (reflexive : ∀ e, R e e) (sendable : Sendable hidden fits fits' req content)
    (reaches : DeliversAlike fits' seen R req content) (senderId : Int) :
    Leads (Beside hidden fits seen) (Beside hidden fits' seen) (fun _ _ => True) R (sendChecked conn seq senderId req)
      (sendChecked conn seq senderId { req with content := content }) := by
  have refused : ∀ e, Twins (Beside hidden fits seen) (fun _ _ => True) R
      (dedupRemoveInflightIfNeeded req.clientMsgId >>= fun _ => sendAckError conn seq e)
      (dedupRemoveInflightIfNeeded req.clientMsgId >>= fun _ => sendAckError conn seq e) := fun e =>
    twins_bind (twins_removeInflight _) fun _ _ _ => twins_reply reflexive
  refine leads_bind (twins_isMember _ _) ?_
  rintro member - ⟨rfl, -⟩
  refine leads_ite (fun _ => leads_refused sendable.weaker (refused _)) fun _ => ?_
  refine leads_bind (twins_generateSeq _ sendable.numbered) ?_
  rintro serverSeq - rfl
  exact leads_ite (fun _ => leads_refused sendable.weaker (refused _)) fun _ =>
    leads_sendInsert reflexive sendable reaches _ _

theorem twins_dedupSection (reflexive : ∀ e, R e e) (key : Bytes) :
    Twins (Beside hidden fits seen) Eq R (dedupSection conn seq key) (dedupSection conn seq key) := by
  refine twins_atomic (twins_bind (twins_memory (fun m : Server => (m.dedup.dedupFind key).1)
    (fun m : Server => { m with dedup := (m.dedup.dedupFind key).2 }) (.cons (reflexive _) .nil) fun _ => rfl) ?_)
  rintro cached - rfl
  cases cached with
  | some ack => exact twins_bind (twins_reply reflexive) fun _ _ _ => twins_ret rfl
  | none =>
    refine twins_bind (twins_memory (fun m : Server => (mark m.inFlight key m.steady).1)
      (fun m : Server => { m with inFlight := (mark m.inFlight key m.steady).2 }) .nil fun _ => rfl) ?_
    rintro marked - rfl
    exact twins_ite (fun _ => twins_bind (twins_reply reflexive) fun _ _ _ => twins_ret rfl) fun _ => twins_ret rfl

/-- A content of a length that `HandleSendMsg` admits. -/
def Admitted (config : ServerConfig) (content : Bytes) : Prop :=
  content ≠ [] ∧ content.length ≤ config.maxContentSize

theorem validate_admitted {config : ServerConfig} (admitted : Admitted config req.content)
    (admitted' : Admitted config content) :
    validate config.maxContentSize { req with content := content } = validate config.maxContentSize req := by
  obtain ⟨some_, short⟩ := admitted
  obtain ⟨some_', short'⟩ := admitted'
  simp [validate, List.isEmpty_iff, some_, some_', Nat.not_lt.mpr short, Nat.not_lt.mpr short']

theorem leads_sendValid (reflexive : ∀ e, R e e) (sendable : Sendable hidden fits fits' req content)
    (reaches : DeliversAlike fits' seen R req content) (senderId : Int) :
    Leads (Beside hidden fits seen) (Beside hidden fits' seen) (fun _ _ => True) R (sendValid conn seq senderId req)
      (sendValid conn seq senderId { req with content := content }) := by
  refine leads_ite (fun _ => leads_sendChecked reflexive sendable reaches _) fun _ => ?_
  refine leads_bind (twins_dedupSection reflexive _) ?_
  rintro fresh - rfl
  exact leads_ite (fun _ => leads_refused sendable.weaker (twins_ret trivial)) fun _ =>
    leads_sendChecked reflexive sendable reaches _

/-- The run of a send from its first look at the connection and the configuration. -/
private theorem run_handleSendMsg (w : World) (req : SendMsgReq) :
    (handleSendMsg conn seq (some req)).run w =
      (if (w.mem.connections conn).userId = 0 then sendAckError conn seq errc.kNotAuthenticated
        else match validate w.mem.config.maxContentSize req with
          | some e => sendAckError conn seq e
          | none => sendValid conn seq (w.mem.connections conn).userId req).run w := by
  simp only [handleSendMsg, connection, Prog.run_bind, run_peek, List.nil_append]
  split
  · rfl
  · cases checked : validate w.mem.config.maxContentSize req with
    | some e => simp only [Prog.run_bind, run_peek, List.nil_append, checked]
    | none => simp only [Prog.run_bind, run_peek, List.nil_append, checked]

/-- Two sends that differ in a content that the checks do not tell apart. -/
theorem handleSendMsg_leads (reflexive : ∀ e, R e e) (sendable : Sendable hidden fits fits' req content)
    (reaches : DeliversAlike fits' seen R req content) {w w' : World} (same : Beside hidden fits seen w w')
    (checked : validate w.mem.config.maxContentSize { req with content := content } =
      validate w.mem.config.maxContentSize req) :
    Beside hidden fits' seen ((handleSendMsg conn seq (some req)).run w).state
        ((handleSendMsg conn seq (some { req with content := content })).run w').state ∧
      List.Forall₂ R ((handleSendMsg conn seq (some req)).run w).events
        ((handleSendMsg conn seq (some { req with content := content })).run w').events := by
  rw [run_handleSendMsg, run_handleSendMsg, ← same.mem, checked]
  refine (leads_ite (fun _ => leads_refused sendable.weaker (twins_reply reflexive)) (fun _ => ?_) w w' same).2
  cases validate w.mem.config.maxContentSize req with
  | some e => exact leads_refused sendable.weaker (twins_reply reflexive)
  | none => exact leads_sendValid reflexive sendable reaches _

/-- A send side by side with itself. -/
theorem twins_handleSendMsg (reflexive : ∀ e, R e e) (body : Option SendMsgReq)
    (sendable : ∀ req, body = some req → Sendable hidden fits fits req req.content) :
    Twins (Beside hidden fits seen) (fun _ _ => True) R (handleSendMsg conn seq body) (handleSendMsg conn seq body) := by
  cases body with
  | none =>
    refine twins_bind (twins_connection conn) ?_
    rintro me - ⟨rfl, -⟩
    exact twins_ite (fun _ => twins_reply reflexive) fun _ => twins_reply reflexive
  | some req =>
    intro w w' same
    exact ⟨trivial, handleSendMsg_leads reflexive (sendable req rfl) (.inl rfl) same rfl⟩

/-! ### Recalls -/

/-- The row of a message, behind the mask. -/
theorem twins_findMessage {selected : Message → Bool} (blind : ∀ m, selected (m.masked hidden) = selected m) :
    Twins (Beside hidden fits seen) (fun m m' => m.map (Message.masked hidden) = m'.map (Message.masked hidden)) R
      (query none fun t => t.messages.rows.find? selected) (query none fun t => t.messages.rows.find? selected) := by
  refine twins_query rfl fun t t' alike _ => ?_
  have same : selected ∘ Message.masked hidden = selected := funext blind
  have rows := congrArg (List.find? selected) (rows_alike alike)
  rwa [List.find?_map, List.find?_map, same] at rows

theorem masked_setMessageStatus (t : Tables) (id : Int) (status : MsgStatus) :
    (t.setMessageStatus id status).masked hidden = (t.masked hidden).setMessageStatus id status := by
  have messages : ((t.setMessageStatus id status).masked hidden).messages =
      ((t.masked hidden).setMessageStatus id status).messages := by
    refine Table.ext ?_ rfl
    simp only [Tables.masked, Tables.setMessageStatus, Table.rows_update, if_true, List.map_map]
    refine List.map_congr_left fun m _ => ?_
    simp only [Function.comp_apply, Message.masked]
    split <;> split <;> simp_all
  calc (t.setMessageStatus id status).masked hidden
      = { t.masked hidden with messages := ((t.setMessageStatus id status).masked hidden).messages } := rfl
    _ = { t.masked hidden with messages := ((t.masked hidden).setMessageStatus id status).messages } := by rw [messages]
    _ = (t.masked hidden).setMessageStatus id status := rfl

theorem twins_updateStatus (recalled : ∀ t id, fits t → fits (t.setMessageStatus id .recalled)) (id : Int) :
    Twins (Beside hidden fits seen) Eq R (MessageDao.updateStatus id .recalled) (MessageDao.updateStatus id .recalled) := by
  refine twins_atomic (twins_bind (twins_findMessage fun m => ?_) fun m m' found => ?_)
  · rw [Message.masked_id]
  · have there : m.isSome = m'.isSome := by simpa using congrArg Option.isSome found
    cases m with
    | none =>
      cases m' with
      | none => exact twins_ret rfl
      | some m' => cases there
    | some m =>
      cases m' with
      | none => cases there
      | some m' =>
        refine twins_execute (fun t t' alike => ?_) fun t => recalled t id
        rw [masked_setMessageStatus, masked_setMessageStatus, alike]

theorem twins_handleRecallMsg (reflexive : ∀ e, R e e)
    (recalled : ∀ t id, fits t → fits (t.setMessageStatus id .recalled)) (body : Option RecallMsgReq) :
    Twins (Beside hidden fits seen) (fun _ _ => True) R (handleRecallMsg conn seq body) (handleRecallMsg conn seq body) := by
  refine twins_bind (twins_connection conn) ?_
  rintro me - ⟨rfl, -⟩
  refine twins_ite (fun _ => twins_reply reflexive) fun _ => ?_
  cases body with
  | none => exact twins_reply reflexive
  | some req =>
    refine twins_ite (fun _ => twins_reply reflexive) fun _ => twins_bind (twins_isMember _ _) ?_
    rintro member - ⟨rfl, -⟩
    refine twins_ite (fun _ => twins_reply reflexive) fun _ => ?_
    refine twins_bind (twins_findMessage fun m => by simp) fun msg msg' found => ?_
    have there : msg.isSome = msg'.isSome := by simpa using congrArg Option.isSome found
    cases msg with
    | none =>
      cases msg' with
      | none => exact twins_reply reflexive
      | some msg' => cases there
    | some msg =>
      cases msg' with
      | none => cases there
      | some msg' =>
        -- of the row the handler looks at nothing but what the mask leaves
        obtain ⟨content, rfl⟩ : ∃ content, msg' = { msg with content := content } := by
          rcases Message.eq_or_content (Option.some.inj found) with rfl | ⟨-, rest⟩
          · exact ⟨_, rfl⟩
          · exact ⟨_, rest⟩
        refine twins_ite (fun _ => twins_reply reflexive) fun _ => twins_ite (fun _ => twins_reply reflexive) fun _ => ?_
        refine twins_bind (twins_peek _) ?_
        rintro mem - ⟨rfl, -⟩
        dsimp only
        split
        · exact twins_reply reflexive
        · refine twins_bind (twins_updateStatus recalled _) ?_
          rintro updated - rfl
          refine twins_ite (fun _ => twins_reply reflexive) fun _ => twins_bind (twins_reply reflexive) fun _ _ _ => ?_
          refine twins_bind (twins_connection conn) ?_
          rintro sender - ⟨rfl, -⟩
          refine twins_bind (twins_getMembers _) ?_
          rintro members _ ⟨rfl, -⟩
          refine twins_forEach fun member _ => twins_bind (twins_getConns _) ?_
          rintro conns - ⟨rfl, -⟩
          refine twins_forEach fun c _ => twins_bind (twins_connection c) ?_
          rintro device - ⟨rfl, -⟩
          exact twins_ite (fun _ => twins_ret trivial) fun _ => twins_send (reflexive _)

end MsgService

/-- The recall of an administrator. -/
theorem AdminServer.twins_handleRecallMessage (reflexive : ∀ e, R e e)
    (recalled : ∀ t id, fits t → fits (t.setMessageStatus id .recalled)) (permitted : Bool) (id : Int) :
    Twins (Beside hidden fits seen) Eq R (handleRecallMessage permitted id) (handleRecallMessage permitted id) := by
  refine twins_ite (fun _ => twins_ret rfl) fun _ => twins_ite (fun _ => twins_ret rfl) fun _ => ?_
  refine twins_bind (MsgService.twins_findMessage fun m => by rw [Message.masked_id]) fun msg msg' found => ?_
  have there : msg.isSome = msg'.isSome := by simpa using congrArg Option.isSome found
  cases msg with
  | none =>
    cases msg' with
    | none => exact twins_ret rfl
    | some msg' => cases there
  | some msg =>
    cases msg' with
    | none => cases there
    | some msg' =>
      have conversations : msg.conversationId = msg'.conversationId := by
        simpa using congrArg Message.conversationId (Option.some.inj found)
      have seqs : msg.seq = msg'.seq := by
        simpa using congrArg Message.seq (Option.some.inj found)
      refine twins_bind (MsgService.twins_updateStatus recalled id) ?_
      rintro updated - rfl
      refine twins_ite (fun _ => twins_ret rfl) fun _ => ?_
      simp only [← conversations, ← seqs]
      have published : Plain False Tables.masked (fun t : Tables => t) sessions
          (MessageBus.publish (.adminRecallMsg id msg.conversationId msg.seq)) := MessageBus.plain_publish fun _ _ => rfl
      have logged : Plain False Tables.masked (fun t : Tables => t) sessions writeAuditLog := plain_writeAuditLog
      refine twins_bind (published.twins reflexive _) fun _ _ _ => ?_
      exact twins_bind (logged.twins reflexive _) fun _ _ _ => twins_ret rfl

end Sends

end NovaIIM
