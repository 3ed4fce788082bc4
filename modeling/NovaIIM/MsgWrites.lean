import NovaIIM.ConvWrites
import NovaIIM.MsgService

/-!
What the message service writes: the requests other than a send as a relation on
the tables, and of a send the allocation of a seq and what follows the reply.
-/
namespace NovaIIM
open Store

/-- What a recall or an acknowledgement on a connection does to the tables. -/
inductive MsgEffect (request : MsgService.Request) (me : Connection) (t : Tables) : Tables → Prop where
  | unchanged : MsgEffect request me t t
  | recalled (msg : Message) (known : msg ∈ t.messages.rows) (mine : msg.senderId = me.userId) :
      MsgEffect request me t (t.setMessageStatus msg.id .recalled)
  | delivered (conversationId : Int) (selected : ConversationMember → Bool)
      (change : RowUpdate ConversationMember) (settled : KeepsRole change) (unread : KeepsRead change) :
      MsgEffect request me t (t.updateMember conversationId me.userId selected change)
  | read (conn : ConnId) (seq : UInt32) (req : ReadAckReq) (asked : request = .readAck conn seq (some req))
      (selected : ConversationMember → Bool) (change : RowUpdate ConversationMember) (settled : KeepsRole change) :
      MsgEffect request me t (t.updateMember req.conversationId me.userId selected change)

namespace MsgService
variable {w : World}

theorem silent_broadcastEncoded {senderId : Int} {excludeDevice : Bytes} {conversationId : Int}
    {packet : Packet} : Silent (broadcastEncoded senderId excludeDevice conversationId packet) := by
  refine silent_bind (silent_query _ _) fun members => silent_forEach fun member => ?_
  refine silent_bind (silent_peek _) fun conns => silent_forEach fun c => ?_
  exact silent_bind (silent_peek _) fun device => silent_ite (silent_ret ()) silent_send

private theorem turned_away {p : Handler} {request : Request} {me : Connection} (silent : Silent p) (w : World) :
    Does (MsgEffect request me) p w := does_silent silent .unchanged

theorem handleRecallMsg_does (conn : ConnId) (seq : UInt32) (body : Option RecallMsgReq) :
    Does (MsgEffect (.recallMsg conn seq body) (w.mem.connections conn)) (handleRecallMsg conn seq body) w := by
  have stop : ∀ {me} e (w : World), Does (MsgEffect (.recallMsg conn seq body) me) (sendRsp conn .recallMsgAck seq e) w :=
    fun _ w => turned_away silent_sendRsp w
  refine does_peek (does_ite (fun _ => stop _ _) fun _ => ?_)
  cases body with
  | none => exact stop _ _
  | some req =>
    refine does_ite (fun _ => stop _ _) fun _ => ?_
    refine does_query_any fun _ => does_ite (fun _ => stop _ _) fun _ => ?_
    refine does_lookup (stop _ _) fun msg found => ?_
    have known : msg ∈ w.tables.messages.rows := List.mem_of_find?_eq_some found
    refine does_ite (fun _ => stop _ _) fun _ => does_ite (fun _ => stop _ _) fun mine => does_peek ?_
    cases recallExpired msg.createdAt _ _ with
    | some e => exact stop _ _
    | none =>
      refine does_then (does_atomic ?_) fun updated => silent_ite silent_sendRsp ?_
      · refine does_lookup (does_silent (silent_ret false) .unchanged) fun row _ => ?_
        exact does_write .unchanged (.recalled msg known (not_not.mp mine))
      · refine silent_bind silent_sendRsp fun _ => silent_bind (silent_peek _) fun _ => ?_
        exact silent_broadcastEncoded

theorem handleDeliverAck_does (conn : ConnId) (body : Option DeliverAckReq) :
    Does (MsgEffect (.deliverAck conn body) (w.mem.connections conn)) (handleDeliverAck conn body) w := by
  have stop : ∀ {me} (w : World), Does (MsgEffect (.deliverAck conn body) me) (.ret () : Handler) w :=
    fun w => turned_away (silent_ret _) w
  refine does_peek (does_ite (fun _ => stop _) fun _ => ?_)
  cases body with
  | none => exact stop _
  | some req =>
    refine does_ite (fun _ => ?_) fun _ => stop _
    refine does_query_any fun member => does_ite (fun _ => ?_) fun _ => stop _
    unfold ConversationDao.updateLastAckSeq
    split
    · exact stop _
    · exact does_execute rfl .unchanged (.delivered _ _ _ (fun _ => rfl) fun _ => rfl) fun _ => silent_ret ()

theorem handleReadAck_does (conn : ConnId) (seq : UInt32) (body : Option ReadAckReq) :
    Does (MsgEffect (.readAck conn seq body) (w.mem.connections conn)) (handleReadAck conn seq body) w := by
  have stop : ∀ {me} e (w : World), Does (MsgEffect (.readAck conn seq body) me) (sendRsp conn .readAck seq e) w :=
    fun _ w => turned_away silent_sendRsp w
  refine does_peek (does_ite (fun _ => turned_away (silent_ret _) _) fun _ => ?_)
  cases body with
  | none => exact stop _ _
  | some req =>
    refine does_ite (fun _ => stop _ _) fun _ => ?_
    refine does_query_any fun _ => does_ite (fun _ => stop _ _) fun _ => does_query_any fun conv => ?_
    unfold ConversationDao.updateLastReadSeq
    split
    · exact stop _ _
    · refine does_execute rfl .unchanged (.read conn seq req rfl _ _ fun _ => rfl) fun updated => ?_
      cases updated <;> exact silent_sendRsp

/-! ### Allocating a seq -/

/-- An allocation can succeed: its statements do not fail, no transaction is open,
    and the conversation exists. -/
structure Allocatable (conversationId : Int) (w : World) : Prop where
  closed : w.saved = none
  sound : Clear 4 w.faults
  known : ∃ conv ∈ w.tables.conversations.rows, conv.id = conversationId

/-- How an allocation can end. One that fails may still leave the incremented row,
    when the rollback fails as well; one that succeeds answers from that row. -/
inductive Allocated (conversationId : Int) (w : World) : Outcome World Event Int → Prop where
  | failed (w' : World) (mem : w'.mem = w.mem)
      (tables : w'.tables = w.tables ∨ w'.tables = w.tables.incrMaxSeq conversationId)
      (stuck : ¬Allocatable conversationId w) : Allocated conversationId w ⟨-1, w', []⟩
  | done (w' : World) (mem : w'.mem = w.mem) (tables : w'.tables = w.tables.incrMaxSeq conversationId)
      (faults : w'.faults = w.faults.drop 4) (able : Allocatable conversationId w) (conv : Conversation)
      (known : conv ∈ w'.tables.conversations.rows) (named : conv.id = conversationId) :
      Allocated conversationId w ⟨conv.maxSeq, w', []⟩

/-- The row that an increment leaves, and the one it found. -/
theorem incremented_row {t : Tables} {conversationId : Int} {conv : Conversation}
    (known : conv ∈ (t.incrMaxSeq conversationId).conversations.rows) (named : conv.id = conversationId) :
    ∃ old ∈ t.conversations.rows, old.id = conversationId ∧ conv.maxSeq = old.maxSeq + 1 := by
  obtain ⟨old, there, rfl⟩ := Table.mem_update.mp known
  have here : old.id = conversationId := by
    by_contra other
    simp [other] at named
  exact ⟨old, there, here, by simp [here]⟩

theorem generateSeq_allocates (conversationId : Int) (w : World) :
    (generateSeq conversationId).Ensures w (Allocated conversationId w) := by
  refine Prog.ensures_atomic (ensures_begin (fun refused => ?_) fun f1 closed => ?_)
  · refine Prog.ensures_ret (.failed _ rfl (.inl rfl) fun able => ?_)
    exact refused.elim (fun fault => Bool.false_ne_true (able.sound.1.symm.trans fault)) fun opened => opened able.closed
  -- from here on the tables at the BEGIN are the saved ones
  have undo : ∀ w' : World, w'.mem = w.mem → w'.saved = some w.tables →
      (w'.tables = w.tables ∨ w'.tables = w.tables.incrMaxSeq conversationId) →
      ¬Allocatable conversationId w →
      (rollback >>= fun _ => (.ret (-1) : Action Int)).Ensures w' (Allocated conversationId w) := by
    intro w' mem saved tables stuck
    refine ensures_rollback (Prog.ensures_ret (.failed _ mem tables stuck)) (Prog.ensures_ret (.failed _ mem ?_ stuck))
    exact .inl (by simp [saved])
  refine ensures_execute rfl (fun fault => undo _ rfl rfl (.inl rfl) fun able => ?_) fun f2 => ?_
  · exact Bool.false_ne_true (able.sound.2.1.symm.trans fault)
  refine ensures_query (fun fault => undo _ rfl rfl (.inr rfl) fun able => ?_) fun f3 => ?_
  · exact Bool.false_ne_true (able.sound.2.2.1.symm.trans fault)
  split
  · rename_i listed
    refine undo _ rfl rfl (.inr rfl) fun able => ?_
    obtain ⟨conv, there, named⟩ := able.known
    refine List.filter_eq_nil_iff.mp listed _ (Table.mem_update.mpr ⟨conv, there, rfl⟩) ?_
    simp [named]
  · rename_i conv rest listed
    have found : conv ∈ (w.tables.incrMaxSeq conversationId).conversations.rows ∧
        conv.id = conversationId := by
      have inside := @List.mem_cons_self _ conv rest
      rw [← listed] at inside
      simpa using inside
    refine ensures_commit (fun refused => undo _ rfl rfl (.inr rfl) fun able => ?_) fun f4 => Prog.ensures_ret ?_
    · refine refused.elim (fun fault => ?_) fun none => by simp at none
      exact Bool.false_ne_true (able.sound.2.2.2.1.symm.trans fault)
    apply Allocated.done
    · rfl
    · rfl
    · simp [← List.drop_one]
    · obtain ⟨old, there, named, -⟩ := incremented_row found.1 found.2
      exact ⟨closed, ⟨f1, f2, f3, f4, trivial⟩, old, there, named⟩
    · exact found.1
    · exact found.2

end MsgService
end NovaIIM
