import NovaIIM.ConvService

/-!
What the conversation service writes: settings in a member's own row.
-/
namespace NovaIIM
open Store

/-- A change of a member's own settings. -/
def KeepsRole (change : RowUpdate ConversationMember) : Prop := ∀ r, (change.apply r).role = r.role

/-- A change that leaves the read cursor of the member where it is. -/
def KeepsRead (change : RowUpdate ConversationMember) : Prop := ∀ r, (change.apply r).lastReadSeq = r.lastReadSeq

/-- An update of members leaves the conversation and the user. -/
theorem named_update (change : RowUpdate ConversationMember) (m : ConversationMember) :
    (change.apply m).conversationId = m.conversationId ∧ (change.apply m).userId = m.userId := by
  have clash : Row.clash (change.apply m) m = Row.clash m m := change.same_clash m m
  simpa [Row.clash] using clash

/-- What a request to the conversation service on a connection does to the tables. -/
inductive ConvEffect (me : Connection) (t : Tables) : Tables → Prop where
  | unchanged : ConvEffect me t t
  | settings (conversationId : Int) (selected : ConversationMember → Bool)
      (change : RowUpdate ConversationMember) (settled : KeepsRole change) (unread : KeepsRead change) :
      ConvEffect me t (t.updateMember conversationId me.userId selected change)

namespace ConvService
variable {conn : ConnId} {seq : UInt32} {w : World}

theorem silent_broadcastConvUpdate {conversationId excludeUserId : Int} {update : ConvUpdateMsg} :
    Silent (broadcastConvUpdate conversationId excludeUserId update) := by
  refine silent_bind (silent_query _ _) fun members => silent_forEach fun m => ?_
  split
  · exact silent_ret ()
  · exact silent_sendToUser

/-- A query that is skipped when there is nothing to ask for. -/
private theorem silent_unless {α : Type} {nothing : Bool} {none : α} {p : Action α} (silent : Silent p) :
    Silent (if nothing then pure none else p) := by
  cases nothing
  · exact silent
  · exact silent_ret none

theorem silent_handleGetConvList : Silent (handleGetConvList conn seq) := by
  refine silent_bind (silent_peek _) fun me => ?_
  split
  · exact silent_sendPacket
  refine silent_bind (silent_query _ _) fun memberships => ?_
  refine silent_bind (silent_conversations _) fun conversations => ?_
  refine silent_bind (silent_unless (silent_latest _ _)) fun previews => ?_
  refine silent_bind (silent_unless (silent_membersOf _)) fun privateMembers => ?_
  refine silent_bind (silent_unless (silent_findByIds _)) fun users => ?_
  exact silent_sendPacket

/-- The reply behind the one write of a request. -/
private theorem silent_answer {cmd : Cmd} (done : Bool) :
    Silent (if !done then sendRsp conn cmd seq errc.kDatabaseError else sendRsp conn cmd seq errc.kOk) := by
  cases done <;> exact silent_sendRsp

private theorem turned_away {cmd : Cmd} {me : Connection} (e : Error) (w : World) :
    Does (ConvEffect me) (sendRsp conn cmd seq e) w := does_silent silent_sendRsp .unchanged

/-- The settings of a member are the one write of a request. -/
private theorem does_settings {p : Action Bool} {me : Connection} {conversationId : Int}
    {selected : ConversationMember → Bool} {change : RowUpdate ConversationMember} {cmd : Cmd}
    (writes : p = execute (Tables.updateMember conversationId me.userId selected change)) (settled : KeepsRole change)
    (unread : KeepsRead change) (w : World) :
    Does (ConvEffect me) (p >>= fun done =>
      if !done then sendRsp conn cmd seq errc.kDatabaseError else sendRsp conn cmd seq errc.kOk) w :=
  does_statement (congrArg (Prog.run · w) writes) .unchanged (.settings _ _ _ settled unread) silent_answer

theorem handleDeleteConv_does (body : Option ConversationReq) :
    Does (ConvEffect (w.mem.connections conn)) (handleDeleteConv conn seq body) w := by
  refine does_peek (does_ite (fun _ => turned_away _ _) fun _ => ?_)
  cases body with
  | none => exact turned_away _ _
  | some req =>
    refine does_ite (fun _ => turned_away _ _) fun _ => ?_
    refine does_query_any fun _ => does_ite (fun _ => turned_away _ _) fun _ => ?_
    exact does_settings rfl (fun _ => rfl) (fun _ => rfl) _

theorem handleMuteConv_does (body : Option MuteConvReq) :
    Does (ConvEffect (w.mem.connections conn)) (handleMuteConv conn seq body) w := by
  refine does_peek (does_ite (fun _ => turned_away _ _) fun _ => ?_)
  cases body with
  | none => exact turned_away _ _
  | some req =>
    refine does_ite (fun _ => turned_away _ _) fun _ => does_ite (fun _ => turned_away _ _) fun _ => ?_
    refine does_query_any fun _ => does_ite (fun _ => turned_away _ _) fun _ => ?_
    exact does_settings rfl (fun _ => rfl) (fun _ => rfl) _

theorem handlePinConv_does (body : Option PinConvReq) :
    Does (ConvEffect (w.mem.connections conn)) (handlePinConv conn seq body) w := by
  refine does_peek (does_ite (fun _ => turned_away _ _) fun _ => ?_)
  cases body with
  | none => exact turned_away _ _
  | some req =>
    refine does_ite (fun _ => turned_away _ _) fun _ => does_ite (fun _ => turned_away _ _) fun _ => ?_
    refine does_query_any fun _ => does_ite (fun _ => turned_away _ _) fun _ => ?_
    exact does_settings rfl (fun _ => rfl) (fun _ => rfl) _

/-- What a request to the service does to the tables, whatever statements fail. -/
theorem handle_does (request : Request) (w : World) :
    Does (ConvEffect (w.mem.connections request.conn)) (handle request) w := by
  cases request with
  | getConvList conn seq => exact does_silent silent_handleGetConvList .unchanged
  | deleteConv conn seq body => exact handleDeleteConv_does body
  | muteConv conn seq body => exact handleMuteConv_does body
  | pinConv conn seq body => exact handlePinConv_does body

end ConvService
end NovaIIM
