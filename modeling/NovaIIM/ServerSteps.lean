import NovaIIM.ChatMembers

/-!
What one arrival does to the tables, without failures.

The user service, the file service and the administration write neither chats, groups nor
requests (`Tables.social`); the message and the conversation service make the writes of
`Chatting`; the friend and the group service take one step of their own. `TableStep` says so
of every arrival (`received_tables`), and an invariant of the whole server is derived from it.
-/
namespace NovaIIM
open Store

/-! ### Requests to the four services -/

/-- The request that an input brings to the message, friend, group or conversation service. -/
def Input.request? : Input → Option Request
  | .packet (.msg request) => some (.msg request)
  | .packet (.friend request) => some (.friend request)
  | .packet (.group request) => some (.group request)
  | .packet (.conv request) => some (.conv request)
  | _ => none

theorem serve_request {input : Input} {request : Request} (asked : input.request? = some request) :
    serve sqliteDaoFactory input = handle request := by
  unfold Input.request? at asked
  split at asked <;> cases asked
  · rfl
  · rw [serve, Router.dispatch, FriendService.handleWith_sqlite]
    rfl
  · rw [serve, Router.dispatch, GroupService.handleWith_sqlite]
    rfl
  · rfl

/-- Such an arrival is a call of the service. -/
theorem receive_request {w : World} {arrival : Arrival} {request : Request} (asked : arrival.input.request? = some request) :
    receive sqliteDaoFactory w arrival = perform handle w { (arrival.call w) with request := request } := by
  show ((serve sqliteDaoFactory arrival.input).run ((arrival.call w).enter w)).state = _
  rw [serve_request asked]
  rfl

section Aside
variable {w : World}

/-- The recall of an administrator sets a status at most. -/
theorem recallMessage_tables (permitted : Bool) (id : Int) :
    (AdminServer.handleRecallMessage permitted id).Ensures w fun o =>
      o.state.tables = w.tables ∨ o.state.tables = w.tables.setMessageStatus id .recalled := by
  refine Prog.ensures_ite (fun _ => .inl rfl) fun _ => Prog.ensures_ite (fun _ => .inl rfl) fun _ => ?_
  refine ensures_lookup (.inl rfl) fun msg _ => Prog.ensures_bind (Prog.ensures_atomic (ensures_lookup (.inl rfl) fun row _ => ?_))
  have told : Plain False Tables.masked (fun t => t) sessions (do
      MessageBus.publish (.adminRecallMsg id msg.conversationId msg.seq)
      AdminServer.writeAuditLog
      return jsonOk : Action ApiReply) :=
    .bind (MessageBus.plain_publish fun _ _ => rfl) fun _ => .bind AdminServer.plain_writeAuditLog fun _ => .ret _
  rw [Prog.Ensures, execute, run_statement]
  split
  · exact .inl rfl
  · exact .inr (told.keepsPart _).1

/-- Every other input leaves the social rows alone, except for the status of a message that an admin recalls. -/
theorem serve_aside (closed : w.saved = none) {input : Input} (other : input.request? = none) :
    ((serve sqliteDaoFactory input).run w).state.tables.social = w.tables.social ∨
      ∃ id, ((serve sqliteDaoFactory input).run w).state.tables = w.tables.setMessageStatus id .recalled := by
  have plain : ∀ {p : Handler}, SocialKept p → (p.run w).state.tables.social = w.tables.social := fun kept =>
    kept.run_part (fun _ _ => false) closed
  cases input with
  | packet request =>
    cases request with
    | user request =>
      rw [serve, Router.dispatch, UserService.handleWith_sqlite]
      exact .inl (plain (UserService.social_handle request))
    | sync request =>
      cases request with
      | syncMsg conn seq body => exact .inl (congrArg Tables.social (SyncService.silent_handleSyncMsg conn seq body w).tables)
      | syncUnread conn seq => exact .inl (congrArg Tables.social (SyncService.silent_handleSyncUnread conn seq w).tables)
    | file request => exact .inl (plain (FileService.social_handle request))
    | msg | friend | conv | group => cases other
  | disconnected conn => exact .inl (plain Gateway.social_onDisconnected)
  | admin request =>
    rw [serve, Prog.run_bind]
    cases request with
    | banUser permitted uid | unbanUser permitted uid | deleteUser permitted uid =>
      exact .inl ((AdminServer.social_setStatus ..).run_part (fun _ _ => false) closed)
    | kickUser permitted uid => exact .inl ((AdminServer.social_handleKickUser permitted uid).run_part (fun _ _ => false) closed)
    | recallMessage permitted id =>
      rcases @recallMessage_tables w permitted id with same | changed
      · exact .inl (congrArg Tables.social same)
      · exact .inr ⟨id, changed⟩
  | bus => exact .inl (plain Application.social_dispatchMessage)

end Aside

/-! ### Steps -/

/-- What one input does to the tables. -/
inductive TableStep (w : World) : Input → Tables → Prop where
  | aside (input : Input) (t' : Tables) (same : t'.social = w.tables.social) : TableStep w input t'
  | chatted (input : Input) (t' : Tables) (writes : ∀ {P : Tables → Tables → Prop}, Chatting P → P w.tables t') :
      TableStep w input t'
  | befriended (request : FriendService.Request) (t' : Tables)
      (step : FriendService.FriendStep (w.mem.connections request.conn) w.faults (nowText w) w.tables request t') :
      TableStep w (.packet (.friend request)) t'
  | grouped (request : GroupService.Request) (t' : Tables)
      (step : GroupService.GroupStep (w.mem.connections request.conn) w.faults (nowText w) w.tables request t') :
      TableStep w (.packet (.group request)) t'

section Served
variable {w : World} {input : Input}

theorem tableStep_handle {request : Request} (service : (∃ r, request = .msg r) ∨ ∃ r, request = .conv r) :
    TableStep w input ((handle request).run w).state.tables :=
  .chatted _ _ fun chatting => chatting_handle chatting service w

/-- What an input does to the tables, once no transaction is left open. -/
theorem serve_tables (closed : w.saved = none) (input : Input)
    (rolledBack : ((serve sqliteDaoFactory input).run w).state.saved = none) :
    TableStep w input ((serve sqliteDaoFactory input).run w).state.tables := by
  cases asked : input.request? with
  | none =>
    rcases serve_aside closed asked with same | ⟨id, recalled⟩
    · exact .aside _ _ same
    · exact .chatted _ _ fun chatting => recalled ▸ chatting.status _ _ _
  | some request =>
    rw [serve_request asked] at rolledBack ⊢
    unfold Input.request? at asked
    split at asked <;> cases asked
    · exact tableStep_handle (.inl ⟨_, rfl⟩)
    · rcases FriendService.handle_steps _ rolledBack with same | step
      · exact .aside _ _ (congrArg Tables.social same)
      · exact .befriended _ _ step
    · rcases GroupService.handle_steps _ rolledBack with same | step
      · exact .aside _ _ (congrArg Tables.social same)
      · exact .grouped _ _ step
    · exact tableStep_handle (.inr ⟨_, rfl⟩)

end Served

/-- What one arrival without failures does to the tables. -/
theorem received_tables {w : World} (closed : w.saved = none) {arrival : Arrival} (sound : arrival.faults = []) :
    TableStep ((arrival.call w).enter w) arrival.input (receive sqliteDaoFactory w arrival).tables :=
  @serve_tables ((arrival.call w).enter w) closed arrival.input (closed_received closed sound)

end NovaIIM
