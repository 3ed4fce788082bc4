import NovaIIM.Bans

/-!
The message log.

A message enters the log by a send that passes all checks, and nothing takes one out or
changes what it says: the only write behind the insertion is the status of a recall.
`MessageStep` lists what one arrival does to the messages (`received_messages`), whatever
statements fail. Over runs a stored message stays with all its columns, and only its status
may turn to recalled; every new message is the one that some send packet asked for, on a
connection of its sender; and what is recalled was recalled by its sender or by an admin.
-/
namespace NovaIIM
open Store MsgService
open Relation (ReflTransGen)

/-! ### What a send stores -/

/-- The row that a send stores: its seq is the next one of the conversation, its time is read from the clock. -/
structure Sends (w : World) {call : SendCall} (s : Sending call) (m : Message) : Prop where
  admits : Admits w s
  row : ∃ conv ∈ w.tables.conversations.rows, conv.id = s.req.conversationId ∧
    m = messageOf s.userId s.req (conv.maxSeq + 1) w.mem.systemMs

section Stored
variable {call : SendCall} {w w' w'' : World}

/-- The seq that a send was given. -/
private def NextSeq (w : World) (s : Sending call) (serverSeq : Int) : Prop :=
  ∃ conv ∈ w.tables.conversations.rows, conv.id = s.req.conversationId ∧ serverSeq = conv.maxSeq + 1

/-- Behind the insertion the messages are the old ones and the row of the request. -/
private def RowStored (call : SendCall) (w w' : World) : Prop :=
  ∃ (s : Sending call) (serverSeq : Int), s.userId = (w.mem.connections call.conn).userId ∧ NextSeq w s serverSeq ∧
    w'.tables.messages = w.tables.messages.insert (messageOf s.userId s.req serverSeq w.mem.systemMs)

/-- Up to the insertion the messages are the old ones, with the values read on the way. -/
private def PhaseStores (w : World) (phase : Phase call) (w' : World) : Prop :=
  w'.mem.connections = w.mem.connections ∧ w'.mem.systemMs = w.mem.systemMs ∧
    match phase with
    | .entered => w'.tables = w.tables
    | .identified s | .looking s _ | .checking s | .allocating s =>
      w'.tables = w.tables ∧ s.userId = (w.mem.connections call.conn).userId
    | .timing s serverSeq =>
      w'.tables.messages = w.tables.messages ∧ s.userId = (w.mem.connections call.conn).userId ∧ NextSeq w s serverSeq
    | .inserting s serverSeq epochMs =>
      w'.tables.messages = w.tables.messages ∧ s.userId = (w.mem.connections call.conn).userId ∧ NextSeq w s serverSeq ∧
        epochMs = w.mem.systemMs
    | _ => w'.tables.messages = w.tables.messages ∨ RowStored call w w'

private theorem stores_quit {s : Sending call} {e : Error} {bad : e.code ≠ 0}
    (connections : w'.mem.connections = w.mem.connections) (clock : w'.mem.systemMs = w.mem.systemMs) (messages : w'.tables.messages = w.tables.messages) :
    PhaseStores w (.quit s e bad) w' := by
  unfold Phase.quit
  split <;> exact ⟨connections, clock, .inl messages⟩

private theorem step_stores {phase next : Phase call} {events : List Event} (now : PhaseStores w phase w')
    (step : SendStep w' phase next w'' events) : PhaseStores w next w'' := by
  obtain ⟨connections, clock, now⟩ := now
  cases step with
  | anonymous unknown | malformed known garbled => exact ⟨connections, clock, .inl (by rw [now])⟩
  | identify s user known => exact ⟨connections, clock, now, by rw [user, connections]⟩
  | invalid s e error => exact ⟨connections, clock, .inl (by rw [now.1])⟩
  | replay s keyed ack found | busy s keyed absent marked => exact ⟨connections, clock, .inl (by rw [now.1])⟩
  | unkeyed s valid empty => exact ⟨connections, clock, now⟩
  | keyed s valid keyed => exact ⟨connections, clock, now⟩
  | take s keyed absent free => exact ⟨connections, clock, now⟩
  | outsider s turned => exact stores_quit connections clock (by rw [spend_tables, now.1])
  | insider s sound member => exact ⟨connections, clock, now⟩
  | unallocated s _ mem tables stuck =>
    refine stores_quit (by rw [mem, connections]) (by rw [mem, clock]) ?_
    obtain same | incremented := tables
    · rw [same, now.1]
    · rw [incremented, now.1]
      rfl
  | allocated s conv _ mem tables faults able known named positive =>
    obtain ⟨same, user⟩ := now
    rw [tables, same] at known
    obtain ⟨old, there, here, top⟩ := incremented_row known named
    refine ⟨by rw [mem, connections], by rw [mem, clock], ?_, user, old, there, here, top⟩
    rw [tables, same]
    rfl
  | time s serverSeq =>
    obtain ⟨messages, user, numbered⟩ := now
    exact ⟨connections, clock, messages, user, numbered, clock⟩
  | lost s serverSeq epochMs fault => exact stores_quit connections clock now.1
  | insert s serverSeq epochMs sound =>
    obtain ⟨messages, user, numbered, rfl⟩ := now
    have stored : RowStored call w (w'.wrote (w'.tables.insertMessage (messageOf s.userId s.req serverSeq w.mem.systemMs))) := by
      refine ⟨s, serverSeq, user, numbered, ?_⟩
      rw [← messages]
      rfl
    unfold Phase.stored
    split <;> exact ⟨connections, clock, .inr stored⟩
  | fill s serverSeq epochMs keyed => exact ⟨connections, clock, now⟩
  | answer s serverSeq epochMs => exact ⟨connections, clock, now⟩
  | deliver d d' _ _ saved mem tables pushes =>
    refine ⟨by rw [mem, connections], by rw [mem, clock], ?_⟩
    have messages : w''.tables.messages = w'.tables.messages := by
      obtain same | ⟨_, _, _, _, -, -, written⟩ := tables
      · rw [same]
      · rw [written]
        rfl
    obtain same | ⟨s, serverSeq, user, numbered, stored⟩ := now
    · exact .inl (messages.trans same)
    · exact .inr ⟨s, serverSeq, user, numbered, messages.trans stored⟩
  | release s e bad keyed => exact ⟨connections, clock, now⟩
  | refuse e bad => exact ⟨connections, clock, now⟩

/-- A send leaves the messages alone, or its checks pass and its row is stored. -/
theorem send_messages (call : SendCall) (w : World) :
    (call.program.run w).state.tables.messages = w.tables.messages ∨
      ∃ (s : Sending call) (m : Message), Sends w s m ∧
        (call.program.run w).state.tables.messages = w.tables.messages.insert m := by
  obtain ⟨phase, finished, -, -, stores⟩ := @send_invariant call (fun phase w' _ => PhaseStores w phase w')
    (fun phase next w' w'' _ _ now step => step_stores now step) w ⟨rfl, rfl, rfl⟩
  have ended : (call.program.run w).state.tables.messages = w.tables.messages ∨
      RowStored call w (call.program.run w).state := by
    obtain rfl | ⟨d, rfl⟩ := finished_cases finished
    · exact stores
    · exact stores
  obtain same | ⟨s, serverSeq, user, ⟨conv, known, named, rfl⟩, stored⟩ := ended
  · exact .inl same
  obtain ⟨⟨s', admits⟩, -⟩ | ⟨-, messages, -⟩ := send_outcome call w
  · have same : s' = s := by
      obtain ⟨userId, req, given⟩ := s
      obtain ⟨userId', req', given'⟩ := s'
      obtain rfl : req' = req := Option.some.inj (given'.symm.trans given)
      obtain rfl : userId' = userId := admits.user.trans user.symm
      rfl
    exact .inr ⟨s, _, ⟨same ▸ admits, conv, known, named, rfl⟩, stored⟩
  · exact .inl messages

end Stored

/-! ### What a recall changes -/

/-- What lets the recall of a message pass: it is the one that is named, it is the user's own, and its time is not over. -/
structure TakesBack (w : World) (conn : ConnId) (req : RecallMsgReq) (m : Message) : Prop where
  named : (w.tables.messages.rows.find? fun r => r.conversationId = req.conversationId && r.seq = req.serverSeq) = some m
  notYet : m.status ≠ .recalled
  known : (w.mem.connections conn).userId ≠ 0
  own : m.senderId = (w.mem.connections conn).userId
  member : (w.tables.members.rows.any fun r =>
    r.conversationId = req.conversationId && r.userId = (w.mem.connections conn).userId) = true
  inTime : recallExpired m.createdAt (w.mem.systemMs / 1000) w.mem.config.recallTimeoutSecs = none

/-- What one input does to the messages. -/
inductive MessageStep (w : World) : Input → Table Message → Prop where
  | kept (input : Input) : MessageStep w input w.tables.messages
  | stored (send : SendCall) (s : Sending send) (m : Message) (sends : Sends w s m) :
      MessageStep w send.input (w.tables.messages.insert m)
  | recalled (conn : ConnId) (seq : UInt32) (req : RecallMsgReq) (m : Message) (takesBack : TakesBack w conn req m) :
      MessageStep w (.packet (.msg (.recallMsg conn seq (some req)))) (w.tables.setMessageStatus m.id .recalled).messages
  | withdrawn (id : Int) :
      MessageStep w (.admin (.recallMessage true id)) (w.tables.setMessageStatus id .recalled).messages

/-- The run of a program from a world does to the messages what an input may do. -/
def Logs {α : Type} (input : Input) (p : Action α) (w : World) : Prop :=
  p.Ensures w fun o => MessageStep w input o.state.tables.messages

section Served
variable {conn : ConnId} {seq : UInt32} {w : World} {input : Input}

theorem logs_kept {α : Type} {p : Action α} (kept : (p.run w).state.tables.messages = w.tables.messages) : Logs input p w := by
  rw [Logs, Prog.Ensures, kept]
  exact .kept input

theorem logs_silent {α : Type} {p : Action α} (silent : Silent p) : Logs input p w :=
  logs_kept (by rw [(silent w).tables])

/-- A program that neither writes messages nor has a transaction. -/
theorem logs_plain {α μ : Type} {view : Server → μ} {p : Action α} (plain : Plain False Tables.masked Tables.messages view p) :
    Logs input p w := logs_kept (plain.keepsPart w).1

theorem logs_aside {α μ : Type} {view : Server → μ} {p : Action α} (plain : Plain False Tables.masked Tables.social view p) :
    Logs input p w := logs_plain (plain.kept.weaken Prod.fst id id)

theorem logs_spares {α μ : Type} {view : Server → μ} {p : Action α} (plain : Plain False Tables.masked Tables.spared view p) :
    Logs input p w := logs_plain (plain.weaken Prod.fst id id)

theorem logs_settled {α μ : Type} {view : Server → μ} {p : Action α} (plain : Plain False Tables.masked Tables.settled view p) :
    Logs input p w := logs_aside plain.social

/-- What follows leaves the messages alone. -/
theorem messageStep_then {α β μ : Type} {view : Server → μ} {p : Action α} {f : α → Action β} {w' : World}
    (first : p.Ensures w' fun o => MessageStep w input o.state.tables.messages)
    (rest : ∀ a, Plain False Tables.masked Tables.settled view (f a)) :
    (p >>= f).Ensures w' fun o => MessageStep w input o.state.tables.messages := by
  have kept : ((f (p.run w').value).run (p.run w').state).state.tables.messages = (p.run w').state.tables.messages :=
    congrArg (fun settled => settled.1.1.1) ((rest (p.run w').value).keepsPart (p.run w').state).1
  rw [Prog.Ensures, Prog.run_bind]
  show MessageStep w input ((f (p.run w').value).run (p.run w').state).state.tables.messages
  rw [kept]
  exact first

/-- Writes that leave the messages alone. -/
private theorem messages_writes {W : Tables → Tables → Prop} (each : ∀ t t', W t t' → t'.messages = t.messages)
    {t t' : Tables} (writes : ReflTransGen W t t') : t'.messages = t.messages := by
  induction writes with
  | refl => rfl
  | tail _ last ih => exact (each _ _ last).trans ih

theorem logs_friend (request : FriendService.Request) : Logs input (FriendService.handle request) w := by
  obtain ⟨effect, -⟩ := FriendService.handle_does request w
  refine logs_kept ?_
  generalize (Prog.run _ w).state.tables = t at effect
  cases effect with
  | accepted fr known pending mine writes => exact messages_writes (fun _ _ write => by cases write <;> rfl) writes
  | deleted row known normal mine target asked named writes =>
    exact messages_writes (fun _ _ write => by cases write <;> rfl) writes
  | _ => rfl

theorem logs_group (request : GroupService.Request) : Logs input (GroupService.handle request) w := by
  obtain ⟨writes, -⟩ := GroupService.handle_does request w
  exact logs_kept (messages_writes (fun _ _ write => by cases write <;> rfl) writes)

theorem logs_conv (request : ConvService.Request) : Logs input (ConvService.handle request) w := by
  obtain ⟨effect, -⟩ := ConvService.handle_does request w
  refine logs_kept ?_
  generalize (Prog.run _ w).state.tables = t at effect
  cases effect <;> rfl

/-- In an open transaction the profile is left alone, and outside of one what it writes is no message. -/
theorem logs_updateProfile (body : Option UpdateProfileReq) : Logs input (UserService.handleUpdateProfile conn seq body) w := by
  by_cases closed : w.saved = none
  · have plain := @UserService.plain_handleUpdateProfile conn seq body
    exact logs_kept (congrArg Prod.fst (plain.kept.run_part (fun _ _ => false) closed))
  suffices done : Does (fun t t' => t' = t) (UserService.handleUpdateProfile conn seq body) w from
    logs_kept (congrArg Tables.messages done.1)
  have stop : ∀ e (w : World), Does (fun t t' => t' = t) (sendRsp conn .updateProfileAck seq e) w := fun _ _ =>
    does_silent silent_sendRsp rfl
  refine does_peek (does_ite (fun _ => stop _ _) fun _ => ?_)
  cases body with
  | none => exact stop _ _
  | some req =>
    dsimp only
    cases UserService.profileError (UserService.trim req.nickname) (UserService.trim req.avatar) with
    | some e => exact stop _ _
    | none =>
      refine does_lookup (stop _ _) fun user _ => ?_
      have refused : ∀ {α : Type} {f : Bool → Action α}, Silent (f false) → Does (fun t t' => t' = t) (beginTransaction >>= f) w.spend := by
        intro α f silent
        obtain ⟨tables, -, mem⟩ := silent w.spend.spend
        rw [Does, Prog.run_bind, run_begin, if_pos (.inr (Option.isSome_iff_ne_none.mpr closed))]
        exact ⟨tables, mem⟩
      exact refused silent_sendRsp

theorem logs_recallMsg (body : Option RecallMsgReq) :
    Logs (.packet (.msg (.recallMsg conn seq body))) (handleRecallMsg conn seq body) w := by
  suffices done : Does (fun _ t' => MessageStep w (.packet (.msg (.recallMsg conn seq body))) t'.messages)
      (handleRecallMsg conn seq body) w from done.1
  have stop : ∀ e (w' : World), w'.tables = w.tables →
      Does (fun _ t' => MessageStep w (.packet (.msg (.recallMsg conn seq body))) t'.messages)
        (sendRsp conn .recallMsgAck seq e) w' := by
    intro e w' same
    refine does_silent silent_sendRsp ?_
    rw [same]
    exact .kept _
  refine does_peek (does_ite (fun _ => stop _ _ rfl) fun known => ?_)
  cases body with
  | none => exact stop _ _ rfl
  | some req =>
    refine does_ite (fun _ => stop _ _ rfl) fun _ => does_query (stop _ _ rfl) (does_ite (fun _ => stop _ _ rfl) fun member => ?_)
    refine does_lookup (stop _ _ rfl) fun msg named => ?_
    refine does_ite (fun _ => stop _ _ rfl) fun notYet => does_ite (fun _ => stop _ _ rfl) fun mine => does_peek ?_
    cases inTime : recallExpired msg.createdAt _ _ with
    | some e => exact stop _ _ rfl
    | none =>
      have takesBack : TakesBack w conn req msg := ⟨named, notYet, known, not_not.mp mine, by simpa using member, inTime⟩
      refine does_then (does_atomic ?_) fun updated => silent_ite silent_sendRsp ?_
      · refine does_lookup (does_silent (silent_ret false) (.kept _)) fun row _ => ?_
        exact does_write (.kept _) (.recalled conn seq req msg takesBack)
      · refine silent_bind silent_sendRsp fun _ => silent_bind (silent_peek _) fun _ => ?_
        exact silent_broadcastEncoded

theorem logs_recallMessage (permitted : Bool) (id : Int) :
    Logs (.admin (.recallMessage permitted id)) (AdminServer.handleRecallMessage permitted id) w := by
  refine Prog.ensures_ite (fun _ => .kept _) fun allowed => Prog.ensures_ite (fun _ => .kept _) fun _ => ?_
  have allowed : permitted = true := by simpa using allowed
  rw [allowed]
  refine ensures_lookup (.kept _) fun msg _ => ?_
  have written : (MessageDao.updateStatus id .recalled).Ensures w.spend fun o =>
      MessageStep w (.admin (.recallMessage true id)) o.state.tables.messages := by
    refine Prog.ensures_atomic (ensures_lookup (.kept _) fun row _ => ?_)
    rw [Prog.Ensures, execute, run_statement]
    split
    · exact .kept _
    · exact .withdrawn id
  have told : ∀ updated : Bool, SettledHandler (if !updated then return apiErr.kRecallFailed else do
      MessageBus.publish (.adminRecallMsg id msg.conversationId msg.seq)
      AdminServer.writeAuditLog
      return jsonOk : Action ApiReply) := fun updated =>
    plain_ite (.ret _) (.bind (MessageBus.plain_publish fun _ _ => rfl) fun _ => .bind AdminServer.plain_writeAuditLog fun _ => .ret _)
  exact messageStep_then written told

/-- What an input does to the messages, whatever statements fail. -/
theorem logs_served (input : Input) (w : World) : Logs input (serve sqliteDaoFactory input) w := by
  cases input with
  | packet request =>
    cases request with
    | user request =>
      rw [serve, Router.dispatch, UserService.handleWith_sqlite]
      cases request with
      | register conn seq body => exact logs_aside (UserService.plain_handleRegister body)
      | login conn seq body => exact logs_settled (UserService.plain_handleLogin body)
      | logout conn seq => exact logs_settled UserService.plain_handleLogout
      | heartbeat conn seq => exact logs_settled UserService.plain_handleHeartbeat
      | searchUser conn seq body => exact logs_settled (UserService.plain_handleSearchUser body)
      | getProfile conn seq body => exact logs_settled (UserService.plain_handleGetProfile body)
      | updateProfile conn seq body => exact logs_updateProfile body
    | msg request =>
      cases request with
      | sendMsg conn seq body =>
        obtain same | ⟨s, m, sends, stored⟩ := send_messages ⟨conn, seq, body⟩ w
        · exact logs_kept same
        · have step : MessageStep w (SendCall.input ⟨conn, seq, body⟩) (w.tables.messages.insert m) := .stored _ s m sends
          rw [← stored] at step
          exact step
      | recallMsg conn seq body => exact logs_recallMsg body
      | deliverAck conn body => exact logs_spares (plain_handleDeliverAck body)
      | readAck conn seq body => exact logs_spares (plain_handleReadAck body)
    | sync request =>
      cases request with
      | syncMsg conn seq body => exact logs_silent (SyncService.silent_handleSyncMsg conn seq body)
      | syncUnread conn seq => exact logs_silent (SyncService.silent_handleSyncUnread conn seq)
    | friend request =>
      rw [serve, Router.dispatch, FriendService.handleWith_sqlite]
      exact logs_friend request
    | conv request => exact logs_conv request
    | group request =>
      rw [serve, Router.dispatch, GroupService.handleWith_sqlite]
      exact logs_group request
    | file request => exact logs_settled (FileService.plain_handle request)
  | disconnected conn => exact logs_settled Gateway.plain_onDisconnected
  | admin request =>
    refine messageStep_then ?_ fun _ => (.ret () : SettledHandler (.ret ()))
    cases request with
    | banUser permitted uid | unbanUser permitted uid | deleteUser permitted uid =>
      exact logs_aside (AdminServer.plain_setStatus ..)
    | kickUser permitted uid => exact logs_settled (AdminServer.plain_handleKickUser permitted uid)
    | recallMessage permitted id => exact logs_recallMessage permitted id
  | bus => exact logs_settled Application.plain_dispatchMessage

end Served

/-- What one arrival does to the messages. -/
theorem received_messages (w : World) (arrival : Arrival) :
    MessageStep ((arrival.call w).enter w) arrival.input (receive sqliteDaoFactory w arrival).tables.messages :=
  logs_served arrival.input ((arrival.call w).enter w)

/-! ### The log over a run -/

/-- A stored message later on: the same, but that it may have been recalled. -/
def Ages (m m' : Message) : Prop := m' = m ∨ m' = { m with status := .recalled }

theorem Ages.refl (m : Message) : Ages m m := .inl rfl

theorem Ages.trans {m m' m'' : Message} (first : Ages m m') (second : Ages m' m'') : Ages m m'' := by
  rcases first with rfl | rfl <;> rcases second with rfl | rfl
  · exact .inl rfl
  · exact .inr rfl
  · exact .inr rfl
  · exact .inr rfl

theorem Ages.same_id {m m' : Message} (ages : Ages m m') : m'.id = m.id := by
  rcases ages with rfl | rfl <;> rfl

/-- A recalled message stays recalled. -/
theorem Ages.recalled {m m' : Message} (ages : Ages m m') (before : m.status = .recalled) : m'.status = .recalled := by
  rcases ages with rfl | rfl
  · exact before
  · rfl

theorem continues_recalled (t : Tables) (id : Int) :
    Continues Ages t.messages.rows (t.setMessageStatus id .recalled).messages.rows :=
  .update .refl fun _ _ _ => .inr rfl

section Runs
variable {w : World} {arrivals : List Arrival}

theorem continues_received (w : World) (arrival : Arrival) :
    Continues Ages w.tables.messages.rows (receive sqliteDaoFactory w arrival).tables.messages.rows := by
  have step := received_messages w arrival
  generalize arrival.input = input, (receive sqliteDaoFactory w arrival).tables.messages = messages at step
  cases step with
  | kept => exact .refl .refl _
  | stored send s m sends => exact .insert .refl _ m
  | recalled conn seq req m takesBack => exact continues_recalled _ _
  | withdrawn id => exact continues_recalled _ _

theorem continues_run (w : World) (arrivals : List Arrival) :
    Continues Ages w.tables.messages.rows (after (receive sqliteDaoFactory) w arrivals).tables.messages.rows :=
  @after_invariant_always _ _ (receive sqliteDaoFactory) (fun v => Continues Ages w.tables.messages.rows v.tables.messages.rows)
    (fun v arrival grown => grown.trans (fun _ _ _ => .trans) (continues_received v arrival)) w (.refl .refl _) arrivals

/-- The later form of a message is the one with its id. -/
theorem ages_along {m m' : Message} (inside : m ∈ w.tables.messages.rows)
    (later : m' ∈ (after (receive sqliteDaoFactory) w arrivals).tables.messages.rows) (same : m'.id = m.id) : Ages m m' := by
  obtain ⟨found, there, ages⟩ := (continues_run w arrivals).mem inside
  obtain rfl : found = m' := Table.eq_of_id there later (ages.same_id.trans same.symm)
  exact ages

/-- The send packet that a message comes from, in the world that it is served in. -/
structure Authored (v : World) (arrival : Arrival) (conn : ConnId) (req : SendMsgReq) (m : Message) : Prop where
  packet : ∃ seq, arrival.input = .packet (.msg (.sendMsg conn seq (some req)))
  sender : (v.mem.connections conn).userId = m.senderId
  known : m.senderId ≠ 0
  valid : validate v.mem.config.maxContentSize req = none
  member : (v.tables.members.rows.any fun r => r.conversationId = m.conversationId && r.userId = m.senderId) = true
  next : ∃ conv ∈ v.tables.conversations.rows, conv.id = m.conversationId ∧ m.seq = conv.maxSeq + 1
  contents : m.conversationId = req.conversationId ∧ m.content = req.content ∧ m.msgType = req.msgType ∧
    m.clientMsgId = req.clientMsgId
  time : m.createdAt = Calendar.formatUtc (arrival.systemMs / 1000)

theorem authored_sends {v : World} {arrival : Arrival} {send : SendCall} {s : Sending send} {m m' : Message}
    (sends : Sends ((arrival.call v).enter v) s m) (is : arrival.input = send.input)
    (ages : Ages (v.tables.messages.fresh m) m') : Authored v arrival send.conn s.req m' := by
  obtain ⟨admits, conv, known, named, rfl⟩ := sends
  have packet : arrival.input = .packet (.msg (.sendMsg send.conn send.seq (some s.req))) := by
    rw [is, SendCall.input, s.given]
  have unchanged : ∀ {α : Type} (column : Message → α), (∀ m : Message, column { m with status := .recalled } = column m) →
      column m' = column (v.tables.messages.fresh (messageOf s.userId s.req (conv.maxSeq + 1) ((arrival.call v).enter v).mem.systemMs)) := by
    intro α column apart
    rcases ages with rfl | rfl
    · rfl
    · exact apart _
  have sender : m'.senderId = s.userId := unchanged (·.senderId) fun _ => rfl
  have conversation : m'.conversationId = s.req.conversationId := unchanged (·.conversationId) fun _ => rfl
  constructor
  · exact ⟨send.seq, packet⟩
  · exact admits.user.symm.trans sender.symm
  · rw [sender]
    exact admits.known
  · exact admits.valid
  · rw [sender, conversation]
    exact admits.member
  · exact ⟨conv, known, named.trans conversation.symm, unchanged (·.seq) fun _ => rfl⟩
  · refine ⟨conversation, ?_, ?_, ?_⟩
    · exact unchanged (·.content) fun _ => rfl
    · exact unchanged (·.msgType) fun _ => rfl
    · exact unchanged (·.clientMsgId) fun _ => rfl
  · exact unchanged (·.createdAt) fun _ => rfl

/-- Every new message was asked for by a send packet of the run, on a connection that carried its sender. -/
theorem message_authored {m : Message} (inside : m ∈ (after (receive sqliteDaoFactory) w arrivals).tables.messages.rows)
    (new : ∀ old ∈ w.tables.messages.rows, old.id ≠ m.id) :
    ∃ sofar arrival rest, arrivals = sofar ++ arrival :: rest ∧
      ∃ conn req, Authored (after (receive sqliteDaoFactory) w sofar) arrival conn req m := by
  have notYet : ¬∃ old ∈ w.tables.messages.rows, old.id = m.id := fun ⟨old, there, same⟩ => new old there same
  obtain ⟨sofar, arrival, rest, rfl, before, since⟩ := @arises _ _ (receive sqliteDaoFactory)
    (fun v => ∃ stored ∈ v.tables.messages.rows, stored.id = m.id) w arrivals notYet ⟨m, inside, rfl⟩
  refine ⟨sofar, arrival, rest, rfl, ?_⟩
  rw [after_append, after_cons] at inside
  generalize after (receive sqliteDaoFactory) w sofar = v at before since inside ⊢
  obtain ⟨first, stored, same⟩ := since [] List.nil_prefix
  have ages : Ages first m := ages_along stored inside same.symm
  have step := received_messages v arrival
  rw [after_nil] at stored
  generalize is : arrival.input = input at step
  generalize (receive sqliteDaoFactory v arrival).tables.messages = messages at step stored
  have old : ∀ {id : Int}, first ∈ (v.tables.setMessageStatus id .recalled).messages.rows → False := by
    intro id there
    obtain ⟨older, here, rfl⟩ := Table.mem_update.mp there
    refine before ⟨older, here, Eq.trans ?_ same⟩
    split <;> rfl
  cases step with
  | kept => exact absurd ⟨first, stored, same⟩ before
  | stored send s row sends =>
    obtain there | ⟨-, rfl⟩ := Table.mem_insert.mp stored
    · exact absurd ⟨first, there, same⟩ before
    · exact ⟨send.conn, s.req, authored_sends sends is ages⟩
  | recalled conn seq req msg takesBack => exact (old stored).elim
  | withdrawn id => exact (old stored).elim

/-- The log only grows: along every run the stored messages stay where they are, with all that they say, and only a recall
    touches their status; what comes behind them was asked for by send packets of the run, on connections of its senders. -/
theorem log_continues (w : World) (arrivals : List Arrival) :
    Continues Ages w.tables.messages.rows (after (receive sqliteDaoFactory) w arrivals).tables.messages.rows ∧
      ∀ m ∈ (after (receive sqliteDaoFactory) w arrivals).tables.messages.rows, (∃ old ∈ w.tables.messages.rows, old.id = m.id) ∨
        ∃ sofar arrival rest, arrivals = sofar ++ arrival :: rest ∧
          ∃ conn req, Authored (after (receive sqliteDaoFactory) w sofar) arrival conn req m := by
  refine ⟨continues_run w arrivals, fun m inside => ?_⟩
  by_cases old : ∃ old ∈ w.tables.messages.rows, old.id = m.id
  · exact .inl old
  · exact .inr (message_authored inside fun row there same => old ⟨row, there, same⟩)

/-- An arrival recalls the message: its sender asks in time, or an admin who may. -/
def Revokes (v : World) (arrival : Arrival) (m : Message) : Prop :=
  (∃ conn seq req, arrival.input = .packet (.msg (.recallMsg conn seq (some req))) ∧
    TakesBack ((arrival.call v).enter v) conn req m) ∨ arrival.input = .admin (.recallMessage true m.id)

/-- What is recalled in the end was recalled before, or some arrival of the run recalled it, when it was stored
    and not yet recalled. -/
theorem recall_authorised {m : Message} (inside : m ∈ (after (receive sqliteDaoFactory) w arrivals).tables.messages.rows)
    (recalled : m.status = .recalled) :
    (∃ old ∈ w.tables.messages.rows, old.id = m.id ∧ old.status = .recalled) ∨
      ∃ sofar arrival rest, arrivals = sofar ++ arrival :: rest ∧
        ∃ old ∈ (after (receive sqliteDaoFactory) w sofar).tables.messages.rows, old.status ≠ .recalled ∧
          m = { old with status := .recalled } ∧ Revokes (after (receive sqliteDaoFactory) w sofar) arrival old := by
  by_cases long : ∃ old ∈ w.tables.messages.rows, old.id = m.id ∧ old.status = .recalled
  · exact .inl long
  obtain ⟨sofar, arrival, rest, rfl, before, since⟩ := @arises _ _ (receive sqliteDaoFactory)
    (fun v => ∃ stored ∈ v.tables.messages.rows, stored.id = m.id ∧ stored.status = .recalled) w arrivals long
    ⟨m, inside, rfl, recalled⟩
  refine .inr ⟨sofar, arrival, rest, rfl, ?_⟩
  rw [after_append, after_cons] at inside
  generalize after (receive sqliteDaoFactory) w sofar = v at before since inside ⊢
  obtain ⟨first, stored, same, now⟩ := since [] List.nil_prefix
  obtain rfl : m = first := by
    have ages : Ages first m := ages_along stored inside same.symm
    rcases ages with rfl | rfl
    · rfl
    · cases first
      cases now
      rfl
  have step := received_messages v arrival
  rw [after_nil] at stored
  generalize is : arrival.input = input at step
  generalize (receive sqliteDaoFactory v arrival).tables.messages = messages at step stored
  have changed : ∀ {id : Int}, m ∈ (v.tables.setMessageStatus id .recalled).messages.rows →
      ∃ old ∈ v.tables.messages.rows, old.id = id ∧ old.status ≠ .recalled ∧ m = { old with status := .recalled } := by
    intro id there
    obtain ⟨old, here, is⟩ := Table.mem_update.mp there
    by_cases selected : decide (old.id = id) = true
    · rw [if_pos selected] at is
      exact ⟨old, here, of_decide_eq_true selected, fun already => before ⟨old, here, by rw [← is], already⟩, is.symm⟩
    · rw [if_neg selected] at is
      exact absurd ⟨old, here, by rw [is], by rw [is, recalled]⟩ before
  cases step with
  | kept => exact absurd ⟨m, stored, rfl, recalled⟩ before
  | stored send s row sends =>
    obtain there | ⟨-, rfl⟩ := Table.mem_insert.mp stored
    · exact absurd ⟨m, there, rfl, recalled⟩ before
    · obtain ⟨-, conv, -, -, rfl⟩ := sends
      cases recalled
  | recalled conn seq req msg takesBack =>
    obtain ⟨old, here, named, not, is'⟩ := changed stored
    obtain rfl : old = msg := Table.eq_of_id here (List.mem_of_find?_eq_some takesBack.named) named
    exact ⟨old, here, not, is', .inl ⟨conn, seq, req, is, takesBack⟩⟩
  | withdrawn id =>
    obtain ⟨old, here, rfl, not, is'⟩ := changed stored
    exact ⟨old, here, not, is', .inr is⟩

end Runs

/-- User 2 says something and takes it back. -/
def takingBack : List Arrival :=
  [{ saying 2 with systemMs := 5000 },
    { input := .packet (.msg (.recallMsg 2 0 (some { conversationId := 1, serverSeq := 1 }))), systemMs := 9000 }]

theorem recall_authorised_friend :
    ∃ m ∈ (after (receive sqliteDaoFactory) friendsOnline takingBack).tables.messages.rows, m.status = .recalled ∧
      ((∃ old ∈ friendsOnline.tables.messages.rows, old.id = m.id ∧ old.status = .recalled) ∨
        ∃ sofar arrival rest, takingBack = sofar ++ arrival :: rest ∧
          ∃ old ∈ (after (receive sqliteDaoFactory) friendsOnline sofar).tables.messages.rows, old.status ≠ .recalled ∧
            m = { old with status := .recalled } ∧ Revokes (after (receive sqliteDaoFactory) friendsOnline sofar) arrival old) := by
  have inside : { id := 1, conversationId := 1, senderId := 2, seq := 1, msgType := 1, content := [104], status := .recalled,
                  createdAt := Calendar.formatUtc 5 } ∈
      (after (receive sqliteDaoFactory) friendsOnline takingBack).tables.messages.rows := by decide +kernel
  exact ⟨_, inside, rfl, recall_authorised inside rfl⟩

end NovaIIM
