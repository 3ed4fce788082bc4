import NovaIIM.SessionTable
import NovaIIM.SendPhases

/-!
The pushes of a stored message.

A stored message is pushed to the connections that are registered for the members of its
conversation, but for those of the sender that carry the device id of the issuing
connection (`pushed_delivered`). That leaves out the issuing connection and no other
exactly if the device id tells it apart from the sender's registered connections.
-/
namespace NovaIIM
open Store MsgService

/-- The connections to which a `PushMsg` was sent, in order. -/
def pushed (events : List Event) : List ConnId :=
  events.filterMap fun
    | .sent conn packet => if packet.cmd = .pushMsg then some conn else none
    | _ => none

@[simp] theorem pushed_nil : pushed [] = [] := rfl

@[simp] theorem pushed_append (first second : List Event) : pushed (first ++ second) = pushed first ++ pushed second :=
  List.filterMap_append

/-- The users that a conversation has for members. -/
def audience (conversationId : Int) (t : Tables) : List Int :=
  (t.members.rows.filter fun r => r.conversationId = conversationId).map ConversationMember.userId

/-- Members of a conversation that have hidden it. -/
def hiddenCount (members : List ConversationMember) : Nat := (members.filter fun m => m.hidden ≠ 0).length

/-- No update of a member changes the audience. -/
private theorem audience_update (conversationId : Int) (t : Tables) (selected : ConversationMember → Bool)
    (change : RowUpdate ConversationMember) :
    audience conversationId { t with members := t.members.update selected change } = audience conversationId t := by
  have pair : ∀ r, (change.apply r).conversationId = r.conversationId ∧ (change.apply r).userId = r.userId := by
    intro r
    simpa [Row.clash] using change.same_clash r r
  have same : ∀ r, (if selected r then change.apply r else r).conversationId = r.conversationId ∧
      (if selected r then change.apply r else r).userId = r.userId := by
    intro r
    split
    · exact pair r
    · exact ⟨rfl, rfl⟩
  rw [audience, Table.rows_update, List.filter_map, List.map_map, audience]
  simp only [Function.comp_def, fun r => (same r).1, fun r => (same r).2]

/-- A run that sends nothing and leaves the audience as it is, after so many statements. -/
private structure Hushed (conversationId : Int) (statements : Nat) (w : World) (o : Outcome World Event Unit) : Prop where
  events : o.events = []
  mem : o.state.mem = w.mem
  audience : audience conversationId o.state.tables = audience conversationId w.tables
  faults : o.state.faults = w.faults.drop statements

private theorem hushed_update (conversationId userId : Int) (w : World) :
    Hushed conversationId 1 w
      ((ConversationDao.updateMemberHidden conversationId userId 0 >>= fun _ => (.ret () : Handler)).run w) := by
  rw [Prog.run_bind, ConversationDao.updateMemberHidden, execute, run_statement]
  by_cases fault : w.fails
  · rw [if_pos fault]
    exact ⟨rfl, rfl, rfl, by simp [List.drop_one]⟩
  · rw [if_neg fault]
    exact ⟨rfl, rfl, audience_update _ _ _ _, by simp [List.drop_one]⟩

private theorem hushed_each (conversationId : Int) (members : List ConversationMember) (w : World) :
    Hushed conversationId (hiddenCount members) w
      ((Prog.forEach members fun m => if m.hidden = 0 then return () else do
        let _ ← ConversationDao.updateMemberHidden conversationId m.userId 0 : Handler).run w) := by
  induction members generalizing w with
  | nil => exact ⟨rfl, rfl, rfl, rfl⟩
  | cons m rest ih =>
    rw [Prog.forEach_cons, Prog.run_bind, hiddenCount, List.filter_cons]
    by_cases shown : m.hidden = 0
    · rw [if_pos shown, if_neg (by simpa using shown)]
      exact ih w
    · have now := hushed_update conversationId m.userId w
      rw [if_neg shown, if_pos (by simpa using shown), List.length_cons]
      have later := ih ((ConversationDao.updateMemberHidden conversationId m.userId 0 >>=
        fun _ => (.ret () : Handler)).run w).state
      refine ⟨?_, later.mem.trans now.mem, later.audience.trans now.audience, ?_⟩
      · exact List.append_eq_nil_iff.mpr ⟨now.events, later.events⟩
      · exact later.faults.trans (by rw [now.faults, List.drop_drop, Nat.add_comm, hiddenCount])

/-- The statements that come before the pushes. -/
def unhideStatements (conversationId : Int) (t : Tables) (fails : Bool) : Nat :=
  1 + if fails then 0 else hiddenCount (t.members.rows.filter fun r => r.conversationId = conversationId)

private theorem hushed_unhide (conversationId : Int) (w : World) :
    Hushed conversationId (unhideStatements conversationId w.tables w.fails) w ((unhide conversationId).run w) := by
  rw [unhide, Prog.run_bind, ConversationDao.getMembersByConversation, run_query, unhideStatements]
  have later := hushed_each conversationId
    (if w.fails then [] else w.tables.members.rows.filter fun r => r.conversationId = conversationId) w.spend
  refine ⟨later.events, later.mem, later.audience, later.faults.trans ?_⟩
  rw [spend_faults, ← List.drop_one, List.drop_drop]
  by_cases fault : w.fails
  · rw [if_pos fault, if_pos fault]
    rfl
  · rw [if_neg fault, if_neg fault]

/-! ### The pushes -/

/-- The connections of one member to which the pushes go. -/
def pushedTo (m : Server) (senderId : Int) (excludeDevice : Bytes) (userId : Int) : List ConnId :=
  (m.connManager.getConns userId).filter fun c =>
    !(userId = senderId ∧ excludeDevice ≠ [] ∧ (m.connections c).deviceId = excludeDevice : Bool)

private theorem flatMap_kept {ι : Type} (items : List ι) (skip : ι → Prop) [DecidablePred skip] :
    (items.flatMap fun item => if skip item then [] else [item]) = items.filter fun item => !(skip item : Bool) := by
  induction items with
  | nil => rfl
  | cons item rest ih =>
    rw [List.flatMap_cons, ih]
    by_cases skipped : skip item <;> simp [skipped]

private theorem pushed_broadcast (senderId : Int) (excludeDevice : Bytes) (conversationId : Int) {packet : Packet}
    (push : packet.cmd = .pushMsg) (w : World) :
    pushed ((broadcastEncoded senderId excludeDevice conversationId packet).run w).events =
      if w.fails then [] else (audience conversationId w.tables).flatMap (pushedTo w.mem senderId excludeDevice) := by
  let skip (userId : Int) (c : ConnId) : Prop :=
    userId = senderId ∧ excludeDevice ≠ [] ∧ (w.mem.connections c).deviceId = excludeDevice
  have each : ∀ userId, ∀ c ∈ w.mem.connManager.getConns userId,
      ((connection c >>= fun device => if userId = senderId ∧ excludeDevice ≠ [] ∧ device.deviceId = excludeDevice
        then .ret () else send c packet : Handler).run w.spend) =
        ⟨(), w.spend, if skip userId c then [] else [.sent c packet]⟩ := by
    intro userId c _
    rw [Prog.run_bind, connection, run_peek]
    by_cases skipped : skip userId c
    · rw [if_pos skipped]
      simp [skip] at skipped
      simp [skipped]
    · rw [if_neg skipped]
      simp only [skip] at skipped
      simp [skipped, send]
  have member : ∀ members : List ConversationMember, ∀ m ∈ members,
      ((getConns m.userId >>= fun conns => .forEach conns fun c => connection c >>= fun device =>
        if m.userId = senderId ∧ excludeDevice ≠ [] ∧ device.deviceId = excludeDevice
        then .ret () else send c packet : Handler).run w.spend) =
        ⟨(), w.spend, (w.mem.connManager.getConns m.userId).flatMap fun c =>
          if skip m.userId c then [] else [.sent c packet]⟩ := by
    intro members m _
    rw [Prog.run_bind, getConns, run_peek]
    exact Prog.run_forEach (each m.userId)
  have run := Prog.run_forEach (member (if w.fails then [] else
    w.tables.members.rows.filter fun r => r.conversationId = conversationId))
  rw [broadcastEncoded, Prog.run_bind, ConversationDao.getMembersByConversation, run_query]
  refine (congrArg (fun o => pushed o.events) run).trans ?_
  by_cases fault : w.fails
  · rw [if_pos fault, if_pos fault]
    rfl
  · rw [if_neg fault, if_neg fault, audience, List.flatMap_map, pushed, List.filterMap_flatMap]
    refine List.flatMap_congr fun m _ => ?_
    rw [List.filterMap_flatMap, pushedTo, ← flatMap_kept]
    refine List.flatMap_congr fun c _ => ?_
    split <;> simp [push]

private theorem pushed_none {events : List Event} (none : ∀ event ∈ events, pushed [event] = []) : pushed events = [] := by
  induction events with
  | nil => rfl
  | cons event rest ih =>
    rw [← List.singleton_append, pushed_append, none event List.mem_cons_self, List.nil_append]
    exact ih fun other inside => none other (List.mem_cons_of_mem _ inside)

/-- An action that pushes nothing. -/
private def Unpushing (_ : World → World) (emit : World → List Event) : Prop :=
  ∀ w, ∀ event ∈ emit w, pushed [event] = []

private theorem pushed_every {α : Type} {p : Action α} (every : p.Every Unpushing) (w : World) :
    pushed (p.run w).events = [] :=
  pushed_none (Prog.every_events _ (fun _ _ none => none) every w)

private theorem unpushing_send {conn : ConnId} {packet : Packet} (other : packet.cmd ≠ .pushMsg) :
    (send conn packet).Every Unpushing := by
  refine Prog.every_step fun w event inside => ?_
  rw [List.mem_singleton.mp inside]
  simp [pushed, other]

private theorem unpushing_query {α : Type} (failed : α) (answer : Tables → α) :
    (query failed answer : Action α).Every Unpushing := Prog.every_step fun w event inside => by cases inside

private theorem unpushing_peek {α : Type} (answer : Server → α) : (peek answer : Action α).Every Unpushing :=
  Prog.every_step fun w event inside => by cases inside

/-- The other packets of a delivery are no pushes. -/
private theorem unpushing_update (conversationId excludeUserId : Int) (update : ConvUpdateMsg) :
    (ConvService.broadcastConvUpdate conversationId excludeUserId update).Every Unpushing := by
  refine Prog.every_bind (unpushing_query _ _) fun members => Prog.every_forEach fun m _ => ?_
  split
  · exact Prog.every_ret ()
  · refine Prog.every_bind (unpushing_peek _) fun conns => Prog.every_forEach fun c _ => ?_
    exact unpushing_send (by simp)

/-- The pushes that follow a reply, from the state behind it. -/
theorem pushed_delivered (conn : ConnId) (senderId : Int) (req : SendMsgReq) (serverSeq epochMs : Int) (w : World) :
    pushed ((sendDelivered conn senderId req serverSeq epochMs).run w).events =
      if (w.faults.drop (unhideStatements req.conversationId w.tables w.fails)).headD false then []
      else (audience req.conversationId w.tables).flatMap
        (pushedTo w.mem senderId (w.mem.connections conn).deviceId) := by
  have hushed := hushed_unhide req.conversationId w
  rw [sendDelivered, Prog.run_bind]
  generalize (unhide req.conversationId).run w = o at hushed
  obtain ⟨events, mem, audience, faults⟩ := hushed
  rw [connection, Prog.run_bind, run_peek, Prog.run_bind]
  simp only [pushed_append, events, List.nil_append]
  rw [pushed_broadcast _ _ _ rfl, pushed_every (unpushing_update _ _ _), List.append_nil, mem, audience, fails, faults]

/-! ### A send as a whole -/

/-- How a send can end: nothing is stored and nothing pushed, or the reply is followed by a
    delivery in a state with the same members and connections. -/
inductive Fate (conn : ConnId) (senderId : Int) (req : SendMsgReq) (statements : Nat) (w : World)
    (o : Outcome World Event Unit) : Prop where
  | unstored (messages : o.state.tables.messages = w.tables.messages) (none : pushed o.events = [])
  | stored (w' : World) (serverSeq epochMs : Int) (member : senderId ∈ audience req.conversationId w.tables)
      (connections : w'.mem.connections = w.mem.connections) (connManager : w'.mem.connManager = w.mem.connManager)
      (members : w'.tables.members = w.tables.members) (faults : w'.faults = w.faults.drop statements)
      (pushes : pushed o.events = pushed ((sendDelivered conn senderId req serverSeq epochMs).run w').events)

/-- A run that touches neither tables nor statements nor connections, and pushes nothing. -/
private structure Bookkeeping {α : Type} (w : World) (o : Outcome World Event α) : Prop where
  tables : o.state.tables = w.tables
  faults : o.state.faults = w.faults
  connections : o.state.mem.connections = w.mem.connections
  connManager : o.state.mem.connManager = w.mem.connManager
  none : pushed o.events = []

private theorem bookkeeping_bind {α β : Type} {p : Action α} {f : α → Action β} {w : World} (first : Bookkeeping w (p.run w))
    (rest : ∀ a w', Bookkeeping w' ((f a).run w')) : Bookkeeping w ((p >>= f).run w) := by
  rw [Prog.run_bind]
  have next := rest (p.run w).value (p.run w).state
  refine ⟨next.tables.trans first.tables, next.faults.trans first.faults, next.connections.trans first.connections,
    next.connManager.trans first.connManager, ?_⟩
  rw [pushed_append, first.none, next.none]
  rfl

private theorem bookkeeping_ret {α : Type} (value : α) (w : World) : Bookkeeping w ((.ret value : Action α).run w) :=
  ⟨rfl, rfl, rfl, rfl, rfl⟩

private theorem bookkeeping_sendAck (conn : ConnId) (seq : UInt32) (ack : SendMsgAck) (w : World) :
    Bookkeeping w ((sendAck conn seq ack).run w) := ⟨rfl, rfl, rfl, rfl, rfl⟩

private theorem bookkeeping_dedupFill (key : Bytes) (ack : SendMsgAck) (w : World) : Bookkeeping w ((dedupFill key ack).run w) := by
  unfold dedupFill
  split
  · exact bookkeeping_ret () w
  · rw [Prog.run_atomic]
    exact ⟨rfl, rfl, rfl, rfl, rfl⟩

private theorem bookkeeping_release (key : Bytes) (w : World) : Bookkeeping w ((dedupRemoveInflightIfNeeded key).run w) := by
  unfold dedupRemoveInflightIfNeeded
  split
  · exact bookkeeping_ret () w
  · exact ⟨rfl, rfl, rfl, rfl, rfl⟩

private theorem bookkeeping_quit (conn : ConnId) (seq : UInt32) (key : Bytes) (e : Error) (w : World) :
    Bookkeeping w ((dedupRemoveInflightIfNeeded key >>= fun _ => sendAckError conn seq e).run w) :=
  bookkeeping_bind (bookkeeping_release key w) fun _ w' => bookkeeping_sendAck conn seq _ w'

private theorem bookkeeping_dedupSection (conn : ConnId) (seq : UInt32) (key : Bytes) (w : World) :
    Bookkeeping w ((dedupSection conn seq key).run w) := by
  rw [dedupSection, Prog.run_atomic]
  refine bookkeeping_bind ⟨rfl, rfl, rfl, rfl, rfl⟩ fun cached w' => ?_
  cases cached with
  | some ack => exact bookkeeping_bind (bookkeeping_sendAck conn seq ack w') fun _ w'' => bookkeeping_ret false w''
  | none =>
    refine bookkeeping_bind ⟨rfl, rfl, rfl, rfl, rfl⟩ fun marked w' => ?_
    cases marked
    · exact bookkeeping_bind (bookkeeping_sendAck conn seq _ w') fun _ w'' => bookkeeping_ret false w''
    · exact bookkeeping_ret true w'

section Fates
variable {conn : ConnId} {seq : UInt32} {senderId : Int} {req : SendMsgReq} {w w' : World}
  {o : Outcome World Event Unit} {n : Nat}

/-- A run that only keeps its books stores nothing. -/
private theorem fate_stopped (books : Bookkeeping w o) : Fate conn senderId req n w o :=
  .unstored (by rw [books.tables]) books.none

/-- The statements before a part of a send, which store nothing. -/
private theorem Fate.behind {before : List Event} {k : Nat} (fate : Fate conn senderId req n w' o)
    (messages : w'.tables.messages = w.tables.messages) (members : w'.tables.members = w.tables.members)
    (connections : w'.mem.connections = w.mem.connections) (connManager : w'.mem.connManager = w.mem.connManager)
    (faults : w'.faults = w.faults.drop k) (none : pushed before = []) :
    Fate conn senderId req (k + n) w ⟨o.value, o.state, before ++ o.events⟩ := by
  have same : pushed (before ++ o.events) = pushed o.events := by rw [pushed_append, none, List.nil_append]
  cases fate with
  | unstored kept quiet => exact .unstored (kept.trans messages) (same.trans quiet)
  | stored w'' serverSeq epochMs member c m r f pushes =>
    have insider : senderId ∈ audience req.conversationId w.tables := by
      rwa [audience, members] at member
    refine .stored w'' serverSeq epochMs insider (c.trans connections) (m.trans connManager) (r.trans members) ?_
      (same.trans pushes)
    rw [f, faults, List.drop_drop]

/-- The reply to a stored message is followed by its delivery. -/
private theorem pushed_stored (serverSeq epochMs : Int) (w : World) :
    ∃ w', w'.tables = w.tables ∧ w'.faults = w.faults ∧ w'.mem.connections = w.mem.connections ∧
      w'.mem.connManager = w.mem.connManager ∧
      pushed ((sendStored conn seq senderId req serverSeq epochMs).run w).events =
        pushed ((sendDelivered conn senderId req serverSeq epochMs).run w').events := by
  have filled := bookkeeping_dedupFill req.clientMsgId (okAck serverSeq epochMs) w
  have acked := bookkeeping_sendAck conn seq (okAck serverSeq epochMs)
    ((dedupFill req.clientMsgId (okAck serverSeq epochMs)).run w).state
  refine ⟨_, acked.tables.trans filled.tables, acked.faults.trans filled.faults,
    acked.connections.trans filled.connections, acked.connManager.trans filled.connManager, ?_⟩
  rw [sendStored, Prog.run_bind, Prog.run_bind, pushed_append, pushed_append]
  exact congrArg₂ (· ++ ·) filled.none (congrArg₂ (· ++ ·) acked.none rfl)

private theorem fate_sendInsert (serverSeq : Int) (w : World) (member : senderId ∈ audience req.conversationId w.tables) :
    Fate conn senderId req 1 w ((sendInsert conn seq senderId req serverSeq).run w) := by
  rw [sendInsert, Prog.run_bind, run_peek, MessageDao.insert, execute, Prog.run_bind, run_statement]
  by_cases fault : w.fails
  · rw [if_pos fault]
    exact @Fate.behind conn senderId req w w.spend _ 0 [] 1 (fate_stopped (bookkeeping_quit _ _ _ _ _))
      rfl rfl rfl rfl (by simp [List.drop_one]) rfl
  · rw [if_neg fault]
    obtain ⟨w', tables, faults, connections, connManager, pushes⟩ := @pushed_stored conn seq senderId req serverSeq
      w.mem.systemMs (w.wrote (w.tables.insertMessage (messageOf senderId req serverSeq w.mem.systemMs)))
    refine .stored w' serverSeq w.mem.systemMs member connections connManager (by rw [tables]; rfl) ?_ pushes
    rw [faults, List.drop_one]
    rfl

private theorem fate_sendAllocate (w : World) (member : senderId ∈ audience req.conversationId w.tables) :
    Fate conn senderId req 5 w ((sendAllocate conn seq senderId req).run w) := by
  have ends := generateSeq_allocates req.conversationId w
  rw [sendAllocate, Prog.run_bind]
  unfold Prog.Ensures at ends
  generalize (generateSeq req.conversationId).run w = o at ends
  cases ends with
  | failed w' mem tables stuck =>
    have messages : w'.tables.messages = w.tables.messages := by
      rcases tables with same | incremented
      · rw [same]
      · rw [incremented]
        rfl
    have quit := bookkeeping_quit conn seq req.clientMsgId errc.msg.kConversationNotFound w'
    exact .unstored (quit.tables ▸ messages) quit.none
  | done w' mem tables faults able conv known named =>
    dsimp only
    split
    · have quit := bookkeeping_quit conn seq req.clientMsgId errc.msg.kConversationNotFound w'
      exact .unstored (by rw [quit.tables, tables]; rfl) quit.none
    · have insider : senderId ∈ audience req.conversationId w'.tables := by
        rw [tables]
        exact member
      exact (fate_sendInsert conv.maxSeq w' insider).behind (by rw [tables]; rfl) (by rw [tables]; rfl) (by rw [mem])
        (by rw [mem]) faults rfl

private theorem fate_sendChecked (w : World) :
    Fate conn senderId req 6 w ((sendChecked conn seq senderId req).run w) := by
  rw [sendChecked, Prog.run_bind, ConversationDao.isMember, run_query]
  generalize found : (if w.fails then false else _) = member
  cases member
  · exact @Fate.behind conn senderId req w w.spend _ 5 [] 1 (fate_stopped (bookkeeping_quit _ _ _ _ _))
      rfl rfl rfl rfl (by simp [List.drop_one]) rfl
  · have insider : senderId ∈ audience req.conversationId w.tables := by
      split at found
      · cases found
      · obtain ⟨r, inside, same⟩ := List.any_eq_true.mp found
        simp only [Bool.and_eq_true, decide_eq_true_eq] at same
        exact List.mem_map.mpr ⟨r, List.mem_filter.mpr ⟨inside, decide_eq_true same.1⟩, same.2⟩
    exact @Fate.behind conn senderId req w w.spend _ 5 [] 1 (fate_sendAllocate w.spend insider)
      rfl rfl rfl rfl (by simp [List.drop_one]) rfl

private theorem fate_sendValid (w : World) :
    Fate conn senderId req 6 w ((sendValid conn seq senderId req).run w) := by
  unfold sendValid
  split
  · exact fate_sendChecked w
  · have section_ := bookkeeping_dedupSection conn seq req.clientMsgId w
    rw [Prog.run_bind]
    split
    · refine .unstored (congrArg Tables.messages section_.tables) ?_
      exact (congrArg pushed (List.append_nil _)).trans section_.none
    · exact @Fate.behind conn senderId req w _ _ 6 _ 0 (fate_sendChecked _) (by rw [section_.tables])
        (by rw [section_.tables]) section_.connections section_.connManager section_.faults section_.none

end Fates

/-- A send in any state: the six statements up to the stored row, then the delivery. -/
theorem send_fate (conn : ConnId) (seq : UInt32) (req : SendMsgReq) (w : World) :
    Fate conn (w.mem.connections conn).userId req 6 w ((handleSendMsg conn seq (some req)).run w) := by
  rw [handleSendMsg, connection, Prog.run_bind, run_peek]
  split
  · exact fate_stopped (bookkeeping_sendAck _ _ _ _)
  · rw [Prog.run_bind, run_peek]
    dsimp only
    split
    · exact fate_stopped (bookkeeping_sendAck _ _ _ _)
    · exact fate_sendValid w

/-! ### Who is reached -/

/-- The pushes go once to every connection that is registered for a member, but for the issuing one. -/
structure FansOut (now : World) (conn : ConnId) (conversationId : Int) (events : List Event) : Prop where
  once : (pushed events).Nodup
  reached : ∀ c, c ∈ pushed events ↔
    c ≠ conn ∧ ∃ userId ∈ audience conversationId now.tables, c ∈ now.mem.connManager.getConns userId

/-- The device id tells a connection apart from the others that are registered for its user. -/
structure ToldApart (m : Server) (conn : ConnId) : Prop where
  unnamed : (m.connections conn).deviceId = [] → conn ∉ m.connManager.getConns (m.connections conn).userId
  named : (m.connections conn).deviceId ≠ [] → ∀ c ∈ m.connManager.getConns (m.connections conn).userId,
    (m.connections c).deviceId = (m.connections conn).deviceId → c = conn

/-- The query for the members fails with which the pushes of a stored message begin. -/
def pushesFail (conversationId : Int) (t : Tables) (faults : List Bool) : Bool :=
  (faults.drop (6 + unhideStatements conversationId t ((faults.drop 6).headD false))).headD false

section Reached
variable {now : World} {conn : ConnId} {conversationId : Int}

theorem mem_pushedTo {m : Server} {senderId userId : Int} {excludeDevice : Bytes} {c : ConnId} :
    c ∈ pushedTo m senderId excludeDevice userId ↔ c ∈ m.connManager.getConns userId ∧
      ¬(userId = senderId ∧ excludeDevice ≠ [] ∧ (m.connections c).deviceId = excludeDevice) := by
  simp only [pushedTo, List.mem_filter, Bool.not_eq_true', decide_eq_false_iff_not]

theorem audience_nodup (conversationId : Int) (t : Tables) : (audience conversationId t).Nodup := by
  have rows : t.members.rows.Nodup := t.members.ascending.imp fun less same => by simp [same] at less
  refine List.Nodup.map_on (fun a first b second same => ?_) (rows.filter _)
  obtain ⟨inside, here⟩ := List.mem_filter.mp first
  obtain ⟨inside', here'⟩ := List.mem_filter.mp second
  refine Table.eq_of_clash inside inside' ?_
  simp only [decide_eq_true_eq] at here here'
  simp [Row.clash, here, here', same]

theorem getConns_nodup (inv : TableInv (sessions now.mem)) (userId : Int) : (now.mem.connManager.getConns userId).Nodup := by
  cases found : now.mem.connManager.conns.lookup userId with
  | none => simp [ConnManager.getConns, found]
  | some vec =>
    rw [ConnManager.getConns_lookup found]
    exact (inv.tidy userId vec found).once

/-- Nobody is reached twice. -/
private theorem pushes_nodup (inv : TableInv (sessions now.mem)) (senderId : Int) (excludeDevice : Bytes) :
    ((audience conversationId now.tables).flatMap (pushedTo now.mem senderId excludeDevice)).Nodup := by
  refine List.nodup_flatMap.mpr ⟨fun userId _ => (getConns_nodup inv userId).filter _, ?_⟩
  refine (audience_nodup conversationId now.tables).imp fun different c first second => different ?_
  exact inv.apart _ _ c (mem_pushedTo.mp first).1 (mem_pushedTo.mp second).1

/-- The right connections are reached exactly if the issuing one is told apart. -/
private theorem reached_iff (inv : TableInv (sessions now.mem)) (listed : Listed (sessions now.mem))
    (member : (now.mem.connections conn).userId ∈ audience conversationId now.tables) :
    (∀ c, c ∈ (audience conversationId now.tables).flatMap
        (pushedTo now.mem (now.mem.connections conn).userId (now.mem.connections conn).deviceId) ↔
      c ≠ conn ∧ ∃ userId ∈ audience conversationId now.tables, c ∈ now.mem.connManager.getConns userId) ↔
      ToldApart now.mem conn := by
  simp only [List.mem_flatMap, mem_pushedTo]
  constructor
  · intro reached
    refine ⟨fun empty registered => ?_, fun named c registered same => ?_⟩
    · exact ((reached conn).mp ⟨_, member, registered, fun skipped => skipped.2.1 empty⟩).1 rfl
    · by_contra other
      obtain ⟨userId, -, there, kept⟩ := (reached c).mpr ⟨other, _, member, registered⟩
      exact kept ⟨inv.apart userId _ c there registered, named, same⟩
  · intro apart c
    constructor
    · rintro ⟨userId, inside, registered, kept⟩
      refine ⟨?_, userId, inside, registered⟩
      rintro rfl
      have own : (now.mem.connections c).userId = userId := (listed userId c registered).2
      by_cases empty : (now.mem.connections c).deviceId = []
      · exact apart.unnamed empty (own ▸ registered)
      · exact kept ⟨own.symm, empty, rfl⟩
    · rintro ⟨other, userId, inside, registered⟩
      refine ⟨userId, inside, registered, fun ⟨own, named, same⟩ => ?_⟩
      exact other (apart.named named c (own ▸ registered) same)

end Reached

/-- A state of the running server: a run from an empty connection table has led to it. -/
def Serving (now : World) : Prop :=
  ∃ w arrivals, w.mem.connManager = {} ∧ now = after (receive sqliteDaoFactory) w arrivals

/-- In every state of every run a send that stores a message pushes it once to every connection
    registered for a member but the issuing one, and to no other, exactly if the issuing connection
    is told apart by its device id; if the query for the members fails, exactly if nobody else
    is registered. -/
theorem push_fan_out (now : World) (serving : Serving now) (arrival : Arrival) (conn : ConnId) (seq : UInt32)
    (req : SendMsgReq) (asked : arrival.input = .packet (.msg (.sendMsg conn seq (some req))))
    (stores : (receive sqliteDaoFactory now arrival).tables.messages ≠ now.tables.messages) :
    FansOut now conn req.conversationId (received sqliteDaoFactory now arrival).events ↔
      if pushesFail req.conversationId now.tables arrival.faults then
        ∀ c ≠ conn, ∀ userId ∈ audience req.conversationId now.tables, c ∉ now.mem.connManager.getConns userId
      else ToldApart now.mem conn := by
  obtain ⟨listed, inv⟩ : Listed (sessions now.mem) ∧ TableInv (sessions now.mem) := by
    obtain ⟨w, arrivals, empty, rfl⟩ := serving
    exact listed_run empty arrivals
  have run : received sqliteDaoFactory now arrival =
      (handleSendMsg conn seq (some req)).run ((arrival.call now).enter now) := by
    rw [received, served, Arrival.call, asked]
    rfl
  have fate := send_fate conn seq req ((arrival.call now).enter now)
  rw [receive, run] at stores
  rw [run]
  generalize (handleSendMsg conn seq (some req)).run ((arrival.call now).enter now) = o at fate stores
  cases fate with
  | unstored messages none => exact absurd messages stores
  | stored w' serverSeq epochMs member connections connManager members faults pushes =>
    have crowd : audience req.conversationId w'.tables = audience req.conversationId now.tables := by
      rw [audience, members]
      rfl
    have before : unhideStatements req.conversationId w'.tables w'.fails =
        unhideStatements req.conversationId now.tables ((arrival.faults.drop 6).headD false) := by
      rw [unhideStatements, members, fails, faults]
      rfl
    have failing : (w'.faults.drop (unhideStatements req.conversationId w'.tables w'.fails)).headD false =
        pushesFail req.conversationId now.tables arrival.faults := by
      rw [before, faults, List.drop_drop]
      rfl
    have told : ∀ senderId excludeDevice, pushedTo w'.mem senderId excludeDevice =
        pushedTo now.mem senderId excludeDevice := by
      intro senderId excludeDevice
      funext userId
      rw [pushedTo, connections, connManager]
      rfl
    rw [pushed_delivered, failing, crowd, told, connections] at pushes
    split
    · rename_i fault
      rw [if_pos fault] at pushes
      refine ⟨fun out c other userId inside registered => ?_, fun nobody => ⟨by simp [pushes], fun c => ?_⟩⟩
      · have got := (out.reached c).mpr ⟨other, userId, inside, registered⟩
        rw [pushes] at got
        cases got
      · rw [pushes]
        refine iff_of_false List.not_mem_nil ?_
        rintro ⟨other, userId, inside, registered⟩
        exact nobody c other userId inside registered
    · rename_i works
      rw [if_neg works] at pushes
      rw [← reached_iff inv listed member]
      refine ⟨fun out c => ?_, fun reached => ⟨?_, fun c => ?_⟩⟩
      · rw [← out.reached c, pushes]
        rfl
      · rw [pushes]
        exact pushes_nodup inv _ _
      · rw [pushes]
        exact reached c

/-- Users 1 and 2 share a conversation, and no password is wrong. -/
def acquainted : World where
  tables :=
    { users := ((∅ : Table User).insert { uid := [1], email := ascii "a@b.c", passwordHash := [1] }).insert
        { uid := [2], email := ascii "b@b.c", passwordHash := [1] }
      conversations := (∅ : Table Conversation).insert { type := .private_ }
      members := ((∅ : Table ConversationMember).insert { conversationId := 1, userId := 1 }).insert
        { conversationId := 1, userId := 2 } }
  mem := { config := { passwordVerify := fun _ _ => true } }

/-- User 1 logs in on a connection with a device id. -/
def loginAs (conn : ConnId) (deviceId : Bytes) : Arrival where
  input := .packet (.user (.login conn 0
    (some { email := ascii "a@b.c", password := [1], deviceId := deviceId, deviceType := [] })))

/-- The connection sends a message. -/
def sendOn (conn : ConnId) : Arrival where
  input := .packet (.msg (.sendMsg conn 0 (some { conversationId := 1, content := [97], clientMsgId := [] })))

/-- Without a device id the issuing connection gets its own message. -/
theorem push_comes_back : ¬∀ now, Serving now → ∀ (arrival : Arrival) conn seq req,
    arrival.input = .packet (.msg (.sendMsg conn seq (some req))) →
    (receive sqliteDaoFactory now arrival).tables.messages ≠ now.tables.messages →
    FansOut now conn req.conversationId (received sqliteDaoFactory now arrival).events := by
  intro claim
  have out := claim _ ⟨acquainted, [loginAs 1 []], rfl, rfl⟩ (sendOn 1) 1 0 _ rfl (by
    intro same
    have rows := congrArg (fun messages => messages.rows.length) same
    exact absurd rows (by decide))
  have pushes : 1 ∈ pushed (received sqliteDaoFactory
      (after (receive sqliteDaoFactory) acquainted [loginAs 1 []]) (sendOn 1)).events := by decide
  exact ((out.reached 1).mp pushes).1 rfl

/-- On two devices with ids of their own, the other one is reached. -/
theorem push_fan_out_devices :
    FansOut (after (receive sqliteDaoFactory) acquainted [loginAs 1 [65], loginAs 2 [66]]) 1 1
      (received sqliteDaoFactory (after (receive sqliteDaoFactory) acquainted [loginAs 1 [65], loginAs 2 [66]]) (sendOn 1)).events := by
  refine (push_fan_out _ ⟨acquainted, [loginAs 1 [65], loginAs 2 [66]], rfl, rfl⟩ (sendOn 1) 1 0
    { conversationId := 1, content := [97], clientMsgId := [] } rfl ?_).mpr ?_
  · intro same
    have rows := congrArg (fun messages => messages.rows.length) same
    exact absurd rows (by decide)
  · rw [if_neg (by decide)]
    exact ⟨by decide, by decide⟩

end NovaIIM
