import NovaIIM.Machine
import NovaIIM.MsgWrites

/-!
A send as a state machine.

Between two actions of `handleSendMsg` what is left of it is one of a few
programs. A `Phase` names it together with the values the handler has read so
far, `SendStep` relates the phases before and after an action with the worlds
and the events, and `phase_first` says that the actions of the program are steps
of the machine. Invariants of sends, serial or interleaved, are then proved step
by step on phases.
-/
namespace NovaIIM
open Store

/-- A packet that carries a send request, with the connection it came on. -/
structure SendCall where
  conn : ConnId
  seq : UInt32
  body : Option SendMsgReq
deriving DecidableEq, Repr

/-- The handler that serves the packet. -/
def SendCall.program (call : SendCall) : Handler := MsgService.handleSendMsg call.conn call.seq call.body

/-- The reply to the packet, as an event. -/
def SendCall.acked (call : SendCall) (ack : SendMsgAck) : Event :=
  .sent call.conn { cmd := .sendMsgAck, seq := call.seq, uid := 0, body := .sendMsgAck ack }

@[simp] theorem SendCall.acked_inj {call : SendCall} {a b : SendMsgAck} :
    call.acked a = call.acked b ↔ a = b := by
  simp [SendCall.acked]

@[simp] theorem SendCall.acked_ne_dedup {call : SendCall} {ack : SendMsgAck} {key : Bytes} :
    call.acked ack ≠ .dedup key := by
  simp [SendCall.acked]

/-- A push to a member, as opposed to a reply. -/
def IsPush (event : Event) : Prop :=
  ∃ conn packet, event = .sent conn packet ∧ (packet.cmd = .pushMsg ∨ packet.cmd = .convUpdate)

/-- The effects of the actions behind the reply: pushes, and at most a hidden
    conversation comes back. -/
structure Delivers (update : World → World) (emit : World → List Event) : Prop where
  saved : ∀ w, (update w).saved = w.saved
  mem : ∀ w, (update w).mem = w.mem
  tables : ∀ w, (update w).tables = w.tables ∨ ∃ conversationId userId selected change, KeepsRole change ∧ KeepsRead change ∧
    (update w).tables = w.tables.updateMember conversationId userId selected change
  pushes : ∀ w, ∀ event ∈ emit w, IsPush event

/-- What is left of a handler that has replied. -/
structure Delivery where
  rest : Handler
  delivers : rest.Every Delivers

namespace MsgService

private theorem every_query {α : Type} (failed : α) (answer : Tables → α) :
    (query failed answer : Action α).Every Delivers := by
  refine Prog.every_step ⟨fun w => ?_, fun w => ?_, fun w => .inl ?_, by simp⟩ <;>
    cases w.fails <;> rfl

private theorem every_peek {α : Type} (answer : Server → α) : (peek answer : Action α).Every Delivers :=
  Prog.every_step ⟨fun _ => rfl, fun _ => rfl, fun _ => .inl rfl, by simp⟩

private theorem every_push {conn : ConnId} {packet : Packet}
    (push : packet.cmd = .pushMsg ∨ packet.cmd = .convUpdate) : (send conn packet).Every Delivers :=
  Prog.every_step ⟨fun _ => rfl, fun _ => rfl, fun _ => .inl rfl, by
    intro w event inside
    exact ⟨conn, packet, List.mem_singleton.mp inside, push⟩⟩

private theorem every_ite {c : Prop} [Decidable c] {p q : Handler} (yes : p.Every Delivers)
    (no : q.Every Delivers) : (if c then p else q).Every Delivers := by
  split
  · exact yes
  · exact no

private theorem every_unhide (conversationId : Int) : (unhide conversationId).Every Delivers := by
  refine Prog.every_bind (every_query _ _) fun members => Prog.every_forEach fun m _ => ?_
  refine every_ite (Prog.every_ret ()) (Prog.every_bind (Prog.every_step ⟨fun w => ?_, fun w => ?_, fun w => ?_, by simp⟩) fun _ => Prog.every_ret ())
  · cases w.fails <;> rfl
  · cases w.fails <;> rfl
  · cases w.fails
    · exact .inr ⟨_, _, _, _, fun _ => rfl, fun _ => rfl, rfl⟩
    · exact .inl rfl

theorem every_sendDelivered (conn : ConnId) (senderId : Int) (req : SendMsgReq) (serverSeq epochMs : Int) :
    (sendDelivered conn senderId req serverSeq epochMs).Every Delivers := by
  refine Prog.every_bind (every_unhide _) fun _ => Prog.every_bind (every_peek _) fun me => ?_
  refine Prog.every_bind ?_ fun _ => ?_
  · refine Prog.every_bind (every_query _ _) fun members => Prog.every_forEach fun member _ => ?_
    refine Prog.every_bind (every_peek _) fun conns => Prog.every_forEach fun c _ => ?_
    refine Prog.every_bind (every_peek _) fun device => ?_
    exact every_ite (Prog.every_ret ()) (every_push (.inl rfl))
  · refine Prog.every_bind (every_query _ _) fun members => Prog.every_forEach fun m _ => ?_
    refine every_ite (Prog.every_ret ()) (Prog.every_bind (every_peek _) fun conns => ?_)
    exact Prog.every_forEach fun c _ => every_push (.inr rfl)

/-! ### The phases -/

/-- A request with the user it is served for. -/
structure Sending (call : SendCall) where
  userId : Int
  req : SendMsgReq
  given : call.body = some req

/-- How far a handler has got. -/
inductive Phase (call : SendCall) where
  | entered
  | identified (s : Sending call)
  | looking (s : Sending call) (keyed : s.req.clientMsgId ≠ [])
  | checking (s : Sending call)
  | allocating (s : Sending call)
  | timing (s : Sending call) (serverSeq : Int)
  | inserting (s : Sending call) (serverSeq epochMs : Int)
  | filling (s : Sending call) (serverSeq epochMs : Int) (keyed : s.req.clientMsgId ≠ [])
  | answering (s : Sending call) (serverSeq epochMs : Int)
  | delivering (d : Delivery)
  | quitting (s : Sending call) (e : Error) (bad : e.code ≠ 0) (keyed : s.req.clientMsgId ≠ [])
  | refusing (e : Error) (bad : e.code ≠ 0)
  | returned

namespace Phase
variable {call : SendCall}

/-- What is left of the handler. -/
def program : Phase call → Handler
  | entered => call.program
  | identified s => do
    let config ← peek fun m => m.config
    match validate config.maxContentSize s.req with
    | some e => sendAckError call.conn call.seq e
    | none => sendValid call.conn call.seq s.userId s.req
  | looking s _ => do
    let fresh ← dedupSection call.conn call.seq s.req.clientMsgId
    if !fresh then return () else sendChecked call.conn call.seq s.userId s.req
  | checking s => sendChecked call.conn call.seq s.userId s.req
  | allocating s => sendAllocate call.conn call.seq s.userId s.req
  | timing s serverSeq => sendInsert call.conn call.seq s.userId s.req serverSeq
  | inserting s serverSeq epochMs => do
    let inserted ← MessageDao.insert (messageOf s.userId s.req serverSeq epochMs)
    if !inserted then do
      dedupRemoveInflightIfNeeded s.req.clientMsgId
      sendAckError call.conn call.seq errc.kDatabaseError
    else sendStored call.conn call.seq s.userId s.req serverSeq epochMs
  | filling s serverSeq epochMs _ => sendStored call.conn call.seq s.userId s.req serverSeq epochMs
  | answering s serverSeq epochMs => do
    sendAck call.conn call.seq
      { code := errc.kOk.code, msg := errc.kOk.msg, serverSeq := serverSeq, serverTime := epochMs }
    sendDelivered call.conn s.userId s.req serverSeq epochMs
  | delivering d => d.rest
  | quitting s e _ _ => do
    removeInflight s.req.clientMsgId
    sendAckError call.conn call.seq e
  | refusing e _ => sendAckError call.conn call.seq e
  | returned => return ()

/-- The way out of a request that failed: a mark is taken back first. -/
def quit (s : Sending call) (e : Error) (bad : e.code ≠ 0) : Phase call :=
  if keyed : s.req.clientMsgId = [] then refusing e bad else quitting s e bad keyed

/-- The row is stored: an ack with a key goes to the cache first. -/
def stored (s : Sending call) (serverSeq epochMs : Int) : Phase call :=
  if keyed : s.req.clientMsgId = [] then answering s serverSeq epochMs
  else filling s serverSeq epochMs keyed

theorem program_quit (s : Sending call) (e : Error) (bad : e.code ≠ 0) :
    (quit s e bad).program = (do
      dedupRemoveInflightIfNeeded s.req.clientMsgId
      sendAckError call.conn call.seq e) := by
  unfold quit dedupRemoveInflightIfNeeded
  split
  · rename_i empty
    simp [program, empty]
  · rename_i keyed
    simp [program, keyed]

theorem program_stored (s : Sending call) (serverSeq epochMs : Int) :
    (stored s serverSeq epochMs).program =
      sendStored call.conn call.seq s.userId s.req serverSeq epochMs := by
  unfold stored
  split
  · rename_i empty
    simp [program, sendStored, dedupFill, empty]
  · rfl

end Phase

/-! ### The steps -/

theorem mark_free {inFlight : AList fun _ : Bytes => Nat} {key : Bytes} {now : Nat}
    (free : (mark inFlight key now).1 = true) : (mark inFlight key now).2 = inFlight.insert key now := by
  unfold mark at free ⊢
  split
  · rfl
  · rename_i marked found
    by_cases old : kInflightTimeout ≤ now - marked <;> simp_all

theorem mark_taken {inFlight : AList fun _ : Bytes => Nat} {key : Bytes} {now : Nat}
    (taken : (mark inFlight key now).1 = false) : (mark inFlight key now).2 = inFlight := by
  unfold mark at taken ⊢
  split at taken
  · simp at taken
  · rename_i marked found
    by_cases old : kInflightTimeout ≤ now - marked
    · simp [old] at taken
    · simp [old]

/-- A request that fails the checks is answered with an error. -/
theorem validate_code {maxContentSize : Nat} {req : SendMsgReq} {e : Error}
    (error : validate maxContentSize req = some e) : e.code ≠ 0 := by
  unfold validate at error
  grind [errc.msg.kContentEmpty, errc.msg.kContentTooLarge, errc.msg.kInvalidMsgType,
    errc.msg.kInvalidConversation, errc.kInvalidBody]

/-- The ack of a stored message. -/
def okAck (serverSeq epochMs : Int) : SendMsgAck :=
  { code := errc.kOk.code, msg := errc.kOk.msg, serverSeq := serverSeq, serverTime := epochMs }

def errorAck (e : Error) : SendMsgAck := { code := e.code, msg := e.msg }

/-- A step from one phase to the next: the world it is taken in, the world it
    leaves and the events. -/
inductive SendStep {call : SendCall} (w : World) : Phase call → Phase call → World → List Event → Prop where
  | anonymous (unknown : (w.mem.connections call.conn).userId = 0) :
      SendStep w .entered (.refusing errc.kNotAuthenticated (by decide)) w []
  | malformed (known : (w.mem.connections call.conn).userId ≠ 0) (garbled : call.body = none) :
      SendStep w .entered (.refusing errc.kInvalidBody (by decide)) w []
  | identify (s : Sending call) (user : s.userId = (w.mem.connections call.conn).userId)
      (known : s.userId ≠ 0) : SendStep w .entered (.identified s) w []
  | invalid (s : Sending call) (e : Error) (error : validate w.mem.config.maxContentSize s.req = some e) :
      SendStep w (.identified s) (.refusing e (validate_code error)) w []
  | unkeyed (s : Sending call) (valid : validate w.mem.config.maxContentSize s.req = none)
      (empty : s.req.clientMsgId = []) : SendStep w (.identified s) (.checking s) w []
  | keyed (s : Sending call) (valid : validate w.mem.config.maxContentSize s.req = none)
      (keyed : s.req.clientMsgId ≠ []) : SendStep w (.identified s) (.looking s keyed) w []
  | replay (s : Sending call) (keyed : s.req.clientMsgId ≠ []) (ack : SendMsgAck)
      (found : (w.mem.dedup.dedupFind s.req.clientMsgId).1 = some ack) :
      SendStep w (.looking s keyed) .returned
        { w with mem := { w.mem with dedup := (w.mem.dedup.dedupFind s.req.clientMsgId).2 } }
        [.dedup s.req.clientMsgId, call.acked ack]
  | busy (s : Sending call) (keyed : s.req.clientMsgId ≠ [])
      (absent : (w.mem.dedup.dedupFind s.req.clientMsgId).1 = none)
      (marked : (mark w.mem.inFlight s.req.clientMsgId w.mem.steady).1 = false) :
      SendStep w (.looking s keyed) .returned w
        [.dedup s.req.clientMsgId, call.acked (errorAck errc.kServerBusy)]
  | take (s : Sending call) (keyed : s.req.clientMsgId ≠ [])
      (absent : (w.mem.dedup.dedupFind s.req.clientMsgId).1 = none)
      (free : (mark w.mem.inFlight s.req.clientMsgId w.mem.steady).1 = true) :
      SendStep w (.looking s keyed) (.checking s)
        { w with mem := { w.mem with inFlight := w.mem.inFlight.insert s.req.clientMsgId w.mem.steady } }
        [.dedup s.req.clientMsgId]
  | outsider (s : Sending call)
      (turned : w.fails = true ∨ (w.tables.members.rows.any fun r =>
        r.conversationId = s.req.conversationId && r.userId = s.userId) = false) :
      SendStep w (.checking s) (.quit s errc.msg.kNotMember (by decide)) w.spend []
  | insider (s : Sending call) (sound : w.fails = false)
      (member : (w.tables.members.rows.any fun r =>
        r.conversationId = s.req.conversationId && r.userId = s.userId) = true) :
      SendStep w (.checking s) (.allocating s) w.spend []
  | unallocated (s : Sending call) (w' : World) (mem : w'.mem = w.mem)
      (tables : w'.tables = w.tables ∨ w'.tables = w.tables.incrMaxSeq s.req.conversationId)
      (stuck : ¬Allocatable s.req.conversationId w ∨
        ∃ conv ∈ (w.tables.incrMaxSeq s.req.conversationId).conversations.rows,
          conv.id = s.req.conversationId ∧ conv.maxSeq < 0) :
      SendStep w (.allocating s) (.quit s errc.msg.kConversationNotFound (by decide)) w' []
  | allocated (s : Sending call) (conv : Conversation) (w' : World) (mem : w'.mem = w.mem)
      (tables : w'.tables = w.tables.incrMaxSeq s.req.conversationId)
      (faults : w'.faults = w.faults.drop 4) (able : Allocatable s.req.conversationId w)
      (known : conv ∈ w'.tables.conversations.rows) (named : conv.id = s.req.conversationId)
      (positive : 0 ≤ conv.maxSeq) :
      SendStep w (.allocating s) (.timing s conv.maxSeq) w' []
  | time (s : Sending call) (serverSeq : Int) :
      SendStep w (.timing s serverSeq) (.inserting s serverSeq w.mem.systemMs) w []
  | lost (s : Sending call) (serverSeq epochMs : Int) (fault : w.fails = true) :
      SendStep w (.inserting s serverSeq epochMs) (.quit s errc.kDatabaseError (by decide)) w.spend []
  | insert (s : Sending call) (serverSeq epochMs : Int) (sound : w.fails = false) :
      SendStep w (.inserting s serverSeq epochMs) (.stored s serverSeq epochMs)
        (w.wrote (w.tables.insertMessage (messageOf s.userId s.req serverSeq epochMs))) []
  | fill (s : Sending call) (serverSeq epochMs : Int) (keyed : s.req.clientMsgId ≠ []) :
      SendStep w (.filling s serverSeq epochMs keyed) (.answering s serverSeq epochMs)
        { w with mem := { w.mem with
          inFlight := w.mem.inFlight.erase s.req.clientMsgId
          dedup := w.mem.dedup.dedupInsert w.mem.config.dedupCacheSize s.req.clientMsgId
            (okAck serverSeq epochMs) } }
        [.dedup s.req.clientMsgId]
  | answer (s : Sending call) (serverSeq epochMs : Int) :
      SendStep w (.answering s serverSeq epochMs)
        (.delivering ⟨_, every_sendDelivered call.conn s.userId s.req serverSeq epochMs⟩) w
        [call.acked (okAck serverSeq epochMs)]
  | deliver (d d' : Delivery) (w' : World) (events : List Event) (saved : w'.saved = w.saved)
      (mem : w'.mem = w.mem)
      (tables : w'.tables = w.tables ∨ ∃ conversationId userId selected change, KeepsRole change ∧ KeepsRead change ∧
        w'.tables = w.tables.updateMember conversationId userId selected change)
      (pushes : ∀ event ∈ events, IsPush event) :
      SendStep w (.delivering d) (.delivering d') w' events
  | release (s : Sending call) (e : Error) (bad : e.code ≠ 0) (keyed : s.req.clientMsgId ≠ []) :
      SendStep w (.quitting s e bad keyed) (.refusing e bad)
        { w with mem := { w.mem with inFlight := w.mem.inFlight.erase s.req.clientMsgId } } []
  | refuse (e : Error) (bad : e.code ≠ 0) :
      SendStep w (.refusing e bad) .returned w [call.acked (errorAck e)]

section DedupSection
variable {conn : ConnId} {seq : UInt32} {key : Bytes} {w : World}

private theorem dedupSection_found {ack : SendMsgAck} (found : (w.mem.dedup.dedupFind key).1 = some ack) :
    (dedupSection conn seq key).run w =
      ⟨false, { w with mem := { w.mem with dedup := (w.mem.dedup.dedupFind key).2 } },
        [.dedup key, SendCall.acked ⟨conn, seq, none⟩ ack]⟩ := by
  simp [dedupSection, dedupFind, found, sendAck, sendPacket, send, SendCall.acked]

private theorem dedupSection_free (absent : (w.mem.dedup.dedupFind key).1 = none)
    (free : (mark w.mem.inFlight key w.mem.steady).1 = true) :
    (dedupSection conn seq key).run w =
      ⟨true, { w with mem := { w.mem with inFlight := w.mem.inFlight.insert key w.mem.steady } },
        [.dedup key]⟩ := by
  simp [dedupSection, dedupFind, absent, DedupCache.dedupFind_absent absent, tryMarkInflight, free, mark_free free]

private theorem dedupSection_busy (absent : (w.mem.dedup.dedupFind key).1 = none)
    (taken : (mark w.mem.inFlight key w.mem.steady).1 = false) :
    (dedupSection conn seq key).run w =
      ⟨false, w, [.dedup key, SendCall.acked ⟨conn, seq, none⟩ (errorAck errc.kServerBusy)]⟩ := by
  simp [dedupSection, dedupFind, absent, DedupCache.dedupFind_absent absent, tryMarkInflight, taken,
    mark_taken taken, sendAckError, sendAck, sendPacket, send, SendCall.acked, errorAck]

end DedupSection

/-- The actions of a handler are steps of the machine. -/
theorem phase_first {call : SendCall} {phase : Phase call} {w w' : World} {rest : Handler}
    {events : List Event} (moves : phase.program.first w = some (rest, w', events)) :
    ∃ next : Phase call, next.program = rest ∧ SendStep w phase next w' events := by
  cases phase with
  | entered =>
    cases moves
    by_cases unknown : (w.mem.connections call.conn).userId = 0
    · exact ⟨_, by simp [Phase.program, unknown], .anonymous unknown⟩
    cases garbled : call.body with
    | none => exact ⟨_, by simp [Phase.program, unknown], .malformed unknown garbled⟩
    | some req =>
      exact ⟨_, (if_neg unknown).symm, .identify ⟨(w.mem.connections call.conn).userId, req, garbled⟩ rfl unknown⟩
  | identified s =>
    cases moves
    cases checked : validate w.mem.config.maxContentSize s.req with
    | some e => exact ⟨_, by simp [Phase.program, checked], .invalid s e checked⟩
    | none =>
      by_cases empty : s.req.clientMsgId = []
      · exact ⟨_, by simp [Phase.program, sendValid, checked, empty], .unkeyed s checked empty⟩
      · exact ⟨_, by simp [Phase.program, sendValid, checked, empty], .keyed s checked empty⟩
  | looking s keyed =>
    have parts : ((if !((dedupSection call.conn call.seq s.req.clientMsgId).run w).value then .ret ()
          else sendChecked call.conn call.seq s.userId s.req) : Handler) = rest ∧
        ((dedupSection call.conn call.seq s.req.clientMsgId).run w).state = w' ∧
        ((dedupSection call.conn call.seq s.req.clientMsgId).run w).events = events := by
      rw [dedupSection, Prog.run_atomic]
      cases moves
      exact ⟨rfl, rfl, rfl⟩
    obtain ⟨rfl, rfl, rfl⟩ := parts
    cases found : (w.mem.dedup.dedupFind s.req.clientMsgId).1 with
    | some ack =>
      rw [dedupSection_found found]
      exact ⟨_, rfl, .replay s keyed ack found⟩
    | none =>
      cases free : (mark w.mem.inFlight s.req.clientMsgId w.mem.steady).1 with
      | true =>
        rw [dedupSection_free found free]
        exact ⟨_, rfl, .take s keyed found free⟩
      | false =>
        rw [dedupSection_busy found free]
        exact ⟨_, rfl, .busy s keyed found free⟩
  | checking s =>
    rw [Phase.program, sendChecked, ConversationDao.isMember, first_query] at moves
    cases moves
    cases fault : w.fails with
    | true => exact ⟨_, Phase.program_quit _ _ _, .outsider s (.inl fault)⟩
    | false =>
      cases member : w.tables.members.rows.any fun r =>
        r.conversationId = s.req.conversationId && r.userId = s.userId with
      | true => exact ⟨.allocating s, by simp [Phase.program], .insider s fault member⟩
      | false => exact ⟨_, by simp [Phase.program_quit], .outsider s (.inr member)⟩
  | allocating s =>
    have ends := generateSeq_allocates s.req.conversationId w
    have parts : (if ((generateSeq s.req.conversationId).run w).value < 0 then (do
          dedupRemoveInflightIfNeeded s.req.clientMsgId
          sendAckError call.conn call.seq errc.msg.kConversationNotFound)
        else sendInsert call.conn call.seq s.userId s.req ((generateSeq s.req.conversationId).run w).value) =
          rest ∧ ((generateSeq s.req.conversationId).run w).state = w' ∧
        ((generateSeq s.req.conversationId).run w).events = events := by
      rw [generateSeq, ConversationDao.incrMaxSeq, Prog.run_atomic]
      cases moves
      exact ⟨rfl, rfl, rfl⟩
    obtain ⟨next, rfl, rfl⟩ := parts
    unfold Prog.Ensures at ends
    generalize (generateSeq s.req.conversationId).run w = o at ends next
    cases ends with
    | failed _ mem tables stuck =>
      exact ⟨_, by simp [Phase.program_quit, ← next], .unallocated s _ mem tables (.inl stuck)⟩
    | done _ mem tables faults able conv known named =>
      by_cases negative : conv.maxSeq < 0
      · exact ⟨_, by simp [Phase.program_quit, ← next, negative],
          .unallocated s _ mem (.inr tables) (.inr ⟨conv, tables ▸ known, named, negative⟩)⟩
      · exact ⟨.timing s conv.maxSeq, by simp [Phase.program, ← next, negative],
          .allocated s conv _ mem tables faults able known named (by omega)⟩
  | timing s serverSeq =>
    cases moves
    exact ⟨_, rfl, .time s serverSeq⟩
  | inserting s serverSeq epochMs =>
    rw [Phase.program, MessageDao.insert, execute, first_statement] at moves
    cases fault : w.fails with
    | true =>
      simp only [fault, if_true] at moves
      cases moves
      exact ⟨_, Phase.program_quit _ _ _, .lost s serverSeq epochMs fault⟩
    | false =>
      simp only [fault] at moves
      cases moves
      exact ⟨_, Phase.program_stored _ _ _, .insert s serverSeq epochMs fault⟩
  | filling s serverSeq epochMs keyed =>
    rw [Phase.program, sendStored, dedupFill, if_neg (by simpa using keyed)] at moves
    cases moves
    exact ⟨_, rfl, .fill s serverSeq epochMs keyed⟩
  | answering s serverSeq epochMs =>
    cases moves
    exact ⟨_, rfl, .answer s serverSeq epochMs⟩
  | delivering d => 
    obtain ⟨delivers, update, emit, effect, rfl, rfl⟩ := Prog.every_first d.delivers moves
    refine ⟨.delivering ⟨rest, delivers⟩, rfl, .deliver d _ _ _ (effect.saved w) (effect.mem w) (effect.tables w) (effect.pushes w)⟩
  | quitting s e bad keyed =>
    cases moves
    exact ⟨_, rfl, .release s e bad keyed⟩
  | refusing e bad =>
    cases moves
    exact ⟨_, rfl, .refuse e bad⟩
  | returned => cases moves

/-- No step changes the configuration. -/
theorem SendStep.config {call : SendCall} {phase next : Phase call} {w w' : World} {events : List Event}
    (step : SendStep w phase next w' events) : w'.mem.config = w.mem.config := by
  cases step with
  | unallocated s _ mem | allocated s conv _ mem | deliver d d' _ _ saved mem => rw [mem]
  | _ => rfl

/-- A handler that has returned. -/
def Phase.Finished {call : SendCall} (phase : Phase call) : Prop := phase.program = .ret ()

theorem finished_cases {call : SendCall} {phase : Phase call} (finished : phase.Finished) :
    phase = .returned ∨ ∃ d, phase = .delivering d := by
  cases phase with
  | returned => exact .inl rfl
  | delivering d => exact .inr ⟨d, rfl⟩
  | filling s serverSeq epochMs keyed =>
    rw [Phase.Finished, Phase.program, sendStored, dedupFill, if_neg (by simpa using keyed)] at finished
    cases finished
  | _ => cases finished

/-- What every step carries along, with the events so far, holds when the handler returns. -/
theorem send_invariant {call : SendCall} {holds : Phase call → World → List Event → Prop}
    (carried : ∀ phase next w w' sofar events, holds phase w sofar → SendStep w phase next w' events →
      holds next w' (sofar ++ events))
    {w : World} (start : holds .entered w []) :
    ∃ phase : Phase call, phase.Finished ∧ holds phase (call.program.run w).state (call.program.run w).events := by
  refine @Prog.run_invariant _ _ _ (fun rest w sofar => ∃ phase, phase.program = rest ∧ holds phase w sofar)
    ?_ _ w [] ⟨.entered, rfl, start⟩
  rintro _ w rest w' sofar events ⟨phase, rfl, now⟩ moves
  obtain ⟨next, same, step⟩ := phase_first moves
  exact ⟨next, same, carried _ _ _ _ _ _ now step⟩

/-- The sends as a machine. -/
def sendMachine : Machine World Event SendCall where
  program := SendCall.program
  Phase := Phase
  entered _ := .entered
  code := Phase.program
  Step := SendStep
  code_entered _ := rfl
  first := phase_first

end MsgService
end NovaIIM
