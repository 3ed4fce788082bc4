import NovaIIM.Services

/-!
What a replayed ack stands for.

The dedup cache is keyed by the `client_msg_id` alone. `CacheBacked` says which
message an entry stands for: the newest stored one with that id. A replay then is
right exactly when the request asks for that message, and `acks_backed` follows
for every run in which each repeated id comes with its message (`Repeats`).
-/
namespace NovaIIM
open Store MsgService

/-- The newest stored message with a `client_msg_id`. -/
def newestWith (key : Bytes) (t : Tables) : Option Message :=
  t.messages.rows.reverse.find? fun m => m.clientMsgId = key

private theorem rows_insertMessage (t : Tables) (m : Message) :
    (t.insertMessage m).messages.rows = t.messages.rows ++ [t.messages.fresh m] :=
  Table.rows_insert_free (by simp [Table.taken, Row.clash])

theorem newestWith_own {key : Bytes} {m : Message} (own : m.clientMsgId = key) (t : Tables) :
    newestWith key (t.insertMessage m) = some (t.messages.fresh m) := by
  have same : (t.messages.fresh m).clientMsgId = key := own
  simp [newestWith, rows_insertMessage, same]

theorem newestWith_other {key : Bytes} {m : Message} (other : m.clientMsgId ≠ key) (t : Tables) :
    newestWith key (t.insertMessage m) = newestWith key t := by
  have apart : (t.messages.fresh m).clientMsgId ≠ key := other
  simp [newestWith, rows_insertMessage, apart]

theorem mem_of_newestWith {key : Bytes} {t : Tables} {m : Message} (newest : newestWith key t = some m) :
    m ∈ t.messages.rows :=
  List.mem_reverse.mp (List.mem_of_find?_eq_some newest)

/-- A change of status leaves the newest message with an id where it is. -/
theorem newestWith_status {key : Bytes} {t : Tables} {m : Message} (newest : newestWith key t = some m)
    (id : Int) (status : MsgStatus) :
    ∃ m', newestWith key (t.setMessageStatus id status) = some m' ∧ m'.seq = m.seq := by
  have same : ((fun m : Message => decide (m.clientMsgId = key)) ∘
      fun m => if decide (m.id = id) then { m with status := status } else m) =
        fun m => decide (m.clientMsgId = key) := by
    funext m
    dsimp only [Function.comp]
    split <;> rfl
  rw [newestWith, Tables.setMessageStatus, Table.rows_update, ← List.map_reverse, List.find?_map, same]
  rw [newestWith] at newest
  refine ⟨_, by rw [newest]; rfl, ?_⟩
  dsimp only
  split <;> rfl

/-- Every entry of the cache stands for the newest message with its key. -/
def CacheBacked (w : World) : Prop :=
  ∀ e ∈ w.mem.dedup.view.entries, e.1 ≠ [] ∧
    ∃ m, newestWith e.1 w.tables = some m ∧ m.seq = e.2.serverSeq

/-- The message is the one that a request asks for. -/
def Asks (userId : Int) (req : SendMsgReq) (m : Message) : Prop :=
  m.conversationId = req.conversationId ∧ m.senderId = userId ∧ m.content = req.content

/-- A send whose `client_msg_id` is in the cache asks for the newest message with it. -/
def Repeats (w : World) (call : SendCall) : Prop :=
  ∀ req, call.body = some req → (w.mem.dedup.dedupFind req.clientMsgId).1 ≠ none →
    ∃ m, newestWith req.clientMsgId w.tables = some m ∧ Asks (w.mem.connections call.conn).userId req m

/-- The acks with OK so far are backed by stored messages. -/
def AcksBacked (w : World) (call : SendCall) (w' : World) (sofar : List Event) : Prop :=
  ∀ req ack, call.body = some req → call.acked ack ∈ sofar → ack.code = errc.kOk.code →
    ∃ m ∈ w'.tables.messages.rows, Asks (w.mem.connections call.conn).userId req m ∧ m.seq = ack.serverSeq

private theorem CacheBacked.congr {w w' : World} (backed : CacheBacked w) (dedup : w'.mem.dedup = w.mem.dedup)
    (messages : w'.tables.messages = w.tables.messages) : CacheBacked w' := by
  intro e inside
  rw [dedup] at inside
  obtain ⟨keyed, m, newest, seq⟩ := backed e inside
  exact ⟨keyed, m, by rwa [newestWith, messages], seq⟩

/-- Rows stay, and new acks with OK are backed. -/
private theorem AcksBacked.append {w w' w'' : World} {call : SendCall} {sofar events : List Event}
    (now : AcksBacked w call w' sofar) (grows : ∀ m ∈ w'.tables.messages.rows, m ∈ w''.tables.messages.rows)
    (new : AcksBacked w call w'' events) : AcksBacked w call w'' (sofar ++ events) := by
  intro req ack given inside ok
  obtain before | later := List.mem_append.mp inside
  · obtain ⟨m, there, asks⟩ := now req ack given before ok
    exact ⟨m, grows m there, asks⟩
  · exact new req ack given later ok

/-- Events without an ack with OK. -/
private theorem acksBacked_none {w w' : World} {call : SendCall} {events : List Event}
    (none : ∀ ack, call.acked ack ∈ events → ack.code ≠ errc.kOk.code) : AcksBacked w call w' events :=
  fun _ ack _ inside ok => absurd ok (none ack inside)

/-- What holds on the way through a send that began in `w`. -/
private def Backs (w : World) {call : SendCall} (phase : Phase call) (w' : World) (sofar : List Event) : Prop :=
  AcksBacked w call w' sofar ∧
    match phase with
    | .entered => w' = w ∧ CacheBacked w'
    | .identified s | .looking s _ =>
      w' = w ∧ CacheBacked w' ∧ s.userId = (w.mem.connections call.conn).userId
    | .checking s | .allocating s | .timing s _ | .inserting s _ _ =>
      CacheBacked w' ∧ s.userId = (w.mem.connections call.conn).userId ∧
        ∀ e ∈ w'.mem.dedup.view.entries, e.1 ≠ s.req.clientMsgId
    | .filling s serverSeq _ _ =>
      CacheBacked w' ∧ s.userId = (w.mem.connections call.conn).userId ∧
        ∃ m, newestWith s.req.clientMsgId w'.tables = some m ∧ Asks s.userId s.req m ∧ m.seq = serverSeq
    | .answering s serverSeq _ =>
      CacheBacked w' ∧ s.userId = (w.mem.connections call.conn).userId ∧
        ∃ m ∈ w'.tables.messages.rows, Asks s.userId s.req m ∧ m.seq = serverSeq
    | .delivering .. | .quitting .. | .refusing .. | .returned => CacheBacked w'

private theorem backs_quit {w w' : World} {call : SendCall} {s : Sending call} {e : Error} {bad : e.code ≠ 0}
    {sofar : List Event} (acks : AcksBacked w call w' sofar) (backed : CacheBacked w') :
    Backs w (.quit s e bad) w' sofar := by
  unfold Phase.quit
  split <;> exact ⟨acks, backed⟩

private theorem backs_stored {w w' : World} {call : SendCall} {s : Sending call} {serverSeq epochMs : Int}
    {m : Message} {sofar : List Event} (acks : AcksBacked w call w' sofar) (backed : CacheBacked w')
    (user : s.userId = (w.mem.connections call.conn).userId)
    (newest : newestWith s.req.clientMsgId w'.tables = some m) (asks : Asks s.userId s.req m)
    (seq : m.seq = serverSeq) : Backs w (.stored s serverSeq epochMs) w' sofar := by
  unfold Phase.stored
  split
  · exact ⟨acks, backed, user, m, mem_of_newestWith newest, asks, seq⟩
  · exact ⟨acks, backed, user, m, newest, asks, seq⟩

/-- The events of an error reply. -/
private theorem acksBacked_error {w w' : World} {call : SendCall} {events : List Event} (e : Error)
    (bad : e.code ≠ errc.kOk.code)
    (only : ∀ ack, call.acked ack ∈ events → call.acked ack = call.acked (errorAck e)) :
    AcksBacked w call w' events :=
  acksBacked_none fun ack inside => SendCall.acked_inj.mp (only ack inside) ▸ bad

private theorem step_backs {w w' w'' : World} {call : SendCall} (repeats : Repeats w call)
    {phase next : Phase call} {sofar events : List Event} (now : Backs w phase w' sofar)
    (step : SendStep w' phase next w'' events) : Backs w next w'' (sofar ++ events) := by
  obtain ⟨acks, now⟩ := now
  have silent : AcksBacked w call w'' [] := acksBacked_none (by simp)
  cases step with
  | anonymous | malformed => exact ⟨acks.append (fun _ => id) silent, now.2⟩
  | identify s user known =>
    obtain ⟨rfl, backed⟩ := now
    exact ⟨acks.append (fun _ => id) silent, rfl, backed, user⟩
  | invalid => exact ⟨acks.append (fun _ => id) silent, now.2.1⟩
  | unkeyed s valid empty =>
    obtain ⟨rfl, backed, user⟩ := now
    exact ⟨acks.append (fun _ => id) silent, backed, user, fun e inside => empty ▸ (backed e inside).1⟩
  | keyed => exact ⟨acks.append (fun _ => id) silent, now⟩
  | replay s keyed ack found =>
    obtain ⟨rfl, backed, user⟩ := now
    have entry : (s.req.clientMsgId, ack) ∈ w'.mem.dedup.view.entries :=
      Recency.mem_of_find ((DedupCache.dedupFind_view _ _).1.symm.trans found)
    obtain ⟨-, m, newest, seq⟩ := backed _ entry
    refine ⟨acks.append (fun _ => id) fun req ack' given inside ok => ?_, fun e inside => backed e ?_⟩
    · obtain rfl : req = s.req := Option.some.inj (given.symm.trans s.given)
      obtain ⟨m', newest', asks⟩ := repeats s.req given (by simp [found])
      obtain rfl : m = m' := Option.some.inj (newest.symm.trans newest')
      obtain rfl : ack' = ack := by simpa using inside
      exact ⟨m, mem_of_newestWith newest, asks, seq⟩
    · rw [(DedupCache.dedupFind_view _ _).2] at inside
      exact Recency.mem_find inside
  | busy s keyed absent marked =>
    exact ⟨acks.append (fun _ => id) (acksBacked_error errc.kServerBusy (by decide) (by simp)), now.2.1⟩
  | take s keyed absent free =>
    obtain ⟨rfl, backed, user⟩ := now
    refine ⟨acks.append (fun _ => id) (acksBacked_none (by simp)), backed.congr rfl rfl, user, ?_⟩
    rw [(DedupCache.dedupFind_view _ _).1] at absent
    exact Recency.absent_of_find absent
  | outsider | lost =>
    exact backs_quit (acks.append (fun _ => id) silent) (now.1.congr rfl rfl)
  | insider => exact ⟨acks.append (fun _ => id) silent, now.1.congr rfl rfl, now.2⟩
  | unallocated s _ mem tables stuck =>
    have messages : w''.tables.messages = w'.tables.messages := by
      obtain same | incremented := tables
      · rw [same]
      · rw [incremented]
        rfl
    refine backs_quit (acks.append (fun m inside => messages ▸ inside) silent) (now.1.congr (by rw [mem]) messages)
  | allocated s conv _ mem tables =>
    have messages : w''.tables.messages = w'.tables.messages := by
      rw [tables]
      rfl
    refine ⟨acks.append (fun m inside => messages ▸ inside) silent, now.1.congr (by rw [mem]) messages, now.2.1, ?_⟩
    rw [mem]
    exact now.2.2
  | time => exact ⟨acks.append (fun _ => id) silent, now⟩
  | insert s serverSeq epochMs sound =>
    obtain ⟨backed, user, absent⟩ := now
    have own := @newestWith_own s.req.clientMsgId (messageOf s.userId s.req serverSeq epochMs) rfl w'.tables
    refine backs_stored (acks.append (fun m inside => Table.mem_insert.mpr (.inl inside)) silent) (fun e inside => ?_)
      user own ⟨rfl, rfl, rfl⟩ rfl
    obtain ⟨keyed, m, old, seq⟩ := backed e inside
    exact ⟨keyed, m, (newestWith_other (Ne.symm (absent e inside)) _).trans old, seq⟩
  | fill s serverSeq epochMs keyed =>
    obtain ⟨backed, user, m, newest, asks, seq⟩ := now
    refine ⟨acks.append (fun _ => id) (acksBacked_none (by simp)), fun e inside => ?_, user,
      m, mem_of_newestWith newest, asks, seq⟩
    rw [DedupCache.dedupInsert_view] at inside
    obtain rfl | old := Recency.mem_insert inside
    · exact ⟨keyed, m, newest, seq⟩
    · exact backed e old
  | answer s serverSeq epochMs =>
    obtain ⟨backed, user, m, inside, asks, seq⟩ := now
    refine ⟨acks.append (fun _ => id) fun req ack given acked ok => ⟨m, inside, ?_⟩, backed⟩
    obtain rfl : req = s.req := Option.some.inj (given.symm.trans s.given)
    obtain rfl : ack = okAck serverSeq epochMs := by simpa using acked
    exact ⟨user ▸ asks, seq⟩
  | deliver d d' _ _ saved mem tables pushes =>
    have messages : w''.tables.messages = w'.tables.messages := by
      obtain same | ⟨_, _, _, _, -, -, written⟩ := tables
      · rw [same]
      · rw [written]
        rfl
    refine ⟨acks.append (fun m inside => messages ▸ inside) (acksBacked_none fun ack inside => ?_),
      now.congr (by rw [mem]) messages⟩
    obtain ⟨conn, packet, same, push⟩ := pushes _ inside
    simp only [SendCall.acked, Event.sent.injEq] at same
    simp [← same.2] at push
  | release => exact ⟨acks.append (fun _ => id) silent, now.congr rfl rfl⟩
  | refuse e bad =>
    exact ⟨acks.append (fun _ => id) (acksBacked_error e bad (by simp)), now⟩

/-- Every entry of the cache stays backed, and the acks of a send that repeats its
    message are backed. -/
theorem send_backed (call : SendCall) {w : World} (backed : CacheBacked w) (repeats : Repeats w call) :
    CacheBacked (call.program.run w).state ∧
      AcksBacked w call (call.program.run w).state (call.program.run w).events := by
  obtain ⟨phase, finished, acks, now⟩ := @send_invariant call (fun phase w' sofar => Backs w phase w' sofar)
    (fun phase next w' w'' sofar events now step => step_backs repeats now step) w
    ⟨acksBacked_none (by simp), rfl, backed⟩
  obtain rfl | ⟨d, rfl⟩ := finished_cases finished
  · exact ⟨now, acks⟩
  · exact ⟨now, acks⟩

/-- What holds on the way through a send whose id was not in the cache. -/
private def Freshly (w : World) {call : SendCall} (phase : Phase call) (w' : World) (sofar : List Event) : Prop :=
  AcksBacked w call w' sofar ∧
    match phase with
    | .entered => w' = w
    | .identified s | .looking s _ => w' = w ∧ s.userId = (w.mem.connections call.conn).userId
    | .checking s | .allocating s | .timing s _ | .inserting s _ _ => s.userId = (w.mem.connections call.conn).userId
    | .filling s serverSeq _ _ | .answering s serverSeq _ =>
      s.userId = (w.mem.connections call.conn).userId ∧
        ∃ m ∈ w'.tables.messages.rows, Asks s.userId s.req m ∧ m.seq = serverSeq
    | .delivering .. | .quitting .. | .refusing .. | .returned => True

private theorem freshly_quit {w w' : World} {call : SendCall} {s : Sending call} {e : Error} {bad : e.code ≠ 0}
    {sofar : List Event} (acks : AcksBacked w call w' sofar) : Freshly w (.quit s e bad) w' sofar := by
  unfold Phase.quit
  split <;> exact ⟨acks, trivial⟩

private theorem step_freshly {w w' w'' : World} {call : SendCall}
    (fresh : ∀ req, call.body = some req → req.clientMsgId ≠ [] → (w.mem.dedup.dedupFind req.clientMsgId).1 = none)
    {phase next : Phase call} {sofar events : List Event} (now : Freshly w phase w' sofar)
    (step : SendStep w' phase next w'' events) : Freshly w next w'' (sofar ++ events) := by
  obtain ⟨acks, now⟩ := now
  have silent : AcksBacked w call w'' [] := acksBacked_none (by simp)
  cases step with
  | anonymous | malformed => exact ⟨acks.append (fun _ => id) silent, trivial⟩
  | identify s user known =>
    subst now
    exact ⟨acks.append (fun _ => id) silent, rfl, user⟩
  | invalid => exact ⟨acks.append (fun _ => id) silent, trivial⟩
  | unkeyed s valid empty => exact ⟨acks.append (fun _ => id) silent, now.2⟩
  | keyed => exact ⟨acks.append (fun _ => id) silent, now⟩
  | replay s keyed ack found =>
    obtain ⟨rfl, -⟩ := now
    exact absurd (fresh s.req s.given keyed) (by simp [found])
  | busy s keyed absent marked =>
    exact ⟨acks.append (fun _ => id) (acksBacked_error errc.kServerBusy (by decide) (by simp)), trivial⟩
  | take s keyed absent free => exact ⟨acks.append (fun _ => id) (acksBacked_none (by simp)), now.2⟩
  | outsider | lost => exact freshly_quit (acks.append (fun _ => id) silent)
  | insider => exact ⟨acks.append (fun _ => id) silent, now⟩
  | unallocated s _ mem tables stuck =>
    refine freshly_quit (acks.append (fun m inside => ?_) silent)
    obtain same | incremented := tables
    · exact same ▸ inside
    · exact incremented ▸ inside
  | allocated s conv _ mem tables => exact ⟨acks.append (fun m inside => tables ▸ inside) silent, now⟩
  | time => exact ⟨acks.append (fun _ => id) silent, now⟩
  | insert s serverSeq epochMs sound =>
    have grown := acks.append (fun m inside => Table.mem_insert.mpr (.inl inside)) silent
    have there : w'.tables.messages.fresh (messageOf s.userId s.req serverSeq epochMs) ∈
        (w'.tables.insertMessage (messageOf s.userId s.req serverSeq epochMs)).messages.rows := by
      rw [rows_insertMessage]
      exact List.mem_append_right _ (List.mem_singleton_self _)
    unfold Phase.stored
    split <;> exact ⟨grown, now, _, there, ⟨rfl, rfl, rfl⟩, rfl⟩
  | fill s serverSeq epochMs keyed =>
    exact ⟨acks.append (fun _ => id) (acksBacked_none (by simp)), now⟩
  | answer s serverSeq epochMs =>
    obtain ⟨user, m, inside, asks, seq⟩ := now
    refine ⟨acks.append (fun _ => id) fun req ack given acked ok => ⟨m, inside, ?_⟩, trivial⟩
    obtain rfl : req = s.req := Option.some.inj (given.symm.trans s.given)
    obtain rfl : ack = okAck serverSeq epochMs := by simpa using acked
    exact ⟨user ▸ asks, seq⟩
  | deliver d d' _ _ saved mem tables pushes =>
    refine ⟨acks.append (fun m inside => ?_) (acksBacked_none fun ack inside => ?_), trivial⟩
    · obtain same | ⟨_, _, _, _, -, -, written⟩ := tables
      · exact same ▸ inside
      · exact written ▸ inside
    · obtain ⟨conn, packet, same, push⟩ := pushes _ inside
      simp only [SendCall.acked, Event.sent.injEq] at same
      simp [← same.2] at push
  | release => exact ⟨acks.append (fun _ => id) silent, trivial⟩
  | refuse e bad => exact ⟨acks.append (fun _ => id) (acksBacked_error e bad (by simp)), trivial⟩

/-- The acks of a send whose id is new to the cache are backed, whatever else is in it. -/
theorem fresh_backed (call : SendCall) {w : World}
    (fresh : ∀ req, call.body = some req → req.clientMsgId ≠ [] → (w.mem.dedup.dedupFind req.clientMsgId).1 = none) :
    AcksBacked w call (call.program.run w).state (call.program.run w).events := by
  obtain ⟨phase, -, acks, -⟩ := @send_invariant call (fun phase w' sofar => Freshly w phase w' sofar)
    (fun phase next w' w'' sofar events now step => step_freshly fresh now step) w ⟨acksBacked_none (by simp), rfl⟩
  exact acks

/-- A call that is a send asks for the newest message with its `client_msg_id`, if that
    id is in the cache. -/
def RepeatsCall (w : World) (call : Call Request) : Prop :=
  ∀ send : SendCall, call.request = send.request → Repeats (call.enter w) send

theorem backed_performed {w : World} {call : Call Request} (repeats : RepeatsCall w call)
    (backed : CacheBacked w) : CacheBacked (perform handle w call) := by
  have entered : CacheBacked (call.enter w) := backed.congr rfl rfl
  obtain ⟨send, asked, program⟩ | ⟨effect, mem⟩ := perform_cases w call
  · rw [perform, program]
    exact (send_backed send entered (repeats send asked)).1
  obtain same | ⟨id, status, changed⟩ := messages_effect effect
  · exact entered.congr (by rw [mem]) same
  · intro e inside
    rw [mem] at inside
    obtain ⟨keyed, m, newest, seq⟩ := entered e inside
    obtain ⟨m', newest', seq'⟩ := newestWith_status newest id status
    exact ⟨keyed, m', by rwa [newestWith, changed], seq'.trans seq⟩

/-- In every run from an empty cache whose sends all repeat their messages, every ack with
    OK is backed by a stored message of the request's conversation, sender and content. -/
theorem acks_backed (w : World) (empty : w.mem.dedup.view.entries = []) (calls : List (Call Request))
    (call : Call Request) (repeats : Along (perform handle) RepeatsCall w (calls ++ [call])) (conn : ConnId)
    (seq : UInt32) (req : SendMsgReq) (ack : SendMsgAck)
    (asked : call.request = .msg (.sendMsg conn seq (some req)))
    (acked : SendCall.acked ⟨conn, seq, some req⟩ ack ∈ (served handle (after (perform handle) w calls) call).events)
    (ok : ack.code = errc.kOk.code) :
    ∃ m ∈ (after (perform handle) w (calls ++ [call])).tables.messages.rows,
      m.conversationId = req.conversationId ∧ m.senderId = (call.connections conn).userId ∧
        m.content = req.content ∧ m.seq = ack.serverSeq := by
  obtain ⟨before, now, -⟩ := along_append.mp repeats
  have backed : CacheBacked (after (perform handle) w calls) :=
    @after_invariant _ _ (perform handle) _ CacheBacked (fun w call repeats backed => backed_performed repeats backed)
      w (by simp [CacheBacked, empty]) calls before
  have program := @served_send call ⟨conn, seq, some req⟩ asked (after (perform handle) w calls)
  obtain ⟨-, acks⟩ := @send_backed ⟨conn, seq, some req⟩
    (call.enter (after (perform handle) w calls)) (backed.congr rfl rfl) (now _ asked)
  rw [program] at acked
  rw [after_snoc, perform, program]
  obtain ⟨m, inside, ⟨conv, sender, content⟩, same⟩ := acks req ack rfl acked ok
  exact ⟨m, inside, conv, sender, content, same⟩

/-- One of the two users writes in their conversation, with a given `client_msg_id`. -/
def keyedSend (conn : ConnId) (content clientMsgId : Bytes) : Call Request :=
  fromUser (.msg (.sendMsg conn 0
    (some { conversationId := 1, content := content, clientMsgId := clientMsgId })))

/-- User 2 uses the id of a message of user 1, and is told that a message was stored
    that is not there. -/
theorem acks_unbacked :
    ¬∀ (calls : List (Call Request)) (call : Call Request) (conn : ConnId) (seq : UInt32) (req : SendMsgReq)
        (ack : SendMsgAck),
      call.request = .msg (.sendMsg conn seq (some req)) →
      SendCall.acked ⟨conn, seq, some req⟩ ack ∈
        (served handle (after (perform handle) twoUsers calls) call).events →
      ack.code = errc.kOk.code →
      ∃ m ∈ (after (perform handle) twoUsers (calls ++ [call])).tables.messages.rows,
        m.conversationId = req.conversationId ∧ m.senderId = (call.connections conn).userId ∧
          m.content = req.content ∧ m.seq = ack.serverSeq := by
  intro claim
  obtain ⟨m, inside, -, sender, -⟩ := claim (befriending ++ [keyedSend 1 [97] [7]]) (keyedSend 2 [98] [7]) 2 0
    { conversationId := 1, content := [98], clientMsgId := [7] } (okAck 1 0) rfl
    (List.Mem.tail _ (List.Mem.head _)) rfl
  have other : ∀ m ∈ (after (perform handle) twoUsers
      ((befriending ++ [keyedSend 1 [97] [7]]) ++ [keyedSend 2 [98] [7]])).tables.messages.rows, m.senderId ≠ 2 := by
    decide
  exact other m inside sender

/-- The first message with an id. -/
theorem acks_backed_first :
    ∃ m ∈ (after (perform handle) twoUsers (befriending ++ [keyedSend 1 [97] [7]])).tables.messages.rows,
      m.conversationId = 1 ∧ m.senderId = 1 ∧ m.content = [97] ∧ m.seq = 1 :=
  acks_backed twoUsers rfl befriending (keyedSend 1 [97] [7])
    ⟨fun _ other => by simp [fromUser, SendCall.request] at other,
      fun _ other => by simp [fromUser, SendCall.request] at other,
      fun send asked req given found => absurd rfl found, trivial⟩
    1 0 { conversationId := 1, content := [97], clientMsgId := [7] } (okAck 1 0) rfl
    (List.Mem.tail _ (List.Mem.tail _ (List.Mem.head _))) rfl

end NovaIIM
