import NovaIIM.Blocking

/-!
Sends of a blocked user.

`Admitted` is all that decides whether a send stores a message. It consults the
login, the request, the dedup state, the membership and the statements that
fail, and no friendship row, so a block silences its target exactly in the runs in
which none of the target's sends is admitted.
-/
namespace NovaIIM
open Store MsgService

/-- The request passes the checks that need no lock and no statement. -/
structure Valid (w : World) {call : SendCall} (s : Sending call) : Prop where
  user : s.userId = (w.mem.connections call.conn).userId
  known : s.userId ≠ 0
  valid : validate w.mem.config.maxContentSize s.req = none

/-- Its key, if it has one, was not answered before and is not in flight. -/
structure Unused (w : World) {call : SendCall} (s : Sending call) : Prop extends Valid w s where
  unused : s.req.clientMsgId ≠ [] → (w.mem.dedup.dedupFind s.req.clientMsgId).1 = none ∧
    (mark w.mem.inFlight s.req.clientMsgId w.mem.steady).1 = true

/-- The sender is a member of the conversation. -/
structure Entitled (w : World) {call : SendCall} (s : Sending call) : Prop extends Unused w s where
  member : (w.tables.members.rows.any fun r =>
    r.conversationId = s.req.conversationId && r.userId = s.userId) = true

/-- All checks of a send pass: the conversation exists as well, and none of the six
    statements up to the insertion fails. -/
structure Admits (w : World) {call : SendCall} (s : Sending call) : Prop extends Entitled w s where
  closed : w.saved = none
  sound : Clear 6 w.faults
  conversation : ∃ conv ∈ w.tables.conversations.rows, conv.id = s.req.conversationId ∧ -1 ≤ conv.maxSeq

/-- The packet is a send whose checks all pass. -/
def Admitted (w : World) (call : SendCall) : Prop := ∃ s : Sending call, Admits w s

/-- A message was stored. -/
def Stores (w w' : World) : Prop := ∃ m ∈ w'.tables.messages.rows, m ∉ w.tables.messages.rows

/-- No message was stored and no push sent. -/
def Unsent (w w' : World) (sofar : List Event) : Prop :=
  w'.tables.messages = w.tables.messages ∧ ∀ event ∈ sofar, ¬IsPush event

private theorem admits_self {w : World} {call : SendCall} {s : Sending call}
    (user : s.userId = (w.mem.connections call.conn).userId) (admitted : Admitted w call) : Admits w s := by
  obtain ⟨⟨userId, req, given⟩, admits⟩ := admitted
  obtain ⟨userId', req', given'⟩ := s
  obtain rfl : req = req' := Option.some.inj (given.symm.trans given')
  obtain rfl : userId = userId' := admits.user.trans user.symm
  exact admits

/-- How far a send that began in `w` has passed its checks, or why it is not admitted. -/
private def PhasePassed (w : World) {call : SendCall} (phase : Phase call) (w' : World) (sofar : List Event) : Prop :=
  match phase with
  | .entered => Unsent w w' sofar ∧ w' = w
  | .identified s =>
    Unsent w w' sofar ∧ w' = w ∧ s.userId = (w.mem.connections call.conn).userId ∧ s.userId ≠ 0
  | .looking s _ => Unsent w w' sofar ∧ w' = w ∧ Valid w s
  | .checking s =>
    Unsent w w' sofar ∧ w'.tables = w.tables ∧ w'.saved = w.saved ∧ w'.faults = w.faults ∧ Unused w s
  | .allocating s =>
    Unsent w w' sofar ∧ w'.tables = w.tables ∧ w'.saved = w.saved ∧ w'.faults = w.faults.drop 1 ∧
      Clear 1 w.faults ∧ Entitled w s
  | .timing s _ | .inserting s _ _ =>
    Unsent w w' sofar ∧ w'.faults = w.faults.drop 5 ∧ (Clear 1 w'.faults → Admits w s) ∧
      s.userId = (w.mem.connections call.conn).userId
  | .filling .. | .answering .. | .delivering .. => Admitted w call ∧ Stores w w'
  | .quitting .. | .refusing .. | .returned => Unsent w w' sofar ∧ ¬Admitted w call

private theorem passed_quit {w w' : World} {call : SendCall} {s : Sending call} {e : Error} {bad : e.code ≠ 0}
    {sofar : List Event} (unsent : Unsent w w' sofar) (refused : ¬Admitted w call) :
    PhasePassed w (.quit s e bad) w' sofar := by
  unfold Phase.quit
  split <;> exact ⟨unsent, refused⟩

private theorem passed_stored {w w' : World} {call : SendCall} {s : Sending call} {serverSeq epochMs : Int}
    {sofar : List Event} (admitted : Admitted w call) (stores : Stores w w') :
    PhasePassed w (.stored s serverSeq epochMs) w' sofar := by
  unfold Phase.stored
  split <;> exact ⟨admitted, stores⟩

/-- More events that are no pushes. -/
private theorem Unsent.append {w w' w'' : World} {sofar events : List Event} (unsent : Unsent w w' sofar)
    (messages : w''.tables.messages = w'.tables.messages) (replies : ∀ event ∈ events, ¬IsPush event) :
    Unsent w w'' (sofar ++ events) := by
  refine ⟨messages.trans unsent.1, fun event inside => ?_⟩
  obtain before | now := List.mem_append.mp inside
  · exact unsent.2 event before
  · exact replies event now

private theorem acked_not_push (call : SendCall) (ack : SendMsgAck) : ¬IsPush (call.acked ack) := by
  rintro ⟨conn, packet, same, push⟩
  simp only [SendCall.acked, Event.sent.injEq] at same
  obtain ⟨-, rfl⟩ := same
  simp at push

private theorem dedup_not_push (key : Bytes) : ¬IsPush (.dedup key) := by
  rintro ⟨conn, packet, same, -⟩
  simp at same

/-- The six statements: the membership check, the four of the allocation, the insertion. -/
private theorem statements {faults : List Bool} :
    Clear 6 faults ↔ Clear 1 faults ∧ Clear 4 (faults.drop 1) ∧ Clear 1 (faults.drop 5) := by
  rw [show 6 = 1 + (4 + 1) from rfl, clear_add, clear_add, List.drop_drop]

private theorem step_passed {w w' w'' : World} {call : SendCall} {phase next : Phase call}
    {sofar events : List Event} (now : PhasePassed w phase w' sofar) (step : SendStep w' phase next w'' events) :
    PhasePassed w next w'' (sofar ++ events) := by
  cases step with
  | anonymous unknown =>
    obtain ⟨unsent, rfl⟩ := now
    refine ⟨unsent.append rfl (by simp), fun ⟨s, admits⟩ => admits.known (admits.user.trans unknown)⟩
  | malformed known garbled =>
    obtain ⟨unsent, rfl⟩ := now
    refine ⟨unsent.append rfl (by simp), fun ⟨s, admits⟩ => ?_⟩
    simp [s.given] at garbled
  | identify s user known =>
    obtain ⟨unsent, rfl⟩ := now
    exact ⟨unsent.append rfl (by simp), rfl, user, known⟩
  | invalid s e error =>
    obtain ⟨unsent, rfl, user, known⟩ := now
    refine ⟨unsent.append rfl (by simp), fun admitted => ?_⟩
    simp [(admits_self user admitted).valid] at error
  | unkeyed s valid empty =>
    obtain ⟨unsent, rfl, user, known⟩ := now
    exact ⟨unsent.append rfl (by simp), rfl, rfl, rfl, ⟨user, known, valid⟩, fun keyed => absurd empty keyed⟩
  | keyed s valid keyed =>
    obtain ⟨unsent, rfl, user, known⟩ := now
    exact ⟨unsent.append rfl (by simp), rfl, user, known, valid⟩
  | replay s keyed ack found =>
    obtain ⟨unsent, rfl, valid⟩ := now
    refine ⟨unsent.append rfl (by simp [dedup_not_push, acked_not_push]), fun admitted => ?_⟩
    simp [((admits_self valid.user admitted).unused keyed).1] at found
  | busy s keyed absent marked =>
    obtain ⟨unsent, rfl, valid⟩ := now
    refine ⟨unsent.append rfl (by simp [dedup_not_push, acked_not_push]), fun admitted => ?_⟩
    simp [((admits_self valid.user admitted).unused keyed).2] at marked
  | take s keyed absent free =>
    obtain ⟨unsent, rfl, valid⟩ := now
    exact ⟨unsent.append rfl (by simp [dedup_not_push]), rfl, rfl, rfl, valid, fun _ => ⟨absent, free⟩⟩
  | outsider s turned =>
    obtain ⟨unsent, tables, saved, faults, unused⟩ := now
    refine passed_quit (unsent.append rfl (by simp)) fun admitted => ?_
    have admits := admits_self unused.user admitted
    obtain fault | stranger := turned
    · rw [fails, faults] at fault
      exact Bool.false_ne_true (admits.sound.1.symm.trans fault)
    · rw [tables, admits.member] at stranger
      simp at stranger
  | insider s sound member =>
    obtain ⟨unsent, tables, saved, faults, unused⟩ := now
    rw [fails, faults] at sound
    rw [tables] at member
    refine ⟨unsent.append rfl (by simp), tables, saved, ?_, ⟨sound, trivial⟩, unused, member⟩
    rw [spend_faults, faults, List.drop_one]
  | unallocated s _ mem tables' stuck =>
    obtain ⟨unsent, tables, saved, faults, first, entitled⟩ := now
    have messages : w''.tables.messages = w'.tables.messages := by
      obtain same | incremented := tables'
      · rw [same]
      · rw [incremented]
        rfl
    refine passed_quit (unsent.append messages (by simp)) fun admitted => ?_
    have admits := admits_self entitled.user admitted
    obtain ⟨conv, known, named, low⟩ := admits.conversation
    obtain stuck | ⟨conv', known', named', negative⟩ := stuck
    · refine stuck ⟨saved.trans admits.closed, ?_, conv, tables ▸ known, named⟩
      rw [faults]
      exact (statements.mp admits.sound).2.1
    · obtain ⟨old, there, here, top⟩ := incremented_row known' named'
      rw [tables] at there
      obtain rfl : old = conv := Table.eq_of_id there known (here.trans named.symm)
      omega
  | allocated s conv _ mem tables' faults' able known named positive =>
    obtain ⟨unsent, tables, saved, faults, first, entitled⟩ := now
    refine ⟨unsent.append (by rw [tables']; rfl) (by simp), by rw [faults', faults, List.drop_drop],
      fun last => ?_, entitled.user⟩
    rw [tables'] at known
    obtain ⟨old, there, here, top⟩ := incremented_row known named
    refine ⟨entitled, saved.symm.trans able.closed, statements.mpr ⟨first, ?_, ?_⟩, old, tables ▸ there, here, ?_⟩
    · rw [← faults]
      exact able.sound
    · rwa [faults', faults, List.drop_drop] at last
    · omega
  | time s serverSeq =>
    obtain ⟨unsent, faults, admits, user⟩ := now
    exact ⟨unsent.append rfl (by simp), faults, admits, user⟩
  | lost s serverSeq epochMs fault =>
    obtain ⟨unsent, faults, admits, user⟩ := now
    refine passed_quit (unsent.append rfl (by simp)) fun admitted => ?_
    have last := (statements.mp (admits_self user admitted).sound).2.2.1
    rw [fails, faults] at fault
    exact Bool.false_ne_true (last.symm.trans fault)
  | insert s serverSeq epochMs sound =>
    obtain ⟨unsent, faults, admits, user⟩ := now
    refine passed_stored ⟨s, admits ⟨sound, trivial⟩⟩ ⟨_, Table.mem_insert.mpr (.inr ⟨?_, rfl⟩), fun old => ?_⟩
    · simp [Table.taken, Row.clash]
    · rw [← unsent.1] at old
      exact Table.fresh_not_mem _ _ old
  | fill s serverSeq epochMs keyed => exact now
  | answer s serverSeq epochMs => exact now
  | deliver d d' _ _ saved mem tables pushes =>
    obtain ⟨admitted, m, new, old⟩ := now
    refine ⟨admitted, m, ?_, old⟩
    obtain same | ⟨_, _, _, _, -, -, written⟩ := tables
    · rwa [same]
    · rwa [written]
  | release s e bad keyed => 
    obtain ⟨unsent, refused⟩ := now
    exact ⟨unsent.append rfl (by simp), refused⟩
  | refuse e bad =>
    obtain ⟨unsent, refused⟩ := now
    exact ⟨unsent.append rfl (by simp [acked_not_push]), refused⟩

/-- A send stores its message when it is admitted, and otherwise neither stores nor pushes anything. -/
theorem send_outcome (call : SendCall) (w : World) :
    Admitted w call ∧ Stores w (call.program.run w).state ∨
      ¬Admitted w call ∧ Unsent w (call.program.run w).state (call.program.run w).events := by
  obtain ⟨phase, finished, passed⟩ := @send_invariant call (fun phase w' sofar => PhasePassed w phase w' sofar)
    (fun phase next w' w'' sofar events now step => step_passed now step) w ⟨⟨rfl, by simp⟩, rfl⟩
  obtain rfl | ⟨d, rfl⟩ := finished_cases finished
  · exact .inr ⟨passed.2, passed.1⟩
  · exact .inl passed

/-! ### The law about blocks -/

/-- The call is a send of the user `b` in a conversation. -/
def SendsIn (call : Call Request) (b conversationId : Int) : Prop :=
  ∃ conn seq req, call.request = .msg (.sendMsg conn seq (some req)) ∧
    (call.connections conn).userId = b ∧ req.conversationId = conversationId

/-- The call stores a message, or sends a push to a connection of the user `a`. -/
def Reaches (w : World) (call : Call Request) (a : Int) : Prop :=
  Stores w (perform handle w call) ∨ ∃ conn ∈ call.connManager.getConns a, ∃ packet,
    .sent conn packet ∈ (served handle w call).events ∧ (packet.cmd = .pushMsg ∨ packet.cmd = .convUpdate)

/-- The call is a send that passes all checks. -/
def AdmittedCall (w : World) (call : Call Request) : Prop :=
  ∃ send : SendCall, call.request = send.request ∧ Admitted (call.enter w) send

private theorem reaches_iff {w : World} {call : Call Request} {a b conversationId : Int}
    (sends : SendsIn call b conversationId) : Reaches w call a ↔ AdmittedCall w call := by
  obtain ⟨conn, seq, req, asked, -, -⟩ := sends
  have same := @served_send call ⟨conn, seq, some req⟩ asked w
  obtain ⟨admitted, stores⟩ | ⟨refused, messages, silent⟩ := send_outcome ⟨conn, seq, some req⟩ (call.enter w)
  · rw [← same] at stores
    exact iff_of_true (.inl stores) ⟨⟨conn, seq, some req⟩, asked, admitted⟩
  · rw [← same] at messages silent
    refine iff_of_false ?_ ?_
    · rintro (⟨m, new, old⟩ | ⟨c, _, packet, sent, push⟩)
      · rw [perform, messages] at new
        exact old new
      · exact silent _ sent ⟨c, packet, rfl, push⟩
    · rintro ⟨⟨conn', seq', body'⟩, asked', admitted⟩
      rw [asked] at asked'
      simp only [SendCall.request, Request.msg.injEq, MsgService.Request.sendMsg.injEq] at asked'
      obtain ⟨rfl, rfl, rfl⟩ := asked'
      exact refused admitted

/-- In every run, with a block set or not, the sends of `b` in a conversation neither
    store a message nor push anything to `a` exactly when none of them is admitted. -/
theorem silenced_iff (w : World) (calls : List (Call Request)) (a b conversationId : Int) :
    Along (perform handle) (fun w call => SendsIn call b conversationId → ¬Reaches w call a) w calls ↔
      Along (perform handle) (fun w call => SendsIn call b conversationId → ¬AdmittedCall w call) w calls := by
  refine along_congr fun w call => ?_
  exact forall_congr' fun sends => not_congr (reaches_iff sends)

/-- The private conversation of two users. -/
def PrivateOf (t : Tables) (a b conversationId : Int) : Prop :=
  (∃ conv ∈ t.conversations.rows, conv.id = conversationId ∧ conv.type = .private_) ∧
    (∃ m ∈ t.members.rows, m.conversationId = conversationId ∧ m.userId = a) ∧
    ∃ m ∈ t.members.rows, m.conversationId = conversationId ∧ m.userId = b

/-- User 2 writes to user 1. -/
private def writing : Call Request :=
  fromUser (.msg (.sendMsg 2 0 (some { conversationId := 1, content := [104], clientMsgId := [] })))

/-- User 1 befriends and blocks user 2, whose next message is stored all the same. -/
theorem blocked_user_heard :
    ¬∀ (before calls : List (Call Request)) (block : Call Request) (a b conversationId : Int),
      Blocks (after (perform handle) twoUsers before) block a b →
      PrivateOf (after (perform handle) twoUsers before).tables a b conversationId →
      Along (perform handle) (fun w call => ¬Lifts w call a b)
        (perform handle (after (perform handle) twoUsers before) block) calls →
      Along (perform handle) (fun w call => SendsIn call b conversationId → ¬Reaches w call a)
        (perform handle (after (perform handle) twoUsers before) block) calls := by
  intro claim
  have unlifted : ∀ w, ¬Lifts w writing 1 2 := by
    rintro w ⟨conn, seq, req, other, -⟩
    simp [writing, fromUser] at other
  have silent := claim befriending [writing] blocking 1 2 1
    ⟨1, 0, { targetUid := [2] }, rfl, rfl, by decide, List.Mem.head _⟩
    ⟨by decide, by decide, by decide⟩ ⟨unlifted _, trivial⟩
  exact silent.1 ⟨2, 0, _, rfl, rfl, rfl⟩ (.inl ⟨_, List.Mem.head _, by decide⟩)

end NovaIIM
