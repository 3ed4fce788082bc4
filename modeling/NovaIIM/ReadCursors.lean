import NovaIIM.SeqInvariant
import NovaIIM.SyncService

/-!
Read cursors.

`HandleReadAck` holds the cursor it is given down to the `max_seq` of the
conversation, but only where it has read a `max_seq` above 0. `Carried` says what
every other request does to the cursors: none of them moves, and a new member
starts at 0. `handleReadAck_tables` is the exact effect of an acknowledgement, so
a cursor leaves its conversation exactly when one `Overshoots`.
-/
namespace NovaIIM
open Store MsgService
open Relation (ReflTransGen)

/-- The last seq of a conversation, 0 where it has no row. -/
def lastSeq (t : Tables) (conversationId : Int) : Int :=
  (t.conversations.rows.find? fun r => r.id = conversationId).elim 0 Conversation.maxSeq

/-- Every read cursor lies within its conversation. -/
def CursorsWithin (t : Tables) : Prop :=
  ∀ m ∈ t.members.rows, 0 ≤ m.lastReadSeq ∧ m.lastReadSeq ≤ lastSeq t m.conversationId

/-! ### The last seq -/

theorem lastSeq_row {t : Tables} {conv : Conversation} (known : conv ∈ t.conversations.rows) :
    lastSeq t conv.id = conv.maxSeq := by
  cases found : t.conversations.rows.find? fun r => r.id = conv.id with
  | none => simpa using List.find?_eq_none.mp found conv known
  | some row =>
    have named : row.id = conv.id := by simpa using List.find?_some found
    have same : row = conv := Table.eq_of_id (List.mem_of_find?_eq_some found) known named
    simp [lastSeq, found, same]

theorem lastSeq_cases (t : Tables) (conversationId : Int) :
    (∃ conv ∈ t.conversations.rows, conv.id = conversationId ∧ lastSeq t conversationId = conv.maxSeq) ∨
      (∀ conv ∈ t.conversations.rows, conv.id ≠ conversationId) ∧ lastSeq t conversationId = 0 := by
  cases found : t.conversations.rows.find? fun r => r.id = conversationId with
  | none =>
    refine .inr ⟨fun conv known named => ?_, by simp [lastSeq, found]⟩
    simpa [named] using List.find?_eq_none.mp found conv known
  | some row =>
    refine .inl ⟨row, List.mem_of_find?_eq_some found, by simpa using List.find?_some found, ?_⟩
    simp [lastSeq, found]

variable {apart : Int → Int → Prop} {t t' : Tables}

theorem lastSeq_nonneg (inv : SeqInv apart t) (conversationId : Int) : 0 ≤ lastSeq t conversationId := by
  obtain ⟨conv, known, -, last⟩ | ⟨-, last⟩ := lastSeq_cases t conversationId
  · rw [last]
    exact inv.nonneg conv known
  · exact last.ge

theorem lastSeq_grows (grows : Grows t t') (inv : SeqInv apart t') (conversationId : Int) :
    lastSeq t conversationId ≤ lastSeq t' conversationId := by
  obtain ⟨conv, known, rfl, last⟩ | ⟨-, last⟩ := lastSeq_cases t conversationId
  · obtain ⟨conv', known', same, up⟩ := grows.conversations conv known
    rw [last, ← same, lastSeq_row known']
    exact up
  · rw [last]
    exact lastSeq_nonneg inv conversationId

/-! ### Cursors that stay where they are -/

/-- A member starts at 0 or has kept the cursor it had. -/
def Carried (t t' : Tables) : Prop :=
  ∀ m' ∈ t'.members.rows, m'.lastReadSeq = 0 ∨ ∃ m ∈ t.members.rows,
    m.conversationId = m'.conversationId ∧ m.userId = m'.userId ∧ m.lastReadSeq = m'.lastReadSeq

theorem Carried.refl (t : Tables) : Carried t t := fun m inside => .inr ⟨m, inside, rfl, rfl, rfl⟩

theorem Carried.trans {a b c : Tables} (first : Carried a b) (second : Carried b c) : Carried a c := by
  intro m'' inside
  obtain zero | ⟨m', inside', conv', user', read'⟩ := second m'' inside
  · exact .inl zero
  obtain zero | ⟨m, there, conv, user, read⟩ := first m' inside'
  · exact .inl (read'.symm.trans zero)
  · exact .inr ⟨m, there, conv.trans conv', user.trans user', read.trans read'⟩

/-- A path of writes that carry the cursors carries them. -/
theorem Carried.path {W : Tables → Tables → Prop} (each : ∀ t t', W t t' → Carried t t')
    (writes : ReflTransGen W t t') : Carried t t' := by
  induction writes with
  | refl => exact .refl t
  | tail _ last ih => exact ih.trans (each _ _ last)

theorem carried_elsewhere (members : t'.members = t.members) : Carried t t' := by
  intro m inside
  rw [members] at inside
  exact Carried.refl t m inside

theorem carried_added (t : Tables) {member : ConversationMember} (unread : member.lastReadSeq = 0) :
    Carried t (t.addMember member) := by
  intro m inside
  obtain old | ⟨-, rfl⟩ := Table.mem_insert.mp inside
  · exact Carried.refl t m old
  · exact .inl unread

theorem carried_deleted (t : Tables) (gone : ConversationMember → Bool) :
    Carried t { t with members := t.members.delete gone } := by
  intro m inside
  exact Carried.refl t m (Table.mem_delete.mp inside).1

theorem carried_updated (t : Tables) (conversationId userId : Int) (selected : ConversationMember → Bool)
    {change : RowUpdate ConversationMember} (unread : KeepsRead change) :
    Carried t (t.updateMember conversationId userId selected change) := by
  intro m inside
  obtain ⟨old, there, rfl⟩ := Table.mem_update.mp inside
  refine .inr ⟨old, there, ?_⟩
  split
  · exact ⟨(named_update change old).1.symm, (named_update change old).2.symm, (unread old).symm⟩
  · exact ⟨rfl, rfl, rfl⟩

private theorem carried_acceptWrite {fr : FriendRequest} (t t' : Tables) (write : AcceptWrite fr t t') :
    Carried t t' := by
  cases write with
  | member conversationId userId party created => exact carried_added t rfl
  | marked | conversation | friendship => exact carried_elsewhere rfl

private theorem carried_deleteWrite {myId targetId conversationId : Int} (t t' : Tables)
    (write : DeleteWrite myId targetId conversationId t t') : Carried t t' := by
  cases write with
  | mine | theirs => exact carried_elsewhere rfl
  | left userId => exact carried_deleted t _

private theorem carried_groupWrite (t t' : Tables) (write : GroupWrite t t') : Carried t t' := by
  cases write with
  | member member unread => exact carried_added t unread
  | left conversationId userId => exact carried_deleted t _
  | emptied conversationId => exact carried_deleted t _
  | role conversationId userId selected change unread => exact carried_updated t _ _ _ unread
  | _ => exact carried_elsewhere rfl

private theorem carried_friendEffect {request : FriendService.Request} {me : Connection}
    (effect : FriendEffect request me t t') : Carried t t' := by
  cases effect with
  | accepted fr known pending mine writes => exact .path carried_acceptWrite writes
  | deleted row known normal mine target asked named writes => exact .path carried_deleteWrite writes
  | unchanged => exact .refl t
  | _ => exact carried_elsewhere rfl

/-- The read acknowledgement that a request brings. -/
def Request.readAck? : Request → Option (ConnId × UInt32 × ReadAckReq)
  | .msg (.readAck conn seq (some req)) => some (conn, seq, req)
  | _ => none

theorem Request.eq_readAck {request : Request} {conn : ConnId} {seq : UInt32} {req : ReadAckReq}
    (asked : request.readAck? = some (conn, seq, req)) : request = .msg (.readAck conn seq (some req)) := by
  unfold readAck? at asked
  split at asked
  · cases asked
    rfl
  · cases asked

/-- Every request other than a read acknowledgement and a send. -/
theorem carried_effect {me : Connection} {request : Request} (other : request.readAck? = none)
    (effect : Effect me t t' request) : Carried t t' := by
  cases effect with
  | friend request effect => exact carried_friendEffect effect
  | group request writes => exact .path carried_groupWrite writes
  | conv request effect =>
    cases effect with
    | unchanged => exact .refl t
    | settings conversationId selected change settled unread => exact carried_updated t _ _ _ unread
  | msg request effect =>
    cases effect with
    | unchanged => exact .refl t
    | recalled msg => exact carried_elsewhere rfl
    | delivered conversationId selected change settled unread => exact carried_updated t _ _ _ unread
    | read conn seq req asked =>
      subst asked
      cases other

private theorem carried_step {call : SendCall} {phase next : Phase call} {w w' : World} {events : List Event}
    (step : SendStep w phase next w' events) : Carried w.tables w'.tables := by
  cases step with
  | unallocated s _ mem tables stuck =>
    obtain same | incremented := tables
    · exact carried_elsewhere (by rw [same])
    · exact carried_elsewhere (by rw [incremented]; rfl)
  | allocated s conv _ mem tables => exact carried_elsewhere (by rw [tables]; rfl)
  | insert s serverSeq epochMs sound => exact carried_elsewhere rfl
  | deliver d d' _ _ saved mem tables pushes =>
    obtain same | ⟨conversationId, userId, selected, change, -, unread, written⟩ := tables
    · exact carried_elsewhere (by rw [same])
    · exact written ▸ carried_updated w.tables _ _ _ unread
  | _ => exact .refl _

/-- Every call other than a read acknowledgement. -/
theorem perform_carried (w : World) {call : Call Request} (other : call.request.readAck? = none) :
    Carried w.tables (perform handle w call).tables := by
  obtain ⟨send, -, program⟩ | ⟨effect, -⟩ := perform_cases w call
  · unfold perform
    rw [program]
    obtain ⟨phase, -, carried⟩ := @send_invariant send (fun _ w' _ => Carried w.tables w'.tables)
      (fun _ _ _ _ _ _ now step => now.trans (carried_step step)) (call.enter w) (.refl _)
    exact carried
  · exact carried_effect other effect

/-! ### Acknowledgements -/

/-- An acknowledgement gets as far as its UPDATE, and the UPDATE is executed. -/
structure Moves (w : World) (conn : ConnId) (req : ReadAckReq) : Prop where
  known : (w.mem.connections conn).userId ≠ 0
  valid : 0 < req.conversationId ∧ 0 < req.readUpToSeq
  member : ∃ m ∈ w.tables.members.rows,
    m.conversationId = req.conversationId ∧ m.userId = (w.mem.connections conn).userId
  checked : ¬StatementFails w.faults 0
  executed : ¬StatementFails w.faults 2

instance (w : World) (conn : ConnId) (req : ReadAckReq) : Decidable (Moves w conn req) :=
  decidable_of_iff (((w.mem.connections conn).userId ≠ 0 ∧ 0 < req.conversationId ∧ 0 < req.readUpToSeq) ∧
      (∃ m ∈ w.tables.members.rows,
        m.conversationId = req.conversationId ∧ m.userId = (w.mem.connections conn).userId) ∧
      ¬StatementFails w.faults 0 ∧ ¬StatementFails w.faults 2)
    ⟨fun h => ⟨h.1.1, h.1.2, h.2.1, h.2.2.1, h.2.2.2⟩, fun h => ⟨⟨h.known, h.valid⟩, h.member, h.checked, h.executed⟩⟩

/-- The row of the conversation as the acknowledgement reads it, if it does. -/
def readRow (w : World) (req : ReadAckReq) : Option Conversation :=
  if StatementFails w.faults 1 then none
  else w.tables.conversations.rows.find? fun r => r.id = req.conversationId

/-- The cursors that an acknowledgement leaves. -/
def readTables (w : World) (conn : ConnId) (req : ReadAckReq) : Tables :=
  w.tables.updateMember req.conversationId (w.mem.connections conn).userId
    (fun r => r.lastReadSeq < clampRead (readRow w req) req.readUpToSeq)
    ⟨fun r => { r with lastReadSeq := clampRead (readRow w req) req.readUpToSeq }, fun _ => rfl, fun _ _ => rfl⟩

/-- The seq it writes is positive as it was given. -/
theorem clampRead_pos (conv : Option Conversation) {readUpToSeq : Int} (positive : 0 < readUpToSeq) :
    0 < clampRead conv readUpToSeq := by
  unfold clampRead
  split
  · split
    · exact lt_min positive ‹_›
    · exact positive
  · exact positive

/-- What an acknowledgement does to the tables. -/
theorem handleReadAck_tables (conn : ConnId) (seq : UInt32) (req : ReadAckReq) (w : World) :
    ((handleReadAck conn seq (some req)).run w).state.tables =
      if Moves w conn req then readTables w conn req else w.tables := by
  show (handleReadAck conn seq (some req)).Ensures w fun o =>
    o.state.tables = if Moves w conn req then readTables w conn req else w.tables
  have stay : ∀ {p : Handler} {w' : World}, Silent p → w'.tables = w.tables → ¬Moves w conn req →
      p.Ensures w' fun o => o.state.tables = if Moves w conn req then readTables w conn req else w.tables :=
    fun silent same stays => by
      rw [if_neg stays]
      exact (silent _).tables.trans same
  refine ensures_peek ?_
  by_cases anonymous : (w.mem.connections conn).userId = 0
  · simp only [anonymous, if_true]
    exact stay (silent_ret ()) rfl fun moves => moves.known anonymous
  simp only [anonymous, if_false]
  by_cases invalid : req.conversationId ≤ 0 ∨ req.readUpToSeq ≤ 0
  · simp only [invalid, if_true]
    refine stay silent_sendRsp rfl fun moves => ?_
    have valid := moves.valid
    omega
  simp only [invalid, if_false]
  refine ensures_query (fun fault => stay silent_sendRsp rfl fun moves => moves.checked fault)
    fun checked => ?_
  cases member : w.tables.members.rows.any fun r =>
      r.conversationId = req.conversationId && r.userId = (w.mem.connections conn).userId with
  | false =>
    refine stay silent_sendRsp rfl fun moves => ?_
    obtain ⟨m, inside, conv, user⟩ := moves.member
    simpa [conv, user] using List.any_eq_false.mp member m inside
  | true =>
    simp only [Bool.not_true, Bool.false_eq_true, if_false]
    refine ensures_answer ?_
    have row : (if w.spend.fails then none else w.spend.tables.conversations.rows.find? fun r => r.id = req.conversationId) =
        readRow w req := by
      simp only [readRow, StatementFails, List.drop_one]
      rfl
    rw [row]
    have positive := @clampRead_pos (readRow w req) req.readUpToSeq (by omega)
    have runs : (ConversationDao.updateLastReadSeq req.conversationId (w.mem.connections conn).userId
        (clampRead (readRow w req) req.readUpToSeq)).run w.spend.spend =
        (execute fun _ => readTables w conn req : Action Bool).run w.spend.spend := by
      unfold ConversationDao.updateLastReadSeq
      rw [if_neg positive.le.not_gt]
      cases fault : w.spend.spend.fails <;> simp [execute, fault, readTables]
    refine ensures_execute runs (fun fault => stay silent_sendRsp rfl fun moves => ?_) fun executed => ?_
    · refine moves.executed ?_
      simpa [StatementFails, fails] using fault
    · have moves : Moves w conn req := by
        refine ⟨anonymous, by omega, ?_, ?_, ?_⟩
        · obtain ⟨m, inside, same⟩ := List.any_eq_true.mp member
          exact ⟨m, inside, by simpa using same⟩
        · simpa [StatementFails, fails] using checked
        · simpa [StatementFails, fails] using executed
      rw [if_pos moves]
      exact (silent_sendRsp _).tables

/-- An acknowledgement that takes a cursor beyond the last seq: there is no `max_seq`
    to hold it down to, because the conversation is empty or could not be read. -/
structure Overshoot (w : World) (conn : ConnId) (req : ReadAckReq) : Prop where
  moves : Moves w conn req
  loose : lastSeq w.tables req.conversationId = 0 ∨ StatementFails w.faults 1
  beyond : lastSeq w.tables req.conversationId < req.readUpToSeq

instance (w : World) (conn : ConnId) (req : ReadAckReq) : Decidable (Overshoot w conn req) :=
  decidable_of_iff (Moves w conn req ∧ (lastSeq w.tables req.conversationId = 0 ∨ StatementFails w.faults 1) ∧
      lastSeq w.tables req.conversationId < req.readUpToSeq)
    ⟨fun h => ⟨h.1, h.2.1, h.2.2⟩, fun h => ⟨h.moves, h.loose, h.beyond⟩⟩

/-- The seq that an acknowledgement writes is within the conversation unless it overshoots. -/
theorem clampRead_within {w : World} {conn : ConnId} {req : ReadAckReq} (inv : SeqInv apart w.tables)
    (moves : Moves w conn req) :
    clampRead (readRow w req) req.readUpToSeq ≤ lastSeq w.tables req.conversationId ↔ ¬Overshoot w conn req := by
  have positive := moves.valid.2
  have bottom := lastSeq_nonneg inv req.conversationId
  have overshoots : Overshoot w conn req ↔
      (lastSeq w.tables req.conversationId = 0 ∨ StatementFails w.faults 1) ∧
        lastSeq w.tables req.conversationId < req.readUpToSeq :=
    ⟨fun ahead => ⟨ahead.loose, ahead.beyond⟩, fun ahead => ⟨moves, ahead.1, ahead.2⟩⟩
  rw [overshoots]
  by_cases fault : StatementFails w.faults 1
  · simp [readRow, fault, clampRead]
  cases found : w.tables.conversations.rows.find? fun r => r.id = req.conversationId with
  | none =>
    have empty : lastSeq w.tables req.conversationId = 0 := by simp [lastSeq, found]
    simp [readRow, fault, found, clampRead, empty]
  | some conv =>
    have last : lastSeq w.tables req.conversationId = conv.maxSeq := by simp [lastSeq, found]
    simp only [readRow, fault, found, clampRead, last, if_false, or_false]
    rw [last] at bottom
    split <;> omega

/-- An acknowledgement keeps the cursors within their conversations unless it overshoots. -/
theorem readTables_within {w : World} {conn : ConnId} {req : ReadAckReq} (inv : SeqInv apart w.tables)
    (within : CursorsWithin w.tables) (moves : Moves w conn req) :
    CursorsWithin (readTables w conn req) ↔ ¬Overshoot w conn req := by
  rw [← clampRead_within inv moves]
  have positive := clampRead_pos (readRow w req) moves.valid.2
  constructor
  · intro within'
    obtain ⟨m, inside, conv, user⟩ := moves.member
    obtain ⟨-, high⟩ := within' _ (Table.mem_update.mpr ⟨m, inside, rfl⟩)
    have old := (within m inside).2
    by_cases behind : m.lastReadSeq < clampRead (readRow w req) req.readUpToSeq
    · simp only [conv, user, behind, decide_true, Bool.and_self, if_true] at high
      exact high
    · rw [conv] at old
      omega
  · intro low m' inside
    obtain ⟨m, there, rfl⟩ := Table.mem_update.mp inside
    have old := within m there
    split
    · rename_i selected
      simp only [Bool.and_eq_true, decide_eq_true_eq] at selected
      refine ⟨positive.le, ?_⟩
      show _ ≤ lastSeq w.tables m.conversationId
      rw [selected.1.1]
      exact low
    · exact old

/-! ### Runs -/

/-- A call whose acknowledgement overshoots. -/
def Overshoots (w : World) (call : Call Request) : Prop :=
  ∃ asked ∈ call.request.readAck?, Overshoot (call.enter w) asked.1 asked.2.2

instance (w : World) (call : Call Request) : Decidable (Overshoots w call) :=
  inferInstanceAs (Decidable (∃ asked ∈ call.request.readAck?, Overshoot (call.enter w) asked.1 asked.2.2))

/-- The tables behind a call that is a read acknowledgement. -/
theorem perform_readAck (w : World) {call : Call Request} {conn : ConnId} {seq : UInt32} {req : ReadAckReq}
    (asked : call.request.readAck? = some (conn, seq, req)) :
    (perform handle w call).tables =
      if Moves (call.enter w) conn req then readTables (call.enter w) conn req else w.tables := by
  rw [perform, served, Request.eq_readAck asked]
  exact handleReadAck_tables conn seq req (call.enter w)

/-- A call keeps the cursors within their conversations unless it overshoots. -/
theorem perform_within {w : World} (call : Call Request) (inv : SeqInv (· < ·) w.tables)
    (within : CursorsWithin w.tables) :
    CursorsWithin (perform handle w call).tables ↔ ¬Overshoots w call := by
  unfold Overshoots
  cases asked : call.request.readAck? with
  | none =>
    refine iff_of_true (fun m' inside => ?_) (by simp)
    obtain ⟨inv', grows⟩ := perform_keeps (fun _ _ => id) w call inv
    obtain zero | ⟨m, there, conv, -, read⟩ := perform_carried w asked m' inside
    · exact ⟨zero.ge, zero ▸ lastSeq_nonneg inv' _⟩
    · have old := within m there
      rw [conv, read] at old
      exact ⟨old.1, old.2.trans (lastSeq_grows grows inv' _)⟩
  | some asked' =>
    obtain ⟨conn, seq, req⟩ := asked'
    simp only [Option.mem_some, exists_eq_left']
    rw [perform_readAck w asked]
    split
    · exact @readTables_within _ (call.enter w) _ _ inv within ‹_›
    · exact iff_of_true within fun ahead => absurd ahead.moves ‹_›

/-- A member acknowledges what it has read. -/
def Acknowledges (m : ConversationMember) (call : Call Request) : Prop :=
  ∃ asked ∈ call.request.readAck?, (call.connections asked.1).userId = m.userId ∧
    asked.2.2.conversationId = m.conversationId

/-- A message is counted among the unread ones of a member: the two lists of
    conversations count the seqs behind the cursor, and its seq is one of them. -/
structure Counted (conv : Conversation) (m : ConversationMember) (msg : Message) : Prop where
  behind : m.lastReadSeq < msg.seq
  inside : msg.seq ≤ conv.maxSeq
  listed : ∀ other users latest,
    (ConvService.convItem conv m other users latest).unreadCount = conv.maxSeq - m.lastReadSeq
  synced : (SyncService.unreadItem conv m).count = conv.maxSeq - m.lastReadSeq

/-- What is promised of the cursors along a run. -/
structure CursorLaw (w : World) (calls : List (Call Request)) : Prop where
  within : ∀ before, before <+: calls → CursorsWithin (after (perform handle) w before).tables
  /-- a message counts for a member that has not acknowledged since it was stored -/
  counted : ∀ before call rest, before ++ call :: rest <+: calls →
    ∀ msg ∈ (perform handle (after (perform handle) w before) call).tables.messages.rows,
    (∀ old ∈ (after (perform handle) w before).tables.messages.rows, old.id ≠ msg.id) →
    ∀ m ∈ (after (perform handle) w (before ++ call :: rest)).tables.members.rows,
    m.conversationId = msg.conversationId → (∀ later ∈ rest, ¬Acknowledges m later) →
    ∀ conv ∈ (after (perform handle) w (before ++ call :: rest)).tables.conversations.rows,
    conv.id = msg.conversationId → Counted conv m msg

/-- The cursors of a user in a conversation are below a seq. -/
private def Below (conversationId userId serverSeq : Int) (t : Tables) : Prop :=
  ∀ m ∈ t.members.rows, m.conversationId = conversationId → m.userId = userId → m.lastReadSeq < serverSeq

/-- They stay there until the user acknowledges. -/
private theorem below_step {conversationId userId serverSeq : Int} (low : 1 ≤ serverSeq) {w : World}
    {call : Call Request}
    (silent : ¬∃ asked ∈ call.request.readAck?, (call.connections asked.1).userId = userId ∧
      asked.2.2.conversationId = conversationId)
    (below : Below conversationId userId serverSeq w.tables) :
    Below conversationId userId serverSeq (perform handle w call).tables := by
  intro m' inside conv' user'
  cases asked : call.request.readAck? with
  | none =>
    obtain zero | ⟨m, there, conv, user, read⟩ := perform_carried w asked m' inside
    · omega
    · rw [← read]
      exact below m there (conv.trans conv') (user.trans user')
  | some asked' =>
    rw [perform_readAck w asked] at inside
    split at inside
    · obtain ⟨m, there, same⟩ := Table.mem_update.mp inside
      split at same
      · rename_i selected
        subst same
        simp only [Bool.and_eq_true, decide_eq_true_eq] at selected
        exact absurd ⟨asked', asked, selected.1.2.symm.trans user', selected.1.1.symm.trans conv'⟩ silent
      · subst same
        exact below m there conv' user'
    · exact below m' inside conv' user'

/-- Where a message was stored, every cursor was below its seq. -/
private theorem below_stored {w : World} {call : Call Request} (inv : SeqInv (· < ·) w.tables)
    (within : CursorsWithin w.tables) {msg : Message}
    (stored : msg ∈ (perform handle w call).tables.messages.rows)
    (new : ∀ old ∈ w.tables.messages.rows, old.id ≠ msg.id) (userId : Int) :
    1 ≤ msg.seq ∧ Below msg.conversationId userId msg.seq (perform handle w call).tables := by
  obtain ⟨inv', grows⟩ := perform_keeps (fun _ _ => id) w call inv
  obtain ⟨-, -, -, low, -⟩ := inv'.within msg stored
  have above : lastSeq w.tables msg.conversationId < msg.seq := by
    obtain ⟨old, there, same⟩ | above := grows.newer msg stored
    · exact absurd (congrArg Message.id same).symm (new old there)
    obtain ⟨conv, known, named, last⟩ | ⟨-, last⟩ := lastSeq_cases w.tables msg.conversationId
    · rw [last]
      exact above conv known named
    · omega
  refine ⟨low, fun m' inside conv' user' => ?_⟩
  cases asked : call.request.readAck? with
  | none =>
    obtain zero | ⟨m, there, conv, -, read⟩ := perform_carried w asked m' inside
    · omega
    · have old := (within m there).2
      rw [conv, conv', read] at old
      omega
  | some asked' =>
    -- an acknowledgement stores no message
    refine absurd rfl (new msg ?_)
    rw [perform_readAck w asked] at stored
    split at stored <;> exact stored

/-- In a run without an acknowledgement that overshoots, a message counts until it is acknowledged. -/
private theorem counted_of_within {w : World} (inv : SeqInv (· < ·) w.tables) (within : CursorsWithin w.tables)
    (call : Call Request) (rest : List (Call Request)) {msg : Message}
    (stored : msg ∈ (perform handle w call).tables.messages.rows)
    (new : ∀ old ∈ w.tables.messages.rows, old.id ≠ msg.id) {m : ConversationMember}
    (resident : m ∈ (after (perform handle) w (call :: rest)).tables.members.rows)
    (here : m.conversationId = msg.conversationId) (unread : ∀ later ∈ rest, ¬Acknowledges m later)
    {conv : Conversation} (known : conv ∈ (after (perform handle) w (call :: rest)).tables.conversations.rows)
    (named : conv.id = msg.conversationId) : Counted conv m msg := by
  obtain ⟨low, below⟩ := below_stored inv within stored new m.userId
  have inv' := (perform_keeps (fun _ _ => id) w call inv).1
  have behind : m.lastReadSeq < msg.seq := by
    have carried : ∀ (calls : List (Call Request)) (w' : World), (∀ later ∈ calls, ¬Acknowledges m later) →
        Below msg.conversationId m.userId msg.seq w'.tables →
        Below msg.conversationId m.userId msg.seq (after (perform handle) w' calls).tables := by
      intro calls
      induction calls with
      | nil => exact fun _ _ below => below
      | cons later rest ih =>
        intro w' unread below
        refine ih _ (fun other inside => unread other (List.mem_cons_of_mem _ inside)) (below_step low ?_ below)
        rw [← here]
        exact unread later List.mem_cons_self
    exact carried rest _ unread below m resident here rfl
  have inside : msg.seq ≤ conv.maxSeq := by
    obtain ⟨first, there, same, -, high⟩ := inv'.within msg stored
    obtain ⟨conv', known', same', up⟩ := (keeps_run (fun _ _ => id) inv' rest).2.conversations first there
    have : conv' = conv := Table.eq_of_id known' known (same'.trans (same.trans named.symm))
    subst this
    omega
  refine ⟨behind, inside, fun _ _ _ => ?_, ?_⟩
  · show max 0 (conv.maxSeq - m.lastReadSeq) = _
    omega
  · show max 0 (conv.maxSeq - m.lastReadSeq) = _
    omega

/-- In every run from a database without conversations, every read cursor lies within its
    conversation in every state, and a message counts as unread until it is acknowledged,
    exactly if no acknowledgement overshoots. -/
theorem read_cursors (w : World) (messages : w.tables.messages.rows = [])
    (conversations : w.tables.conversations.rows = []) (members : w.tables.members.rows = [])
    (calls : List (Call Request)) :
    CursorLaw w calls ↔ Along (perform handle) (fun w call => ¬Overshoots w call) w calls := by
  have initially : SeqInv (· < ·) w.tables := ⟨by simp [messages], by simp [messages], by simp [conversations]⟩
  have exactly := @prefixes_iff_along _ _ (perform handle) (fun w call => ¬Overshoots w call)
    (fun w => SeqInv (· < ·) w.tables) (fun w => CursorsWithin w.tables) calls
    (fun w call _ inv => (perform_keeps (fun _ _ => id) w call inv).1)
    (fun w call _ inv within => perform_within call inv within) w initially (by simp [CursorsWithin, members])
  rw [← exactly]
  refine ⟨CursorLaw.within, fun within => ⟨within, ?_⟩⟩
  intro before call rest short msg stored new m resident here unread conv known named
  rw [after_append] at resident known
  refine counted_of_within (keeps_run (fun _ _ => id) initially before).1 (within before ?_) call rest stored new
    resident here unread known named
  exact (List.prefix_append before _).trans short

/-- User 2 writes to user 1. -/
def greeting : Call Request :=
  fromUser (.msg (.sendMsg 2 0 (some { conversationId := 1, content := [104, 105], clientMsgId := [] })))

/-- User 1 acknowledges all messages of the conversation up to seq 1000. -/
def readingAhead : Call Request :=
  fromUser (.msg (.readAck 1 0 (some { conversationId := 1, readUpToSeq := 1000 })))

/-- Behind a message, the acknowledgement is held down to its seq. -/
theorem read_cursors_clamped : CursorLaw twoUsers (befriending ++ [greeting, readingAhead]) :=
  (read_cursors twoUsers rfl rfl rfl (befriending ++ [greeting, readingAhead])).mpr (by decide)

/-- In the empty conversation it is stored as it is, and the message that comes then is no
    longer counted for user 1. -/
theorem reading_ahead_hides :
    ¬CursorLaw twoUsers (befriending ++ [readingAhead]) ∧
      (served SyncService.handle (after (perform handle) twoUsers (befriending ++ [readingAhead, greeting]))
          { bothOnline with request := .syncUnread 1 0 }).events =
        [.sent 1 { cmd := .syncUnreadResp, seq := 0, body := .syncUnreadResp { code := 0, items := [], totalUnread := 0 } }] := by
  refine ⟨fun law => ?_, by decide⟩
  have high : ¬CursorsWithin (after (perform handle) twoUsers (befriending ++ [readingAhead])).tables := by
    unfold CursorsWithin
    decide
  exact high (law.within _ List.prefix_rfl)

end NovaIIM
