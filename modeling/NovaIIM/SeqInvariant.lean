import NovaIIM.Services

/-!
Sequence numbers.

`SeqInv apart` ties the stored messages to the `max_seq` of their conversations
and sets the seqs of a conversation `apart`: in ascending order, or just distinct.
`Grows t t'` says that no `max_seq` falls, that messages stay and that new ones
are above the `max_seq` there was. Every write of the services preserves the
invariant and is a growth (`Keeps`), with any statement failing. A send is taken
through its phases: from the allocation to the insertion its seq is the `max_seq`
of the conversation and above all stored ones.
-/
namespace NovaIIM
open Store MsgService
open Relation (ReflTransGen)

/-- Stored messages lie within their conversation, and its seqs are set apart. -/
structure SeqInv (apart : Int → Int → Prop) (t : Tables) : Prop where
  within : ∀ m ∈ t.messages.rows, ∃ conv ∈ t.conversations.rows,
    conv.id = m.conversationId ∧ 1 ≤ m.seq ∧ m.seq ≤ conv.maxSeq
  apart : t.messages.rows.Pairwise fun a b => a.conversationId = b.conversationId → apart a.seq b.seq
  nonneg : ∀ conv ∈ t.conversations.rows, 0 ≤ conv.maxSeq

/-- The same message, possibly with another status. -/
def Restatus (m m' : Message) : Prop := m' = { m with status := m'.status }

theorem Restatus.refl (m : Message) : Restatus m m := rfl

theorem Restatus.trans {a b c : Message} (first : Restatus a b) (second : Restatus b c) : Restatus a c := by
  rw [Restatus] at first second ⊢
  rw [second, first]

/-- What a later state has kept of an earlier one. -/
structure Grows (t t' : Tables) : Prop where
  conversations : ∀ conv ∈ t.conversations.rows, ∃ conv' ∈ t'.conversations.rows,
    conv'.id = conv.id ∧ conv.maxSeq ≤ conv'.maxSeq
  stays : ∀ m ∈ t.messages.rows, ∃ m' ∈ t'.messages.rows, Restatus m m'
  /-- a message was there before or is above the `max_seq` there was -/
  newer : ∀ m' ∈ t'.messages.rows, (∃ m ∈ t.messages.rows, Restatus m m') ∨
    ∀ conv ∈ t.conversations.rows, conv.id = m'.conversationId → conv.maxSeq < m'.seq

theorem Grows.refl (t : Tables) : Grows t t :=
  ⟨fun conv inside => ⟨conv, inside, rfl, le_rfl⟩, fun m inside => ⟨m, inside, .refl m⟩,
    fun m inside => .inl ⟨m, inside, .refl m⟩⟩

theorem Grows.trans {a b c : Tables} (first : Grows a b) (second : Grows b c) : Grows a c := by
  refine ⟨fun conv inside => ?_, fun m inside => ?_, fun m inside => ?_⟩
  · obtain ⟨conv', inside', same, up⟩ := first.conversations conv inside
    obtain ⟨conv'', inside'', same', up'⟩ := second.conversations conv' inside'
    exact ⟨conv'', inside'', same'.trans same, up.trans up'⟩
  · obtain ⟨m', inside', same⟩ := first.stays m inside
    obtain ⟨m'', inside'', same'⟩ := second.stays m' inside'
    exact ⟨m'', inside'', same.trans same'⟩
  · obtain ⟨m', inside', same'⟩ | above := second.newer m inside
    · obtain ⟨m'', inside'', same''⟩ | above := first.newer m' inside'
      · exact .inl ⟨m'', inside'', same''.trans same'⟩
      · rw [same']
        exact .inr above
    · refine .inr fun conv known named => ?_
      obtain ⟨conv', known', same, up⟩ := first.conversations conv known
      exact up.trans_lt (above conv' known' (same.trans named))

/-- A step that preserves the invariant, whatever it sets apart, and grows. -/
structure Keeps (t t' : Tables) : Prop where
  inv : ∀ {apart : Int → Int → Prop}, SeqInv apart t → SeqInv apart t'
  grows : Grows t t'

theorem Keeps.refl (t : Tables) : Keeps t t := ⟨id, .refl t⟩

theorem Keeps.trans {a b c : Tables} (first : Keeps a b) (second : Keeps b c) : Keeps a c :=
  ⟨second.inv ∘ first.inv, first.grows.trans second.grows⟩

/-- A path of such steps is one. -/
theorem Keeps.path {W : Tables → Tables → Prop} (each : ∀ t t', W t t' → Keeps t t') {t t' : Tables}
    (writes : ReflTransGen W t t') : Keeps t t' := by
  induction writes with
  | refl => exact .refl t
  | tail _ last ih => exact ih.trans (each _ _ last)

/-! ### Single writes -/

/-- Messages keep all but their status, in the same order; conversations only grow. -/
private theorem keeps_of_restatus {t t' : Tables} (change : Message → Message)
    (messages : t'.messages.rows = t.messages.rows.map change) (same : ∀ m, Restatus m (change m))
    (nonneg : (∀ conv ∈ t.conversations.rows, 0 ≤ conv.maxSeq) → ∀ conv ∈ t'.conversations.rows, 0 ≤ conv.maxSeq)
    (grows : ∀ conv ∈ t.conversations.rows, ∃ conv' ∈ t'.conversations.rows,
      conv'.id = conv.id ∧ conv.maxSeq ≤ conv'.maxSeq) : Keeps t t' := by
  refine ⟨fun inv => ⟨?_, ?_, nonneg inv.nonneg⟩, grows, fun m inside => ?_, fun m inside => ?_⟩
  · intro m inside
    rw [messages] at inside
    obtain ⟨old, there, rfl⟩ := List.mem_map.mp inside
    obtain ⟨conv, known, named, low, high⟩ := inv.within old there
    obtain ⟨conv', known', named', up⟩ := grows conv known
    rw [same old]
    exact ⟨conv', known', named'.trans named, low, high.trans up⟩
  · rw [messages]
    refine inv.apart.map _ fun a b less equal => ?_
    rw [same a, same b] at equal ⊢
    exact less equal
  · exact ⟨_, messages ▸ List.mem_map_of_mem inside, same m⟩
  · rw [messages] at inside
    obtain ⟨old, there, rfl⟩ := List.mem_map.mp inside
    exact .inl ⟨old, there, same old⟩

/-- A write to other tables. -/
theorem keeps_elsewhere {t t' : Tables} (messages : t'.messages = t.messages)
    (conversations : t'.conversations = t.conversations) : Keeps t t' := by
  refine keeps_of_restatus id (by simp [messages]) .refl (by simp [conversations]) ?_
  intro conv inside
  exact ⟨conv, conversations ▸ inside, rfl, le_rfl⟩

theorem keeps_status (t : Tables) (id : Int) (status : MsgStatus) : Keeps t (t.setMessageStatus id status) := by
  refine keeps_of_restatus _ rfl (fun m => ?_) (fun nonneg => nonneg) (Grows.refl t).conversations
  split
  · rfl
  · exact .refl m

theorem keeps_created {conv : Conversation} (t : Tables) (empty : conv.maxSeq = 0) :
    Keeps t (t.createConversation conv) := by
  have old : ∀ c ∈ t.conversations.rows, c ∈ (t.createConversation conv).conversations.rows :=
    fun c inside => Table.mem_insert.mpr (.inl inside)
  refine keeps_of_restatus id (by simp [Tables.createConversation]) .refl (fun nonneg c inside => ?_)
    fun c inside => ⟨c, old c inside, rfl, le_rfl⟩
  obtain before | ⟨-, rfl⟩ := Table.mem_insert.mp inside
  · exact nonneg c before
  · exact empty.ge

/-- An update of conversations that lets no `max_seq` fall. -/
private theorem keeps_update {t t' : Tables} (selected : Conversation → Bool)
    (change : RowUpdate Conversation) (messages : t'.messages = t.messages)
    (conversations : t'.conversations = t.conversations.update selected change)
    (up : ∀ conv ∈ t.conversations.rows, selected conv = true → conv.maxSeq ≤ (change.apply conv).maxSeq) :
    Keeps t t' := by
  have rises : ∀ conv ∈ t.conversations.rows,
      conv.maxSeq ≤ (if selected conv then change.apply conv else conv).maxSeq := by
    intro conv inside
    split
    · exact up conv inside ‹_›
    · exact le_rfl
  have same : ∀ conv, (if selected conv then change.apply conv else conv).id = conv.id := by
    intro conv
    split
    · exact change.same_id conv
    · rfl
  refine keeps_of_restatus id (by simp [messages]) .refl (fun nonneg c inside => ?_) fun conv inside => ?_
  · rw [conversations, Table.mem_update] at inside
    obtain ⟨conv, there, rfl⟩ := inside
    exact (nonneg conv there).trans (rises conv there)
  · exact ⟨_, by rw [conversations, Table.mem_update]; exact ⟨conv, inside, rfl⟩, same conv, rises conv inside⟩

theorem keeps_rewritten {t : Tables} {row conv : Conversation} (known : row ∈ t.conversations.rows)
    (same : conv.id = row.id) (kept : conv.maxSeq = row.maxSeq) : Keeps t (t.updateConversation conv) := by
  refine keeps_update _ _ rfl rfl fun r inside selected => ?_
  have here : r = row := Table.eq_of_id inside known ((decide_eq_true_eq.mp selected).trans same)
  subst here
  simp [same, kept]

theorem keeps_incremented (t : Tables) (conversationId : Int) : Keeps t (t.incrMaxSeq conversationId) :=
  keeps_update _ _ rfl rfl fun conv _ _ => by
    show conv.maxSeq ≤ conv.maxSeq + 1
    omega

variable {apart : Int → Int → Prop}

/-- The `max_seq` that an allocation leads to is above all messages of its conversation. -/
theorem allocated_above {t : Tables} {conversationId : Int} (inv : SeqInv apart t) {conv : Conversation}
    (known : conv ∈ (t.incrMaxSeq conversationId).conversations.rows) (named : conv.id = conversationId) :
    1 ≤ conv.maxSeq ∧ ∀ m ∈ t.messages.rows, m.conversationId = conversationId → m.seq < conv.maxSeq := by
  obtain ⟨old, there, here, top⟩ := incremented_row known named
  have nonneg := inv.nonneg old there
  refine ⟨by omega, fun m inside same => ?_⟩
  obtain ⟨conv', known', named', -, high⟩ := inv.within m inside
  have : conv' = old := Table.eq_of_id known' there (named'.trans (same.trans here.symm))
  subst this
  omega

/-- A message that is apart from all of its conversation goes in. -/
theorem inv_inserted {t : Tables} {m : Message} (inv : SeqInv apart t)
    {conv : Conversation} (known : conv ∈ t.conversations.rows) (named : conv.id = m.conversationId) (low : 1 ≤ m.seq)
    (high : m.seq ≤ conv.maxSeq)
    (others : ∀ old ∈ t.messages.rows, old.conversationId = m.conversationId → apart old.seq m.seq) :
    SeqInv apart (t.insertMessage m) := by
  have rows : (t.insertMessage m).messages.rows = t.messages.rows ++ [t.messages.fresh m] :=
    Table.rows_insert_free (by simp [Table.taken, Row.clash])
  refine ⟨fun a inside => ?_, ?_, inv.nonneg⟩
  · rw [rows, List.mem_append, List.mem_singleton] at inside
    obtain old | rfl := inside
    · exact inv.within a old
    · exact ⟨conv, known, named, low, high⟩
  · rw [rows, List.pairwise_append]
    refine ⟨inv.apart, List.pairwise_singleton _ _, fun old inside new last_ same => ?_⟩
    rw [List.mem_singleton.mp last_] at same ⊢
    exact others old inside same

/-- It is new to every earlier state whose `max_seq` it is above. -/
theorem grows_inserted {start t : Tables} {m : Message} (grows : Grows start t)
    (above : ∀ conv ∈ start.conversations.rows, conv.id = m.conversationId → conv.maxSeq < m.seq) :
    Grows start (t.insertMessage m) := by
  refine ⟨grows.conversations, fun old inside => ?_, fun new inside => ?_⟩
  · obtain ⟨old', inside', same⟩ := grows.stays old inside
    exact ⟨old', Table.mem_insert.mpr (.inl inside'), same⟩
  · obtain before | ⟨-, rfl⟩ := Table.mem_insert.mp inside
    · exact grows.newer new before
    · exact .inr above

/-! ### Requests -/

private theorem keeps_acceptWrite {fr : FriendRequest} (t t' : Tables) (write : AcceptWrite fr t t') :
    Keeps t t' := by
  cases write with
  | marked now => exact keeps_elsewhere rfl rfl
  | conversation => exact keeps_created t rfl
  | member conversationId userId party created => exact keeps_elsewhere rfl rfl
  | friendship f parties => exact keeps_elsewhere rfl rfl

private theorem keeps_deleteWrite {myId targetId conversationId : Int} (t t' : Tables)
    (write : DeleteWrite myId targetId conversationId t t') : Keeps t t' := by
  cases write <;> exact keeps_elsewhere rfl rfl

private theorem keeps_groupWrite (t t' : Tables) (write : GroupWrite t t') : Keeps t t' := by
  cases write with
  | conversation conv empty => exact keeps_created t empty
  | rewritten row conv known same kept => exact keeps_rewritten known same kept
  | _ => exact keeps_elsewhere rfl rfl

private theorem keeps_friendEffect {request : FriendService.Request} {me : Connection} {t t' : Tables}
    (effect : FriendEffect request me t t') : Keeps t t' := by
  cases effect with
  | unchanged => exact .refl t
  | accepted fr known pending mine writes => exact .path keeps_acceptWrite writes
  | deleted row known normal mine target asked named writes => exact .path keeps_deleteWrite writes
  | _ => exact keeps_elsewhere rfl rfl

/-- Every request other than a send. -/
theorem keeps_effect {me : Connection} {request : Request} {t t' : Tables}
    (effect : Effect me t t' request) : Keeps t t' := by
  cases effect with
  | friend request effect => exact keeps_friendEffect effect
  | group request writes => exact .path keeps_groupWrite writes
  | conv request effect =>
    cases effect with
    | unchanged => exact .refl t
    | settings => exact keeps_elsewhere rfl rfl
  | msg request effect =>
    cases effect with
    | unchanged => exact .refl t
    | recalled msg => exact keeps_status t _ _
    | delivered => exact keeps_elsewhere rfl rfl
    | read => exact keeps_elsewhere rfl rfl

/-- A seq that was allocated and not yet used. -/
def Reserved (t : Tables) (conversationId serverSeq : Int) : Prop :=
  ∃ conv ∈ t.conversations.rows, conv.id = conversationId ∧ conv.maxSeq = serverSeq ∧ 1 ≤ serverSeq ∧
    ∀ m ∈ t.messages.rows, m.conversationId = conversationId → m.seq < serverSeq

/-- A seq is above what a conversation had reached. -/
def Above (start : Tables) (conversationId serverSeq : Int) : Prop :=
  ∀ conv ∈ start.conversations.rows, conv.id = conversationId → conv.maxSeq < serverSeq

/-- What holds during a send that began in the tables `start`. -/
private def SendKeeps (apart : Int → Int → Prop) (start : Tables) {call : SendCall} (phase : Phase call)
    (w : World) : Prop :=
  SeqInv apart w.tables ∧ Grows start w.tables ∧
    match phase with
    | .timing s serverSeq | .inserting s serverSeq _ =>
      Reserved w.tables s.req.conversationId serverSeq ∧ Above start s.req.conversationId serverSeq
    | _ => True

private theorem quit_keeps {start : Tables} {call : SendCall} (s : Sending call) (e : Error)
    (bad : e.code ≠ 0) {w : World} (inv : SeqInv apart w.tables) (grows : Grows start w.tables) :
    SendKeeps apart start (.quit s e bad) w := by
  unfold Phase.quit
  split <;> exact ⟨inv, grows, trivial⟩

private theorem stored_keeps {start : Tables} {call : SendCall} (s : Sending call) (serverSeq epochMs : Int)
    {w : World} (inv : SeqInv apart w.tables) (grows : Grows start w.tables) :
    SendKeeps apart start (.stored s serverSeq epochMs) w := by
  unfold Phase.stored
  split <;> exact ⟨inv, grows, trivial⟩

private theorem step_keeps (less : ∀ a b, a < b → apart a b) {start : Tables} {call : SendCall}
    {phase next : Phase call} {w w' : World} {events : List Event} (now : SendKeeps apart start phase w)
    (step : SendStep w phase next w' events) : SendKeeps apart start next w' := by
  obtain ⟨inv, grows, reserved⟩ := now
  have moved : ∀ {t : Tables}, Keeps w.tables t → SeqInv apart t ∧ Grows start t :=
    fun keeps => ⟨keeps.inv inv, grows.trans keeps.grows⟩
  cases step with
  | anonymous | malformed | identify | invalid | unkeyed | keyed | replay | busy | take | insider
  | fill | answer | release | refuse => exact ⟨inv, grows, trivial⟩
  | time => exact ⟨inv, grows, reserved⟩
  | outsider | lost => exact quit_keeps _ _ _ inv grows
  | unallocated s _ mem tables stuck =>
    have keeps : Keeps w.tables w'.tables := by
      obtain same | incremented := tables
      · exact same ▸ .refl _
      · exact incremented ▸ keeps_incremented _ _
    exact quit_keeps _ _ _ (moved keeps).1 (moved keeps).2
  | allocated s conv _ mem tables faults able known named positive =>
    rw [tables] at known
    obtain ⟨low, above⟩ := allocated_above inv known named
    obtain ⟨old, there, here, top⟩ := incremented_row known named
    obtain ⟨inv', grows'⟩ := moved (keeps_incremented w.tables s.req.conversationId)
    rw [← tables] at known inv' grows'
    refine ⟨inv', grows', ⟨conv, known, named, rfl, low, fun m inside => above m ?_⟩, fun first began same => ?_⟩
    · rwa [tables] at inside
    · -- the row it found had not fallen since the start
      obtain ⟨now, there', same', up⟩ := grows.conversations first began
      have : now = old := Table.eq_of_id there' there (same'.trans (same.trans here.symm))
      subst this
      omega
  | insert s serverSeq epochMs sound =>
    obtain ⟨⟨conv, known, named, top, low, last⟩, above⟩ := reserved
    have apart' := fun old inside same => less _ _ (last old inside same)
    exact stored_keeps _ _ _ (inv_inserted inv known named low top.ge apart') (grows_inserted grows above)
  | deliver d d' _ _ saved mem tables pushes =>
    have keeps : Keeps w.tables w'.tables := by
      obtain same | ⟨conversationId, userId, selected, change, -, -, written⟩ := tables
      · exact same ▸ .refl _
      · exact written ▸ keeps_elsewhere rfl rfl
    exact ⟨(moved keeps).1, (moved keeps).2, trivial⟩

/-- A send that began with the invariant ends with it. -/
theorem keeps_send (less : ∀ a b, a < b → apart a b) (call : SendCall) {w : World} (inv : SeqInv apart w.tables) :
    SeqInv apart (call.program.run w).state.tables ∧ Grows w.tables (call.program.run w).state.tables := by
  obtain ⟨phase, -, inv', grows, -⟩ := @send_invariant call
    (fun phase w' _ => SendKeeps apart w.tables phase w')
    (fun phase next w w' sofar events now step => step_keeps less now step) w ⟨inv, .refl _, trivial⟩
  exact ⟨inv', grows⟩

/-- Every call preserves the invariant and grows. -/
theorem perform_keeps (less : ∀ a b, a < b → apart a b) (w : World) (call : Call Request)
    (inv : SeqInv apart w.tables) :
    SeqInv apart (perform handle w call).tables ∧ Grows w.tables (perform handle w call).tables := by
  obtain ⟨send, -, program⟩ | ⟨effect, -⟩ := perform_cases w call
  · unfold perform
    rw [program]
    exact keeps_send less send inv
  · exact ⟨(keeps_effect effect).inv inv, (keeps_effect effect).grows⟩

/-- So does a run. -/
theorem keeps_run (less : ∀ a b, a < b → apart a b) {w : World} (inv : SeqInv apart w.tables)
    (calls : List (Call Request)) :
    SeqInv apart (after (perform handle) w calls).tables ∧
      Grows w.tables (after (perform handle) w calls).tables :=
  @after_invariant_always _ _ (perform handle) (fun w' => SeqInv apart w'.tables ∧ Grows w.tables w'.tables)
    (fun w' call now => by
      obtain ⟨inv', grows⟩ := perform_keeps less w' call now.1
      exact ⟨inv', now.2.trans grows⟩) w ⟨inv, .refl _⟩ calls

/-- What is promised of the messages in one state and the next. -/
structure SequenceLaw (t t' : Tables) : Prop where
  /-- no two messages share conversation and seq -/
  distinct : ∀ a ∈ t.messages.rows, ∀ b ∈ t.messages.rows,
    a.conversationId = b.conversationId → a.seq = b.seq → a = b
  within : ∀ m ∈ t.messages.rows, ∃ conv ∈ t.conversations.rows,
    conv.id = m.conversationId ∧ 1 ≤ m.seq ∧ m.seq ≤ conv.maxSeq
  /-- rows are in the order in which they were stored -/
  increasing : t.messages.rows.Pairwise fun a b => a.conversationId = b.conversationId → a.seq < b.seq
  monotone : Grows t t'

private theorem distinct_of_increasing {rows : List Message}
    (increasing : rows.Pairwise fun a b => a.conversationId = b.conversationId → a.seq < b.seq)
    {a b : Message} (first : a ∈ rows) (second : b ∈ rows) (conv : a.conversationId = b.conversationId)
    (seq : a.seq = b.seq) : a = b := by
  by_contra different
  have apart : rows.Pairwise fun a b => a.conversationId = b.conversationId → a.seq ≠ b.seq :=
    increasing.imp fun less same => (less same).ne
  have symm : Std.Symm fun a b : Message => a.conversationId = b.conversationId → a.seq ≠ b.seq :=
    ⟨fun _ _ apart same => (apart same.symm).symm⟩
  exact apart.forall first second different conv seq

/-- In every run from a database without conversations, every call leads from a state
    to the next under the law of sequence numbers, whatever statements fail. -/
theorem sequence_numbers (w : World) (messages : w.tables.messages.rows = [])
    (conversations : w.tables.conversations.rows = []) (calls : List (Call Request)) (call : Call Request) :
    SequenceLaw (after (perform handle) w calls).tables (after (perform handle) w (calls ++ [call])).tables := by
  have initially : SeqInv (· < ·) w.tables := ⟨by simp [messages], by simp [messages], by simp [conversations]⟩
  obtain ⟨inv, -⟩ := keeps_run (fun _ _ => id) initially calls
  rw [after_snoc]
  exact ⟨fun a first b second => distinct_of_increasing inv.apart first second, inv.within,
    inv.apart, (perform_keeps (fun _ _ => id) _ call inv).2⟩

/-- One of two friends writes in their conversation. -/
private def speaks (conn : ConnId) (content : Bytes) : Call Request :=
  fromUser (.msg (.sendMsg conn 0 (some { conversationId := 1, content := content, clientMsgId := [] })))

/-- Two users become friends and write to each other. -/
private def conversing : List (Call Request) := befriending ++ [speaks 1 [97], speaks 2 [98]]

/-- After one message of each, a third one is stored with the next seq. -/
theorem sequence_numbers_conversing :
    SequenceLaw (after (perform handle) twoUsers conversing).tables
        (after (perform handle) twoUsers (conversing ++ [speaks 1 [99]])).tables ∧
      (after (perform handle) twoUsers conversing).tables.messages.rows.map Message.seq = [1, 2] ∧
      (after (perform handle) twoUsers (conversing ++ [speaks 1 [99]])).tables.messages.rows.map Message.seq =
        [1, 2, 3] :=
  ⟨sequence_numbers twoUsers rfl rfl conversing (speaks 1 [99]), by decide, by decide⟩

end NovaIIM
