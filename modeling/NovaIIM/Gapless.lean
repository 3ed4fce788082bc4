import NovaIIM.GroupLife
import NovaIIM.Previews
import NovaIIM.ReadCursors

/-!
Counting what is unread.

The server counts what is unread in a conversation as `max_seq` less the read cursor. That is
right as long as no seq below `max_seq` is missing, which a failed insertion may bring about
and nothing else: without failures the stored messages of a conversation have the seqs from
1 to `max_seq`, each once (`log_gapless`), so that the counts of a snapshot are the numbers of
stored messages behind the cursors, and its previews the newest messages (`unread_exact`).
-/
namespace NovaIIM
open Store MsgService
open Relation (ReflTransGen)

/-- No seq up to the last one of a conversation is missing among its stored messages. -/
def Full (t : Tables) : Prop :=
  ∀ conv ∈ t.conversations.rows, ∀ seq, 1 ≤ seq → seq ≤ conv.maxSeq → ∃ m, Stored conv.id t m ∧ m.seq = seq

/-- What is allocated later is stored later. -/
structure Fills (t t' : Tables) : Prop extends Grows t t' where
  filled : ∀ conv' ∈ t'.conversations.rows, ∀ seq, 1 ≤ seq → seq ≤ conv'.maxSeq →
    (∃ m', Stored conv'.id t' m' ∧ m'.seq = seq) ∨ ∃ conv ∈ t.conversations.rows, conv.id = conv'.id ∧ seq ≤ conv.maxSeq

theorem Grows.stored {t t' : Tables} (grows : Grows t t') {conversationId seq : Int}
    (there : ∃ m, Stored conversationId t m ∧ m.seq = seq) : ∃ m', Stored conversationId t' m' ∧ m'.seq = seq := by
  obtain ⟨m, ⟨inside, here⟩, same⟩ := there
  obtain ⟨m', inside', restatus⟩ := grows.stays m inside
  rw [Restatus] at restatus
  refine ⟨m', ⟨inside', ?_⟩, ?_⟩
  · rw [restatus]
    exact here
  · rw [restatus]
    exact same

theorem Fills.refl (t : Tables) : Fills t t :=
  ⟨.refl t, fun conv inside _ _ high => .inr ⟨conv, inside, rfl, high⟩⟩

theorem Fills.trans {a b c : Tables} (first : Fills a b) (second : Fills b c) : Fills a c := by
  refine ⟨first.toGrows.trans second.toGrows, fun conv'' inside seq low high => ?_⟩
  rcases second.filled conv'' inside seq low high with stored | ⟨conv', there, same, high'⟩
  · exact .inl stored
  rcases first.filled conv' there seq low high' with stored | ⟨conv, known, same', high''⟩
  · rw [same] at stored
    exact .inl (second.toGrows.stored stored)
  · exact .inr ⟨conv, known, same'.trans same, high''⟩

theorem Fills.path {W : Tables → Tables → Prop} (each : ∀ t t', W t t' → Fills t t') {t t' : Tables}
    (writes : ReflTransGen W t t') : Fills t t' := by
  induction writes with
  | refl => exact .refl t
  | tail _ last ih => exact ih.trans (each _ _ last)

theorem Fills.full {t t' : Tables} (fills : Fills t t') (full : Full t) : Full t' := by
  intro conv' inside seq low high
  rcases fills.filled conv' inside seq low high with stored | ⟨conv, known, same, high'⟩
  · exact stored
  · have there := full conv known seq low high'
    rw [same] at there
    exact fills.toGrows.stored there

/-! ### Requests other than sends -/

section Writes
variable {t t' : Tables}

/-- A write that allocates nothing. -/
theorem fills_of_keeps (keeps : Keeps t t') (unallocated : ∀ conv' ∈ t'.conversations.rows, conv'.maxSeq = 0 ∨
    ∃ conv ∈ t.conversations.rows, conv.id = conv'.id ∧ conv.maxSeq = conv'.maxSeq) : Fills t t' := by
  refine ⟨keeps.grows, fun conv' inside seq low high => ?_⟩
  rcases unallocated conv' inside with empty | ⟨conv, known, same, top⟩
  · omega
  · exact .inr ⟨conv, known, same, top ▸ high⟩

theorem fills_elsewhere (messages : t'.messages = t.messages) (conversations : t'.conversations = t.conversations) :
    Fills t t' :=
  fills_of_keeps (keeps_elsewhere messages conversations) fun conv' inside => .inr ⟨conv', conversations ▸ inside, rfl, rfl⟩

theorem fills_status (t : Tables) (id : Int) (status : MsgStatus) : Fills t (t.setMessageStatus id status) :=
  fills_of_keeps (keeps_status t id status) fun conv' inside => .inr ⟨conv', inside, rfl, rfl⟩

theorem fills_created {conv : Conversation} (t : Tables) (empty : conv.maxSeq = 0) : Fills t (t.createConversation conv) := by
  refine fills_of_keeps (keeps_created t empty) fun conv' inside => ?_
  rcases Table.mem_insert.mp inside with there | ⟨-, rfl⟩
  · exact .inr ⟨conv', there, rfl, rfl⟩
  · exact .inl empty

theorem fills_rewritten {row conv : Conversation} (known : row ∈ t.conversations.rows) (same : conv.id = row.id)
    (kept : conv.maxSeq = row.maxSeq) : Fills t (t.updateConversation conv) := by
  refine fills_of_keeps (keeps_rewritten known same kept) fun conv' inside => ?_
  obtain ⟨old, there, rfl⟩ := Table.mem_update.mp inside
  refine .inr ⟨old, there, ?_⟩
  split
  · rename_i selected
    have here : old = row := Table.eq_of_id there known ((decide_eq_true_eq.mp selected).trans same)
    subst here
    simp [same, kept]
  · exact ⟨rfl, rfl⟩

private theorem fills_groupWrite (t t' : Tables) (write : GroupWrite t t') : Fills t t' := by
  cases write with
  | conversation conv empty => exact fills_created t empty
  | rewritten row conv known same kept => exact fills_rewritten known same kept
  | _ => exact fills_elsewhere rfl rfl

private theorem fills_acceptWrite {fr : FriendRequest} (t t' : Tables) (write : AcceptWrite fr t t') : Fills t t' := by
  cases write with
  | conversation => exact fills_created t rfl
  | _ => exact fills_elsewhere rfl rfl

private theorem fills_deleteWrite {myId targetId conversationId : Int} (t t' : Tables)
    (write : DeleteWrite myId targetId conversationId t t') : Fills t t' := by
  cases write <;> exact fills_elsewhere rfl rfl

theorem fills_effect {me : Connection} {request : Request} (effect : Effect me t t' request) : Fills t t' := by
  cases effect with
  | group request writes => exact .path fills_groupWrite writes
  | friend request effect =>
    cases effect with
    | unchanged => exact .refl t
    | accepted fr known pending mine writes => exact .path fills_acceptWrite writes
    | deleted row known normal mine target asked named writes => exact .path fills_deleteWrite writes
    | _ => exact fills_elsewhere rfl rfl
  | conv request effect =>
    cases effect with
    | unchanged => exact .refl t
    | settings => exact fills_elsewhere rfl rfl
  | msg request effect =>
    cases effect with
    | unchanged => exact .refl t
    | recalled msg => exact fills_status t _ _
    | delivered => exact fills_elsewhere rfl rfl
    | read => exact fills_elsewhere rfl rfl

end Writes

/-! ### Sends -/

section Sends
variable {call : SendCall} {start : Tables} {w w' : World}

/-- Without failures a seq is open from its allocation to the insertion, and only then. -/
private def SendFills (start : Tables) (phase : Phase call) (w : World) : Prop :=
  match phase with
  | .entered | .identified _ | .looking _ _ | .checking _ | .allocating _ => w.tables = start ∧ w.saved = none ∧ w.faults = []
  | .timing s serverSeq | .inserting s serverSeq _ =>
    w.tables = start.incrMaxSeq s.req.conversationId ∧ w.faults = [] ∧
      ∃ conv ∈ w.tables.conversations.rows, conv.id = s.req.conversationId ∧ conv.maxSeq = serverSeq
  | _ => Fills start w.tables

private theorem quit_fills {s : Sending call} {e : Error} {bad : e.code ≠ 0} (fills : Fills start w.tables) :
    SendFills start (.quit s e bad) w := by
  unfold Phase.quit
  split <;> exact fills

/-- The insertion stores what was allocated. -/
private theorem fills_stored {start : Tables} {m : Message} {conv : Conversation}
    (known : conv ∈ (start.incrMaxSeq m.conversationId).conversations.rows) (named : conv.id = m.conversationId)
    (top : conv.maxSeq = m.seq) : Fills start ((start.incrMaxSeq m.conversationId).insertMessage m) := by
  have grows : Grows start ((start.incrMaxSeq m.conversationId).insertMessage m) := by
    refine grows_inserted (keeps_incremented start _).grows fun first there same => ?_
    obtain ⟨old, here, same', last⟩ := incremented_row known named
    obtain rfl : first = old := Table.eq_of_id there here (same.trans same'.symm)
    omega
  refine ⟨grows, fun conv' inside seq low high => ?_⟩
  obtain ⟨old, there, rfl⟩ := Table.mem_update.mp inside
  by_cases selected : old.id = m.conversationId
  · obtain ⟨row, here, same, last⟩ := incremented_row known named
    obtain rfl : row = old := Table.eq_of_id here there (same.trans selected.symm)
    rw [if_pos (decide_eq_true selected)] at high ⊢
    by_cases newest : seq = row.maxSeq + 1
    · refine .inl ⟨start.messages.fresh m, ⟨Table.mem_insert.mpr (.inr ⟨?_, rfl⟩), selected.symm⟩, ?_⟩
      · simp [Table.taken, Row.clash]
      · show m.seq = seq
        omega
    · refine .inr ⟨row, there, rfl, ?_⟩
      have : seq ≤ row.maxSeq + 1 := high
      omega
  · rw [if_neg (by simpa using selected)] at high ⊢
    exact .inr ⟨old, there, rfl, high⟩

/-- An allocation in a conversation that does not exist changes nothing. -/
private theorem fills_unknown {start : Tables} {conversationId : Int}
    (unknown : ∀ conv ∈ start.conversations.rows, conv.id ≠ conversationId) : Fills start (start.incrMaxSeq conversationId) := by
  refine fills_of_keeps (keeps_incremented start _) fun conv' inside => ?_
  obtain ⟨old, there, rfl⟩ := Table.mem_update.mp inside
  rw [if_neg (by simpa using unknown old there)]
  exact .inr ⟨old, there, rfl, rfl⟩

private theorem step_fills (inv : SeqInv (· ≠ ·) start) {phase next : Phase call} {events : List Event}
    (now : SendFills start phase w) (step : SendStep w phase next w' events) : SendFills start next w' := by
  cases step with
  | anonymous | malformed | invalid | replay | busy =>
    obtain ⟨rfl, -⟩ := now
    exact .refl _
  | identify | unkeyed | keyed | take => exact now
  | outsider s turned =>
    obtain ⟨rfl, -⟩ := now
    exact quit_fills (.refl _)
  | insider s sound member =>
    obtain ⟨same, closed, smooth⟩ := now
    exact ⟨same, closed, spend_sound smooth⟩
  | unallocated s _ mem tables stuck =>
    obtain ⟨rfl, closed, smooth⟩ := now
    refine quit_fills ?_
    have unknown : ∀ conv ∈ w.tables.conversations.rows, conv.id ≠ s.req.conversationId := by
      intro conv known named
      rcases stuck with unable | ⟨conv', there, named', negative⟩
      · exact unable ⟨closed, by simp [smooth, Clear], conv, known, named⟩
      · obtain ⟨old, here, -, top⟩ := incremented_row there named'
        have := inv.nonneg old here
        omega
    rcases tables with same | incremented
    · exact same ▸ .refl _
    · exact incremented ▸ fills_unknown unknown
  | allocated s conv _ mem tables faults able known named positive =>
    obtain ⟨rfl, closed, smooth⟩ := now
    exact ⟨tables, by simp [faults, smooth], conv, known, named, rfl⟩
  | time s serverSeq => exact now
  | lost s serverSeq epochMs fault =>
    obtain ⟨-, smooth, -⟩ := now
    rw [fails_sound smooth] at fault
    cases fault
  | insert s serverSeq epochMs sound =>
    obtain ⟨tables, -, conv, known, named, top⟩ := now
    rw [tables] at known
    have fills : Fills start (w.wrote (w.tables.insertMessage (messageOf s.userId s.req serverSeq epochMs))).tables := by
      rw [wrote_tables, tables]
      exact fills_stored known named top
    unfold Phase.stored
    split <;> exact fills
  | fill | answer | release | refuse => exact now
  | deliver d d' _ _ saved mem tables pushes =>
    refine Fills.trans now ?_
    obtain same | ⟨conversationId, userId, selected, change, -, -, written⟩ := tables
    · exact same ▸ .refl _
    · exact written ▸ fills_elsewhere rfl rfl

/-- A send without failures. -/
theorem fills_send {w : World} (closed : w.saved = none) (sound : w.faults = []) (inv : SeqInv (· ≠ ·) w.tables) (call : SendCall) :
    Fills w.tables (call.program.run w).state.tables := by
  obtain ⟨phase, finished, fills⟩ := @send_invariant call (fun phase w' _ => SendFills w.tables phase w')
    (fun phase next w' w'' _ _ now step => step_fills inv now step) w ⟨rfl, closed, sound⟩
  obtain rfl | ⟨d, rfl⟩ := finished_cases finished <;> exact fills

end Sends

/-! ### Between arrivals -/

/-- The server as runs without failures keep it. -/
structure Ungapped (w : World) : Prop where
  closed : w.saved = none
  seqs : SeqInv (· < ·) w.tables
  full : Full w.tables
  cursors : ∀ m ∈ w.tables.members.rows, 0 ≤ m.lastReadSeq

theorem SeqInv.distinct {t : Tables} (inv : SeqInv (· < ·) t) : SeqInv (· ≠ ·) t :=
  ⟨inv.within, inv.apart.imp fun less same => (less same).ne, inv.nonneg⟩

/-- A read cursor comes from an earlier one, or is zero or what an acknowledgement writes. -/
theorem cursors_carried {t t' : Tables} (carried : Carried t t') (cursors : ∀ m ∈ t.members.rows, 0 ≤ m.lastReadSeq) :
    ∀ m ∈ t'.members.rows, 0 ≤ m.lastReadSeq := by
  intro m' inside
  rcases carried m' inside with zero | ⟨m, there, -, -, same⟩
  · exact zero.ge
  · exact same ▸ cursors m there

theorem cursors_performed {w : World} (cursors : ∀ m ∈ w.tables.members.rows, 0 ≤ m.lastReadSeq) (call : Call Request) :
    ∀ m ∈ (perform handle w call).tables.members.rows, 0 ≤ m.lastReadSeq := by
  cases asked : call.request.readAck? with
  | none => exact cursors_carried (perform_carried w asked) cursors
  | some acknowledged =>
    obtain ⟨conn, seq, req⟩ := acknowledged
    rw [perform_readAck w asked]
    split
    · rename_i moves
      intro m' inside
      obtain ⟨m, there, rfl⟩ := Table.mem_update.mp inside
      split
      · exact (clampRead_pos _ moves.valid.2).le
      · exact cursors m there
    · exact cursors

/-- A call of one of the four services without failures. -/
theorem fills_performed {w : World} (closed : w.saved = none) (inv : SeqInv (· ≠ ·) w.tables) {call : Call Request}
    (sound : call.faults = []) : Fills w.tables (perform handle w call).tables := by
  obtain ⟨send, -, program⟩ | ⟨effect, -⟩ := perform_cases w call
  · rw [perform, program]
    exact @fills_send (call.enter w) closed sound inv send
  · exact fills_effect effect

theorem ungapped_received {w : World} (ungapped : Ungapped w) {arrival : Arrival} (sound : arrival.faults = []) :
    Ungapped (receive sqliteDaoFactory w arrival) := by
  have closed : (receive sqliteDaoFactory w arrival).saved = none := closed_received ungapped.closed sound
  cases asked : arrival.input.request? with
  | some request =>
    rw [receive_request asked] at closed ⊢
    refine ⟨closed, (perform_keeps (fun _ _ less => less) w _ ungapped.seqs).1, ?_, cursors_performed ungapped.cursors _⟩
    exact (fills_performed ungapped.closed ungapped.seqs.distinct sound).full ungapped.full
  | none =>
    rcases @serve_aside ((arrival.call w).enter w) ungapped.closed _ asked with same | ⟨id, recalled⟩
    · simp only [Tables.social, Tables.kept, Prod.mk.injEq] at same
      obtain ⟨⟨messages, -, conversations, members, -⟩, -⟩ := same
      refine ⟨closed, (keeps_elsewhere messages conversations).inv ungapped.seqs, ?_, ?_⟩
      · exact (fills_elsewhere messages conversations).full ungapped.full
      · exact cursors_carried (carried_elsewhere members) ungapped.cursors
    · have same : (receive sqliteDaoFactory w arrival).tables = w.tables.setMessageStatus id .recalled := recalled
      refine ⟨closed, ?_, ?_, ?_⟩ <;> rw [same]
      · exact (keeps_status w.tables id .recalled).inv ungapped.seqs
      · exact (fills_status w.tables id .recalled).full ungapped.full
      · exact ungapped.cursors

/-- A server without conversations. -/
structure NoChats (w : World) : Prop where
  closed : w.saved = none
  messages : w.tables.messages.rows = []
  conversations : w.tables.conversations.rows = []
  members : w.tables.members.rows = []

theorem ungapped_run {w : World} (unchatted : NoChats w) {arrivals : List Arrival}
    (sound : Along (receive sqliteDaoFactory) Faultless w arrivals) : Ungapped (after (receive sqliteDaoFactory) w arrivals) := by
  refine @after_invariant _ _ (receive sqliteDaoFactory) Faultless Ungapped
    (fun _ _ sound ungapped => ungapped_received ungapped sound) w ?_ arrivals sound
  refine ⟨unchatted.closed, ⟨?_, ?_, ?_⟩, ?_, ?_⟩
  · simp [unchatted.messages]
  · simp [unchatted.messages]
  · simp [unchatted.conversations]
  · simp [Full, unchatted.conversations]
  · simp [unchatted.members]

/-! ### The numbers -/

/-- The seqs of a conversation's messages, in the order in which they were stored. -/
def seqsOf (conversationId : Int) (t : Tables) : List Int :=
  (t.messages.rows.filter fun m => m.conversationId = conversationId).map Message.seq

/-- The numbers from 1 to `n`. -/
def upTo (n : Nat) : List Int := (List.range n).map fun place : Nat => (place : Int) + 1

theorem mem_upTo {n : Nat} {seq : Int} : seq ∈ upTo n ↔ 1 ≤ seq ∧ seq ≤ n := by
  rw [upTo, List.mem_map]
  constructor
  · rintro ⟨place, inside, rfl⟩
    have := List.mem_range.mp inside
    omega
  · rintro ⟨low, high⟩
    exact ⟨(seq - 1).toNat, List.mem_range.mpr (by omega), by omega⟩

theorem upTo_sorted (n : Nat) : (upTo n).Pairwise (· < ·) := by
  refine List.pairwise_map.mpr (List.pairwise_lt_range.imp fun less => ?_)
  omega

/-- How many of them are behind a cursor. -/
theorem upTo_behind (n : Nat) {cursor : Int} (positive : 0 ≤ cursor) :
    (((upTo n).filter fun seq => cursor < seq).length : Int) = max 0 (n - cursor) := by
  induction n with
  | zero => simp [upTo, positive]
  | succ n ih =>
    rw [upTo, List.range_succ, List.map_append, List.filter_append, List.length_append, ← upTo]
    by_cases behind : cursor < (n : Int) + 1
    · simp only [List.map_cons, List.map_nil, List.filter_cons, behind, decide_true, if_true, List.filter_nil, List.length_singleton]
      omega
    · simp only [List.map_cons, List.map_nil, List.filter_cons, behind, decide_false, List.filter_nil]
      simp only [Bool.false_eq_true, if_false, List.length_nil]
      omega

theorem mem_seqsOf {conversationId seq : Int} {t : Tables} : seq ∈ seqsOf conversationId t ↔ ∃ m, Stored conversationId t m ∧ m.seq = seq := by
  simp [seqsOf, Stored, and_assoc]

theorem seqsOf_sorted {t : Tables} (inv : SeqInv (· < ·) t) (conversationId : Int) : (seqsOf conversationId t).Pairwise (· < ·) := by
  refine List.pairwise_map.mpr ?_
  refine (inv.apart.filter _).imp_of_mem fun first second less => ?_
  have here := of_decide_eq_true (List.mem_filter.mp first).2
  have here' := of_decide_eq_true (List.mem_filter.mp second).2
  exact less (here.trans here'.symm)

/-- The seqs of a conversation are all numbers up to its last one, in order. -/
theorem seqsOf_full {t : Tables} (inv : SeqInv (· < ·) t) (full : Full t) {conv : Conversation} (known : conv ∈ t.conversations.rows) :
    seqsOf conv.id t = upTo conv.maxSeq.toNat := by
  have bottom := inv.nonneg conv known
  refine (seqsOf_sorted inv conv.id).eq_of_mem_iff (upTo_sorted _) fun seq => ?_
  rw [mem_seqsOf, mem_upTo]
  constructor
  · rintro ⟨m, ⟨inside, here⟩, rfl⟩
    obtain ⟨conv', known', named, low, high⟩ := inv.within m inside
    obtain rfl : conv' = conv := Table.eq_of_id known' known (named.trans here)
    omega
  · rintro ⟨low, high⟩
    exact full conv known seq low (by omega)

/-- The number of stored messages behind a member's read cursor. -/
def unreadIn (t : Tables) (m : ConversationMember) : Nat :=
  (t.messages.rows.filter fun msg => msg.conversationId = m.conversationId && m.lastReadSeq < msg.seq).length

theorem unreadIn_seqsOf (t : Tables) (m : ConversationMember) :
    unreadIn t m = ((seqsOf m.conversationId t).filter fun seq => m.lastReadSeq < seq).length := by
  rw [unreadIn, seqsOf, List.filter_map, List.length_map, List.filter_filter]
  simp only [Function.comp_apply, Bool.and_comm]

/-- What the server counts as unread is what is stored behind the cursor. -/
theorem unreadIn_counted {t : Tables} (inv : SeqInv (· < ·) t) (full : Full t) {m : ConversationMember} (positive : 0 ≤ m.lastReadSeq)
    {conv : Conversation} (known : conv ∈ t.conversations.rows) (named : conv.id = m.conversationId) :
    (unreadIn t m : Int) = max 0 (conv.maxSeq - m.lastReadSeq) := by
  have bottom := inv.nonneg conv known
  rw [unreadIn_seqsOf, ← named, seqsOf_full inv full known, upTo_behind _ positive, Int.toNat_of_nonneg bottom]

/-! ### What a member is told -/

section Runs
variable {w : World} {arrivals : List Arrival}

/-- Without failures the messages of a conversation have the seqs 1, 2, and so on up to its last one, in the order in
    which they were stored. -/
theorem log_gapless (unchatted : NoChats w) (sound : Along (receive sqliteDaoFactory) Faultless w arrivals) :
    ∀ conv ∈ (after (receive sqliteDaoFactory) w arrivals).tables.conversations.rows,
      seqsOf conv.id (after (receive sqliteDaoFactory) w arrivals).tables = upTo conv.maxSeq.toNat := by
  have ungapped := ungapped_run unchatted sound
  intro conv known
  exact seqsOf_full ungapped.seqs ungapped.full known

/-- User 1 creates a group with the other two and writes twice, and user 2 reads the first message. -/
def chattering : List Arrival :=
  [{ input := .packet (.group (.createGroup 1 0 (some { name := [103], avatar := [], memberIds := [2, 3] }))) },
    { input := .packet (.msg (.sendMsg 1 0 (some { conversationId := 1, content := [104], clientMsgId := [] }))) },
    { input := .packet (.msg (.sendMsg 1 0 (some { conversationId := 1, content := [105], clientMsgId := [] }))) },
    { input := .packet (.msg (.readAck 2 0 (some { conversationId := 1, readUpToSeq := 1 }))) }]

theorem log_gapless_chattering :
    (after (receive sqliteDaoFactory) threeOnline chattering).tables.messages.rows.length = 2 ∧
      ∀ conv ∈ (after (receive sqliteDaoFactory) threeOnline chattering).tables.conversations.rows,
        seqsOf conv.id (after (receive sqliteDaoFactory) threeOnline chattering).tables = upTo conv.maxSeq.toNat :=
  ⟨by decide +kernel, log_gapless ⟨rfl, rfl, rfl, rfl⟩ ⟨rfl, rfl, rfl, rfl, trivial⟩⟩

/-- What the server makes of a membership: nothing is stored where the conversation is missing. -/
theorem membership_unread {t : Tables} (inv : SeqInv (· < ·) t) (full : Full t) {m : ConversationMember} (positive : 0 ≤ m.lastReadSeq) :
    ((t.conversations.rows.find? fun c => c.id = m.conversationId).elim 0 fun c => max 0 (c.maxSeq - m.lastReadSeq)) =
      (unreadIn t m : Int) := by
  cases found : t.conversations.rows.find? fun c => c.id = m.conversationId with
  | none =>
    have nothing : unreadIn t m = 0 := by
      rw [unreadIn, List.length_eq_zero_iff, List.filter_eq_nil_iff]
      intro msg there selected
      obtain ⟨conv, known, named, -⟩ := inv.within msg there
      simp only [Bool.and_eq_true, decide_eq_true_eq] at selected
      simpa [named, selected.1] using List.find?_eq_none.mp found conv known
    simp [nothing]
  | some conv =>
    have named : conv.id = m.conversationId := by simpa using List.find?_some found
    exact (unreadIn_counted inv full positive (List.mem_of_find?_eq_some found) named).symm

/-- A snapshot that counts what is stored behind the cursors of a user. -/
structure SnapshotExact (t : Tables) (userId : Int) (items : List UnreadItem) (totalUnread : Int) : Prop where
  counts : items.map UnreadItem.counted =
    ((t.members.rows.filter fun m => m.userId = userId).filter fun m => 0 < unreadIn t m).map fun m =>
      (m.conversationId, (unreadIn t m : Int))
  total : totalUnread = ((t.members.rows.filter fun m => m.userId = userId).map fun m => (unreadIn t m : Int)).sum

section Snapshot
variable {t : Tables} {found : ConversationMember → Option Conversation} {memberships : List ConversationMember}

/-- The sum over the memberships whose conversation is found. -/
theorem total_unread (each : ∀ m ∈ memberships, ((found m).elim 0 fun c => max 0 (c.maxSeq - m.lastReadSeq)) = (unreadIn t m : Int)) :
    ((memberships.filterMap fun m => (found m).map fun c => (m, c)).map fun (m, c) => max 0 (c.maxSeq - m.lastReadSeq)).sum =
      (memberships.map fun m => (unreadIn t m : Int)).sum := by
  induction memberships with
  | nil => rfl
  | cons m rest ih =>
    have own := each m List.mem_cons_self
    have others := ih fun m' there => each m' (List.mem_cons_of_mem _ there)
    rw [List.filterMap_cons, List.map_cons, List.sum_cons, ← others, ← own]
    cases found m <;> simp

/-- The memberships that are listed as unread. -/
theorem counts_unread (each : ∀ m ∈ memberships, ((found m).elim 0 fun c => max 0 (c.maxSeq - m.lastReadSeq)) = (unreadIn t m : Int)) :
    ((memberships.filterMap fun m => (found m).map fun c => (m, c)).filter fun (m, c) => 0 < c.maxSeq - m.lastReadSeq).map
        (fun (m, c) => (m.conversationId, max 0 (c.maxSeq - m.lastReadSeq))) =
      (memberships.filter fun m => 0 < unreadIn t m).map fun m => (m.conversationId, (unreadIn t m : Int)) := by
  induction memberships with
  | nil => rfl
  | cons m rest ih =>
    have own := each m List.mem_cons_self
    have others := ih fun m' there => each m' (List.mem_cons_of_mem _ there)
    rw [List.filterMap_cons, List.filter_cons]
    cases is : found m with
    | none =>
      rw [is] at own
      have nothing : unreadIn t m = 0 := by simpa using own.symm
      simpa [nothing] using others
    | some c =>
      rw [is] at own
      have same : max 0 (c.maxSeq - m.lastReadSeq) = (unreadIn t m : Int) := own
      by_cases behind : 0 < unreadIn t m
      · have ahead : 0 < c.maxSeq - m.lastReadSeq := by omega
        simp only [Option.map_some, List.filter_cons, ahead, behind, decide_true, if_true, List.map_cons, same, others]
      · have level : ¬0 < c.maxSeq - m.lastReadSeq := by omega
        simp only [Option.map_some, List.filter_cons, level, behind, decide_false, Bool.false_eq_true, if_false, others]

end Snapshot

/-- After a run without failures a user who asks for the snapshot is told of each conversation how many messages are stored
    behind the read cursor, where there are any, and how many there are in all, as long as the memberships and the
    conversations are read. Of a single conversation the three newest messages are shown if no query fails; for several the
    query for them is one that not every database takes. -/
theorem unread_exact (unchatted : NoChats w) (sound : Along (receive sqliteDaoFactory) Faultless w arrivals) {arrival : Arrival}
    {conn : ConnId} {seq : UInt32} (asks : arrival.input = .packet (.sync (.syncUnread conn seq)))
    (memberships : ¬StatementFails arrival.faults 0) (conversations : ¬StatementFails arrival.faults 1)
    (loggedIn : ((after (receive sqliteDaoFactory) w arrivals).mem.connections conn).userId ≠ 0) :
    ∃ items totalUnread, (received sqliteDaoFactory (after (receive sqliteDaoFactory) w arrivals) arrival).events =
        [unreadListed conn seq items totalUnread] ∧
      SnapshotExact (after (receive sqliteDaoFactory) w arrivals).tables
        ((after (receive sqliteDaoFactory) w arrivals).mem.connections conn).userId items totalUnread ∧
      (arrival.faults = [] → items.length ≤ 1 → SnapshotLatest (after (receive sqliteDaoFactory) w arrivals).tables items) := by
  obtain ⟨-, seqs, full, cursors⟩ := ungapped_run unchatted sound
  generalize after (receive sqliteDaoFactory) w arrivals = now at *
  have program : received sqliteDaoFactory now arrival =
      (SyncService.handleSyncUnread conn seq).run ((arrival.call now).enter now) := by
    show (serve sqliteDaoFactory arrival.input).run _ = _
    rw [asks]
    rfl
  have told := @unread_told ((arrival.call now).enter now) conn seq memberships conversations loggedIn
  rw [Prog.Ensures, ← program] at told
  obtain ⟨items, answer, counts⟩ := told
  have each : ∀ m ∈ now.tables.members.rows.filter fun m => m.userId = (now.mem.connections conn).userId,
      ((now.tables.conversations.rows.find? fun c => c.id = m.conversationId).elim 0 fun c => max 0 (c.maxSeq - m.lastReadSeq)) =
        (unreadIn now.tables m : Int) := fun m inside =>
    membership_unread seqs full (cursors m (List.mem_of_mem_filter inside))
  refine ⟨items, _, answer, ⟨counts.trans ?_, ?_⟩, fun smooth _ => ?_⟩
  · rw [unreadOf, listing, List.filter_true]
    exact counts_unread each
  · show (List.map _ (listing (now.mem.connections conn).userId _ now.tables)).sum = _
    rw [listing, List.filter_true]
    exact total_unread each
  · -- no query has failed, so the entries are those of the rows found
    have found := @unread_counted ((arrival.call now).enter now) conn seq smooth loggedIn
    rw [Prog.Ensures, ← program, answer] at found
    simp only [unreadListed, List.cons.injEq, Event.sent.injEq, Packet.mk.injEq, Body.syncUnreadResp.injEq,
      SyncUnreadResp.mk.injEq, true_and, and_true] at found
    rw [found]
    refine (snapshotLatest_iff seqs.distinct _).mpr fun m conv listed => ?_
    obtain ⟨known, -⟩ := of_unread listed
    intro s inside low place above within
    obtain ⟨stored, -⟩ := storedSeqs_within seqs.distinct known inside
    exact mem_storedSeqs.mpr (full conv known place (by omega) within)

/-- Then user 1 creates a second group and writes in it. -/
def crowding : List Arrival :=
  chattering ++
    [{ input := .packet (.group (.createGroup 1 0 (some { name := [110], avatar := [], memberIds := [2, 3] }))) },
      { input := .packet (.msg (.sendMsg 1 0 (some { conversationId := 2, content := [106], clientMsgId := [] }))) }]

/-- User 2 has one message left to read in each group, also where the query for the newest messages is not taken, and is
    shown the newest ones while there is one group. -/
theorem unread_exact_crowding :
    (∃ items, (received sqliteDaoFactory (after (receive sqliteDaoFactory) threeOnline crowding)
        { input := .packet (.sync (.syncUnread 2 7)), faults := [false, false, true] }).events = [unreadListed 2 7 items 2] ∧
      items.map UnreadItem.counted = [(1, 1), (2, 1)]) ∧
    ∃ items, (received sqliteDaoFactory (after (receive sqliteDaoFactory) threeOnline chattering)
        { input := .packet (.sync (.syncUnread 2 7)) }).events = [unreadListed 2 7 items 1] ∧
      SnapshotLatest (after (receive sqliteDaoFactory) threeOnline chattering).tables items := by
  constructor
  · obtain ⟨items, totalUnread, answer, ⟨counts, total⟩, -⟩ := @unread_exact threeOnline crowding ⟨rfl, rfl, rfl, rfl⟩
      ⟨rfl, rfl, rfl, rfl, rfl, rfl, trivial⟩ { input := .packet (.sync (.syncUnread 2 7)), faults := [false, false, true] } 2 7 rfl
      (by decide) (by decide) (by decide +kernel)
    have two : totalUnread = 2 := total.trans (by decide +kernel)
    exact ⟨items, two ▸ answer, counts.trans (by decide +kernel)⟩
  · obtain ⟨items, totalUnread, answer, ⟨counts, total⟩, latest⟩ := @unread_exact threeOnline chattering ⟨rfl, rfl, rfl, rfl⟩
      ⟨rfl, rfl, rfl, rfl, trivial⟩ { input := .packet (.sync (.syncUnread 2 7)) } 2 7 rfl (by decide) (by decide) (by decide +kernel)
    have one : totalUnread = 1 := total.trans (by decide +kernel)
    have counts : items.map UnreadItem.counted = [(1, 1)] := counts.trans (by decide +kernel)
    have single : items.length = 1 := by simpa using congrArg List.length counts
    exact ⟨items, one ▸ answer, latest rfl (Nat.le_of_eq single)⟩

end Runs

end NovaIIM
