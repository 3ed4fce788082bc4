import NovaIIM.Closed
import NovaIIM.GenuineWindow
import NovaIIM.HistoryPaging
import NovaIIM.Previews
import NovaIIM.ReadCursors

/-!
Opening a conversation and what stays unread.

The store asks for a read ack up to seq 0 when a conversation is opened, and shows it as
read. The server turns such an ack down. `open_reads` says what follows: the conversation is
read on the server afterwards exactly if it was read before.
-/
namespace NovaIIM.Desktop
open Store MsgService

/-! ### Cursors and last seqs under a send -/

/-- The read cursor of a member. -/
def Cursor (t : Tables) (conversationId userId read : Int) : Prop :=
  ∃ m ∈ t.members.rows, m.conversationId = conversationId ∧ m.userId = userId ∧ m.lastReadSeq = read

/-- The members have the cursors they had. -/
def SameCursors (t t' : Tables) : Prop :=
  ∀ conversationId userId read, Cursor t' conversationId userId read ↔ Cursor t conversationId userId read

theorem SameCursors.refl (t : Tables) : SameCursors t t := fun _ _ _ => Iff.rfl

theorem SameCursors.trans {a b c : Tables} (first : SameCursors a b) (second : SameCursors b c) : SameCursors a c :=
  fun conversationId userId read => (second conversationId userId read).trans (first conversationId userId read)

theorem sameCursors_elsewhere {t t' : Tables} (members : t'.members = t.members) : SameCursors t t' := by
  intro conversationId userId read
  rw [Cursor, members]
  rfl

theorem sameCursors_updated (t : Tables) (conversationId userId : Int) (selected : ConversationMember → Bool)
    {change : RowUpdate ConversationMember} (unread : KeepsRead change) :
    SameCursors t (t.updateMember conversationId userId selected change) := by
  have kept : ∀ m : ConversationMember, (change.apply m).conversationId = m.conversationId ∧
      (change.apply m).userId = m.userId ∧ (change.apply m).lastReadSeq = m.lastReadSeq :=
    fun m => ⟨(named_update change m).1, (named_update change m).2, unread m⟩
  intro conv user read
  constructor
  · rintro ⟨m, inside, named⟩
    obtain ⟨old, there, rfl⟩ := Table.mem_update.mp inside
    refine ⟨old, there, ?_⟩
    split at named
    · rwa [(kept old).1, (kept old).2.1, (kept old).2.2] at named
    · exact named
  · rintro ⟨m, there, named⟩
    refine ⟨_, Table.mem_update.mpr ⟨m, there, rfl⟩, ?_⟩
    split
    · rwa [(kept m).1, (kept m).2.1, (kept m).2.2]
    · exact named

section LastSeq
variable {t : Tables} {allocatedIn conversationId : Int}

theorem lastSeq_elsewhere {t' : Tables} (conversations : t'.conversations = t.conversations) :
    lastSeq t' conversationId = lastSeq t conversationId := by
  rw [lastSeq, conversations]
  rfl

/-- An increment moves the last seq of its own conversation only. -/
theorem lastSeq_incremented (other : allocatedIn ≠ conversationId ∨ ∀ conv ∈ t.conversations.rows, conv.id ≠ allocatedIn) :
    lastSeq (t.incrMaxSeq allocatedIn) conversationId = lastSeq t conversationId := by
  obtain ⟨conv, known, named, last⟩ | ⟨absent, last⟩ := lastSeq_cases t conversationId
  · have apart : conv.id ≠ allocatedIn := by
      obtain other | missing := other
      · exact fun same => other (same.symm.trans named)
      · exact missing conv known
    have there : conv ∈ (t.incrMaxSeq allocatedIn).conversations.rows := by
      refine Table.mem_update.mpr ⟨conv, known, ?_⟩
      rw [if_neg (by simpa using apart)]
    rw [last, ← named, lastSeq_row there]
  · obtain ⟨conv, known, named, -⟩ | ⟨-, last'⟩ := lastSeq_cases (t.incrMaxSeq allocatedIn) conversationId
    · obtain ⟨old, there, rfl⟩ := Table.mem_update.mp known
      refine absurd ?_ (absent old there)
      split at named
      · exact named
      · exact named
    · rw [last, last']

/-- The row that an increment leaves is above the last seq there was. -/
theorem lastSeq_allocated {conv : Conversation} (known : conv ∈ (t.incrMaxSeq allocatedIn).conversations.rows)
    (named : conv.id = allocatedIn) : lastSeq t allocatedIn < conv.maxSeq := by
  obtain ⟨old, there, here, up⟩ := incremented_row known named
  rw [← here, lastSeq_row there]
  omega

end LastSeq

/-! ### A send without failures -/

/-- What a send does to a conversation: its last seq stays, or a message above it is stored. -/
structure Sends (conversationId : Int) (t t' : Tables) : Prop where
  cursors : SameCursors t t'
  stores : lastSeq t' conversationId = lastSeq t conversationId ∨
    ∃ m, Stored conversationId t' m ∧ lastSeq t conversationId < m.seq

/-- What holds on the way through a send that began in `w`, if nothing fails. -/
private def Soundly (conversationId : Int) (w : World) {call : SendCall} (phase : Phase call) (w' : World) : Prop :=
  match phase with
  | .entered | .identified _ | .looking _ _ | .checking _ | .allocating _ =>
    w'.faults = [] ∧ w'.saved = none ∧ w'.tables = w.tables
  | .timing s serverSeq | .inserting s serverSeq _ =>
    w'.faults = [] ∧ SameCursors w.tables w'.tables ∧
      (s.req.conversationId ≠ conversationId → lastSeq w'.tables conversationId = lastSeq w.tables conversationId) ∧
        (s.req.conversationId = conversationId → lastSeq w.tables conversationId < serverSeq)
  | .filling .. | .answering .. | .delivering .. | .quitting .. | .refusing .. | .returned =>
    Sends conversationId w.tables w'.tables

variable {conversationId : Int} {w w' w'' : World} {call : SendCall}

private theorem soundly_quit {s : Sending call} {e : Error} {bad : e.code ≠ 0}
    (sends : Sends conversationId w.tables w'.tables) : Soundly conversationId w (.quit s e bad) w' := by
  unfold Phase.quit
  split <;> exact sends

private theorem soundly_stored {s : Sending call} {serverSeq epochMs : Int}
    (sends : Sends conversationId w.tables w'.tables) : Soundly conversationId w (.stored s serverSeq epochMs) w' := by
  unfold Phase.stored
  split <;> exact sends

/-- An allocation that has not been completed leaves no trace. -/
private theorem soundly_unallocated {s : Sending call} (inv : SeqInv (· ≠ ·) w.tables)
    (now : w'.faults = [] ∧ w'.saved = none ∧ w'.tables = w.tables)
    (tables : w''.tables = w'.tables ∨ w''.tables = w'.tables.incrMaxSeq s.req.conversationId)
    (stuck : ¬Allocatable s.req.conversationId w' ∨ ∃ conv ∈ (w'.tables.incrMaxSeq s.req.conversationId).conversations.rows,
      conv.id = s.req.conversationId ∧ conv.maxSeq < 0) : Sends conversationId w.tables w''.tables := by
  obtain ⟨sound, closed, same⟩ := now
  rw [same] at tables stuck
  obtain unchanged | incremented := tables
  · exact ⟨sameCursors_elsewhere (by rw [unchanged]), .inl (lastSeq_elsewhere (by rw [unchanged]))⟩
  have missing : ∀ conv ∈ w.tables.conversations.rows, conv.id ≠ s.req.conversationId := by
    obtain unable | ⟨conv, known, named, negative⟩ := stuck
    · intro conv known named
      exact unable ⟨closed, by simp [sound, Clear], conv, same ▸ known, named⟩
    · obtain ⟨old, there, -, up⟩ := incremented_row known named
      have := inv.nonneg old there
      omega
  exact ⟨sameCursors_elsewhere (by rw [incremented]; rfl), .inl (by rw [incremented]; exact lastSeq_incremented (.inr missing))⟩

private theorem step_soundly (inv : SeqInv (· ≠ ·) w.tables) {phase next : Phase call} {events : List Event}
    (now : Soundly conversationId w phase w') (step : SendStep w' phase next w'' events) :
    Soundly conversationId w next w'' := by
  have untouched : w'.tables = w.tables → Sends conversationId w.tables w'.tables := by
    intro same
    rw [same]
    exact ⟨.refl _, .inl rfl⟩
  cases step with
  | anonymous | malformed | invalid | replay | busy => exact untouched now.2.2
  | identify | unkeyed | keyed => exact now
  | take => exact now
  | outsider s => exact soundly_quit (untouched now.2.2)
  | insider s => exact ⟨spend_sound now.1, now.2.1, now.2.2⟩
  | unallocated s _ mem tables stuck => exact soundly_quit (soundly_unallocated inv now tables stuck)
  | allocated s conv _ mem tables faults able known named =>
    obtain ⟨sound, -, same⟩ := now
    rw [same] at tables
    rw [tables] at known
    refine ⟨by rw [faults, sound]; rfl, ?_, fun other => ?_, fun own => ?_⟩
    · rw [tables]
      exact sameCursors_elsewhere rfl
    · rw [tables]
      exact lastSeq_incremented (.inl other)
    · rw [← own]
      exact lastSeq_allocated known named
  | time => exact now
  | lost s serverSeq epochMs fault =>
    rw [fails_sound now.1] at fault
    cases fault
  | insert s serverSeq epochMs =>
    obtain ⟨-, cursors, other, own⟩ := now
    refine soundly_stored ⟨cursors.trans (sameCursors_elsewhere rfl), ?_⟩
    by_cases here : s.req.conversationId = conversationId
    · refine .inr ⟨w'.tables.messages.fresh (messageOf s.userId s.req serverSeq epochMs), ⟨?_, here⟩, own here⟩
      exact Table.mem_insert.mpr (.inr ⟨by simp [Table.taken, Row.clash], rfl⟩)
    · exact .inl (other here)
  | fill | answer | release | refuse => exact now
  | deliver d d' _ _ saved mem tables =>
    obtain ⟨cursors, stores⟩ : Sends conversationId w.tables w'.tables := now
    obtain same | ⟨conv, userId, selected, change, -, unread, written⟩ := tables
    · show Sends conversationId w.tables w''.tables
      rw [same]
      exact ⟨cursors, stores⟩
    · show Sends conversationId w.tables w''.tables
      rw [written]
      exact ⟨cursors.trans (sameCursors_updated _ _ _ _ unread), stores⟩

theorem sound_sends (conversationId : Int) (call : SendCall) {w : World} (inv : SeqInv (· ≠ ·) w.tables)
    (sound : w.faults = []) (closed : w.saved = none) :
    Sends conversationId w.tables (call.program.run w).state.tables := by
  obtain ⟨phase, finished, now⟩ := @send_invariant call (fun phase w' _ => Soundly conversationId w phase w')
    (fun _ _ _ _ _ _ now step => step_soundly inv now step) w ⟨sound, closed, rfl⟩
  obtain rfl | ⟨d, rfl⟩ := finished_cases finished
  · exact now
  · exact now

/-! ### What the user is told -/

/-- The user has read the conversation to its last seq. -/
def UpToDate (conversationId userId : Int) (t : Tables) : Prop :=
  ∀ read, Cursor t conversationId userId read → lastSeq t conversationId ≤ read

/-- The server tells the user that nothing is unread in the conversation. -/
structure ShownRead (conversationId userId : Int) (w : World) : Prop where
  listed : ∀ (around : Surroundings) (conn : ConnId) (seq : UInt32), around.faults = [] →
    (around.connections conn).userId = userId → ∀ items, convListed conn seq items ∈
      (served handle w ⟨around, .conv (.getConvList conn seq)⟩).events →
    ∀ item ∈ items, item.conversationId = conversationId → item.unreadCount = 0
  unread : ∀ (around : Surroundings) (conn : ConnId) (seq : UInt32), around.faults = [] →
    (around.connections conn).userId = userId → ∀ items totalUnread, unreadListed conn seq items totalUnread ∈
      (served SyncService.handle w ⟨around, .syncUnread conn seq⟩).events →
    ∀ item ∈ items, item.conversationId ≠ conversationId

section Told
variable {conversationId userId : Int} {counts : ConversationMember → Bool} {t : Tables} {m : ConversationMember}
  {conv : Conversation}

/-- A membership in a list is a cursor, next to the last seq of its conversation. -/
private theorem cursor_of_listing (inside : (m, conv) ∈ listing userId counts t) :
    Cursor t conv.id userId m.lastReadSeq ∧ lastSeq t conv.id = conv.maxSeq := by
  obtain ⟨known, named⟩ := of_listing inside
  obtain ⟨m', member, found⟩ := List.mem_filterMap.mp inside
  obtain ⟨conv', -, same⟩ := Option.map_eq_some_iff.mp found
  obtain ⟨rfl, rfl⟩ := Prod.mk.inj same
  obtain ⟨there, mine⟩ := List.mem_filter.mp (List.mem_of_mem_filter member)
  exact ⟨⟨m', there, named.symm, decide_eq_true_eq.mp mine, rfl⟩, lastSeq_row known⟩

private theorem listing_of_cursor {read : Int} (cursor : Cursor t conversationId userId read)
    (known : ∃ conv ∈ t.conversations.rows, conv.id = conversationId) :
    ∃ m conv, (m, conv) ∈ listing userId (fun _ => true) t ∧ m.conversationId = conversationId ∧ m.lastReadSeq = read ∧
      conv.maxSeq = lastSeq t conversationId := by
  obtain ⟨m, there, rfl, mine, rfl⟩ := cursor
  obtain ⟨conv, inside, named⟩ := known
  cases found : t.conversations.rows.find? fun c => c.id = m.conversationId with
  | none => simpa [named] using List.find?_eq_none.mp found conv inside
  | some conv' =>
    refine ⟨m, conv', List.mem_filterMap.mpr ⟨m, ?_, by rw [found]; rfl⟩, rfl, rfl, by rw [lastSeq, found]; rfl⟩
    simp [there, mine]

end Told

private theorem convListed_inj {conn : ConnId} {seq : UInt32} {items items' : List ConvItem} :
    convListed conn seq items = convListed conn seq items' ↔ items = items' := by
  simp [convListed]

private theorem unreadListed_inj {conn : ConnId} {seq : UInt32} {items items' : List UnreadItem} {total total' : Int} :
    unreadListed conn seq items total = unreadListed conn seq items' total' ↔ items = items' ∧ total = total' := by
  simp [unreadListed]

theorem shownRead_iff {conversationId userId : Int} {w : World} (user : userId ≠ 0)
    (known : ∃ conv ∈ w.tables.conversations.rows, conv.id = conversationId) :
    ShownRead conversationId userId w ↔ UpToDate conversationId userId w.tables := by
  constructor
  · intro told read cursor
    by_contra behind
    let around : Surroundings := { connections := fun _ => { userId := userId } }
    obtain ⟨m, conv, inside, here, at_, top⟩ := listing_of_cursor cursor known
    obtain ⟨totalUnread, events⟩ := @unread_served (around.enter w) 0 0 rfl user
    refine told.unread around 0 0 rfl rfl _ totalUnread (by rw [served, SyncService.handle, events]; exact List.mem_cons_self)
      _ (List.mem_map_of_mem (a := (m, conv)) ?_) here
    refine List.mem_filter.mpr ⟨inside, ?_⟩
    simp only [decide_eq_true_eq]
    omega
  · intro upToDate
    refine ⟨fun around conn seq sound mine items sent item inside named => ?_,
      fun around conn seq sound mine items totalUnread sent item inside named => ?_⟩
    · obtain ⟨others, users, events, -⟩ := @convList_served (around.enter w) conn seq sound (by simpa [mine] using user)
      rw [served, handle, ConvService.handle, events, List.mem_singleton, convListed_inj] at sent
      subst sent
      obtain ⟨⟨m, conv⟩, shown, rfl⟩ := List.mem_map.mp inside
      obtain ⟨cursor, top⟩ := cursor_of_listing shown
      have named : conv.id = conversationId := named
      rw [Surroundings.enter_connections, mine, named] at cursor
      have read := upToDate _ cursor
      rw [named] at top
      have top : lastSeq w.tables conversationId = conv.maxSeq := top
      show max 0 (conv.maxSeq - m.lastReadSeq) = 0
      omega
    · obtain ⟨totalUnread', events⟩ := @unread_served (around.enter w) conn seq sound (by simpa [mine] using user)
      rw [served, SyncService.handle, events, List.mem_singleton, unreadListed_inj] at sent
      obtain ⟨rfl, -⟩ := sent
      obtain ⟨⟨m, conv⟩, shown, rfl⟩ := List.mem_map.mp inside
      obtain ⟨listed, more⟩ := List.mem_filter.mp shown
      obtain ⟨cursor, top⟩ := cursor_of_listing listed
      have named : conv.id = conversationId := (of_listing listed).2.trans named
      rw [Surroundings.enter_connections, mine, named] at cursor
      have read := upToDate _ cursor
      rw [named] at top
      have top : lastSeq w.tables conversationId = conv.maxSeq := top
      simp only [decide_eq_true_eq] at more
      omega

/-! ### Runs of the desk -/

/-- What desks ask of the services: texts, and the read acks of openings. -/
inductive FromDesk : Request → Prop where
  | text (send : SendCall) : FromDesk send.request
  | opening (conn : ConnId) (seq : UInt32) (conversationId : Int) :
      FromDesk (.msg (.readAck conn seq (some { conversationId := conversationId, readUpToSeq := 0 })))

/-- A step of a run without failures, in which the other users are at desks as well. -/
def Untroubled : DeskMove → Prop
  | .serve _ around _ => around.faults = []
  | .meanwhile call => call.faults = [] ∧ FromDesk call.request
  | _ => True

/-- What every run of the desk keeps: the seqs of the messages, no open transaction, and read acks
    up to seq 0 only. -/
structure Orderly (d : Desk) : Prop where
  seqs : SeqInv (· ≠ ·) d.world.tables
  closed : d.world.saved = none
  reads : ∀ conversationId readUpToSeq, Asked.read conversationId readUpToSeq ∈ d.asked → readUpToSeq = 0

/-- What a request of a desk does to a conversation. -/
structure Advances (conversationId : Int) (w w' : World) : Prop extends Sends conversationId w.tables w'.tables where
  seqs : SeqInv (· ≠ ·) w'.tables
  closed : w'.saved = none
  grows : Grows w.tables w'.tables

theorem Advances.refl {w : World} (seqs : SeqInv (· ≠ ·) w.tables) (closed : w.saved = none) (conversationId : Int) :
    Advances conversationId w w := ⟨⟨.refl _, .inl rfl⟩, seqs, closed, .refl _⟩

theorem Advances.trans {conversationId : Int} {a b c : World} (first : Advances conversationId a b)
    (second : Advances conversationId b c) : Advances conversationId a c := by
  refine ⟨⟨first.cursors.trans second.cursors, ?_⟩, second.seqs, second.closed, first.grows.trans second.grows⟩
  obtain same | ⟨m, ⟨inside, here⟩, above⟩ := second.stores
  · obtain same' | ⟨m, ⟨inside, here⟩, above⟩ := first.stores
    · exact .inl (same.trans same')
    · obtain ⟨m', inside', restatus⟩ := second.grows.stays m inside
      rw [Restatus] at restatus
      exact .inr ⟨m', ⟨inside', by rw [restatus]; exact here⟩, by rw [restatus]; exact above⟩
  · exact .inr ⟨m, ⟨inside, here⟩, (lastSeq_grows first.grows first.seqs conversationId).trans_lt above⟩

/-- Requests that change nothing. -/
theorem advances_same {conversationId : Int} {w w' : World} (seqs : SeqInv (· ≠ ·) w.tables) (closed : w.saved = none)
    (tables : w'.tables = w.tables) (saved : w'.saved = w.saved) : Advances conversationId w w' := by
  refine ⟨⟨?_, .inl ?_⟩, ?_, saved.trans closed, ?_⟩
  · rw [tables]
    exact .refl _
  · rw [tables]
  · rw [tables]
    exact seqs
  · rw [tables]
    exact .refl _

theorem advances_request {call : Call Request} (conversationId : Int) {w : World} (seqs : SeqInv (· ≠ ·) w.tables)
    (closed : w.saved = none) (sound : call.faults = []) (request : FromDesk call.request) :
    Advances conversationId w (perform handle w call) := by
  obtain ⟨around, request⟩ := call
  cases request with
  | opening conn seq conv =>
    rw [readAck_zero]
    exact advances_same seqs closed rfl rfl
  | text send =>
    obtain ⟨seqs', grows⟩ := perform_keeps (fun _ _ => ne_of_lt) w ⟨around, send.request⟩ seqs
    have sends := @sound_sends conversationId send (around.enter w) seqs sound closed
    have saved := (outside_handleSendMsg send.conn send.seq send.body (around.enter w) sound).1
    exact ⟨sends, seqs', saved.trans closed, grows⟩

/-- One step of such a run. -/
theorem orderly_step {conn : ConnId} {d : Desk} (orderly : Orderly d) {move : DeskMove} (untroubled : Untroubled move)
    (conversationId : Int) :
    Orderly (d.step conn move) ∧ Advances conversationId d.world (d.step conn move).world := by
  obtain ⟨seqs, closed, reads⟩ := orderly
  have still := Advances.refl seqs closed conversationId
  -- where the world goes on and no read ack but those of openings is added
  have keeps : ∀ d' : Desk, Advances conversationId d.world d'.world →
      (∀ conv read, Asked.read conv read ∈ d'.asked → Asked.read conv read ∈ d.asked ∨ read = 0) →
        Orderly d' ∧ Advances conversationId d.world d'.world := by
    intro d' advances added
    refine ⟨⟨advances.seqs, advances.closed, fun conv read inside => ?_⟩, advances⟩
    exact (added conv read inside).elim (reads conv read) id
  cases move with
  | select conv =>
    refine keeps _ still fun conv' read inside => ?_
    simp only [Desk.step, Desk.operate, ChatStore.selectConversation, askedOf, List.map_cons, List.map_nil,
      List.mem_append, List.mem_cons, Asked.read.injEq, reduceCtorEq, List.not_mem_nil, or_false, false_or] at inside
    exact inside.imp_right And.right
  | loadMore =>
    refine keeps _ still fun conv' read inside => .inl ?_
    simp only [Desk.step, Desk.operate, ChatStore.loadMoreHistory] at inside
    split at inside
    · simpa using inside
    · split at inside <;> simpa [askedOf] using inside
  | send content msgType now =>
    refine keeps _ still fun conv' read inside => .inl ?_
    simp only [Desk.step, Desk.operate, ChatStore.sendMessage] at inside
    split at inside <;> simpa [askedOf] using inside
  | deliver i =>
    simp only [Desk.step]
    split
    · exact keeps _ still fun _ _ => .inl
    · rename_i answer _
      cases answer <;> exact keeps _ still fun _ _ => .inl
  | push conv serverSeq senderUid serverTime =>
    simp only [Desk.step]
    split <;> exact keeps _ still fun _ _ => .inl
  | meanwhile call => exact keeps _ (advances_request conversationId seqs closed untroubled.1 untroubled.2) fun _ _ => .inl
  | serve i around clientMsgId =>
    simp only [Desk.step]
    split
    · exact keeps _ still fun _ _ => .inl
    · rename_i request here
      have fewer : ∀ conv read, Asked.read conv read ∈ d.asked.eraseIdx i → Asked.read conv read ∈ d.asked ∨ read = 0 :=
        fun _ _ inside => .inl (List.mem_of_mem_eraseIdx inside)
      cases request with
      | page conv lastSeq limit =>
        have same := SyncService.silent_handleSyncMsg conn 0
          (some { conversationId := conv, lastSeq := lastSeq, limit := limit }) (around.enter d.world)
        exact keeps _ (advances_same seqs closed same.tables same.saved) fewer
      | read conv readUpToSeq =>
        obtain rfl := reads conv readUpToSeq (List.mem_of_getElem? here)
        exact keeps _ (advances_request conversationId seqs closed untroubled (.opening conn 0 conv)) fewer
      | text conv content localId =>
        exact keeps _ (@advances_request ⟨around, _⟩ conversationId d.world seqs closed untroubled
          (.text ⟨conn, 0, some (textReq conv content clientMsgId)⟩)) fewer

theorem orderly_run {conn : ConnId} {d : Desk} (orderly : Orderly d) {moves : List DeskMove}
    (untroubled : ∀ move ∈ moves, Untroubled move) (conversationId : Int) :
    Orderly (after (Desk.step conn) d moves) ∧ Advances conversationId d.world (after (Desk.step conn) d moves).world := by
  induction moves generalizing d with
  | nil => exact ⟨orderly, .refl orderly.seqs orderly.closed _⟩
  | cons move rest ih =>
    obtain ⟨next, first⟩ := @orderly_step conn d orderly move (untroubled move List.mem_cons_self) conversationId
    obtain ⟨last, second⟩ := ih next fun later inside => untroubled later (List.mem_cons_of_mem _ inside)
    exact ⟨last, first.trans second⟩

/-- No message has been stored in the conversation that was not there before. -/
def NoneSince (conversationId : Int) (t t' : Tables) : Prop :=
  ∀ m, Stored conversationId t' m → Stored conversationId t m

/-- As long as no message comes into a conversation, it stays as read as it is. -/
theorem upToDate_advances {conversationId userId : Int} {w w' : World} (seqs : SeqInv (· ≠ ·) w.tables)
    (advances : Advances conversationId w w') (none : NoneSince conversationId w.tables w'.tables) :
    UpToDate conversationId userId w'.tables ↔ UpToDate conversationId userId w.tables := by
  have last : lastSeq w'.tables conversationId = lastSeq w.tables conversationId := by
    obtain same | ⟨m, stored, above⟩ := advances.stores
    · exact same
    · obtain ⟨inside, rfl⟩ := none m stored
      obtain ⟨conv, known, named, -, high⟩ := seqs.within m inside
      rw [← named, lastSeq_row known] at above
      omega
  refine forall_congr' fun read => ?_
  rw [advances.cursors, last]

/-- In every run without failures, once a conversation has been opened and no message has been
    stored in it since, the server shows it as read exactly if it had been read to its last seq
    when it was opened. -/
theorem open_reads (conn : ConnId) (d : Desk) (seqs : SeqInv (· ≠ ·) d.world.tables) (closed : d.world.saved = none)
    (idle : d.asked = []) (before later : List DeskMove) (conversationId userId : Int)
    (untroubled : ∀ move ∈ before ++ later, Untroubled move) (user : userId ≠ 0) :
    let opened := after (Desk.step conn) d (before ++ [.select conversationId])
    let now := after (Desk.step conn) opened later
    (∃ conv ∈ opened.world.tables.conversations.rows, conv.id = conversationId) →
    NoneSince conversationId opened.world.tables now.world.tables →
      (ShownRead conversationId userId now.world ↔ UpToDate conversationId userId opened.world.tables) := by
  intro opened now known none
  have start : Orderly d := ⟨seqs, closed, by simp [idle]⟩
  have upTo : ∀ move ∈ before ++ [.select conversationId], Untroubled move := by
    intro move inside
    obtain first | new := List.mem_append.mp inside
    · exact untroubled move (List.mem_append_left _ first)
    · rw [List.mem_singleton.mp new]
      trivial
  obtain ⟨orderly, -⟩ := @orderly_run conn d start _ upTo conversationId
  obtain ⟨-, advances⟩ := @orderly_run conn opened orderly later
    (fun move inside => untroubled move (List.mem_append_right _ inside)) conversationId
  have still : ∃ conv ∈ now.world.tables.conversations.rows, conv.id = conversationId := by
    obtain ⟨conv, inside, named⟩ := known
    obtain ⟨conv', inside', same, -⟩ := advances.grows.conversations conv inside
    exact ⟨conv', inside', same.trans named⟩
  rw [shownRead_iff user still]
  exact upToDate_advances orderly.seqs advances none

/-- User 2 writes to user 1. -/
def greeting : DeskMove := .meanwhile (keyedSend 2 [97] [7])

/-- The two requests of an opening are taken up. -/
def answering : List DeskMove := [.serve 0 bothOnline [], .serve 0 bothOnline []]

private theorem greeted_untroubled : ∀ move ∈ [greeting] ++ answering, Untroubled move := by
  intro move inside
  simp only [answering, List.singleton_append, List.mem_cons, List.not_mem_nil, or_false] at inside
  obtain rfl | rfl | rfl := inside
  · exact ⟨rfl, .text ⟨2, 0, some { conversationId := 1, content := [97], clientMsgId := [7] }⟩⟩
  · rfl
  · rfl

/-- User 1 opens the conversation, both requests are served, and the message is still unread. -/
theorem open_unread :
    ¬∀ (conn : ConnId) (d : Desk), SeqInv (· ≠ ·) d.world.tables → d.world.saved = none → d.asked = [] →
      ∀ (before later : List DeskMove) (conversationId userId : Int),
      (∀ move ∈ before ++ later, Untroubled move) → userId ≠ 0 →
      let opened := after (Desk.step conn) d (before ++ [.select conversationId])
      let now := after (Desk.step conn) opened later
      IsMember conversationId userId opened.world.tables → now.asked = [] →
      NoneSince conversationId opened.world.tables now.world.tables → ShownRead conversationId userId now.world := by
  intro claim
  have told := claim 1 deskOfFriends friends_seqs rfl rfl [greeting] answering 1 1 greeted_untroubled (by decide)
    (by unfold IsMember; decide) rfl fun _ => id
  rw [shownRead_iff (by decide) (by decide)] at told
  have read := told 0 (by unfold Cursor; decide)
  exact absurd read (by decide)

/-- User 2 has written to user 1, who has read the message. -/
private def chatRead : List (Call Request) :=
  befriending ++ [keyedSend 2 [97] [7], fromUser (.msg (.readAck 1 0 (some { conversationId := 1, readUpToSeq := 1 })))]

private def deskRead : Desk := { world := after (perform handle) twoUsers chatRead, store := { currentUid := [1] } }

/-- What had been read is still read after the opening. -/
theorem open_reads_read :
    deskRead.world.tables.messages.rows.length = 1 ∧
      ShownRead 1 1 (after (Desk.step 1) (after (Desk.step 1) deskRead [.select 1]) answering).world := by
  have initially : SeqInv (· ≠ ·) twoUsers.tables :=
    ⟨fun _ inside => absurd inside List.not_mem_nil, .nil, fun _ inside => absurd inside List.not_mem_nil⟩
  have seqs : SeqInv (· ≠ ·) deskRead.world.tables := (keeps_run (fun _ _ => ne_of_lt) initially chatRead).1
  refine ⟨by decide, (open_reads 1 deskRead seqs rfl rfl [] answering 1 1
    (fun move inside => greeted_untroubled move (List.mem_cons_of_mem _ inside)) (by decide) (by decide) fun _ => id).mpr ?_⟩
  rintro read ⟨m, inside, here, own, rfl⟩
  have mine : ∀ m ∈ deskRead.world.tables.members.rows, m.conversationId = 1 → m.userId = 1 →
      lastSeq deskRead.world.tables 1 ≤ m.lastReadSeq := by
    decide
  exact mine m inside here own

end NovaIIM.Desktop
