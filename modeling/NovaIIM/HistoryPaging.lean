import NovaIIM.Desk
import NovaIIM.SyncPaging

/-!
Paging back through the history of a conversation.

The store asks for the page behind the seq before its oldest message, and the server
answers with the first messages behind a seq. A conversation with fewer messages than a
page is shown whole. In every other one the first page is all that ever comes, again and
again (`history_complete`).
-/
namespace NovaIIM.Desktop
open Store SyncService

/-- The user is logged in on the connection, and no statement fails. -/
structure Attends (conn : ConnId) (userId : Int) (around : Surroundings) : Prop where
  user : (around.connections conn).userId = userId
  sound : around.faults = []

/-- The conversation is opened, and what the store asks for is answered. -/
def opening (conversationId : Int) (around reading : Surroundings) : List DeskMove :=
  [.select conversationId, .serve 0 around [], .deliver 0, .serve 0 reading []]

/-- One call of `loadMoreHistory`, with its answer. -/
def loading (around : Surroundings) : List DeskMove := [.loadMore, .serve 0 around [], .deliver 0]

/-- The desk after so many calls of `loadMoreHistory`. -/
def loaded (conn : ConnId) (d : Desk) (conversationId : Int) (reading : Surroundings) (around : Nat → Surroundings) :
    Nat → Desk
  | 0 => after (Desk.step conn) d (opening conversationId (around 0) reading)
  | n + 1 => after (Desk.step conn) (loaded conn d conversationId reading around n) (loading (around (n + 1)))

/-- The entry shows the message. -/
def Shows (e : ChatMessage) (m : Message) : Prop :=
  e.serverSeq = m.seq ∧ e.content = m.content ∧ e.msgType = m.msgType ∧ e.status = statusCode m.status

/-- The history has been loaded: the window shows each stored message once, in ascending order. -/
structure Complete (conversationId : Int) (d : Desk) : Prop where
  ended : d.store.hasMore = false
  ascending : d.store.messages.Pairwise fun a b => a.serverSeq < b.serverSeq
  all : ∀ m, Stored conversationId d.world.tables m → ∃ e ∈ d.store.messages, Shows e m
  only : ∀ e ∈ d.store.messages, ∃ m, Stored conversationId d.world.tables m ∧ Shows e m

/-- The messages of a conversation. -/
def historyOf (conversationId : Int) (t : Tables) : List Message :=
  t.messages.rows.filter fun m => m.conversationId = conversationId

theorem mem_historyOf {conversationId : Int} {t : Tables} {m : Message} :
    m ∈ historyOf conversationId t ↔ Stored conversationId t m := by
  simp [historyOf, Stored]

/-! ### The first page -/

section FirstPage
variable {conversationId start : Int} {t : Tables}

/-- Behind a seq that is below all messages. -/
theorem afterSeq_below (below : ∀ m, Stored conversationId t m → start < m.seq) (limit : Nat) :
    MessageDao.afterSeq conversationId start limit t =
      ((historyOf conversationId t).insertionSort fun a b => a.seq ≤ b.seq).take limit := by
  unfold MessageDao.afterSeq historyOf
  congr 2
  refine List.filter_congr fun m inside => ?_
  by_cases here : m.conversationId = conversationId
  · simp [here, below m ⟨inside, here⟩]
  · simp [here]

theorem afterSeq_below_length (below : ∀ m, Stored conversationId t m → start < m.seq) (limit : Nat) :
    (MessageDao.afterSeq conversationId start limit t).length = min limit (historyOf conversationId t).length := by
  rw [afterSeq_below below, List.length_take, List.length_insertionSort]

/-- A page that holds the whole conversation. -/
theorem mem_afterSeq_whole (below : ∀ m, Stored conversationId t m → start < m.seq) {limit : Nat}
    (short : (historyOf conversationId t).length ≤ limit) {m : Message} :
    m ∈ MessageDao.afterSeq conversationId start limit t ↔ Stored conversationId t m := by
  rw [afterSeq_below below, List.take_of_length_le (by rwa [List.length_insertionSort]), List.mem_insertionSort, mem_historyOf]

/-- The first message of the page is the oldest. -/
theorem afterSeq_below_oldest (below : ∀ m, Stored conversationId t m → start < m.seq) {limit : Nat} {first : Message}
    {rest : List Message} (page : MessageDao.afterSeq conversationId start limit t = first :: rest) :
    ∀ m, Stored conversationId t m → first.seq ≤ m.seq := by
  rw [afterSeq_below below] at page
  have sorted := List.pairwise_insertionSort (fun a b : Message => a.seq ≤ b.seq) (historyOf conversationId t)
  intro m stored
  have inside := (List.mem_insertionSort (fun a b : Message => a.seq ≤ b.seq)).mpr (mem_historyOf.mpr stored)
  generalize (historyOf conversationId t).insertionSort (fun a b => a.seq ≤ b.seq) = l at page sorted inside
  cases l with
  | nil => exact absurd inside List.not_mem_nil
  | cons a more =>
    cases limit with
    | zero => cases page
    | succ limit =>
      obtain ⟨rfl, -⟩ := List.cons.inj page
      obtain rfl | later := List.mem_cons.mp inside
      · exact le_rfl
      · exact List.rel_of_pairwise_cons sorted later

end FirstPage

/-! ### One answer -/

/-- The member of a conversation at the desk. -/
structure Attended (userId conversationId : Int) (d : Desk) : Prop where
  user : userId ≠ 0
  member : IsMember conversationId userId d.world.tables
  known : ∃ conv ∈ d.world.tables.conversations.rows, conv.id = conversationId
  syncMax : 30 ≤ d.world.mem.config.syncMax

section Answers
variable {conn : ConnId} {userId conversationId : Int} {d : Desk} {around : Surroundings}

theorem Attended.congr {d' : Desk} (attended : Attended userId conversationId d)
    (tables : d'.world.tables = d.world.tables) (config : d'.world.mem.config = d.world.mem.config) :
    Attended userId conversationId d' :=
  ⟨attended.user, tables ▸ attended.member, tables ▸ attended.known, config ▸ attended.syncMax⟩

theorem Attended.named (attended : Attended userId conversationId d) : 0 < conversationId := by
  obtain ⟨conv, inside, rfl⟩ := attended.known
  have := (d.world.tables.conversations.bounded conv inside).1
  show 0 < (conv.id : Int)
  exact this

theorem pageLimit_thirty {syncDefault syncMax : Int} (max_ : 30 ≤ syncMax) : pageLimit syncDefault syncMax 30 = 30 := by
  simp [pageLimit, max_]

/-- A page as the store gets it. -/
def pageResult (messages : List Message) (users : List User) : ChatStore.SyncMessagesResult :=
  { success := true, messages := messages.map (syncItem users), hasMore := 30 ≤ messages.length }

theorem syncResult_pageOf (messages : List Message) (users : List User) :
    syncResult (pageOf 30 messages users) = pageResult messages users := by
  have more : ((30 : Int) ≤ messages.length) = (30 ≤ messages.length) := by
    apply propext
    omega
  simp only [syncResult, pageOf, pageResult, more]
  rfl

/-- The answer to a page request reaches the store. -/
theorem page_delivered (attended : Attended userId conversationId d) (attends : Attends conn userId around)
    {lastSeq : Int} {rest : List Asked} (first : d.asked = .page conversationId lastSeq 30 :: rest) (idle : d.answered = []) :
    ∃ w users, w.tables = d.world.tables ∧ w.mem.config = d.world.mem.config ∧
      after (Desk.step conn) d [.serve 0 around [], .deliver 0] =
        { d with
          world := w
          asked := rest
          store := d.store.syncMessagesResult
            (pageResult (MessageDao.afterSeq conversationId lastSeq 30 d.world.tables) users) } := by
  have limit := @pageLimit_thirty d.world.mem.config.syncDefault _ attended.syncMax
  obtain ⟨tables, mem, users, events⟩ := @page_served (around.enter d.world) conn 0
    { conversationId := conversationId, lastSeq := lastSeq, limit := 30 } (by simp [attends.user, attended.user])
    attended.named (by simpa [attends.user] using attended.member) (by simp [attends.sound, Clear])
    (by simp [limit])
  refine ⟨_, users, tables, by rw [mem]; rfl, ?_⟩
  simp only [limit, Surroundings.enter_tables, Surroundings.enter_config] at events
  simp only [after_cons, after_nil, Desk.step, first, List.getElem?_cons_zero, List.eraseIdx_cons_zero, Desk.serve, served,
    SyncService.handle, events, idle, answered, List.filterMap_cons, pageSent, and_self, if_true, List.filterMap_nil,
    List.map_cons, List.map_nil, List.nil_append, Desk.deliver, syncResult_pageOf]
  rfl

/-- A read ack up to seq 0 is turned down. -/
theorem readAck_zero (w : World) (around : Surroundings) (conn : ConnId) (seq : UInt32) (conversationId : Int) :
    perform handle w ⟨around, .msg (.readAck conn seq (some { conversationId := conversationId, readUpToSeq := 0 }))⟩ =
      around.enter w := by
  have served : (MsgService.handleReadAck conn seq (some { conversationId := conversationId, readUpToSeq := 0 })).Ensures
      (around.enter w) fun o => o.state = around.enter w := by
    refine ensures_peek (Prog.ensures_ite (fun _ => rfl) fun _ => Prog.ensures_ite (fun _ => rfl) fun valid => ?_)
    exact absurd (Or.inr le_rfl) valid
  exact served

end Answers

/-! ### The loop -/

section Loop
variable {conn : ConnId} {userId conversationId : Int} {d : Desk} {around reading : Surroundings}

/-- The desk when a conversation has just been opened. -/
theorem opened_desk (attended : Attended userId conversationId d) (idle : d.asked = [] ∧ d.answered = [])
    (attends : Attends conn userId around) :
    ∃ w users, w.tables = d.world.tables ∧ w.mem.config = d.world.mem.config ∧
      after (Desk.step conn) d (opening conversationId around reading) =
        { d with
          world := w
          store := (d.store.selectConversation conversationId).1.syncMessagesResult
            (pageResult (MessageDao.afterSeq conversationId 0 30 d.world.tables) users) } := by
  have selected : Attended userId conversationId (d.step conn (.select conversationId)) := attended.congr rfl rfl
  obtain ⟨w, users, tables, config, delivered⟩ := @page_delivered conn userId conversationId _ around selected attends 0
    [.read conversationId 0] (by simp [Desk.step, Desk.operate, ChatStore.selectConversation, askedOf, idle]) idle.2
  refine ⟨reading.enter w, users, tables, config, ?_⟩
  have split : after (Desk.step conn) d (opening conversationId around reading) =
      (after (Desk.step conn) (d.step conn (.select conversationId)) [.serve 0 around [], .deliver 0]).step conn
        (.serve 0 reading []) := rfl
  rw [split, delivered]
  simp only [Desk.step, List.getElem?_cons_zero, List.eraseIdx_cons_zero, Desk.serve, readAck_zero]
  simp only [Desk.operate, idle]

/-- The first page has come, is full, and will come again. -/
structure Circling (conversationId : Int) (d : Desk) : Prop where
  idle : d.asked = [] ∧ d.answered = []
  free : d.store.loadingHistory = false
  opened : d.store.activeConv = some conversationId
  more : d.store.hasMore = true
  long : 30 ≤ (historyOf conversationId d.world.tables).length
  oldest : ∃ e rest, d.store.messages = e :: rest ∧ 0 < e.serverSeq ∧
    ∀ m, Stored conversationId d.world.tables m → e.serverSeq ≤ m.seq

theorem stored_positive {t : Tables} (seqs : SeqInv (· ≠ ·) t) {m : Message} (stored : Stored conversationId t m) :
    0 < m.seq := by
  obtain ⟨-, -, -, low, -⟩ := seqs.within m stored.1
  omega

/-- A full page that starts with the oldest message has come. -/
theorem circling_page (seqs : SeqInv (· ≠ ·) d.world.tables) (long : 30 ≤ (historyOf conversationId d.world.tables).length)
    {s : ChatStore} {w : World} {acked : List (Nat × Int)} {start : Int} {users : List User} (opened : s.activeConv = some conversationId)
    (tables : w.tables = d.world.tables) (below : ∀ m, Stored conversationId d.world.tables m → start < m.seq) :
    Circling conversationId
      { world := w, asked := [], answered := [], acked := acked
        store := s.syncMessagesResult (pageResult (MessageDao.afterSeq conversationId start 30 d.world.tables) users) } := by
  have full := afterSeq_below_length below 30
  rw [min_eq_left long] at full
  cases page : MessageDao.afterSeq conversationId start 30 d.world.tables with
  | nil =>
    rw [page] at full
    cases full
  | cons first rest =>
    have oldest := afterSeq_below_oldest below page
    have there : Stored conversationId d.world.tables first := by
      have inside : first ∈ MessageDao.afterSeq conversationId start 30 d.world.tables := by
        rw [page]
        exact List.mem_cons_self
      rw [afterSeq_below below] at inside
      exact mem_historyOf.mp ((List.mem_insertionSort _).mp (List.mem_of_mem_take inside))
    refine ⟨⟨rfl, rfl⟩, rfl, opened, ?_, tables ▸ long, _, _, rfl, stored_positive seqs there, tables ▸ oldest⟩
    rw [page] at full
    exact decide_eq_true full.ge

/-- One more call brings the first page once more. -/
theorem circling_loading (seqs : SeqInv (· ≠ ·) d.world.tables) (attended : Attended userId conversationId d)
    (attends : Attends conn userId around) (now : Circling conversationId d) :
    (after (Desk.step conn) d (loading around)).world.tables = d.world.tables ∧
      (after (Desk.step conn) d (loading around)).world.mem.config = d.world.mem.config ∧
        Circling conversationId (after (Desk.step conn) d (loading around)) := by
  obtain ⟨e, rest, shown, positive, oldest⟩ := now.oldest
  have asks : d.step conn .loadMore =
      { d with store := { d.store with loadingHistory := true }, asked := [.page conversationId (e.serverSeq - 1) 30] } := by
    simp [Desk.step, Desk.operate, ChatStore.loadMoreHistory, now.opened, now.free, now.more, shown, positive, askedOf,
      now.idle.1]
  obtain ⟨w, users, tables, config, delivered⟩ := @page_delivered conn userId conversationId
    { d with store := { d.store with loadingHistory := true }, asked := [.page conversationId (e.serverSeq - 1) 30] }
    around (attended.congr rfl rfl) attends (e.serverSeq - 1) [] rfl now.idle.2
  rw [loading, after_cons, asks, delivered]
  refine ⟨tables, config, ?_⟩
  have circling := @circling_page conversationId d seqs now.long { d.store with loadingHistory := true } w d.acked
    (e.serverSeq - 1) users now.opened tables (fun m stored => by have := oldest m stored; omega)
  rw [now.idle.2]
  exact circling

/-- A history of at least a page is never loaded. -/
theorem never_ends (seqs : SeqInv (· ≠ ·) d.world.tables) (attended : Attended userId conversationId d)
    (idle : d.asked = [] ∧ d.answered = []) (long : 30 ≤ (historyOf conversationId d.world.tables).length)
    {around : Nat → Surroundings} (attends : ∀ n, Attends conn userId (around n)) (n : Nat) :
    (loaded conn d conversationId reading around n).world.tables = d.world.tables ∧
      (loaded conn d conversationId reading around n).world.mem.config = d.world.mem.config ∧
        Circling conversationId (loaded conn d conversationId reading around n) := by
  induction n with
  | zero =>
    obtain ⟨w, users, tables, config, opened⟩ := @opened_desk conn userId conversationId d (around 0) reading attended idle
      (attends 0)
    rw [loaded, opened]
    refine ⟨tables, config, ?_⟩
    rw [idle.1, idle.2]
    exact circling_page seqs long rfl tables fun m stored => stored_positive seqs stored
  | succ n ih =>
    obtain ⟨tables, config, now⟩ := ih
    obtain ⟨tables', config', next⟩ := circling_loading (tables ▸ seqs) (attended.congr tables config) (attends (n + 1)) now
    exact ⟨tables'.trans tables, config'.trans config, next⟩

/-- A history of less than a page is loaded at once. -/
theorem opened_complete (seqs : SeqInv (· ≠ ·) d.world.tables) (attended : Attended userId conversationId d)
    (idle : d.asked = [] ∧ d.answered = []) (attends : Attends conn userId around)
    (short : (historyOf conversationId d.world.tables).length < 30) :
    Complete conversationId (after (Desk.step conn) d (opening conversationId around reading)) := by
  obtain ⟨w, users, tables, -, opened⟩ := @opened_desk conn userId conversationId d around reading attended idle attends
  have below : ∀ m, Stored conversationId d.world.tables m → 0 < m.seq := fun m => stored_positive seqs
  have page := isPage_items seqs conversationId 0 30 users
  have length := afterSeq_below_length below 30
  rw [opened]
  refine ⟨?_, ?_, fun m stored => ?_, fun e shown => ?_⟩
  · refine decide_eq_false ?_
    rw [length]
    omega
  · rw [ChatStore.syncMessagesResult, pageResult, if_pos rfl]
    simp only [ChatStore.selectConversation, List.append_nil]
    exact page.ascending.map _ fun _ _ => id
  · rw [tables] at stored
    exact ⟨_, List.mem_append_left _ (List.mem_map_of_mem (List.mem_map_of_mem ((mem_afterSeq_whole below short.le).mpr stored))),
      rfl, rfl, rfl, rfl⟩
  · obtain new | old := List.mem_append.mp shown
    · obtain ⟨item, listed, rfl⟩ := List.mem_map.mp new
      obtain ⟨m, page, rfl⟩ := List.mem_map.mp listed
      exact ⟨m, tables ▸ (mem_afterSeq_whole below short.le).mp page, rfl, rfl, rfl, rfl⟩
    · exact absurd old List.not_mem_nil

end Loop

/-- The history of a conversation is loaded, by however many calls, exactly if it is shorter than
    a page. -/
theorem history_complete (conn : ConnId) (userId conversationId : Int) (d : Desk) (seqs : SeqInv (· ≠ ·) d.world.tables)
    (attended : Attended userId conversationId d) (idle : d.asked = [] ∧ d.answered = []) (reading : Surroundings)
    (around : Nat → Surroundings) (attends : ∀ n, Attends conn userId (around n)) :
    (∃ n, Complete conversationId (loaded conn d conversationId reading around n)) ↔
      (historyOf conversationId d.world.tables).length < 30 := by
  constructor
  · rintro ⟨n, complete⟩
    by_contra long
    obtain ⟨-, -, now⟩ := @never_ends conn userId conversationId d reading seqs attended idle (not_lt.mp long) around attends n
    exact Bool.false_ne_true (complete.ended.symm.trans now.more)
  · intro short
    exact ⟨0, opened_complete seqs attended idle (attends 0) short⟩

/-- The desk of user 1 over a private conversation with user 2 in which so many messages are stored. -/
def deskWith (count : Nat) : Desk where
  world :=
    { tables :=
        { conversations := (∅ : Table Conversation).insert { type := .private_, maxSeq := count }
          members := ((∅ : Table ConversationMember).insert { conversationId := 1, userId := 1 }).insert
            { conversationId := 1, userId := 2 }
          messages := (List.range count).foldl
            (fun t i => t.insert { conversationId := 1, senderId := 2, seq := i + 1, msgType := 1, content := [97] }) ∅ }
      mem := {} }
  store := { currentUid := [1] }

private theorem thirty_seqs : SeqInv (· ≠ ·) (deskWith 30).world.tables := ⟨by decide, by decide, by decide⟩

private theorem thirty_attended : Attended 1 1 (deskWith 30) := ⟨by decide, by unfold IsMember; decide, by decide, by decide⟩

/-- Thirty messages are never loaded. -/
theorem history_repeats :
    ¬∀ (conn : ConnId) (userId conversationId : Int) (d : Desk), SeqInv (· ≠ ·) d.world.tables →
      Attended userId conversationId d → d.asked = [] ∧ d.answered = [] →
      ∀ (reading : Surroundings) (around : Nat → Surroundings), (∀ n, Attends conn userId (around n)) →
        ∃ n, Complete conversationId (loaded conn d conversationId reading around n) := by
  intro claim
  obtain ⟨n, complete⟩ := claim 1 1 1 (deskWith 30) thirty_seqs thirty_attended ⟨rfl, rfl⟩ bothOnline
    (fun _ => bothOnline) fun _ => ⟨rfl, rfl⟩
  obtain ⟨-, -, now⟩ := @never_ends 1 1 1 (deskWith 30) bothOnline thirty_seqs thirty_attended ⟨rfl, rfl⟩ (by decide)
    (fun _ => bothOnline) (fun _ => ⟨rfl, rfl⟩) n
  exact Bool.false_ne_true (complete.ended.symm.trans now.more)

/-- Two messages are. -/
theorem history_complete_two :
    (historyOf 1 (deskWith 2).world.tables).length = 2 ∧
      ∃ n, Complete 1 (loaded 1 (deskWith 2) 1 bothOnline (fun _ => bothOnline) n) := by
  refine ⟨by decide, (history_complete 1 1 1 (deskWith 2) ⟨by decide, by decide, by decide⟩
    ⟨by decide, by unfold IsMember; decide, by decide, by decide⟩ ⟨rfl, rfl⟩ bothOnline (fun _ => bothOnline)
    fun _ => ⟨rfl, rfl⟩).mpr (by decide)⟩

end NovaIIM.Desktop
