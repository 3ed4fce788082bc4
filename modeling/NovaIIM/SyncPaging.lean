import NovaIIM.Paging
import NovaIIM.SeqInvariant
import NovaIIM.SyncService

/-!
Paging through a conversation.

A client asks for page after page, each behind the largest seq it has received,
until a response says that there is no more. Between the pages the message
service goes on. The pages are those of `Feed.query`, and a message that is
stored later is above the `max_seq` of every earlier state, so the reader's
invariant of `Paging` is carried along.
-/
namespace NovaIIM
open Store SyncService

/-- What a page item tells of its message: all but the status and the sender's name,
    which may change. -/
def messageFeed : Feed Message SyncMsgItem Int where
  place := Message.seq
  key := SyncMsgItem.serverSeq
  Reports m item := item.serverSeq = m.seq ∧ item.content = m.content ∧ item.msgType = m.msgType ∧
    item.serverTime = m.createdAt
  key_eq reports := reports.1

/-- The message is stored in the conversation. -/
def Stored (conversationId : Int) (t : Tables) (m : Message) : Prop :=
  m ∈ t.messages.rows ∧ m.conversationId = conversationId

/-- The user is a member of the conversation. -/
def IsMember (conversationId userId : Int) (t : Tables) : Prop :=
  ∃ r ∈ t.members.rows, r.conversationId = conversationId ∧ r.userId = userId

/-- The reply to a page request, as an event. -/
def answered (conn : ConnId) (seq : UInt32) (resp : SyncMsgResp) : Event :=
  .sent conn { cmd := .syncMsgResp, seq := seq, uid := 0, body := .syncMsgResp resp }

/-! ### One page -/

theorem reports_syncItem (users : List User) (m : Message) : messageFeed.Reports m (syncItem users m) :=
  ⟨rfl, rfl, rfl, rfl⟩

theorem pageLimit_pos {syncDefault syncMax : Int} (default_ : 1 ≤ syncDefault) (max_ : 1 ≤ syncMax)
    (limit : Int) : 1 ≤ pageLimit syncDefault syncMax limit := by
  unfold pageLimit
  dsimp only
  split <;> split <;> omega

/-- The items of a page are those of the query on the conversation. -/
theorem items_eq_query (conversationId after_ : Int) (limit : Nat) (t : Tables) (users : List User) :
    (MessageDao.afterSeq conversationId after_ limit t).map (syncItem users) =
      messageFeed.query (syncItem users) after_ limit
        (t.messages.rows.filter fun m => m.conversationId = conversationId) := by
  simp only [MessageDao.afterSeq, Feed.query, Feed.ordered, messageFeed, List.filter_filter]
  congr 4
  funext m
  rw [Bool.and_comm]
  rfl

/-- The seqs of one conversation are distinct. -/
theorem places_apart {t : Tables} (inv : SeqInv (· ≠ ·) t) (conversationId : Int) :
    (t.messages.rows.filter fun m => m.conversationId = conversationId).Pairwise
      fun a b => messageFeed.place a ≠ messageFeed.place b := by
  refine (inv.apart.filter _).imp_of_mem ?_
  intro a b first second apart
  simp only [List.mem_filter, decide_eq_true_eq] at first second
  exact apart (first.2.trans second.2.symm)

/-- The page of a conversation whose seqs are distinct. -/
theorem isPage_items {t : Tables} (inv : SeqInv (· ≠ ·) t) (conversationId after_ : Int) (limit : Nat)
    (users : List User) :
    messageFeed.IsPage (Stored conversationId t) after_ limit
      ((MessageDao.afterSeq conversationId after_ limit t).map (syncItem users)) := by
  rw [items_eq_query]
  have same : Stored conversationId t = (· ∈ t.messages.rows.filter fun m => m.conversationId = conversationId) := by
    funext m
    simp [Stored]
  rw [same]
  exact Feed.isPage_query (reports_syncItem users) (places_apart inv conversationId) after_ limit

theorem findByIds_quiet (ids : List Int) (w : World) :
    (UserDao.findByIds ids).Ensures w fun o =>
      o.state.tables = w.tables ∧ o.state.mem = w.mem ∧ o.events = [] := by
  unfold UserDao.findByIds
  split
  · exact ⟨rfl, rfl, rfl⟩
  · simp [Prog.Ensures]

/-- A request of a member is answered with a page, if its first two statements do not fail. -/
theorem page_served {w : World} {conn : ConnId} {seq : UInt32} {req : SyncMsgReq}
    (loggedIn : (w.mem.connections conn).userId ≠ 0) (named : 0 < req.conversationId)
    (member : IsMember req.conversationId (w.mem.connections conn).userId w.tables) (sound : Clear 2 w.faults)
    (able : 1 ≤ pageLimit w.mem.config.syncDefault w.mem.config.syncMax req.limit) :
    (handleSyncMsg conn seq (some req)).Ensures w fun o => o.state.tables = w.tables ∧ o.state.mem = w.mem ∧
      ∃ users, o.events = [answered conn seq
        (pageOf (pageLimit w.mem.config.syncDefault w.mem.config.syncMax req.limit)
          (MessageDao.afterSeq req.conversationId req.lastSeq
            (pageLimit w.mem.config.syncDefault w.mem.config.syncMax req.limit).toNat w.tables) users)] := by
  refine ensures_peek (Prog.ensures_ite (fun unknown => absurd unknown loggedIn) fun _ => ?_)
  refine Prog.ensures_ite (fun invalid => by omega) fun _ => ?_
  refine ensures_query (fun fault => ?_) fun _ => ?_
  · exact absurd (sound.1.symm.trans fault) Bool.false_ne_true
  have found : (w.tables.members.rows.any fun r =>
      r.conversationId = req.conversationId && r.userId = (w.mem.connections conn).userId) = true := by
    obtain ⟨r, inside, same⟩ := member
    exact List.any_eq_true.mpr ⟨r, inside, by simpa using same⟩
  refine Prog.ensures_ite (fun outsider => by simp [found] at outsider) fun _ => ensures_peek ?_
  refine ensures_query (fun fault => ?_) fun _ => ?_
  · exact absurd (sound.2.1.symm.trans fault) Bool.false_ne_true
  rw [if_neg (by simp only [spend_mem]; omega)]
  refine Prog.ensures_bind (Prog.ensures_mono (findByIds_quiet _ _) fun o quiet => ?_)
  obtain ⟨tables, mem, events⟩ := quiet
  exact ⟨tables, mem, o.value, by rw [events]; rfl⟩

/-! ### Between the pages -/

/-- A request to the message service, among those to all services. -/
def Call.msg (call : Call MsgService.Request) : Call Request :=
  { toSurroundings := call.toSurroundings, request := .msg call.request }

/-- The configuration is the same, and the members are still there. -/
structure Settled (w w' : World) : Prop where
  config : w'.mem.config = w.mem.config
  members : ∀ conversationId userId, IsMember conversationId userId w.tables → IsMember conversationId userId w'.tables

theorem Settled.refl (w : World) : Settled w w := ⟨rfl, fun _ _ => id⟩

theorem Settled.trans {a b c : World} (first : Settled a b) (second : Settled b c) : Settled a c :=
  ⟨second.config.trans first.config, fun _ _ => second.members _ _ ∘ first.members _ _⟩

theorem settled_same {w w' : World} (config : w'.mem.config = w.mem.config)
    (members : w'.tables.members = w.tables.members) : Settled w w' :=
  ⟨config, fun _ _ ⟨r, inside, same⟩ => ⟨r, members ▸ inside, same⟩⟩

theorem settled_updateMember {w w' : World} {conversationId userId : Int} {selected : ConversationMember → Bool}
    {change : RowUpdate ConversationMember} (config : w'.mem.config = w.mem.config)
    (tables : w'.tables = w.tables.updateMember conversationId userId selected change) : Settled w w' := by
  refine ⟨config, fun conv user ⟨r, inside, same⟩ => ?_⟩
  have pair : (change.apply r).conversationId = r.conversationId ∧ (change.apply r).userId = r.userId := by
    have clash := change.same_clash r r
    simpa [Row.clash] using clash
  refine ⟨_, by rw [tables]; exact Table.mem_update.mpr ⟨r, inside, rfl⟩, ?_⟩
  split
  · exact ⟨pair.1.trans same.1, pair.2.trans same.2⟩
  · exact same

private theorem step_settled {call : SendCall} {phase next : MsgService.Phase call} {w w' : World}
    {events : List Event} (step : MsgService.SendStep w phase next w' events) : Settled w w' := by
  cases step with
  | unallocated s _ mem tables stuck =>
    obtain same | incremented := tables
    · exact settled_same (by rw [mem]) (by rw [same])
    · exact settled_same (by rw [mem]) (by rw [incremented]; rfl)
  | allocated s conv _ mem tables => exact settled_same (by rw [mem]) (by rw [tables]; rfl)
  | deliver d d' _ _ saved mem tables pushes =>
    obtain same | ⟨conversationId, userId, selected, change, -, -, written⟩ := tables
    · exact settled_same (by rw [mem]) (by rw [same])
    · exact settled_updateMember (by rw [mem]) written
  | _ => exact settled_same rfl rfl

theorem settled_performed (w : World) (call : Call MsgService.Request) :
    Settled w (perform handle w call.msg) := by
  have entered : Settled w (call.msg.enter w) := settled_same rfl rfl
  obtain ⟨send, -, program⟩ | ⟨effect, mem⟩ := perform_cases w call.msg
  · refine entered.trans ?_
    rw [perform, program]
    obtain ⟨-, -, settled⟩ := @MsgService.send_invariant send (fun _ w' _ => Settled (call.msg.enter w) w')
      (fun _ _ _ _ _ _ now step => now.trans (step_settled step)) (call.msg.enter w) (.refl _)
    exact settled
  · have config : (perform handle w call.msg).mem.config = w.mem.config := by rw [mem]; rfl
    generalize asked : call.msg.request = request at effect
    cases effect with
    | msg request effect =>
      generalize shape : (perform handle w call.msg).tables = t' at effect
      cases effect with
      | delivered conversationId selected change => exact settled_updateMember config shape
      | read conn seq req asked selected change => exact settled_updateMember config shape
      | _ => exact settled_same config (by simp [shape, Tables.setMessageStatus])
    | _ => simp [Call.msg] at asked

theorem settled_run (w : World) (calls : List (Call MsgService.Request)) :
    Settled w (after (perform handle) w (calls.map Call.msg)) := by
  induction calls generalizing w with
  | nil => exact .refl w
  | cons call rest ih => exact (settled_performed w call).trans (ih _)

/-! ### The loop -/

/-- What happens up to the next page: the calls that are served first, and the
    circumstances of the page request, with the limit it asks for. -/
structure Turn where
  calls : List (Call MsgService.Request) := []
  around : Surroundings
  conn : ConnId
  seq : UInt32 := 0
  limit : Int := 20

/-- The server, and the client that pages. -/
structure Syncing where
  world : World
  reader : Reader SyncMsgItem Int

/-- The response among what the server sends on a connection. -/
def responseOn (conn : ConnId) (events : List Event) : Option SyncMsgResp :=
  events.findSome? fun event => match event with
    | .sent c { body := .syncMsgResp resp, .. } => if c = conn then some resp else none
    | _ => none

/-- The calls are served; a client that was told that there is more then asks for the
    next page, behind the largest seq it has received. -/
def turn (conversationId : Int) (s : Syncing) (t : Turn) : Syncing :=
  let w := after (perform handle) s.world (t.calls.map Call.msg)
  if s.reader.more then
    let page := (handleSyncMsg t.conn t.seq
      (some { conversationId := conversationId, lastSeq := s.reader.cursor, limit := t.limit })).run (t.around.enter w)
    { world := page.state
      reader := match responseOn t.conn page.events with
        | some resp => messageFeed.absorb s.reader resp.messages resp.hasMore
        | none => { s.reader with more := false } }
  else { s with world := w }

/-- The user is logged in on the connection of the page request, whose first two
    statements do not fail. -/
structure Turn.Served (userId : Int) (t : Turn) : Prop where
  user : (t.around.connections t.conn).userId = userId
  sound : Clear 2 t.around.faults

/-- Where a paging from `start` stands that began in the world `w`. -/
private structure Paged (w : World) (conversationId userId start : Int) (s : Syncing) : Prop where
  inv : SeqInv (· ≠ ·) s.world.tables
  grows : Grows w.tables s.world.tables
  settled : Settled w s.world
  covers : messageFeed.Covers (Stored conversationId s.world.tables) start s.reader
  ascending : s.reader.received.Pairwise fun a b => a.serverSeq < b.serverSeq
  genuine : ∀ item ∈ s.reader.received, ∃ m, Stored conversationId s.world.tables m ∧ messageFeed.Reports m item
  reached : s.reader.cursor = start ∨ ∃ m, Stored conversationId s.world.tables m ∧ m.seq = s.reader.cursor
  finished : s.reader.more = false → ∀ m, Stored conversationId w.tables m → m.seq ≤ s.reader.cursor

private theorem reports_restatus {m m' : Message} (same : Restatus m m') {item : SyncMsgItem}
    (reports : messageFeed.Reports m item) : messageFeed.Reports m' item := by
  rw [same]
  exact reports

private theorem stored_grows {conversationId : Int} {t t' : Tables} (grows : Grows t t') {m : Message}
    (stored : Stored conversationId t m) : ∃ m', Stored conversationId t' m' ∧ Restatus m m' := by
  obtain ⟨m', inside, same⟩ := grows.stays m stored.1
  exact ⟨m', ⟨inside, by rw [same]; exact stored.2⟩, same⟩

/-- The calls between two pages. -/
private theorem paged_calls {w : World} {conversationId userId start : Int} {s : Syncing}
    (paged : Paged w conversationId userId start s) (calls : List (Call MsgService.Request)) :
    Paged w conversationId userId start
      { s with world := after (perform handle) s.world (calls.map Call.msg) } := by
  obtain ⟨inv, grows⟩ := keeps_run (fun _ _ => ne_of_lt) paged.inv (calls.map Call.msg)
  refine ⟨inv, paged.grows.trans grows, paged.settled.trans (settled_run _ _), ?_, paged.ascending,
    fun item inside => ?_, paged.reached.imp_right fun ⟨m, stored, top⟩ => ?_, paged.finished⟩
  · refine paged.covers.change fun m' stored behind upTo => ?_
    obtain ⟨m, before, same⟩ | above := grows.newer m' stored.1
    · refine ⟨m, ⟨before, ?_⟩, by rw [same]; rfl, fun item => reports_restatus same⟩
      rw [← stored.2, same]
    -- a new message is above all that the reader may have reached
    obtain here | ⟨m, known, top⟩ := paged.reached
    · exact absurd behind (not_lt.mpr (upTo.trans here.le))
    · obtain ⟨conv, there, named, -, high⟩ := paged.inv.within m known.1
      have := above conv there (named.trans (known.2.trans stored.2.symm))
      exact absurd (upTo.trans_eq top.symm) (not_le.mpr (high.trans_lt this))
  · obtain ⟨m, stored, reports⟩ := paged.genuine item inside
    obtain ⟨m', stored', same⟩ := stored_grows grows stored
    exact ⟨m', stored', reports_restatus same reports⟩
  · obtain ⟨m', stored', same⟩ := stored_grows grows stored
    exact ⟨m', stored', by rw [same]; exact top⟩

/-- What the paging is about: a member of a conversation, on a server with usable limits. -/
structure Pageable (w : World) (conversationId userId start : Int) : Prop where
  default_ : 1 ≤ w.mem.config.syncDefault
  max_ : 1 ≤ w.mem.config.syncMax
  conversation : 0 < conversationId
  user : userId ≠ 0
  member : IsMember conversationId userId w.tables

/-- The page of a turn. -/
private theorem paged_page {w : World} {conversationId userId start : Int} {s : Syncing}
    (pageable : Pageable w conversationId userId start) (paged : Paged w conversationId userId start s)
    (t : Turn) (served : t.Served userId) :
    let page := (handleSyncMsg t.conn t.seq
      (some { conversationId := conversationId, lastSeq := s.reader.cursor, limit := t.limit })).run
        (t.around.enter s.world)
    ∃ (limit : Nat) (items : List SyncMsgItem), 1 ≤ limit ∧
      messageFeed.IsPage (Stored conversationId s.world.tables) s.reader.cursor limit items ∧
      page.state.tables = s.world.tables ∧ page.state.mem.config = s.world.mem.config ∧
      responseOn t.conn page.events =
        some { code := errc.kOk.code, messages := items, hasMore := limit ≤ items.length } := by
  have able := pageLimit_pos (paged.settled.config ▸ pageable.default_) (paged.settled.config ▸ pageable.max_) t.limit
  have member := paged.settled.members _ _ pageable.member
  obtain ⟨tables, mem, users, events⟩ := @page_served (t.around.enter s.world) t.conn t.seq
    { conversationId := conversationId, lastSeq := s.reader.cursor, limit := t.limit }
    (by simpa [served.user] using pageable.user) pageable.conversation (by simpa [served.user] using member)
    served.sound able
  have isPage := isPage_items paged.inv conversationId s.reader.cursor
    (pageLimit s.world.mem.config.syncDefault s.world.mem.config.syncMax t.limit).toNat users
  refine ⟨_, _, ?_, isPage, tables, by rw [mem]; rfl, ?_⟩
  · omega
  · rw [events]
    simp only [responseOn, answered, pageOf, List.findSome?_cons, if_true, List.length_map]
    congr 2
    exact decide_eq_decide.mpr Int.toNat_le.symm

/-- A turn takes the paging on, and one that is to go on has received something. -/
private theorem paged_turn {w : World} {conversationId userId start : Int} {s : Syncing}
    (pageable : Pageable w conversationId userId start) (paged : Paged w conversationId userId start s)
    (t : Turn) (served : t.Served userId) :
    Paged w conversationId userId start (turn conversationId s t) ∧
      ((turn conversationId s t).reader.more = true →
        s.reader.received.length < (turn conversationId s t).reader.received.length) := by
  have waiting := paged_calls paged t.calls
  unfold turn
  generalize after (perform handle) s.world (t.calls.map Call.msg) = w' at waiting
  split
  · obtain ⟨limit, items, able, isPage, tables, config, response⟩ := paged_page pageable waiting t served
    dsimp only at isPage response tables config ⊢
    rw [response]
    generalize (handleSyncMsg t.conn t.seq _).run (t.around.enter w') = page at tables config
    refine ⟨⟨tables ▸ waiting.inv, tables ▸ waiting.grows, waiting.settled.trans (settled_same config (by rw [tables])),
      ?_, ?_, fun item inside => ?_, ?_, fun stopped m stored => ?_⟩, fun more => ?_⟩
    · exact tables ▸ waiting.covers.absorb waiting.covers.began le_rfl isPage.toSegment _
    · exact Feed.ascending_absorb waiting.covers waiting.ascending isPage _
    · rw [tables]
      obtain before | new := List.mem_append.mp inside
      · exact waiting.genuine item before
      · exact isPage.genuine item new
    · rw [tables]
      obtain stays | ⟨item, inside, key⟩ := Feed.cursor_absorb s.reader items (decide (limit ≤ items.length))
      · exact waiting.reached.imp stays.trans fun ⟨m, stored, top⟩ => ⟨m, stored, top.trans stays.symm⟩
      · obtain ⟨m, stored, reports⟩ := isPage.genuine item inside
        exact .inr ⟨m, stored, reports.1.symm.trans key⟩
    · have short : items.length < limit := not_le.mp (of_decide_eq_false stopped)
      obtain ⟨m', stored', same⟩ := stored_grows waiting.grows stored
      have reached := Feed.nothing_left isPage le_rfl short (decide (limit ≤ items.length)) m' stored'
      rwa [show messageFeed.place m' = m.seq by rw [same]; rfl] at reached
    · have long : limit ≤ items.length := of_decide_eq_true more
      simp only [Feed.absorb, List.length_append]
      omega
  · exact ⟨waiting, fun more => absurd more ‹_›⟩

/-- A client that has stopped does not go on. -/
theorem stopped_run (conversationId : Int) {s : Syncing} (stopped : s.reader.more = false) (turns : List Turn) :
    (after (turn conversationId) s turns).reader.more = false :=
  @after_invariant_always _ _ (turn conversationId) (fun s => s.reader.more = false)
    (fun s t stopped => by simp [turn, stopped]) s stopped turns

/-- The turns of a paging. -/
private theorem paged_run {w : World} {conversationId userId start : Int}
    (pageable : Pageable w conversationId userId start) (turns : List Turn)
    (served : ∀ t ∈ turns, t.Served userId) {s : Syncing} (paged : Paged w conversationId userId start s) :
    Paged w conversationId userId start (after (turn conversationId) s turns) ∧
      ((after (turn conversationId) s turns).reader.more = true →
        s.reader.received.length + turns.length ≤ (after (turn conversationId) s turns).reader.received.length) := by
  induction turns generalizing s with
  | nil => exact ⟨paged, fun _ => le_rfl⟩
  | cons t rest ih =>
    obtain ⟨now, grown⟩ := paged_turn pageable paged t (served t List.mem_cons_self)
    obtain ⟨last, count⟩ := ih (fun t' later => served t' (List.mem_cons_of_mem _ later)) now
    refine ⟨last, fun more => ?_⟩
    have going : (turn conversationId s t).reader.more = true := by
      by_contra stopped
      have final := stopped_run conversationId (Bool.not_eq_true _ ▸ stopped) rest
      exact absurd more (by simp [final])
    have := grown going
    have := count more
    rw [List.length_cons]
    rw [after_cons]
    omega

/-- What a paging from `start` that began in `w` has brought the reader by the world `w'`. -/
structure PagingLaw (w : World) (conversationId start : Int) (turns : List Turn) (w' : World)
    (r : Reader SyncMsgItem Int) : Prop where
  ascending : r.received.Pairwise fun a b => a.serverSeq < b.serverSeq
  behind : ∀ item ∈ r.received, start < item.serverSeq
  genuine : ∀ item ∈ r.received, ∃ m, Stored conversationId w'.tables m ∧ messageFeed.Reports m item
  /-- nothing up to the cursor is missing, whenever it was stored -/
  complete : ∀ m, Stored conversationId w'.tables m → start < m.seq →
    (∃ item ∈ r.received, messageFeed.Reports m item) ∨ r.cursor < m.seq
  /-- a message that came during the paging is behind a start that the conversation had reached -/
  later : ∀ m, Stored conversationId w'.tables m → (∃ old ∈ w.tables.messages.rows, Restatus old m) ∨
    ∀ conv ∈ w.tables.conversations.rows, conv.id = conversationId → start ≤ conv.maxSeq → start < m.seq
  /-- a reader that has stopped has received what was there -/
  finished : r.more = false → ∀ m, Stored conversationId w.tables m → start < m.seq →
    ∃ item ∈ r.received, messageFeed.Reports m item
  /-- more requests than messages are never needed -/
  stops : w'.tables.messages.rows.length < turns.length → r.more = false

/-- A member that pages through a conversation receives it, from any state of distinct seqs and
    with any calls to the message service between the pages. -/
theorem paging_complete (w : World) (conversationId userId start : Int) (inv : SeqInv (· ≠ ·) w.tables)
    (pageable : Pageable w conversationId userId start) (turns : List Turn)
    (served : ∀ t ∈ turns, t.Served userId) :
    PagingLaw w conversationId start turns
      (after (turn conversationId) { world := w, reader := { cursor := start } } turns).world
      (after (turn conversationId) { world := w, reader := { cursor := start } } turns).reader := by
  have initially : Paged w conversationId userId start { world := w, reader := { cursor := start } } :=
    ⟨inv, .refl _, .refl _, Feed.covers_start start, List.Pairwise.nil, by simp, .inl rfl, by simp⟩
  obtain ⟨paged, count⟩ := paged_run pageable turns served initially
  generalize after (turn conversationId) { world := w, reader := { cursor := start } } turns = s at paged count
  refine ⟨paged.ascending, fun item inside => (paged.covers.behind item inside).1, paged.genuine,
    fun m stored behind => ?_, fun m stored => ?_, fun stopped m stored behind => ?_, fun many => ?_⟩
  · obtain upTo | left := le_or_gt m.seq s.reader.cursor
    · exact .inl (paged.covers.complete m stored behind upTo)
    · exact .inr left
  · refine (paged.grows.newer m stored.1).imp_right fun above conv there named reached => ?_
    exact reached.trans_lt (above conv there (named.trans stored.2.symm))
  · obtain ⟨m', stored', same⟩ := stored_grows paged.grows stored
    have seq : m'.seq = m.seq := by rw [same]
    have upTo := paged.finished stopped m stored
    obtain ⟨item, inside, reports⟩ := paged.covers.complete m' stored' (behind.trans_eq seq.symm) (seq.trans_le upTo)
    exact ⟨item, inside, by rw [same] at reports; exact reports⟩
  · by_contra going
    have received := count (Bool.not_eq_false _ ▸ going)
    -- distinct seqs of stored messages are at most as many as the messages
    have distinct : (s.reader.received.map SyncMsgItem.serverSeq).Nodup :=
      List.pairwise_map.mpr (paged.ascending.imp ne_of_lt)
    have known : s.reader.received.map SyncMsgItem.serverSeq ⊆ s.world.tables.messages.rows.map Message.seq := by
      intro seq inside
      obtain ⟨item, there, rfl⟩ := List.mem_map.mp inside
      obtain ⟨m, stored, reports⟩ := paged.genuine item there
      exact List.mem_map.mpr ⟨m, stored.1, reports.1.symm⟩
    have few := (List.subperm_of_subset distinct known).length_le
    simp only [List.length_map, List.length_nil, Nat.zero_add] at few received
    omega

/-- A conversation with the seqs 2 and 5, and one member. -/
def gappedConversation : World where
  tables :=
    { messages := ((∅ : Table Message).insert { conversationId := 1, senderId := 1, seq := 2, content := [97] }).insert
        { conversationId := 1, senderId := 1, seq := 5, content := [98] }
      conversations := (∅ : Table Conversation).insert { maxSeq := 7 }
      members := (∅ : Table ConversationMember).insert { conversationId := 1, userId := 1 } }
  mem := {}

/-- Two pages of one message each, with a new message between them. -/
def twoPages : List Turn :=
  [{ around := bothOnline, conn := 1, limit := 1 },
    { calls := [{ bothOnline with
        request := .sendMsg 1 0 (some { conversationId := 1, content := [99], clientMsgId := [] }) }]
      around := bothOnline, conn := 1, limit := 1 }]

theorem paging_complete_gapped :
    PagingLaw gappedConversation 1 0 twoPages
      (after (turn 1) { world := gappedConversation, reader := { cursor := 0 } } twoPages).world
      (after (turn 1) { world := gappedConversation, reader := { cursor := 0 } } twoPages).reader :=
  paging_complete gappedConversation 1 1 0 ⟨by decide, by decide, by decide⟩
    ⟨by decide, by decide, by decide, by decide, by unfold IsMember; decide⟩ twoPages
    fun t inside => by
      simp only [twoPages, List.mem_cons, List.not_mem_nil, or_false] at inside
      obtain rfl | rfl := inside <;> exact ⟨rfl, rfl, rfl, trivial⟩

end NovaIIM
