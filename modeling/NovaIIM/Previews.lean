import NovaIIM.DedupReplay
import NovaIIM.Newest
import NovaIIM.Traffic

/-!
The newest messages of a conversation, as two lists show them.

The list of conversations shows the last message of each, and the snapshot of what is
unread the last three. Both take the messages whose seq is in a window under `max_seq`.
A seq that was allocated and whose row was never inserted leaves a gap in the window,
and then the window is not the newest messages (`window_newest`).
-/
namespace NovaIIM
open Store

/-- The seqs stored in a conversation. -/
def storedSeqs (conversationId : Int) (t : Tables) : Finset Int :=
  ((t.messages.rows.filter fun m => m.conversationId = conversationId).map Message.seq).toFinset

theorem mem_storedSeqs {conversationId s : Int} {t : Tables} :
    s ∈ storedSeqs conversationId t ↔ ∃ m, Stored conversationId t m ∧ m.seq = s := by
  simp [storedSeqs, Stored]

/-- The message is one of the `k` newest of its conversation. -/
def IsNewest (k : Nat) (conversationId : Int) (t : Tables) (m : Message) : Prop :=
  Stored conversationId t m ∧ Newest k (storedSeqs conversationId t) m.seq

/-- No seq is missing among the last `k` that were allocated, or nothing older is stored. -/
def NoGap (k : Nat) (t : Tables) (conv : Conversation) : Prop :=
  WindowFull k (storedSeqs conv.id t) conv.maxSeq

section Window
variable {t : Tables} {conv : Conversation}

theorem storedSeqs_within (inv : SeqInv (· ≠ ·) t) (known : conv ∈ t.conversations.rows) {s : Int}
    (inside : s ∈ storedSeqs conv.id t) : 1 ≤ s ∧ s ≤ conv.maxSeq := by
  obtain ⟨m, stored, rfl⟩ := mem_storedSeqs.mp inside
  obtain ⟨conv', known', named, low, high⟩ := inv.within m stored.1
  have : conv' = conv := Table.eq_of_id known' known (named.trans stored.2)
  subst this
  exact ⟨low, high⟩

/-- As many messages as places fit in a window. -/
private theorem window_length (inv : SeqInv (· ≠ ·) t) (known : conv ∈ t.conversations.rows) (k : Nat) :
    (t.messages.rows.filter fun r : Message =>
      r.conversationId = conv.id && max 0 (conv.maxSeq - k) < r.seq).length ≤ k := by
  generalize rows : (t.messages.rows.filter fun r : Message =>
    r.conversationId = conv.id && max 0 (conv.maxSeq - k) < r.seq) = window
  have inside : ∀ m ∈ window, Stored conv.id t m ∧ max 0 (conv.maxSeq - k) < m.seq := by
    intro m there
    rw [← rows] at there
    simpa [Stored, and_assoc] using there
  have distinct : (window.map Message.seq).Nodup := by
    have apart : window.Pairwise fun a b => a.conversationId = b.conversationId → a.seq ≠ b.seq :=
      rows ▸ inv.apart.filter _
    rw [List.Nodup, List.pairwise_map]
    refine apart.imp_of_mem fun first second differ => differ ?_
    exact (inside _ first).1.2.trans (inside _ second).1.2.symm
  have places : (window.map Message.seq).toFinset ⊆ Finset.Ioc (conv.maxSeq - k) conv.maxSeq := by
    intro s there
    obtain ⟨m, shown, rfl⟩ := List.mem_map.mp (List.mem_toFinset.mp there)
    obtain ⟨stored, high⟩ := inside m shown
    have := storedSeqs_within inv known (mem_storedSeqs.mpr ⟨m, stored, rfl⟩)
    exact Finset.mem_Ioc.mpr ⟨(le_max_right _ _).trans_lt high, this.2⟩
  have few := Finset.card_le_card places
  rw [List.toFinset_card_of_nodup distinct, List.length_map, Int.card_Ioc] at few
  omega

/-- The query for a window finds what is stored in it. -/
theorem mem_latest (inv : SeqInv (· ≠ ·) t) (known : conv ∈ t.conversations.rows) {k : Nat} {m : Message} :
    m ∈ MessageDao.latest conv.id (max 0 (conv.maxSeq - k)) k t ↔
      Stored conv.id t m ∧ conv.maxSeq - k < m.seq := by
  rw [MessageDao.latest, List.take_of_length_le]
  · rw [List.mem_insertionSort, List.mem_filter, Stored, and_assoc]
    refine and_congr_right fun inside => ?_
    simp only [Bool.and_eq_true, decide_eq_true_eq]
    refine and_congr_right fun same => ?_
    have low := (storedSeqs_within inv known (mem_storedSeqs.mpr ⟨m, ⟨inside, same⟩, rfl⟩)).1
    omega
  · rw [List.length_insertionSort]
    exact window_length inv known k

/-- A window shows the newest messages exactly if it has no gap. -/
theorem latest_newest (inv : SeqInv (· ≠ ·) t) (known : conv ∈ t.conversations.rows) (k : Nat) :
    (∀ m, m ∈ MessageDao.latest conv.id (max 0 (conv.maxSeq - k)) k t ↔ IsNewest k conv.id t m) ↔ NoGap k t conv := by
  rw [NoGap, ← window_newest fun s inside => (storedSeqs_within inv known inside).2]
  constructor
  · intro same s inside
    obtain ⟨m, stored, rfl⟩ := mem_storedSeqs.mp inside
    have shown := same m
    rw [mem_latest inv known, IsNewest] at shown
    simpa [stored] using shown
  · intro same m
    rw [mem_latest inv known, IsNewest]
    refine and_congr_right fun stored => ?_
    exact same m.seq (mem_storedSeqs.mpr ⟨m, stored, rfl⟩)

end Window

/-! ### What the queries find -/

/-- The rows that a query for several windows finds. -/
def previewRows (convFromSeqs : List (Int × Int)) (k : Nat) (t : Tables) : List Message :=
  convFromSeqs.flatMap fun (conversationId, fromSeq) => MessageDao.latest conversationId fromSeq k t

private theorem finds_batches (k : Nat) (rounds : Nat) (convFromSeqs : List (Int × Int))
    (enough : convFromSeqs.length ≤ rounds) :
    Finds (fun t rows => rows = previewRows convFromSeqs k t) (MessageDao.latestBatches k rounds convFromSeqs) := by
  induction rounds generalizing convFromSeqs with
  | zero =>
    rw [List.length_eq_zero_iff.mp (Nat.le_zero.mp enough)]
    exact finds_ret fun _ => rfl
  | succ rounds ih =>
    unfold MessageDao.latestBatches
    split
    · rename_i nothing
      rw [List.isEmpty_iff.mp nothing]
      exact finds_ret fun _ => rfl
    · refine finds_bind finds_query fun batch => finds_bind (ih _ ?_) fun rest => finds_ret ?_
      · rw [List.length_drop]
        have : 0 < MessageDao.kBatchSize := by decide
        omega
      · rintro t rfl rfl
        show (_ : List Message) ++ _ = _
        rw [previewRows, ← List.flatMap_append, List.take_append_drop]
        rfl

theorem finds_latest (convFromSeqs : List (Int × Int)) (k : Nat) :
    Finds (fun t rows => rows = previewRows convFromSeqs k t)
      (MessageDao.getLatestByConversations convFromSeqs k) :=
  finds_batches k _ convFromSeqs le_rfl

theorem finds_conversations (ids : List Int) :
    Finds (fun t convs => convs = t.conversations.rows.filter fun r => r.id ∈ ids) (ConversationDao.findByIds ids) := by
  unfold ConversationDao.findByIds
  split
  · rename_i nothing
    refine finds_ret fun t => ?_
    rw [List.isEmpty_iff.mp nothing]
    simp
  · exact finds_query

theorem finds_users (ids : List Int) :
    Finds (fun t users => users = t.users.rows.filter fun r => r.id ∈ ids && r.status ≠ .deleted)
      (UserDao.findByIds ids) := by
  unfold UserDao.findByIds
  split
  · rename_i nothing
    refine finds_ret fun t => ?_
    rw [List.isEmpty_iff.mp nothing]
    simp
  · exact finds_query

theorem finds_membersOf (ids : List Int) : Finds (fun _ _ => True) (ConversationDao.getMembersByConversationIds ids) := by
  unfold ConversationDao.getMembersByConversationIds
  split
  · exact finds_ret fun _ => trivial
  · exact finds_mono finds_query fun _ _ _ => trivial

/-! ### The conversations of a user -/

/-- The memberships of a user that count, each with its conversation. -/
def listing (userId : Int) (counts : ConversationMember → Bool) (t : Tables) :
    List (ConversationMember × Conversation) :=
  ((t.members.rows.filter fun m => m.userId = userId).filter counts).filterMap fun m =>
    (t.conversations.rows.find? fun c => c.id = m.conversationId).map fun c => (m, c)

theorem of_listing {userId : Int} {counts : ConversationMember → Bool} {t : Tables} {m : ConversationMember}
    {conv : Conversation} (listed : (m, conv) ∈ listing userId counts t) :
    conv ∈ t.conversations.rows ∧ conv.id = m.conversationId := by
  obtain ⟨m', -, found⟩ := List.mem_filterMap.mp listed
  obtain ⟨conv', there, same⟩ := Option.map_eq_some_iff.mp found
  obtain ⟨rfl, rfl⟩ := Prod.mk.inj same
  exact ⟨List.mem_of_find?_eq_some there, by simpa using List.find?_some there⟩

/-- The handlers look a conversation up among those they have fetched. -/
private theorem listing_fetched (userId : Int) (counts : ConversationMember → Bool) (t : Tables) (fetched : List Int)
    (enough : ∀ m ∈ (t.members.rows.filter fun m => m.userId = userId).filter counts, m.conversationId ∈ fetched) :
    (((t.members.rows.filter fun m => m.userId = userId).filter counts).filterMap fun m =>
      ((t.conversations.rows.filter fun c => c.id ∈ fetched).find? fun c => c.id = m.conversationId).map
        fun c => (m, c)) = listing userId counts t := by
  refine List.filterMap_congr fun m inside => ?_
  rw [List.find?_filter]
  congr 2
  funext c
  by_cases same : c.id = m.conversationId <;> simp [same, enough m inside]

/-- The windows that the conversations are asked for. -/
def windows (k : Nat) (listed : List (ConversationMember × Conversation)) : List (Int × Int) :=
  listed.map fun (m, conv) => (m.conversationId, max 0 (conv.maxSeq - k))

/-- The rows found for one of the listed conversations. -/
theorem mem_previewRows {t : Tables} {k : Nat} {listed : List (ConversationMember × Conversation)}
    (real : ∀ m conv, (m, conv) ∈ listed → conv ∈ t.conversations.rows ∧ conv.id = m.conversationId)
    {m : ConversationMember} {conv : Conversation} (inside : (m, conv) ∈ listed) {msg : Message} :
    msg ∈ previewRows (windows k listed) k t ∧ msg.conversationId = conv.id ↔
      msg ∈ MessageDao.latest conv.id (max 0 (conv.maxSeq - k)) k t := by
  have own : ∀ {id fromSeq}, msg ∈ MessageDao.latest id fromSeq k t → msg.conversationId = id := by
    intro id fromSeq found
    have row := (List.mem_insertionSort _).mp (List.mem_of_mem_take found)
    have shape := (List.mem_filter.mp row).2
    simp only [Bool.and_eq_true, decide_eq_true_eq] at shape
    exact shape.1
  obtain ⟨known, named⟩ := real m conv inside
  rw [previewRows, windows, List.flatMap_map, List.mem_flatMap]
  constructor
  · rintro ⟨⟨⟨m', conv'⟩, inside', found⟩, here⟩
    obtain ⟨known', named'⟩ := real m' conv' inside'
    have : conv' = conv := Table.eq_of_id known' known (named'.trans ((own found).symm.trans here))
    subst this
    have there : msg ∈ MessageDao.latest m'.conversationId (max 0 (conv'.maxSeq - k)) k t := found
    rwa [← named'] at there
  · intro found
    exact ⟨⟨(m, conv), inside, by rwa [named] at found⟩, own found⟩

/-! ### The last message of a conversation -/

/-- The sender of a message, unless the user was deleted. -/
def senderOf (t : Tables) (m : Message) : Option User :=
  t.users.rows.find? fun u => u.id = m.senderId && u.status ≠ .deleted

/-- What the list of conversations shows of a message. -/
def briefOf (t : Tables) (m : Message) : LastMsgBrief :=
  { senderUid := (senderOf t m).elim [] User.uid
    senderNickname := (senderOf t m).elim [] User.nickname
    content := ConvService.truncateUtf8 m.content 100
    msgType := m.msgType }

/-- Users that were fetched contain the sender if it was asked for. -/
private theorem fetched_sender {t : Tables} {ids : List Int} {m : Message} (asked : m.senderId ∈ ids) :
    ((t.users.rows.filter fun r => r.id ∈ ids && r.status ≠ .deleted).find? fun u => u.id = m.senderId) =
      senderOf t m := by
  rw [List.find?_filter, senderOf]
  congr 1
  funext u
  by_cases same : u.id = m.senderId
  · simp [same, asked]
  · simp [same]

section LatestOf
open ConvService
variable {previews : List Message} {conversationId : Int}

/-- The message with the greater number, the first of two that are equal. -/
private theorem newer_cases {best : Option Message} {first m : Message}
    (found : (match best with
      | none => some first
      | some b => if b.seq < first.seq then some first else best) = some m) : best = some m ∨ first = m := by
  cases best with
  | none => exact .inr (Option.some.inj found)
  | some b =>
    dsimp only at found
    split at found
    · exact .inr (Option.some.inj found)
    · exact .inl found

private theorem newer_some {best : Option Message} {first : Message} :
    (match best with
      | none => some first
      | some b => if b.seq < first.seq then some first else best) ≠ none := by
  cases best with
  | none => exact Option.some_ne_none first
  | some b =>
    dsimp only
    split <;> exact Option.some_ne_none _

private theorem latestOf_cases (best : Option Message) :
    (∀ m, previews.foldl (fun best m =>
      if m.conversationId = conversationId then
        match best with
        | none => some m
        | some b => if b.seq < m.seq then some m else best
      else best) best = some m → best = some m ∨ m ∈ previews ∧ m.conversationId = conversationId) ∧
    (previews.foldl (fun best m =>
      if m.conversationId = conversationId then
        match best with
        | none => some m
        | some b => if b.seq < m.seq then some m else best
      else best) best = none → best = none ∧ ∀ m ∈ previews, m.conversationId ≠ conversationId) := by
  induction previews generalizing best with
  | nil => simp
  | cons first rest ih =>
    rw [List.foldl_cons]
    refine ⟨fun m found => ?_, fun none => ?_⟩
    · obtain before | ⟨later, own⟩ := (ih _).1 m found
      · by_cases own : first.conversationId = conversationId
        · rw [if_pos own] at before
          obtain kept | taken := newer_cases before
          · exact .inl kept
          · exact .inr ⟨taken ▸ List.mem_cons_self, taken ▸ own⟩
        · rw [if_neg own] at before
          exact .inl before
      · exact .inr ⟨List.mem_cons_of_mem _ later, own⟩
    · obtain ⟨before, others⟩ := (ih _).2 none
      by_cases own : first.conversationId = conversationId
      · rw [if_pos own] at before
        exact absurd before newer_some
      · rw [if_neg own] at before
        exact ⟨before, List.forall_mem_cons.mpr ⟨own, others⟩⟩

/-- A preview that is shown is one of the conversation's. -/
theorem latestOf_some {m : Message} (found : latestOf previews conversationId = some m) :
    m ∈ previews ∧ m.conversationId = conversationId := by
  obtain before | shown := (latestOf_cases none).1 m found
  · cases before
  · exact shown

/-- None is shown only if there is none. -/
theorem latestOf_none (missing : latestOf previews conversationId = none) :
    ∀ m ∈ previews, m.conversationId ≠ conversationId := ((latestOf_cases none).2 missing).2

end LatestOf

/-- The reply to a request for the list of conversations. -/
def convListed (conn : ConnId) (seq : UInt32) (items : List ConvItem) : Event :=
  .sent conn
    { cmd := .getConvListAck
      seq := seq
      uid := 0
      body := .getConvListAck { code := errc.kOk.code, msg := errc.kOk.msg, conversations := items } }

/-- A conversation that the user has not hidden. -/
def isVisible (m : ConversationMember) : Bool := m.hidden = 0

/-- The last messages found for the conversations that a user sees. -/
def lastRows (userId : Int) (t : Tables) : List Message :=
  previewRows (windows 1 (listing userId isVisible t)) 1 t

/-- Without failures every visible conversation is listed with the message found for it. -/
theorem convList_served {w : World} {conn : ConnId} {seq : UInt32} (sound : w.faults = [])
    (loggedIn : (w.mem.connections conn).userId ≠ 0) :
    (ConvService.handleGetConvList conn seq).Ensures w fun o => ∃ (others : Int → Option Int) (users : List User),
      o.events = [convListed conn seq ((listing (w.mem.connections conn).userId isVisible w.tables).map
        fun (m, conv) => ConvService.convItem conv m (others conv.id) users
          (ConvService.latestOf (lastRows (w.mem.connections conn).userId w.tables) conv.id))] ∧
      ∀ m conv, (m, conv) ∈ listing (w.mem.connections conn).userId isVisible w.tables →
        ∀ msg ∈ ConvService.latestOf (lastRows (w.mem.connections conn).userId w.tables) conv.id,
          (users.find? fun u : User => u.id = msg.senderId) = senderOf w.tables msg := by
  refine ensures_peek (Prog.ensures_ite (fun unknown => absurd unknown loggedIn) fun _ => ?_)
  generalize (w.mem.connections conn).userId = userId
  refine sound_finds sound finds_query fun memberships w₁ found same sound => ?_
  subst found
  refine sound_finds sound (finds_conversations _) fun fetched w₂ found same₂ sound => ?_
  have tables := same.trans same₂
  rw [same.tables] at found
  subst found
  have listed := listing_fetched userId isVisible w.tables
    (((w.tables.members.rows.filter fun m => m.userId = userId).filter isVisible).map
      ConversationMember.conversationId) fun m inside => List.mem_map_of_mem inside
  have visible : isVisible = fun m => decide (m.hidden = 0) := rfl
  rw [visible] at listed ⊢
  dsimp only
  rw [listed, ← visible]
  refine sound_finds sound (finds_unless ?_ (finds_latest _ 1)) fun previews w₃ found same₃ sound => ?_
  · intro nothing t
    rw [List.isEmpty_iff.mp nothing]
    rfl
  have shown : previews = lastRows userId w.tables := by
    rw [found, tables.tables]
    rfl
  subst shown
  refine sound_finds sound (finds_unless (fun _ _ => trivial) (finds_membersOf _)) fun members w₄ _ same₄ sound => ?_
  refine sound_finds sound (finds_unless ?_ (finds_users _)) fun users w₅ found same₅ sound => ?_
  · intro nothing t
    rw [List.isEmpty_iff.mp nothing]
    simp
  refine ⟨fun id => ((members.filter fun m => m.userId ≠ userId).reverse.find? fun m => m.conversationId = id).map
    ConversationMember.userId, users, rfl, fun m conv inside msg last_ => ?_⟩
  rw [found, ((tables.trans same₃).trans same₄).tables]
  refine fetched_sender (List.mem_append_right _ (List.mem_map_of_mem (List.mem_filterMap.mpr ⟨(m, conv), inside, ?_⟩)))
  rwa [← (of_listing inside).2]

/-- The list shows of every conversation the message with the greatest seq. -/
def LastMsgLatest (t : Tables) (items : List ConvItem) : Prop :=
  ∀ item ∈ items, ∀ m, IsNewest 1 item.conversationId t m → item.lastMsg = briefOf t m

/-- The newest message of a conversation looks like none. -/
def BlankPreview (t : Tables) (conv : Conversation) : Prop :=
  ∀ m, IsNewest 1 conv.id t m → briefOf t m = {}

/-- What the list says of the last message, from the message that was found. -/
private theorem convItem_lastMsg {t : Tables} {conv : Conversation} {m : ConversationMember} {other : Option Int}
    {users : List User} {latest : Option Message}
    (cached : ∀ msg ∈ latest, (users.find? fun u : User => u.id = msg.senderId) = senderOf t msg) :
    (ConvService.convItem conv m other users latest).lastMsg = latest.elim {} (briefOf t) := by
  cases latest with
  | none => rfl
  | some msg =>
    have sender := cached msg rfl
    simp only [ConvService.convItem, Option.elim_some, briefOf, ← sender]

/-- Messages of one conversation with the same seq are the same. -/
private theorem eq_of_seq {t : Tables} (inv : SeqInv (· ≠ ·) t) {conversationId : Int} {m m' : Message}
    (stored : Stored conversationId t m) (stored' : Stored conversationId t m') (seq : m.seq = m'.seq) : m = m' := by
  by_contra different
  have symm : Std.Symm fun a b : Message => a.conversationId = b.conversationId → a.seq ≠ b.seq :=
    ⟨fun _ _ apart same => (apart same.symm).symm⟩
  exact inv.apart.forall stored.1 stored'.1 different (stored.2.trans stored'.2.symm) seq

/-- A stored message with the `max_seq` of its conversation is the newest. -/
private theorem newest_eq {t : Tables} (inv : SeqInv (· ≠ ·) t) {conv : Conversation} {m m' : Message}
    (known : conv ∈ t.conversations.rows) (newest : IsNewest 1 conv.id t m) (stored : Stored conv.id t m')
    (last_ : conv.maxSeq - (1 : Nat) < m'.seq) : m' = m := by
  have high := (storedSeqs_within inv known newest.2.1).2
  have high' := (storedSeqs_within inv known (mem_storedSeqs.mpr ⟨m', stored, rfl⟩)).2
  refine eq_of_seq inv stored newest.1 ?_
  by_contra apart
  have less : m.seq < m'.seq := by omega
  have greater : m'.seq ∈ (storedSeqs conv.id t).filter fun other => m.seq < other :=
    Finset.mem_filter.mpr ⟨mem_storedSeqs.mpr ⟨m', stored, rfl⟩, less⟩
  exact absurd newest.2.2 (not_lt.mpr (Finset.card_pos.mpr ⟨_, greater⟩))

/-- The conversation list is right about a conversation exactly without a gap at its end, or
    where its last message looks like none. -/
private theorem lastMsg_iff {t : Tables} (inv : SeqInv (· ≠ ·) t) {userId : Int} {m : ConversationMember}
    {conv : Conversation} (inside : (m, conv) ∈ listing userId isVisible t) :
    (∀ msg, IsNewest 1 conv.id t msg →
      (ConvService.latestOf (lastRows userId t) conv.id).elim {} (briefOf t) = briefOf t msg) ↔
      NoGap 1 t conv ∨ BlankPreview t conv := by
  have known := (of_listing inside).1
  have found : ∀ {msg}, msg ∈ lastRows userId t ∧ msg.conversationId = conv.id ↔ _ :=
    @mem_previewRows t 1 _ (fun _ _ => of_listing) m conv inside
  cases shown : ConvService.latestOf (lastRows userId t) conv.id with
  | some last_ =>
    have row := found.mp (latestOf_some shown)
    rw [mem_latest inv known] at row
    refine iff_of_true (fun msg newest => ?_) (.inl fun _ _ _ s high' low' => ?_)
    · rw [newest_eq inv known newest row.1 row.2]
      rfl
    · have high := (storedSeqs_within inv known (mem_storedSeqs.mpr ⟨last_, row.1, rfl⟩)).2
      exact mem_storedSeqs.mpr ⟨last_, row.1, by omega⟩
  | none =>
    constructor
    · intro right
      exact .inr fun msg newest => (right msg newest).symm
    · rintro (full | blank) msg newest
      · have row := ((latest_newest inv known 1).mpr full msg).mpr newest
        obtain ⟨there, own⟩ := found.mpr row
        exact absurd own (latestOf_none shown msg there)
      · exact (blank msg newest).symm

/-- Every listed conversation has its entry. -/
theorem lastMsgLatest_iff {t : Tables} (inv : SeqInv (· ≠ ·) t) {userId : Int} {others : Int → Option Int}
    {users : List User}
    (cached : ∀ m conv, (m, conv) ∈ listing userId isVisible t →
      ∀ msg ∈ ConvService.latestOf (lastRows userId t) conv.id,
        (users.find? fun u : User => u.id = msg.senderId) = senderOf t msg) :
    LastMsgLatest t ((listing userId isVisible t).map fun (m, conv) =>
      ConvService.convItem conv m (others conv.id) users (ConvService.latestOf (lastRows userId t) conv.id)) ↔
      ∀ m conv, (m, conv) ∈ listing userId isVisible t → NoGap 1 t conv ∨ BlankPreview t conv := by
  rw [LastMsgLatest, List.forall_mem_map, Prod.forall]
  refine forall₂_congr fun m conv => forall_congr' fun inside => ?_
  rw [← lastMsg_iff inv inside, convItem_lastMsg (cached m conv inside)]
  rfl

/-! ### The snapshot of what is unread -/

/-- What the snapshot shows of a message. -/
def snapshotOf (t : Tables) (m : Message) : SyncMsgItem :=
  { serverSeq := m.seq
    senderUid := (senderOf t m).elim [] User.uid
    content := m.content
    msgType := m.msgType
    serverTime := m.createdAt
    status := m.status }

/-- The reply to a request for the snapshot. -/
def unreadListed (conn : ConnId) (seq : UInt32) (items : List UnreadItem) (totalUnread : Int) : Event :=
  .sent conn
    { cmd := .syncUnreadResp
      seq := seq
      uid := 0
      body := .syncUnreadResp { code := errc.kOk.code, items := items, totalUnread := totalUnread } }

/-- The conversations in which a user has not read everything. -/
def unreadOf (userId : Int) (t : Tables) : List (ConversationMember × Conversation) :=
  (listing userId (fun _ => true) t).filter fun (m, conv) => 0 < conv.maxSeq - m.lastReadSeq

/-- The newest messages found for them. -/
def unreadRows (userId : Int) (t : Tables) : List Message := previewRows (windows 3 (unreadOf userId t)) 3 t

theorem of_unread {userId : Int} {t : Tables} {m : ConversationMember} {conv : Conversation}
    (unread : (m, conv) ∈ unreadOf userId t) : conv ∈ t.conversations.rows ∧ conv.id = m.conversationId :=
  of_listing (List.mem_of_mem_filter unread)

/-- The items are filled with what the snapshot shows of the rows found. -/
theorem finds_filled (userId : Int) (t : Tables) :
    Finds (fun t' items => t' = t → items = (unreadOf userId t).map fun (m, conv) =>
        { SyncService.unreadItem conv m with
          latestMessages := ((unreadRows userId t).filter fun msg => msg.conversationId = m.conversationId).map
            (snapshotOf t) })
      (SyncService.unreadFilled ((unreadOf userId t).map fun (m, c) => SyncService.unreadItem c m)
        (windows 3 (unreadOf userId t))) := by
  unfold SyncService.unreadFilled
  split
  · rename_i nothing
    refine finds_ret fun t' _ => ?_
    rw [windows, List.isEmpty_iff, List.map_eq_nil_iff] at nothing
    simp [nothing]
  · refine finds_bind (finds_latest _ 3) fun previews => finds_bind (finds_users _) fun users => finds_ret ?_
    rintro t' found rows rfl
    have shown : previews = unreadRows userId t' := rows
    have named : ∀ msg ∈ previews, SyncService.unreadMessage users msg = snapshotOf t' msg := by
      intro msg inside
      have sender := @fetched_sender t' _ msg (List.mem_map_of_mem inside)
      rw [← found] at sender
      simp only [SyncService.unreadMessage, snapshotOf, sender]
    rw [SyncService.unreadPreviews, List.map_map, ← shown]
    refine List.map_congr_left fun entry _ => ?_
    have texts := List.map_congr_left fun msg inside =>
      named msg (List.mem_of_mem_filter (p := fun msg => msg.conversationId = entry.1.conversationId) inside)
    exact congrArg (fun messages => { SyncService.unreadItem entry.2 entry.1 with latestMessages := messages }) texts

/-- Without failures every conversation with unread messages is listed with the rows found for it, and all of them are counted. -/
theorem unread_counted {w : World} {conn : ConnId} {seq : UInt32} (sound : w.faults = [])
    (loggedIn : (w.mem.connections conn).userId ≠ 0) :
    (SyncService.handleSyncUnread conn seq).Ensures w fun o =>
      o.events = [unreadListed conn seq ((unreadOf (w.mem.connections conn).userId w.tables).map fun (m, conv) =>
        { SyncService.unreadItem conv m with
          latestMessages := ((unreadRows (w.mem.connections conn).userId w.tables).filter
            fun msg => msg.conversationId = m.conversationId).map (snapshotOf w.tables) })
        ((listing (w.mem.connections conn).userId (fun _ => true) w.tables).map fun (m, c) => max 0 (c.maxSeq - m.lastReadSeq)).sum] := by
  refine ensures_peek (Prog.ensures_ite (fun unknown => absurd unknown loggedIn) fun _ => ?_)
  generalize (w.mem.connections conn).userId = userId
  refine sound_finds sound finds_query fun memberships w₁ found same sound => ?_
  subst found
  refine sound_finds sound (finds_conversations _) fun fetched w₂ found same₂ sound => ?_
  have tables := same.trans same₂
  rw [same.tables] at found
  subst found
  have listed := listing_fetched userId (fun _ => true) w.tables
    ((w.tables.members.rows.filter fun m => m.userId = userId).map ConversationMember.conversationId)
    fun m inside => List.mem_map_of_mem (List.mem_of_mem_filter inside)
  rw [List.filter_true] at listed
  dsimp only
  rw [listed]
  refine sound_finds sound (finds_filled userId w.tables) fun items w₃ found same₃ sound => ?_
  rw [found tables.tables]
  rfl

/-- What an entry counts, without the messages that it shows. -/
def UnreadItem.counted (item : UnreadItem) : Int × Int := (item.conversationId, item.count)

/-- The queries for the newest messages tell nobody anything. -/
private theorem mute_batches (k rounds : Nat) (convFromSeqs : List (Int × Int)) (w : World) :
    (MessageDao.latestBatches k rounds convFromSeqs).Ensures w fun o => o.events = [] := by
  induction rounds generalizing convFromSeqs w with
  | zero => exact Prog.ensures_ret rfl
  | succ rounds ih =>
    unfold MessageDao.latestBatches
    split
    · exact Prog.ensures_ret rfl
    · refine ensures_any fun batch => Prog.ensures_bind (Prog.ensures_mono (ih _ _) fun o silent => ?_)
      exact Prog.ensures_ret (by rw [silent]; rfl)

/-- Whatever these queries answer, the entries count the same. -/
private theorem filled_counts (items : List UnreadItem) (previewConvs : List (Int × Int)) (w : World) :
    (SyncService.unreadFilled items previewConvs).Ensures w fun o =>
      o.events = [] ∧ o.value.map UnreadItem.counted = items.map UnreadItem.counted := by
  unfold SyncService.unreadFilled
  split
  · exact Prog.ensures_ret ⟨rfl, rfl⟩
  · have same : ∀ previews users, (SyncService.unreadPreviews items previews users).map UnreadItem.counted =
        items.map UnreadItem.counted := fun previews users => by
      rw [SyncService.unreadPreviews, List.map_map]
      rfl
    refine Prog.ensures_bind (Prog.ensures_mono (mute_batches 3 _ previewConvs w) fun o silent => ?_)
    rw [silent]
    unfold UserDao.findByIds
    split
    · exact Prog.ensures_ret ⟨rfl, same _ _⟩
    · exact ensures_any fun users => Prog.ensures_ret ⟨rfl, same _ _⟩

/-- Behind the first two queries the entries are filled and sent. -/
private theorem told_filled {conn : ConnId} {seq : UInt32} (unread : List (ConversationMember × Conversation)) (totalUnread : Int)
    (w : World) :
    (SyncService.unreadFilled (unread.map fun (m, c) => SyncService.unreadItem c m) (windows 3 unread) >>= fun items =>
      SyncService.sendUnreadResp conn seq { code := errc.kOk.code, items := items, totalUnread := totalUnread }).Ensures w
      fun o => ∃ items, o.events = [unreadListed conn seq items totalUnread] ∧
        items.map UnreadItem.counted = unread.map fun (m, c) => (m.conversationId, max 0 (c.maxSeq - m.lastReadSeq)) := by
  refine Prog.ensures_bind (Prog.ensures_mono (filled_counts _ _ w) fun o filled => ?_)
  obtain ⟨silent, same⟩ := filled
  refine ⟨o.value, by rw [silent]; rfl, same.trans ?_⟩
  rw [List.map_map]
  rfl

/-- As long as the memberships and the conversations are read, all that is unread is counted, whatever becomes of the
    queries for the newest messages. -/
theorem unread_told {w : World} {conn : ConnId} {seq : UInt32} (memberships : ¬StatementFails w.faults 0)
    (conversations : ¬StatementFails w.faults 1) (loggedIn : (w.mem.connections conn).userId ≠ 0) :
    (SyncService.handleSyncUnread conn seq).Ensures w fun o => ∃ items, o.events = [unreadListed conn seq items
        ((listing (w.mem.connections conn).userId (fun _ => true) w.tables).map fun (m, c) => max 0 (c.maxSeq - m.lastReadSeq)).sum] ∧
      items.map UnreadItem.counted = (unreadOf (w.mem.connections conn).userId w.tables).map fun (m, c) =>
        (m.conversationId, max 0 (c.maxSeq - m.lastReadSeq)) := by
  refine ensures_peek (Prog.ensures_ite (fun unknown => absurd unknown loggedIn) fun _ => ?_)
  generalize (w.mem.connections conn).userId = userId
  have conversations : ¬w.spend.fails = true := by simpa [StatementFails, Store.fails] using conversations
  refine ensures_query (fun failed => absurd failed memberships) fun _ => ?_
  have listed := listing_fetched userId (fun _ => true) w.tables
    ((w.tables.members.rows.filter fun m => m.userId = userId).map ConversationMember.conversationId)
    fun m inside => List.mem_map_of_mem (List.mem_of_mem_filter inside)
  rw [List.filter_true] at listed
  unfold ConversationDao.findByIds
  split
  · next none' =>
    have empty := List.map_eq_nil_iff.mp (List.isEmpty_iff.mp none')
    have same : (w.tables.members.rows.filter fun m => m.userId = userId).filterMap (fun m =>
        (([] : List Conversation).find? fun c => c.id = m.conversationId).map fun c => (m, c)) =
          listing userId (fun _ => true) w.tables := by
      rw [← listed, empty]
      rfl
    refine Prog.ensures_bind (Prog.ensures_ret ?_)
    dsimp only
    rw [same]
    exact told_filled (unreadOf userId w.tables) _ _
  · refine ensures_query (fun failed => absurd failed conversations) fun _ => ?_
    dsimp only
    rw [spend_tables, listed]
    exact told_filled (unreadOf userId w.tables) _ _

theorem unread_served {w : World} {conn : ConnId} {seq : UInt32} (sound : w.faults = [])
    (loggedIn : (w.mem.connections conn).userId ≠ 0) :
    (SyncService.handleSyncUnread conn seq).Ensures w fun o => ∃ totalUnread,
      o.events = [unreadListed conn seq ((unreadOf (w.mem.connections conn).userId w.tables).map fun (m, conv) =>
        { SyncService.unreadItem conv m with
          latestMessages := ((unreadRows (w.mem.connections conn).userId w.tables).filter
            fun msg => msg.conversationId = m.conversationId).map (snapshotOf w.tables) }) totalUnread] :=
  ⟨_, unread_counted sound loggedIn⟩

/-- The snapshot shows of every conversation it lists the three newest messages. -/
def SnapshotLatest (t : Tables) (items : List UnreadItem) : Prop :=
  ∀ item ∈ items, ∀ shown, shown ∈ item.latestMessages ↔
    ∃ m, IsNewest 3 item.conversationId t m ∧ shown = snapshotOf t m

/-- The snapshot is right about a conversation exactly without a gap at its end. -/
private theorem snapshot_iff {t : Tables} (inv : SeqInv (· ≠ ·) t) {userId : Int} {m : ConversationMember}
    {conv : Conversation} (inside : (m, conv) ∈ unreadOf userId t) :
    (∀ shown, shown ∈ ((unreadRows userId t).filter fun msg => msg.conversationId = m.conversationId).map
        (snapshotOf t) ↔ ∃ msg, IsNewest 3 m.conversationId t msg ∧ shown = snapshotOf t msg) ↔ NoGap 3 t conv := by
  obtain ⟨known, named⟩ := of_unread inside
  rw [← latest_newest inv known, ← named]
  have found : ∀ msg, msg ∈ (unreadRows userId t).filter (fun msg => msg.conversationId = conv.id) ↔
      msg ∈ MessageDao.latest conv.id (max 0 (conv.maxSeq - (3 : Nat))) 3 t := by
    intro msg
    rw [List.mem_filter, decide_eq_true_eq]
    exact @mem_previewRows t 3 _ (fun _ _ => of_unread) m conv inside msg
  constructor
  · intro same msg
    have shown := same (snapshotOf t msg)
    rw [List.mem_map] at shown
    constructor
    · intro row
      obtain ⟨msg', newest, alike⟩ := shown.mp ⟨msg, (found msg).mpr row, rfl⟩
      have stored := ((mem_latest inv known).mp row).1
      rwa [eq_of_seq inv stored newest.1 (congrArg SyncMsgItem.serverSeq alike)]
    · intro newest
      obtain ⟨msg', row, alike⟩ := shown.mpr ⟨msg, newest, rfl⟩
      have stored := ((mem_latest inv known).mp ((found msg').mp row)).1
      rw [← eq_of_seq inv stored newest.1 (congrArg SyncMsgItem.serverSeq alike)]
      exact (found msg').mp row
  · intro same shown
    rw [List.mem_map]
    constructor
    · rintro ⟨msg, row, rfl⟩
      exact ⟨msg, (same msg).mp ((found msg).mp row), rfl⟩
    · rintro ⟨msg, newest, rfl⟩
      exact ⟨msg, (found msg).mpr ((same msg).mpr newest), rfl⟩

theorem snapshotLatest_iff {t : Tables} (inv : SeqInv (· ≠ ·) t) (userId : Int) :
    SnapshotLatest t ((unreadOf userId t).map fun (m, conv) =>
      { SyncService.unreadItem conv m with
        latestMessages := ((unreadRows userId t).filter fun msg => msg.conversationId = m.conversationId).map
          (snapshotOf t) }) ↔ ∀ m conv, (m, conv) ∈ unreadOf userId t → NoGap 3 t conv := by
  rw [SnapshotLatest, List.forall_mem_map, Prod.forall]
  exact forall₂_congr fun m conv => forall_congr' fun inside => snapshot_iff inv inside

/-! ### In every reachable state -/

/-- In every state of every run from a database without conversations, whatever has failed, a
    request for the list of conversations that runs without failures shows the newest message of
    each exactly if none has a gap at its end (or looks like it has no message), and a request for
    the snapshot of what is unread shows the three newest messages of each exactly if none has a
    gap among its last three seqs. -/
theorem previews_latest (w : World) (messages : w.tables.messages.rows = [])
    (conversations : w.tables.conversations.rows = []) (moves : List (Move SendCall Meanwhile))
    (around : Surroundings) (sound : around.faults = []) (conn : ConnId) (seq : UInt32)
    (loggedIn : (around.connections conn).userId ≠ 0) :
    (∃ items, (served handle (traffic w moves) ⟨around, .conv (.getConvList conn seq)⟩).events =
        [convListed conn seq items] ∧
      (LastMsgLatest (traffic w moves).tables items ↔
        ∀ m conv, (m, conv) ∈ listing (around.connections conn).userId isVisible (traffic w moves).tables →
          NoGap 1 (traffic w moves).tables conv ∨ BlankPreview (traffic w moves).tables conv)) ∧
    ∃ items totalUnread, (served SyncService.handle (traffic w moves) ⟨around, .syncUnread conn seq⟩).events =
        [unreadListed conn seq items totalUnread] ∧
      (SnapshotLatest (traffic w moves).tables items ↔
        ∀ m conv, (m, conv) ∈ unreadOf (around.connections conn).userId (traffic w moves).tables →
          NoGap 3 (traffic w moves).tables conv) := by
  have inv := traffic_seqs messages conversations moves
  generalize traffic w moves = now at inv ⊢
  constructor
  · obtain ⟨others, users, events, cached⟩ := @convList_served (around.enter now) conn seq sound loggedIn
    exact ⟨_, events, lastMsgLatest_iff inv cached⟩
  · obtain ⟨totalUnread, events⟩ := @unread_served (around.enter now) conn seq sound loggedIn
    exact ⟨_, totalUnread, events, snapshotLatest_iff inv _⟩

/-- Users 1 and 2 are friends, user 1 has sent two messages, and the row of the second was not
    inserted. -/
def gapped : List (Move SendCall Meanwhile) :=
  ((befriending ++ [keyedSend 1 [97] [7]]).map fun call => .environment (.serves call)) ++
    [.environment (.serves { keyedSend 1 [98] [8] with faults := [false, false, false, false, false, true] })]

/-- The message that was stored. -/
def greeted : Message :=
  { id := 1, conversationId := 1, senderId := 1, seq := 1, msgType := 1, content := [97], clientMsgId := [7],
    status := .normal, createdAt := Calendar.formatUtc 0 }

/-- Whoever asks then is shown no last message. -/
theorem previews_gap : ¬∀ (w : World), w.tables.messages.rows = [] → w.tables.conversations.rows = [] →
    ∀ (moves : List (Move SendCall Meanwhile)) (around : Surroundings), around.faults = [] →
    ∀ (conn : ConnId) (seq : UInt32), (around.connections conn).userId ≠ 0 →
      (∀ items, convListed conn seq items ∈
          (served handle (traffic w moves) ⟨around, .conv (.getConvList conn seq)⟩).events →
        LastMsgLatest (traffic w moves).tables items) ∧
      ∀ items totalUnread, unreadListed conn seq items totalUnread ∈
          (served SyncService.handle (traffic w moves) ⟨around, .syncUnread conn seq⟩).events →
        SnapshotLatest (traffic w moves).tables items := by
  intro claim
  have newest : IsNewest 1 1 (traffic twoUsers gapped).tables greeted := by
    unfold IsNewest Stored Newest
    decide
  have latest := (claim twoUsers rfl rfl gapped bothOnline rfl 1 0 (by decide)).1
    [{ conversationId := 1, type := 1, unreadCount := 2 }] (by decide)
  have shown := latest _ (List.mem_singleton.mpr rfl) greeted newest
  exact absurd shown (by decide)

/-- The snapshot is right in that state, since no older message is stored. -/
theorem previews_latest_gapped :
    ∃ items totalUnread,
      (served SyncService.handle (traffic twoUsers gapped) ⟨bothOnline, .syncUnread 1 0⟩).events =
        [unreadListed 1 0 items totalUnread] ∧
      SnapshotLatest (traffic twoUsers gapped).tables items := by
  obtain ⟨items, totalUnread, events, latest⟩ := (previews_latest twoUsers rfl rfl gapped bothOnline rfl 1 0 (by decide)).2
  refine ⟨items, totalUnread, events, latest.mpr fun m conv unread s stored old => ?_⟩
  have newer : ∀ entry ∈ unreadOf 1 (traffic twoUsers gapped).tables,
      ∀ s ∈ storedSeqs entry.2.id (traffic twoUsers gapped).tables, ¬s ≤ entry.2.maxSeq - 3 := by decide
  exact absurd old (newer (m, conv) unread s stored)

end NovaIIM
