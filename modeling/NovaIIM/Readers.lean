import NovaIIM.Contents
import NovaIIM.SyncService

/-!
What the readers of messages answer, in two runs side by side.

Three handlers build their answers of message rows: a page of a conversation, the
snapshot of what is unread, and the list of conversations. `Served` relates the bodies
they build of rows that are the same behind a mask, and remembers what is known of the
rows that were read.
-/
namespace NovaIIM
open Store

/-! ### Rows behind a mask -/

section Rows
variable {hidden : Int → Int → Bool}

@[simp] theorem Message.masked_conversationId (m : Message) : (m.masked hidden).conversationId = m.conversationId := by
  unfold Message.masked
  split <;> rfl

@[simp] theorem Message.masked_seq (m : Message) : (m.masked hidden).seq = m.seq := by
  unfold Message.masked
  split <;> rfl

@[simp] theorem Message.masked_senderId (m : Message) : (m.masked hidden).senderId = m.senderId := by
  unfold Message.masked
  split <;> rfl

/-- Messages that are the same behind a mask differ in nothing but a hidden content. -/
theorem Message.eq_or_content {m m' : Message} (alike : m.masked hidden = m'.masked hidden) :
    m = m' ∨ hidden m.conversationId m.id = true ∧ m' = { m with content := m'.content } := by
  have ids : m.id = m'.id := by
    simpa only [Message.masked_id] using congrArg Message.id alike
  have conversations : m.conversationId = m'.conversationId := by
    simpa using congrArg Message.conversationId alike
  unfold Message.masked at alike
  rw [← conversations, ← ids] at alike
  by_cases veiled : hidden m.conversationId m.id = true
  · rw [if_pos veiled, if_pos veiled] at alike
    refine .inr ⟨veiled, ?_⟩
    obtain ⟨id, conversationId, senderId, seq, msgType, content, encrypted, status, clientMsgId, createdAt⟩ := m
    obtain ⟨id', conversationId', senderId', seq', msgType', content', encrypted', status', clientMsgId', createdAt'⟩ := m'
    simp_all
  · rw [if_neg veiled, if_neg veiled] at alike
    exact .inl alike

/-- Lists of messages that are the same behind a mask. -/
def AlikeRows (hidden : Int → Int → Bool) (ms ms' : List Message) : Prop :=
  ms.map (Message.masked hidden) = ms'.map (Message.masked hidden)

theorem AlikeRows.pairs {ms ms' : List Message} (alike : AlikeRows hidden ms ms') :
    List.Forall₂ (fun m m' => m.masked hidden = m'.masked hidden) ms ms' := by
  rw [AlikeRows, ← List.forall₂_eq_eq_eq] at alike
  exact List.forall₂_map_left_iff.mp (List.forall₂_map_right_iff.mp alike)

theorem AlikeRows.eq {ms ms' : List Message} (alike : AlikeRows hidden ms ms')
    (plain : ∀ m ∈ ms, hidden m.conversationId m.id = false) : ms = ms' := by
  have pairs := alike.pairs
  clear alike
  induction pairs with
  | nil => rfl
  | cons same rest ih =>
    rename_i m m' ms ms'
    rcases Message.eq_or_content same with rfl | ⟨veiled, -⟩
    · rw [ih fun other inside => plain other (List.mem_cons_of_mem _ inside)]
    · rw [plain m List.mem_cons_self] at veiled
      cases veiled

theorem AlikeRows.append {ms ms' rest rest' : List Message} (first : AlikeRows hidden ms ms')
    (second : AlikeRows hidden rest rest') : AlikeRows hidden (ms ++ rest) (ms' ++ rest') := by
  unfold AlikeRows at *
  rw [List.map_append, List.map_append, first, second]

theorem AlikeRows.senders {ms ms' : List Message} (alike : AlikeRows hidden ms ms') :
    ms.map Message.senderId = ms'.map Message.senderId := by
  have := congrArg (List.map Message.senderId) alike
  simpa [List.map_map, Function.comp_def] using this

/-- The rows of the message tables are the same behind the mask. -/
theorem rows_alike {t t' : Tables} (alike : t.masked hidden = t'.masked hidden) :
    AlikeRows hidden t.messages.rows t'.messages.rows := by
  have := congrArg (fun t : Tables => t.messages.rows) alike
  unfold AlikeRows
  simpa [Tables.masked] using this

/-- A choice of rows that does not look at the content, in an order that does not either. -/
theorem AlikeRows.choose {ms ms' : List Message} (alike : AlikeRows hidden ms ms') {selected : Message → Bool}
    (blind : ∀ m, selected (m.masked hidden) = selected m) {before : Message → Message → Prop} [DecidableRel before]
    (order : ∀ m m', before (m.masked hidden) (m'.masked hidden) ↔ before m m') (limit : Nat) :
    AlikeRows hidden (((ms.filter selected).insertionSort before).take limit)
      (((ms'.filter selected).insertionSort before).take limit) := by
  have moved : ∀ rows : List Message, (((rows.filter selected).insertionSort before).take limit).map (Message.masked hidden) =
      ((((rows.map (Message.masked hidden)).filter selected).insertionSort before).take limit) := by
    intro rows
    have same : selected ∘ Message.masked hidden = selected := funext blind
    rw [List.map_take, List.map_insertionSort before before _ _ fun m _ m' _ => (order m m').symm, List.filter_map, same]
  rw [AlikeRows, moved, moved, alike]

end Rows

/-! ### What is read -/

/-- Two worlds side by side: the tables of the first meet a condition, and the sessions are given. -/
abbrev Beside (hidden : Int → Int → Bool) (fits : Tables → Prop) (seen : Sessions) :
    World → World → Prop := Twin (Tables.masked hidden) id fits sessions seen

/-- A row of tables that meet a condition. -/
def StoredIn (fits : Tables → Prop) (m : Message) : Prop := ∃ t, fits t ∧ m ∈ t.messages.rows

/-- A member in tables that meet a condition. -/
def Belongs (fits : Tables → Prop) (conversationId userId : Int) : Prop :=
  ∃ t, fits t ∧ ∃ m ∈ t.members.rows, m.conversationId = conversationId ∧ m.userId = userId

section Queries
variable {hidden : Int → Int → Bool} {fits : Tables → Prop} {seen : Sessions}
  {R : Event → Event → Prop}

/-- Messages that are the same behind the mask, all of them stored in one of some conversations. -/
def SameMessages (hidden : Int → Int → Bool) (fits : Tables → Prop) (conversations : Int → Prop) (ms ms' : List Message) :
    Prop :=
  AlikeRows hidden ms ms' ∧ ∀ m ∈ ms, StoredIn fits m ∧ conversations m.conversationId

/-- A query that does not look at messages; what it answers is known of tables that meet the condition. -/
theorem twins_blind {α : Type} {failed : α} {answer : Tables → α} {known : α → Prop}
    (blind : ∀ t, answer (t.masked hidden) = answer t) (misses : known failed)
    (reads : ∀ t, fits t → known (answer t)) :
    Twins (Beside hidden fits seen) (fun a b => a = b ∧ known a) R (query failed answer) (query failed answer) :=
  twins_query ⟨rfl, misses⟩ fun t t' alike fit => ⟨by rw [← blind t, alike, blind t'], reads t fit⟩

theorem twins_connection (conn : ConnId) :
    Twins (Beside hidden fits seen) (fun a b => a = b ∧ a = seen.connections conn) R (connection conn) (connection conn) :=
  twins_mono (twins_peek _) (fun a b ⟨same, m, sees, looks⟩ => ⟨same, by rw [← looks, ← sees]; rfl⟩) fun _ _ r => r

theorem twins_isMember (conversationId userId : Int) :
    Twins (Beside hidden fits seen) (fun a b => a = b ∧ (a = true → Belongs fits conversationId userId)) R
      (ConversationDao.isMember conversationId userId) (ConversationDao.isMember conversationId userId) := by
  refine twins_blind (fun _ => rfl) (fun claim => absurd claim Bool.false_ne_true) fun t fit found => ⟨t, fit, ?_⟩
  obtain ⟨m, there, named⟩ := List.any_eq_true.mp found
  exact ⟨m, there, by simpa using named⟩

/-- A query for the rows with some ids, none for no ids. -/
theorem twins_selected {α : Type} {ids : List Int} {answer : Tables → List α}
    (blind : ∀ t, answer (t.masked hidden) = answer t) :
    Twins (Beside hidden fits seen) Eq R (if ids.isEmpty then pure [] else query [] answer)
      (if ids.isEmpty then pure [] else query [] answer) :=
  twins_ite (fun _ => twins_ret rfl) fun _ =>
    twins_query rfl fun t t' alike _ => by rw [← blind t, alike, blind t']

theorem twins_findByIds (ids : List Int) :
    Twins (Beside hidden fits seen) Eq R (UserDao.findByIds ids) (UserDao.findByIds ids) :=
  twins_selected fun _ => rfl

/-- Messages that are the same behind the mask, and how they are picked. -/
def PickedAlike (hidden : Int → Int → Bool) (picked : Message → Prop) (ms ms' : List Message) : Prop :=
  AlikeRows hidden ms ms' ∧ ∀ m ∈ ms, picked m

/-- One of the newest messages of one of some conversations, in tables that meet a condition. -/
def LatestIn (fits : Tables → Prop) (limit : Nat) (convs : List (Int × Int)) (m : Message) : Prop :=
  ∃ t, fits t ∧ ∃ conv ∈ convs, m ∈ MessageDao.latest conv.1 conv.2 limit t

theorem LatestIn.stored {limit : Nat} {convs : List (Int × Int)} {m : Message} (latest : LatestIn fits limit convs m) :
    StoredIn fits m ∧ m.conversationId ∈ convs.map Prod.fst := by
  obtain ⟨t, fit, conv, listed, inside⟩ := latest
  obtain ⟨there, named⟩ := List.mem_filter.mp ((List.mem_insertionSort _).mp (List.mem_of_mem_take inside))
  simp only [Bool.and_eq_true, decide_eq_true_eq] at named
  exact ⟨⟨t, fit, there⟩, List.mem_map.mpr ⟨conv, listed, named.1.symm⟩⟩

theorem PickedAlike.same {picked : Message → Prop} {chosen : Int → Prop} {ms ms' : List Message}
    (messages : PickedAlike hidden picked ms ms') (stored : ∀ m, picked m → StoredIn fits m ∧ chosen m.conversationId) :
    SameMessages hidden fits chosen ms ms' :=
  ⟨messages.1, fun m inside => stored m (messages.2 m inside)⟩

theorem twins_getAfterSeq (conversationId after limit : Int) :
    Twins (Beside hidden fits seen) (SameMessages hidden fits (· = conversationId)) R
      (MessageDao.getAfterSeq conversationId after limit) (MessageDao.getAfterSeq conversationId after limit) := by
  refine twins_query ⟨rfl, fun m none => absurd none List.not_mem_nil⟩ fun t t' alike fit => ⟨?_, fun m inside => ?_⟩
  · have rows := rows_alike alike
    have lengths : t.messages.rows.length = t'.messages.rows.length := by simpa using congrArg List.length rows
    rw [lengths]
    exact rows.choose (fun m => by simp) (fun m m' => by simp) _
  · have chosen := (List.mem_insertionSort _).mp (List.mem_of_mem_take inside)
    obtain ⟨there, named⟩ := List.mem_filter.mp chosen
    simp only [Bool.and_eq_true, decide_eq_true_eq] at named
    exact ⟨⟨t, fit, there⟩, named.1⟩

/-- The newest messages of several conversations. -/
private theorem batch_alike {t t' : Tables} (alike : t.masked hidden = t'.masked hidden) (limit : Nat) (batch : List (Int × Int)) :
    AlikeRows hidden (batch.flatMap fun (c, from_) => MessageDao.latest c from_ limit t)
      (batch.flatMap fun (c, from_) => MessageDao.latest c from_ limit t') := by
  induction batch with
  | nil => rfl
  | cons first rest ih =>
    simp only [List.flatMap_cons]
    exact AlikeRows.append ((rows_alike alike).choose (fun m => by simp) (fun m m' => by simp) _) ih

private theorem twins_batches (limit rounds : Nat) (convs : List (Int × Int)) :
    Twins (Beside hidden fits seen) (PickedAlike hidden (LatestIn fits limit convs)) R
      (MessageDao.latestBatches limit rounds convs) (MessageDao.latestBatches limit rounds convs) := by
  induction rounds generalizing convs with
  | zero => exact twins_ret ⟨rfl, fun m none => absurd none List.not_mem_nil⟩
  | succ rounds ih =>
    refine twins_ite (fun _ => twins_ret ⟨rfl, fun m none => absurd none List.not_mem_nil⟩) fun _ => ?_
    refine twins_bind (V := PickedAlike hidden (LatestIn fits limit convs)) ?_ fun ms ms' batch => ?_
    · refine twins_query ⟨rfl, fun m none => absurd none List.not_mem_nil⟩ fun t t' alike fit => ⟨batch_alike alike _ _, fun m inside => ?_⟩
      obtain ⟨conv, chosen, inside⟩ := List.mem_flatMap.mp inside
      exact ⟨t, fit, conv, List.mem_of_mem_take chosen, inside⟩
    · refine twins_bind (ih _) fun rest rest' others => twins_ret ⟨batch.1.append others.1, fun m inside => ?_⟩
      rcases List.mem_append.mp inside with inside | inside
      · exact batch.2 m inside
      · obtain ⟨t, fit, conv, chosen, inside⟩ := others.2 m inside
        exact ⟨t, fit, conv, List.mem_of_mem_drop chosen, inside⟩

theorem twins_getLatest (convs : List (Int × Int)) (limit : Nat) :
    Twins (Beside hidden fits seen) (PickedAlike hidden (LatestIn fits limit convs)) R
      (MessageDao.getLatestByConversations convs limit) (MessageDao.getLatestByConversations convs limit) :=
  twins_batches limit _ convs

end Queries

/-! ### What is answered -/

/-- Bodies built of messages that are the same behind the mask and lie in conversations of a user. -/
inductive Served (hidden : Int → Int → Bool) (fits : Tables → Prop) (userId : Int) : Body → Body → Prop where
  | same (body : Body) : Served hidden fits userId body body
  | page (limit : Int) (users : List User) (ms ms' : List Message)
      (messages : SameMessages hidden fits (Belongs fits · userId) ms ms') :
      Served hidden fits userId (.syncMsgResp (SyncService.pageOf limit ms users))
        (.syncMsgResp (SyncService.pageOf limit ms' users))
  | unread (code totalUnread : Int) (items : List UnreadItem) (users : List User) (ms ms' : List Message)
      (messages : SameMessages hidden fits (Belongs fits · userId) ms ms') :
      Served hidden fits userId
        (.syncUnreadResp ⟨code, SyncService.unreadPreviews items ms users, totalUnread⟩)
        (.syncUnreadResp ⟨code, SyncService.unreadPreviews items ms' users, totalUnread⟩)
  | list (code : Int) (msg : String) (listed : List (ConversationMember × Conversation)) (otherOf : Int → Option Int)
      (users : List User) (ms ms' : List Message)
      (messages : SameMessages hidden fits (Belongs fits · userId) ms ms') :
      Served hidden fits userId
        (.getConvListAck ⟨code, msg, listed.map fun x =>
          ConvService.convItem x.2 x.1 (otherOf x.2.id) users (ConvService.latestOf ms x.2.id)⟩)
        (.getConvListAck ⟨code, msg, listed.map fun x =>
          ConvService.convItem x.2 x.1 (otherOf x.2.id) users (ConvService.latestOf ms' x.2.id)⟩)

/-- Replies on a connection with bodies that are related. -/
def AnsweredBy (related : Body → Body → Prop) (conn : ConnId) (e e' : Event) : Prop :=
  ∃ packet body', e = .sent conn packet ∧ e' = .sent conn { packet with body := body' } ∧ related packet.body body'

/-- Replies on a connection with such bodies. -/
def Answered (hidden : Int → Int → Bool) (fits : Tables → Prop) (userId : Int) (conn : ConnId) (e e' : Event) : Prop :=
  ∃ packet body', e = .sent conn packet ∧ e' = .sent conn { packet with body := body' } ∧
    Served hidden fits userId packet.body body'

section Handlers
variable {hidden : Int → Int → Bool} {fits : Tables → Prop} {seen : Sessions}

theorem SameMessages.weaken {some_ other : Int → Prop} {ms ms' : List Message} (same : SameMessages hidden fits some_ ms ms')
    (wider : ∀ c, some_ c → other c) : SameMessages hidden fits other ms ms' :=
  ⟨same.1, fun m inside => ⟨(same.2 m inside).1, wider _ (same.2 m inside).2⟩⟩

theorem twins_answer {related : Body → Body → Prop} {conn : ConnId} {cmd : Cmd} {seq : UInt32} {body body' : Body}
    (served : related body body') :
    Twins (Beside hidden fits seen) (fun _ _ => True) (AnsweredBy related conn) (sendPacket conn cmd seq body)
      (sendPacket conn cmd seq body') :=
  twins_emits (.cons ⟨_, body', rfl, rfl, served⟩ .nil)

/-- What is answered is related, if two pages of a conversation of the user are. -/
theorem SyncService.twins_pages {related : Body → Body → Prop} (refl : ∀ body, related body body) (conn : ConnId)
    (seq : UInt32) (body : Option SyncMsgReq)
    (page : ∀ req, body = some req → Belongs fits req.conversationId (seen.connections conn).userId → ∀ limit users ms ms',
      SameMessages hidden fits (· = req.conversationId) ms ms' →
      related (.syncMsgResp (pageOf limit ms users)) (.syncMsgResp (pageOf limit ms' users))) :
    Twins (Beside hidden fits seen) (fun _ _ => True) (AnsweredBy related conn)
      (handleSyncMsg conn seq body) (handleSyncMsg conn seq body) := by
  refine twins_bind (twins_connection conn) ?_
  rintro me - ⟨rfl, rfl⟩
  refine twins_ite (fun _ => twins_answer (refl _)) fun _ => ?_
  cases body with
  | none => exact twins_answer (refl _)
  | some req =>
    refine twins_ite (fun _ => twins_answer (refl _)) fun _ => ?_
    refine twins_bind (twins_isMember _ _) ?_
    rintro member _ ⟨rfl, belongs⟩
    refine twins_ite (fun _ => twins_answer (refl _)) fun member => ?_
    refine twins_bind (twins_peek _) ?_
    rintro config - ⟨rfl, -⟩
    refine twins_bind (twins_getAfterSeq _ _ _) fun ms ms' messages => ?_
    unfold syncNamed
    rw [← messages.1.senders]
    refine twins_bind (twins_findByIds _) ?_
    rintro users - rfl
    exact twins_answer (page req rfl (belongs (by simpa using member)) _ _ _ _ messages)

theorem SyncService.twins_handleSyncMsg (conn : ConnId) (seq : UInt32) (body : Option SyncMsgReq) :
    Twins (Beside hidden fits seen) (fun _ _ => True) (Answered hidden fits (seen.connections conn).userId conn)
      (handleSyncMsg conn seq body) (handleSyncMsg conn seq body) :=
  twins_pages .same conn seq body fun _ _ here _ _ _ _ messages =>
    .page _ _ _ _ (messages.weaken fun _ same => same ▸ here)

/-- The memberships of a user are in conversations that the user belongs to. -/
theorem twins_getMembersByUser {R : Event → Event → Prop} (userId : Int) :
    Twins (Beside hidden fits seen) (fun a b => a = b ∧ ∀ m ∈ a, Belongs fits m.conversationId userId) R
      (ConversationDao.getMembersByUser userId) (ConversationDao.getMembersByUser userId) := by
  refine twins_blind (fun _ => rfl) (fun m none => nomatch none) fun t fit m inside => ⟨t, fit, m, ?_⟩
  obtain ⟨there, mine⟩ := List.mem_filter.mp inside
  exact ⟨there, rfl, by simpa using mine⟩

theorem twins_findConversations {R : Event → Event → Prop} (ids : List Int) :
    Twins (Beside hidden fits seen) Eq R (ConversationDao.findByIds ids) (ConversationDao.findByIds ids) :=
  twins_selected fun _ => rfl

theorem SyncService.twins_unreadFilled {R : Event → Event → Prop} {related : Body → Body → Prop}
    (refl : ∀ body, related body body) (items : List UnreadItem) (convs : List (Int × Int))
    (unread : ∀ code total users ms ms', PickedAlike hidden (LatestIn fits 3 convs) ms ms' →
      related (.syncUnreadResp ⟨code, unreadPreviews items ms users, total⟩)
        (.syncUnreadResp ⟨code, unreadPreviews items ms' users, total⟩)) :
    Twins (Beside hidden fits seen)
      (fun filled filled' => ∀ code total, related (.syncUnreadResp ⟨code, filled, total⟩) (.syncUnreadResp ⟨code, filled', total⟩)) R
      (unreadFilled items convs) (unreadFilled items convs) := by
  refine twins_ite (fun _ => twins_ret fun _ _ => refl _) fun _ => ?_
  refine twins_bind (twins_getLatest _ _) fun ms ms' messages => ?_
  rw [← messages.1.senders]
  refine twins_bind (twins_findByIds _) ?_
  rintro users - rfl
  exact twins_ret fun _ _ => unread _ _ _ _ _ messages

/-- What is answered is related, if two snapshots of conversations of the user are. -/
theorem SyncService.twins_snapshots {related : Body → Body → Prop} (refl : ∀ body, related body body) (conn : ConnId)
    (seq : UInt32)
    (unread : ∀ code total items convs users ms ms', (∀ c ∈ convs.map Prod.fst, Belongs fits c (seen.connections conn).userId) →
      PickedAlike hidden (LatestIn fits 3 convs) ms ms' →
      related (.syncUnreadResp ⟨code, unreadPreviews items ms users, total⟩)
        (.syncUnreadResp ⟨code, unreadPreviews items ms' users, total⟩)) :
    Twins (Beside hidden fits seen) (fun _ _ => True) (AnsweredBy related conn)
      (handleSyncUnread conn seq) (handleSyncUnread conn seq) := by
  refine twins_bind (twins_connection conn) ?_
  rintro me - ⟨rfl, rfl⟩
  refine twins_ite (fun _ => twins_answer (refl _)) fun _ => ?_
  refine twins_bind (twins_getMembersByUser _) ?_
  rintro memberships _ ⟨rfl, belong⟩
  refine twins_bind (twins_findConversations _) ?_
  rintro conversations - rfl
  refine twins_bind (twins_unreadFilled refl _ _ fun code total users ms ms' =>
    unread _ _ _ _ _ _ _ fun c listed => ?_) fun filled filled' served => twins_answer (served _ _)
  simp only [List.map_map, List.mem_map, List.mem_filter, List.mem_filterMap, Function.comp_apply, Option.map_eq_some_iff] at listed
  obtain ⟨_, ⟨⟨m, there, _, _, rfl⟩, _⟩, rfl⟩ := listed
  exact belong m there

theorem SyncService.twins_handleSyncUnread (conn : ConnId) (seq : UInt32) :
    Twins (Beside hidden fits seen) (fun _ _ => True) (Answered hidden fits (seen.connections conn).userId conn)
      (handleSyncUnread conn seq) (handleSyncUnread conn seq) :=
  twins_snapshots .same conn seq fun _ _ _ _ _ _ _ belong messages =>
    .unread _ _ _ _ _ _ (messages.same fun _ latest => ⟨latest.stored.1, belong _ latest.stored.2⟩)

/-- A fold whose step sees of the messages only what is behind the mask. -/
theorem foldl_alike {step : Option Message → Message → Option Message}
    (respects : ∀ best best' m m', best.map (Message.masked hidden) = best'.map (Message.masked hidden) →
      m.masked hidden = m'.masked hidden →
      (step best m).map (Message.masked hidden) = (step best' m').map (Message.masked hidden))
    {ms ms' : List Message} (alike : AlikeRows hidden ms ms') :
    (ms.foldl step none).map (Message.masked hidden) = (ms'.foldl step none).map (Message.masked hidden) := by
  suffices fold : ∀ best best' : Option Message, best.map (Message.masked hidden) = best'.map (Message.masked hidden) →
      (ms.foldl step best).map (Message.masked hidden) = (ms'.foldl step best').map (Message.masked hidden) from
    fold none none rfl
  have pairs := alike.pairs
  clear alike
  induction pairs with
  | nil => exact fun _ _ same => same
  | cons same rest ih => exact fun best best' bests => ih _ _ (respects best best' _ _ bests same)

/-- The previewed message of a conversation is the same behind the mask. -/
theorem ConvService.latestOf_alike {ms ms' : List Message} (alike : AlikeRows hidden ms ms') (c : Int) :
    (latestOf ms c).map (Message.masked hidden) = (latestOf ms' c).map (Message.masked hidden) := by
  refine foldl_alike (fun best best' m m' bests same => ?_) alike
  have conversations : m.conversationId = m'.conversationId := by
    simpa using congrArg Message.conversationId same
  have seqs : m.seq = m'.seq := by
    simpa using congrArg Message.seq same
  simp only [← conversations]
  by_cases here : m.conversationId = c
  · rw [if_pos here, if_pos here]
    cases best with
    | none =>
      cases best' with
      | none => simpa using same
      | some b' => simp at bests
    | some b =>
      cases best' with
      | none => simp at bests
      | some b' =>
        have earlier : b.seq = b'.seq := by
          simpa using congrArg Message.seq (Option.some.inj bests)
        simp only [← earlier, ← seqs]
        split
        · simpa using same
        · exact bests
  · rw [if_neg here, if_neg here]
    exact bests

/-- What is answered is related, if two lists of conversations of the user are. -/
theorem ConvService.twins_lists {related : Body → Body → Prop} (refl : ∀ body, related body body) (conn : ConnId)
    (seq : UInt32)
    (list : ∀ (code : Int) (msg : String) (listed : List (ConversationMember × Conversation)) (otherOf : Int → Option Int)
      (convs : List (Int × Int)) (users : List User) (ms ms' : List Message), (∀ c ∈ convs.map Prod.fst, Belongs fits c (seen.connections conn).userId) →
      PickedAlike hidden (LatestIn fits 1 convs) ms ms' →
      related
        (.getConvListAck ⟨code, msg, listed.map fun x => convItem x.2 x.1 (otherOf x.2.id) users (latestOf ms x.2.id)⟩)
        (.getConvListAck ⟨code, msg, listed.map fun x =>
          convItem x.2 x.1 (otherOf x.2.id) users (latestOf ms' x.2.id)⟩)) :
    Twins (Beside hidden fits seen) (fun _ _ => True) (AnsweredBy related conn)
      (handleGetConvList conn seq) (handleGetConvList conn seq) := by
  refine twins_bind (twins_connection conn) ?_
  rintro me - ⟨rfl, rfl⟩
  refine twins_ite (fun _ => twins_answer (refl _)) fun _ => ?_
  refine twins_bind (twins_getMembersByUser _) ?_
  rintro memberships _ ⟨rfl, belong⟩
  refine twins_bind (twins_findConversations _) ?_
  rintro conversations - rfl
  dsimp only
  generalize listing : List.filterMap (fun m : ConversationMember =>
    Option.map (fun c : Conversation => (m, c)) (conversations.find? fun c => c.id = m.conversationId))
      (memberships.filter fun m => m.hidden = 0) = listed
  have belongs : ∀ c ∈ (listed.map fun p => (p.1.conversationId, max 0 (p.2.maxSeq - 1))).map Prod.fst,
      Belongs fits c (seen.connections conn).userId := by
    intro c inside
    rw [← listing] at inside
    simp only [List.map_map, List.mem_map, List.mem_filter, List.mem_filterMap, Function.comp_apply,
      Option.map_eq_some_iff] at inside
    obtain ⟨_, ⟨m, ⟨there, _⟩, _, _, rfl⟩, rfl⟩ := inside
    exact belong m there
  refine twins_bind (twins_ite (fun _ => twins_ret ⟨rfl, fun m none => absurd none List.not_mem_nil⟩) fun _ =>
    twins_getLatest _ _) fun ms ms' messages => ?_
  refine twins_bind (twins_ite (fun _ => twins_ret rfl) fun _ => twins_selected fun _ => rfl) ?_
  rintro privateMembers - rfl
  have senders : ((listed.filterMap fun p => latestOf ms p.1.conversationId).map Message.senderId) =
      ((listed.filterMap fun p => latestOf ms' p.1.conversationId).map Message.senderId) := by
    simp only [List.map_filterMap]
    congr 1
    funext p
    have := congrArg (Option.map Message.senderId) (latestOf_alike messages.1 p.1.conversationId)
    simpa [Function.comp_def] using this
  rw [← senders]
  refine twins_bind (twins_ite (fun _ => twins_ret rfl) fun _ => twins_findByIds _) ?_
  rintro users - rfl
  exact twins_answer (list _ _ listed (fun id => ((privateMembers.filter fun m => m.userId ≠ (seen.connections conn).userId).reverse.find?
    fun m => m.conversationId = id).map ConversationMember.userId) _ users _ _ belongs messages)

theorem ConvService.twins_handleGetConvList (conn : ConnId) (seq : UInt32) :
    Twins (Beside hidden fits seen) (fun _ _ => True) (Answered hidden fits (seen.connections conn).userId conn)
      (handleGetConvList conn seq) (handleGetConvList conn seq) :=
  twins_lists .same conn seq fun _ _ _ _ _ _ _ _ belong messages =>
    .list _ _ _ _ _ _ _ (messages.same fun _ latest => ⟨latest.stored.1, belong _ latest.stored.2⟩)

end Handlers

end NovaIIM
