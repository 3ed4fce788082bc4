import NovaIIM.Confidential
import NovaIIM.Previews

/-!
What is served of a recalled message.

A recall sets the status of a row and leaves the content, and the three readers answer with
the content. So two runs that differ in the content of a message are told apart after its
recall, but only by what a client is to hide (`Input.redact`): the content of its entry, which
is marked as recalled, and the preview of its conversation while it is the last message
(`recalled_redacted`).
-/
namespace NovaIIM
open Store

/-! ### What a client hides -/

/-- An item without the content of a message that is marked as recalled. -/
def SyncMsgItem.redacted (seq : Int) (item : SyncMsgItem) : SyncMsgItem :=
  if item.serverSeq = seq ∧ item.status = .recalled then { item with content := [] } else item

def UnreadItem.redacted (conversationId seq : Int) (item : UnreadItem) : UnreadItem :=
  if item.conversationId = conversationId then { item with latestMessages := item.latestMessages.map (.redacted seq) }
  else item

/-- The entry of a conversation without the content of its last message. -/
def ConvItem.redacted (conversationId : Int) (item : ConvItem) : ConvItem :=
  if item.conversationId = conversationId then { item with lastMsg := { item.lastMsg with content := [] } } else item

/-- A message of the conversation with a greater seq is stored. -/
def Overtaken (conversationId seq : Int) (messages : Table Message) : Prop :=
  ∃ m ∈ messages.rows, m.conversationId = conversationId ∧ seq < m.seq

instance (conversationId seq : Int) (messages : Table Message) : Decidable (Overtaken conversationId seq messages) :=
  inferInstanceAs (Decidable (∃ m ∈ messages.rows, _))

/-- One is stored, and a ROLLBACK would not take it back. -/
def OvertakenIn (conversationId seq : Int) (w : World) : Prop :=
  Overtaken conversationId seq w.tables.messages ∧ ∀ t ∈ w.saved, Overtaken conversationId seq t.messages

instance (conversationId seq : Int) (w : World) : Decidable (OvertakenIn conversationId seq w) :=
  inferInstanceAs (Decidable (_ ∧ ∀ t ∈ w.saved, _))

/-- A body without the content of a recalled message, by its conversation and its seq: a page
    of the conversation, its part of a snapshot of what is unread, its preview. -/
def Input.redact (conversationId seq : Int) (w : World) : Input → Body → Body
  | .packet (.sync (.syncMsg _ _ (some req))), .syncMsgResp body =>
    if req.conversationId = conversationId then .syncMsgResp { body with messages := body.messages.map (.redacted seq) }
    else .syncMsgResp body
  | .packet (.sync (.syncUnread _ _)), .syncUnreadResp body =>
    .syncUnreadResp { body with items := body.items.map (.redacted conversationId seq) }
  | .packet (.conv (.getConvList _ _)), .getConvListAck body =>
    if OvertakenIn conversationId seq w then .getConvListAck body
    else .getConvListAck { body with conversations := body.conversations.map (.redacted conversationId) }
  | _, body => body

def Event.mapBody (f : Body → Body) : Event → Event
  | .sent conn packet => .sent conn { packet with body := f packet.body }
  | event => event

/-- What a run sends, arrival by arrival, without the content of a recalled message. -/
def shownAlong (conversationId seq : Int) : World → List Arrival → List (List Event)
  | _, [] => []
  | w, arrival :: rest =>
    (received sqliteDaoFactory w arrival).events.map (Event.mapBody (arrival.input.redact conversationId seq w)) ::
      shownAlong conversationId seq (receive sqliteDaoFactory w arrival) rest

/-! ### Rows of a recalled message -/

/-- The mask over the content of one message. -/
def messageWith (id : Int) : Int → Int → Bool := fun _ other => other = id

/-- The message with the id is the one of this seq, and it is recalled. -/
def RecalledRow (id conversationId seq : Int) (messages : Table Message) : Prop :=
  id ≤ messages.lastId ∧
    ∀ m ∈ messages.rows, m.id = id → m.status = .recalled ∧ m.conversationId = conversationId ∧ m.seq = seq

/-- A condition on the messages that stores of new ones and recalls keep. -/
structure Steady (fits : Table Message → Prop) : Prop where
  stored : ∀ (t : Tables) (m : Message), fits t.messages → fits (t.insertMessage m).messages
  recalled : ∀ (t : Tables) (id : Int), fits t.messages → fits (t.setMessageStatus id .recalled).messages

theorem steady_recalledRow (id conversationId seq : Int) : Steady (RecalledRow id conversationId seq) where
  stored t m row := by
    have last := row.1
    refine ⟨last.trans (by exact_mod_cast Table.lastId_le_insert _ _), fun r inside named => ?_⟩
    obtain old | ⟨-, rfl⟩ := Table.mem_insert.mp inside
    · exact row.2 r old named
    · have : (t.messages.lastId : Int) + 1 = id := named
      omega
  recalled t other row := by
    refine ⟨row.1, fun r inside named => ?_⟩
    obtain ⟨old, there, rfl⟩ := Table.mem_update.mp inside
    have named : old.id = id := by split at named <;> exact named
    obtain ⟨recalled, place⟩ := row.2 old there named
    split
    · exact ⟨rfl, place⟩
    · exact ⟨recalled, place⟩

theorem steady_overtaken (conversationId seq : Int) : Steady (Overtaken conversationId seq) where
  stored t m := by
    rintro ⟨newer, there, place⟩
    exact ⟨newer, Table.mem_insert.mpr (.inl there), place⟩
  recalled t id := by
    rintro ⟨newer, there, place⟩
    refine ⟨_, Table.mem_update.mpr ⟨newer, there, rfl⟩, ?_⟩
    split <;> exact place

theorem Steady.and {fits others : Table Message → Prop} (steady : Steady fits) (also : Steady others) :
    Steady fun messages => fits messages ∧ others messages where
  stored t m both := ⟨steady.stored t m both.1, also.stored t m both.2⟩
  recalled t id both := ⟨steady.recalled t id both.1, also.recalled t id both.2⟩

theorem Steady.given {fits : Table Message → Prop} (steady : Steady fits) (p : Prop) : Steady fun messages => p → fits messages where
  stored t m kept given := steady.stored t m (kept given)
  recalled t id kept given := steady.recalled t id (kept given)

theorem recalledRow_set {t : Tables} {m : Message} (known : m ∈ t.messages.rows) :
    RecalledRow m.id m.conversationId m.seq (t.setMessageStatus m.id .recalled).messages := by
  refine ⟨(t.messages.bounded m known).2, fun r inside named => ?_⟩
  obtain ⟨old, there, rfl⟩ := Table.mem_update.mp inside
  have named : old.id = m.id := by split at named <;> exact named
  obtain rfl : old = m := Table.eq_of_id there known named
  rw [if_pos (by simp)]
  exact ⟨rfl, rfl, rfl⟩

/-! ### What the readers build -/

section Bodies
variable {id conversationId seq userId : Int} {chosen : Int → Prop} {ms ms' : List Message}

/-- What does not show the content of the recalled message shows the same of both lists. -/
theorem map_recalled {β : Type} (alike : AlikeRows (messageWith id) ms ms') {f : Message → β}
    (blind : ∀ m ∈ ms, m.id = id → ∀ content : Bytes, f { m with content := content } = f m) : ms.map f = ms'.map f := by
  have pairs := alike.pairs
  clear alike
  induction pairs with
  | nil => rfl
  | cons first rest ih =>
    rename_i m m' ms ms'
    have later := ih fun r inside => blind r (.tail _ inside)
    rw [List.map_cons, List.map_cons, later]
    rcases Message.eq_or_content first with rfl | ⟨veiled, shown⟩
    · rfl
    · have same := blind m (.head _) (by simpa [messageWith] using veiled) m'.content
      rw [← shown] at same
      rw [same]

theorem AlikeRows.filter {hidden : Int → Int → Bool} (alike : AlikeRows hidden ms ms') {selected : Message → Bool}
    (blind : ∀ m, selected (m.masked hidden) = selected m) : AlikeRows hidden (ms.filter selected) (ms'.filter selected) := by
  have moved : ∀ rows : List Message, (rows.filter selected).map (Message.masked hidden) =
      (rows.map (Message.masked hidden)).filter selected := by
    intro rows
    rw [List.filter_map, show selected ∘ Message.masked hidden = selected from funext blind]
  rw [AlikeRows, moved, moved, alike]

/-- The row of the message, wherever it was read, is recalled and in its place. -/
theorem StoredIn.recalled {fits : Tables → Prop} (row : ∀ t, fits t → RecalledRow id conversationId seq t.messages) {m : Message}
    (stored : StoredIn fits m) (named : m.id = id) : m.status = .recalled ∧ m.conversationId = conversationId ∧ m.seq = seq := by
  obtain ⟨t, fit, there⟩ := stored
  exact (row t fit).2 m there named

/-- The newest message that a condition on the tables lets be picked is not behind another. -/
theorem LatestIn.not_overtaken {fits : Tables → Prop} {convs : List (Int × Int)} {m : Message}
    (latest : LatestIn fits 1 convs m) : ∃ t, fits t ∧ ¬Overtaken m.conversationId m.seq t.messages := by
  obtain ⟨t, fit, ⟨c, from_⟩, -, inside⟩ := latest
  refine ⟨t, fit, ?_⟩
  rintro ⟨newer, there, named, behind⟩
  have sorted := List.pairwise_insertionSort (fun a b : Message => b.seq ≤ a.seq)
    (t.messages.rows.filter fun r : Message => r.conversationId = c && from_ < r.seq)
  have found := (List.mem_insertionSort fun a b : Message => b.seq ≤ a.seq).mp (List.mem_of_mem_take inside)
  have here := (List.mem_filter.mp found).2
  simp only [Bool.and_eq_true, decide_eq_true_eq] at here
  have also : newer ∈ t.messages.rows.filter fun r : Message => r.conversationId = c && from_ < r.seq := by
    refine List.mem_filter.mpr ⟨there, ?_⟩
    simp only [Bool.and_eq_true, decide_eq_true_eq]
    exact ⟨named.trans here.1, by omega⟩
  replace also := (List.mem_insertionSort fun a b : Message => b.seq ≤ a.seq).mpr also
  rw [MessageDao.latest] at inside
  generalize (t.messages.rows.filter fun r : Message => r.conversationId = c && from_ < r.seq).insertionSort
    (fun a b => b.seq ≤ a.seq) = l at sorted also inside
  cases l with
  | nil => cases also
  | cons first rest =>
    obtain rfl : m = first := by simpa using inside
    rcases List.mem_cons.mp also with rfl | later
    · omega
    · have := List.rel_of_pairwise_cons sorted later
      omega

variable {fits : Tables → Prop} {seen : Sessions} {w : World}

/-- What the readers build, in tables where the message is recalled, is the same but for what a client hides. -/
theorem redacted_alike (input : Input)
    (row : ∀ t, fits t → RecalledRow id conversationId seq t.messages)
    (overtaken : ∀ conn n, input = .packet (.conv (.getConvList conn n)) → OvertakenIn conversationId seq w →
      ∀ t, fits t → Overtaken conversationId seq t.messages) :
    ServesAlike (messageWith id) fits seen
      (fun _ body body' => input.redact conversationId seq w body = input.redact conversationId seq w body') input where
  refl _ _ := rfl
  page conn n req asked _ limit users ms ms' messages := by
    subst asked
    have lengths : ms.length = ms'.length := by simpa using congrArg List.length messages.1
    simp only [Input.redact]
    split
    · have shown : ms.map (SyncMsgItem.redacted seq ∘ SyncService.syncItem users) =
          ms'.map (SyncMsgItem.redacted seq ∘ SyncService.syncItem users) :=
        map_recalled messages.1 fun m inside named content => by
          obtain ⟨recalled, -, numbered⟩ := (messages.2 m inside).1.recalled row named
          simp [SyncMsgItem.redacted, SyncService.syncItem, recalled, numbered]
      simp only [SyncService.pageOf, List.map_map, shown, lengths]
    · -- no message of another conversation is hidden
      rename_i other
      have shown : ms.map (SyncService.syncItem users) = ms'.map (SyncService.syncItem users) :=
        map_recalled messages.1 fun m inside named content => by
          obtain ⟨-, here, -⟩ := (messages.2 m inside).1.recalled row named
          exact absurd ((messages.2 m inside).2.symm.trans here) other
      simp only [SyncService.pageOf, shown, lengths]
  unread conn n asked code total items convs users ms ms' _ messages := by
    subst asked
    have shown : ∀ item : UnreadItem,
        UnreadItem.redacted conversationId seq { item with
          latestMessages := (ms.filter fun m => m.conversationId = item.conversationId).map (SyncService.unreadMessage users) } =
        UnreadItem.redacted conversationId seq { item with
          latestMessages := (ms'.filter fun m => m.conversationId = item.conversationId).map (SyncService.unreadMessage users) } := by
      intro item
      have own : AlikeRows (messageWith id) (ms.filter fun m => m.conversationId = item.conversationId)
          (ms'.filter fun m => m.conversationId = item.conversationId) := messages.1.filter fun m => by simp
      by_cases here : item.conversationId = conversationId
      · have previews := map_recalled own (f := SyncMsgItem.redacted seq ∘ SyncService.unreadMessage users)
          fun m inside named content => by
            obtain ⟨recalled, -, numbered⟩ := (messages.2 m (List.mem_filter.mp inside).1).stored.1.recalled row named
            simp [SyncMsgItem.redacted, SyncService.unreadMessage, recalled, numbered]
        simp only [UnreadItem.redacted, if_pos here, List.map_map, previews]
      · have previews := map_recalled own (f := SyncService.unreadMessage users) fun m inside named content => by
          obtain ⟨there, other⟩ := List.mem_filter.mp inside
          obtain ⟨-, place, -⟩ := (messages.2 m there).stored.1.recalled row named
          simp only [decide_eq_true_eq] at other
          exact absurd (other.symm.trans place) here
        simp only [UnreadItem.redacted, if_neg here, previews]
    simp only [Input.redact, SyncService.unreadPreviews, List.map_map, Function.comp_def, shown]
  list conn n asked code msg listed otherOf convs users ms ms' _ messages := by
    subst asked
    -- the preview of another message is the same, and so is that of another conversation
    have shown : ∀ c : Int, ConvService.latestOf ms c = ConvService.latestOf ms' c ∨
        ¬OvertakenIn conversationId seq w ∧ c = conversationId ∧
          ∃ m content, ConvService.latestOf ms c = some m ∧ ConvService.latestOf ms' c = some { m with content := content } := by
      intro c
      have latest := ConvService.latestOf_alike messages.1 c
      cases found : ConvService.latestOf ms c with
      | none =>
        rw [found] at latest
        exact .inl (Option.map_eq_none_iff.mp latest.symm).symm
      | some m =>
        rw [found] at latest
        obtain ⟨m', found', same⟩ := Option.map_eq_some_iff.mp latest.symm
        rw [found']
        rcases Message.eq_or_content same.symm with rfl | ⟨veiled, content⟩
        · exact .inl rfl
        · obtain ⟨inside, own⟩ := latestOf_some found
          have picked := messages.2 m inside
          obtain ⟨-, here, numbered⟩ := picked.stored.1.recalled row (by simpa [messageWith] using veiled)
          obtain ⟨t, fit, newest⟩ := picked.not_overtaken
          rw [here, numbered] at newest
          exact .inr ⟨fun newer => newest (overtaken conn n rfl newer t fit), own.symm.trans here, m, m'.content, rfl, by rw [← content]⟩
    simp only [Input.redact]
    split
    · rename_i newer
      have same : ∀ c, ConvService.latestOf ms c = ConvService.latestOf ms' c := fun c =>
        (shown c).resolve_right fun differ => differ.1 newer
      simp only [same]
    · have same : ∀ x : ConversationMember × Conversation,
          ConvItem.redacted conversationId (ConvService.convItem x.2 x.1 (otherOf x.2.id) users (ConvService.latestOf ms x.2.id)) =
          ConvItem.redacted conversationId (ConvService.convItem x.2 x.1 (otherOf x.2.id) users (ConvService.latestOf ms' x.2.id)) := by
        intro x
        rcases shown x.2.id with same | ⟨-, here, m, content, found, found'⟩
        · rw [same]
        · rw [found, found']
          simp [ConvItem.redacted, ConvService.convItem, here]
      simp only [List.map_map, Function.comp_def, same]

end Bodies

/-! ### Two runs -/

/-- Two worlds that differ in the content of one message, and what the first keeps of its messages. -/
abbrev ButContent (id : Int) (fits : Table Message → Prop) (w w' : World) : Prop :=
  Beside (messageWith id) (fun t => fits t.messages) (sessions w.mem) w w'

section Steps
variable {id : Int} {fits : Table Message → Prop} {w w' : World}

theorem ButContent.enter (same : ButContent id fits w w') (arrival : Arrival) :
    ButContent id fits ((arrival.call w).enter w) ((arrival.call w').enter w') := by
  have alike : Alike (messageWith id) w w' := same.alike
  exact ⟨alike.enter rfl rfl rfl, same.kept, same.saved, rfl⟩

/-- The same arrival in two such worlds leaves two such worlds. -/
theorem butContent_received (steady : Steady fits) (same : ButContent id fits w w') (arrival : Arrival)
    {related : ConnId → Body → Body → Prop}
    (alike : ServesAlike (messageWith id) (fun t => fits t.messages) (sessions ((arrival.call w).enter w).mem) related arrival.input) :
    ButContent id fits (receive sqliteDaoFactory w arrival) (receive sqliteDaoFactory w' arrival) ∧
      List.Forall₂ (Said related) (received sqliteDaoFactory w arrival).events (received sqliteDaoFactory w' arrival).events := by
  have entered := same.enter arrival
  rcases serve_plain arrival.input with looks | plain
  · have sendable : ∀ req : SendMsgReq, Sendable (messageWith id) (fun t => fits t.messages) (fun t => fits t.messages) req req.content :=
      fun req =>
        { numbered := fun _ fit => fit
          stored := fun t m fit => steady.stored t m fit
          weaker := fun _ fit => fit
          unhidden := fun _ _ fit => fit
          hides := fun _ _ => .inl rfl }
    obtain ⟨-, done, events⟩ := twins_looks looks alike sendable (fun t id fit => steady.recalled t id fit) _ _ entered
    exact ⟨⟨done.alike, done.kept, done.saved, rfl⟩, events⟩
  · have twins : Twins (Twin (Tables.masked (messageWith id)) Tables.messages fits (fun _ => ()) ()) Eq Eq
        (serve sqliteDaoFactory arrival.input) (serve sqliteDaoFactory arrival.input) := plain.twins (fun _ => rfl) _
    obtain ⟨-, done, events⟩ := twins _ _ ⟨entered.alike, entered.kept, entered.saved, rfl⟩
    exact ⟨⟨done.alike, done.kept, done.saved, rfl⟩, events.imp fun _ _ same => .inl same⟩

/-- A send of a content; the rest of the request and its circumstances are given. -/
def sendOf (around : Arrival) (conn : ConnId) (seq : UInt32) (req : SendMsgReq) (content : Bytes) : Arrival :=
  { around with input := .packet (.msg (.sendMsg conn seq (some { req with content := content }))) }

/-- Sends of two contents. -/
theorem butContent_sent (closed : w.saved = none) {around : Arrival} {conn : ConnId} {seq : UInt32} {req : SendMsgReq}
    {content content' : Bytes} (admitted : MsgService.Admitted w.mem.config content)
    (admitted' : MsgService.Admitted w.mem.config content') :
    ButContent (w.tables.messages.lastId + 1) (fun _ => True) (receive sqliteDaoFactory w (sendOf around conn seq req content))
      (receive sqliteDaoFactory w (sendOf around conn seq req content')) := by
  have next : Beside (messageWith (w.tables.messages.lastId + 1)) (fun t => t.messages.lastId = w.tables.messages.lastId)
      (sessions (((sendOf around conn seq req content).call w).enter w).mem) (((sendOf around conn seq req content).call w).enter w)
      (((sendOf around conn seq req content').call w).enter w) := by
    refine ⟨rfl, rfl, ?_, rfl⟩
    intro t back
    have entered : (((sendOf around conn seq req content).call w).enter w).saved = none := closed
    rw [entered] at back
    cases back
  have sendable : Sendable (messageWith (w.tables.messages.lastId + 1)) (fun t => t.messages.lastId = w.tables.messages.lastId)
      (fun _ => True) { req with content := content } content' :=
    { numbered := fun _ same => same
      stored := fun _ _ _ => trivial
      weaker := fun _ _ => trivial
      unhidden := fun _ _ _ => trivial
      hides := fun t same => .inr (by simp [messageWith, same]) }
  have reaches : DeliversAlike (fun _ => True) (sessions (((sendOf around conn seq req content).call w).enter w).mem)
      (fun _ _ => True) { req with content := content } content' := .inr fun _ _ _ _ _ _ => trivial
  obtain ⟨done, -⟩ := @MsgService.handleSendMsg_leads _ _ _ _ _ conn seq { req with content := content } content'
    (fun _ => trivial) sendable reaches _ _ next (MsgService.validate_admitted admitted admitted')
  exact ⟨done.alike, trivial, fun _ _ => trivial, rfl⟩

theorem steady_true : Steady fun _ => True := ⟨fun _ _ _ => trivial, fun _ _ _ => trivial⟩

theorem butContent_after (same : ButContent id (fun _ => True) w w') (arrivals : List Arrival) :
    ButContent id (fun _ => True) (after (receive sqliteDaoFactory) w arrivals) (after (receive sqliteDaoFactory) w' arrivals) := by
  induction arrivals generalizing w w' with
  | nil => exact same
  | cons arrival rest ih =>
    have answers : ServesAlike (messageWith id) (fun _ => True) (sessions ((arrival.call w).enter w).mem)
        (fun _ _ _ => True) arrival.input :=
      ⟨fun _ _ => trivial, by intros; trivial, by intros; trivial, by intros; trivial⟩
    exact ih (butContent_received steady_true same arrival answers).1

theorem overtaken_alike {conversationId seq : Int} {hidden : Int → Int → Bool} {t t' : Tables}
    (alike : t.masked hidden = t'.masked hidden) :
    Overtaken conversationId seq t.messages ↔ Overtaken conversationId seq t'.messages := by
  have shape : ∀ t : Tables, Overtaken conversationId seq t.messages ↔ Overtaken conversationId seq (t.masked hidden).messages := by
    intro t
    simp [Overtaken, Tables.masked]
  rw [shape, alike, ← shape]

theorem overtakenIn_alike {conversationId seq : Int} (same : ButContent id fits w w') :
    OvertakenIn conversationId seq w ↔ OvertakenIn conversationId seq w' := by
  refine and_congr (overtaken_alike same.tables) ?_
  have back := same.back
  generalize w.saved = saved, w'.saved = saved' at back
  rcases saved with _ | t <;> rcases saved' with _ | t' <;> simp at back ⊢
  exact overtaken_alike back

/-- What is shown after an arrival is the same, and goes on to be. -/
theorem shown_received {conversationId seq : Int} (same : ButContent id (RecalledRow id conversationId seq) w w') (arrival : Arrival) :
    ButContent id (RecalledRow id conversationId seq) (receive sqliteDaoFactory w arrival) (receive sqliteDaoFactory w' arrival) ∧
      (received sqliteDaoFactory w arrival).events.map (Event.mapBody (arrival.input.redact conversationId seq w)) =
        (received sqliteDaoFactory w' arrival).events.map (Event.mapBody (arrival.input.redact conversationId seq w')) := by
  have known : ButContent id (fun messages => RecalledRow id conversationId seq messages ∧
      (OvertakenIn conversationId seq w → Overtaken conversationId seq messages)) w w' :=
    ⟨same.alike, ⟨same.kept, And.left⟩, fun t back => ⟨same.saved t back, fun newer => newer.2 t back⟩, same.view⟩
  have steady := (steady_recalledRow id conversationId seq).and ((steady_overtaken conversationId seq).given (OvertakenIn conversationId seq w))
  obtain ⟨done, events⟩ := butContent_received steady known arrival
    (redacted_alike arrival.input (fun _ fit => fit.1) fun _ _ _ newer _ fit => fit.2 newer)
  refine ⟨⟨done.alike, done.kept.1, fun t back => (done.saved t back).1, done.view⟩, ?_⟩
  have judged : arrival.input.redact conversationId seq w' = arrival.input.redact conversationId seq w := by
    funext body
    unfold Input.redact
    simp only [overtakenIn_alike same]
  rw [judged]
  rw [← List.forall₂_eq_eq_eq, List.forall₂_map_left_iff, List.forall₂_map_right_iff]
  refine events.imp fun e e' said => ?_
  rcases said with rfl | ⟨conn, packet, body', rfl, rfl, same⟩
  · rfl
  · rw [Event.mapBody, Event.mapBody, same]

theorem shownAlong_eq {conversationId seq : Int} (same : ButContent id (RecalledRow id conversationId seq) w w') (arrivals : List Arrival) :
    shownAlong conversationId seq w arrivals = shownAlong conversationId seq w' arrivals := by
  induction arrivals generalizing w w' with
  | nil => rfl
  | cons arrival rest ih =>
    obtain ⟨next, shown⟩ := shown_received same arrival
    rw [shownAlong, shownAlong, shown, ih next]

end Steps

/-! ### Recalls -/

/-- The arrival recalls the message, and it is answered so: a sender's request, or an administrator's. -/
inductive Recalls (w : World) (arrival : Arrival) (m : Message) : Prop where
  | byUser (conn : ConnId) (seq : UInt32) (req : RecallMsgReq)
      (asked : arrival.input = .packet (.msg (.recallMsg conn seq (some req))))
      (found : w.tables.messages.rows.find? (fun r => r.conversationId = req.conversationId && r.seq = req.serverSeq) = some m)
      (acked : replies conn .recallMsgAck (received sqliteDaoFactory w arrival).events = [0])
  | byAdmin (permitted : Bool) (asked : arrival.input = .admin (.recallMessage permitted m.id)) (known : m ∈ w.tables.messages.rows)
      (answered : ((AdminServer.handle (.recallMessage permitted m.id)).run ((arrival.call w).enter w)).value = jsonOk)

section Recalling
variable {w : World} {id : Int}

/-- An UPDATE of the status that is reported as done has been done. -/
theorem updateStatus_done {status : MsgStatus} (done : ((MessageDao.updateStatus id status).run w).value = true) :
    ((MessageDao.updateStatus id status).run w).state.tables = w.tables.setMessageStatus id status := by
  unfold MessageDao.updateStatus at *
  simp only [Prog.run_atomic, Prog.run_bind, run_query] at *
  split at done
  · cases done
  · unfold execute at *
    rw [run_statement] at *
    split at done
    · cases done
    · rename_i fine
      rw [if_neg fine]
      rfl

variable {conn : ConnId} {done : Tables → Prop} {α : Type}

/-- The program refuses a recall, or leaves the tables as it should. -/
def RecallEnds (conn : ConnId) (done : Tables → Prop) (p : Handler) (w : World) : Prop :=
  Refused conn .recallMsgAck (p.run w).events ∨ done (p.run w).state.tables

theorem recallEnds_peek {look : Server → α} {f : α → Handler} (rest : RecallEnds conn done (f (look w.mem)) w) :
    RecallEnds conn done (peek look >>= f) w := by
  unfold RecallEnds at *
  rwa [Prog.run_bind, run_peek, List.nil_append]

theorem recallEnds_query {failed : α} {answer : Tables → α} {f : α → Handler} (miss : RecallEnds conn done (f failed) w.spend)
    (hit : RecallEnds conn done (f (answer w.tables)) w.spend) : RecallEnds conn done (query failed answer >>= f) w := by
  unfold RecallEnds at *
  rw [Prog.run_bind, run_query, List.nil_append]
  split
  · exact miss
  · exact hit

theorem recallEnds_query_any {failed : α} {answer : Tables → α} {f : α → Handler} (rest : ∀ a, RecallEnds conn done (f a) w.spend) :
    RecallEnds conn done (query failed answer >>= f) w := recallEnds_query (rest _) (rest _)

theorem recallEnds_ite {c : Prop} [Decidable c] {p q : Handler} (yes : c → RecallEnds conn done p w) (no : ¬c → RecallEnds conn done q w) :
    RecallEnds conn done (if c then p else q) w := by
  by_cases holds : c
  · rw [if_pos holds]
    exact yes holds
  · rw [if_neg holds]
    exact no holds

/-- The UPDATE, and what answers that it failed or leaves the tables alone. -/
theorem recallEnds_update {seq : UInt32} {rest : Handler} (silent : Silent rest) :
    RecallEnds conn (· = w.tables.setMessageStatus id .recalled)
      (MessageDao.updateStatus id .recalled >>= fun updated =>
        if !updated then sendRsp conn .recallMsgAck seq errc.kDatabaseError else rest) w := by
  have mute : ((MessageDao.updateStatus id .recalled).run w).events = [] := by
    unfold MessageDao.updateStatus execute
    simp only [Prog.run_atomic, Prog.run_bind, run_query, List.nil_append]
    split
    · rfl
    · rw [run_statement]
      split <;> rfl
  unfold RecallEnds
  rw [Prog.run_bind, mute, List.nil_append]
  cases updated : ((MessageDao.updateStatus id .recalled).run w).value with
  | false => exact .inl (refused_sendRsp (by decide) _)
  | true =>
    right
    have same := (silent ((MessageDao.updateStatus id .recalled).run w).state).tables
    rw [updateStatus_done updated] at same
    simp only [Bool.not_true, Bool.false_eq_true, if_false]
    exact same

theorem recallEnds_refused {seq : UInt32} {e : Error} (bad : e.code ≠ 0) : RecallEnds conn done (sendRsp conn .recallMsgAck seq e) w :=
  .inl (refused_sendRsp bad w)

theorem recallExpired_code {createdAt : Bytes} {now timeout : Int} {e : Error}
    (expired : MsgService.recallExpired createdAt now timeout = some e) : e.code ≠ 0 := by
  unfold MsgService.recallExpired at expired
  split at expired
  · obtain rfl := Option.some.inj expired
    decide
  · split at expired
    · obtain rfl := Option.some.inj expired
      decide
    · split at expired
      · obtain rfl := Option.some.inj expired
        decide
      · split at expired
        · obtain rfl := Option.some.inj expired
          decide
        · cases expired

/-- A recall that finds the message refuses, or sets its status. -/
theorem recallEnds_handleRecallMsg {seq : UInt32} {req : RecallMsgReq} {m : Message}
    (found : w.tables.messages.rows.find? (fun r => r.conversationId = req.conversationId && r.seq = req.serverSeq) = some m) :
    RecallEnds conn (· = w.tables.setMessageStatus m.id .recalled) (MsgService.handleRecallMsg conn seq (some req)) w := by
  refine recallEnds_peek (recallEnds_ite (fun _ => recallEnds_refused (by decide)) fun _ => ?_)
  refine recallEnds_ite (fun _ => recallEnds_refused (by decide)) fun _ => ?_
  refine recallEnds_query_any fun member => recallEnds_ite (fun _ => recallEnds_refused (by decide)) fun _ => ?_
  refine recallEnds_query (recallEnds_refused (by decide)) ?_
  rw [show w.spend.tables = w.tables from rfl, found]
  refine recallEnds_ite (fun _ => recallEnds_refused (by decide)) fun _ => ?_
  refine recallEnds_ite (fun _ => recallEnds_refused (by decide)) fun _ => recallEnds_peek ?_
  cases expired : MsgService.recallExpired m.createdAt _ _ with
  | some e =>
    exact recallEnds_refused (recallExpired_code expired)
  | none =>
    refine recallEnds_update (silent_bind silent_sendRsp fun _ => silent_bind (silent_peek _) fun _ => ?_)
    exact MsgService.silent_broadcastEncoded

/-- So does the recall of an administrator. -/
theorem handleRecallMessage_ok {permitted : Bool} {m : Message} (known : m ∈ w.tables.messages.rows)
    (ok : ((AdminServer.handleRecallMessage permitted m.id).run w).value = jsonOk) :
    ((AdminServer.handleRecallMessage permitted m.id).run w).state.tables = w.tables.setMessageStatus m.id .recalled := by
  have found : w.tables.messages.rows.find? (fun r : Message => r.id = m.id) = some m := by
    cases first : w.tables.messages.rows.find? fun r : Message => r.id = m.id with
    | none => exact absurd (by simp) (List.find?_eq_none.mp first m known)
    | some r =>
      have named : r.id = m.id := by simpa using List.find?_some first
      rw [Table.eq_of_id (List.mem_of_find?_eq_some first) known named]
  unfold AdminServer.handleRecallMessage at *
  split at ok
  · cases ok
  · rename_i allowed
    rw [if_neg allowed]
    split at ok
    · cases ok
    · rename_i valid
      rw [if_neg valid]
      unfold MessageDao.findById at *
      simp only [Prog.run_bind, run_query] at *
      by_cases fails : w.fails
      · rw [if_pos fails] at ok
        cases ok
      · rw [if_neg fails, found] at *
        simp only [Prog.run_bind] at *
        cases updated : ((MessageDao.updateStatus m.id .recalled).run w.spend).value with
        | false =>
          rw [updated] at ok
          cases ok
        | true =>
          have logged : ∀ w : World, (AdminServer.writeAuditLog.run w).state.tables = w.tables := by
            intro w
            unfold AdminServer.writeAuditLog execute
            simp only [Prog.run_bind, run_statement]
            split <;> rfl
          have done := updateStatus_done updated
          simp only [Bool.not_true, Bool.false_eq_true, if_false, Prog.run_bind, MessageBus.publish, run_modify]
          exact (logged _).trans done

theorem recalledRow_of_recalls {arrival : Arrival} {m : Message} (recalls : Recalls w arrival m) :
    RecalledRow m.id m.conversationId m.seq (receive sqliteDaoFactory w arrival).tables.messages := by
  suffices tables : (receive sqliteDaoFactory w arrival).tables = w.tables.setMessageStatus m.id .recalled ∧ m ∈ w.tables.messages.rows by
    rw [tables.1]
    exact recalledRow_set tables.2
  cases recalls with
  | byUser conn seq req asked found acked =>
    refine ⟨?_, List.mem_of_find?_eq_some found⟩
    have run : received sqliteDaoFactory w arrival =
        (MsgService.handleRecallMsg conn seq (some req)).run ((arrival.call w).enter w) := by
      rw [received, NovaIIM.served, show (arrival.call w).request = arrival.input from rfl, asked]
      rfl
    have ends : RecallEnds conn (· = w.tables.setMessageStatus m.id .recalled) (MsgService.handleRecallMsg conn seq (some req))
        ((arrival.call w).enter w) := recallEnds_handleRecallMsg found
    rw [receive, run]
    rcases ends with ⟨code, bad, refused⟩ | done
    · rw [run, refused] at acked
      exact absurd (List.cons.inj acked).1 bad
    · exact done
  | byAdmin permitted asked known answered =>
    refine ⟨?_, known⟩
    have tables := handleRecallMessage_ok (w := (arrival.call w).enter w) known answered
    rw [receive, received, NovaIIM.served, show (arrival.call w).request = arrival.input from rfl, asked, serve, Prog.run_bind]
    exact tables

end Recalling

/-- In two runs that differ in nothing but the content of a message, in which the message is
    recalled outside of a transaction that is left open, every packet sent to a user after the
    recall is the same, but for the content of the entry of the message, which is marked as recalled,
    and of the preview of its conversation while no newer message is stored. -/
theorem recalled_redacted (w : World) (closed : w.saved = none) (around : Arrival) (conn : ConnId) (seq : UInt32)
    (req : SendMsgReq) (content content' : Bytes) (admitted : MsgService.Admitted w.mem.config content)
    (admitted' : MsgService.Admitted w.mem.config content') (between : List Arrival) (takenBack : Arrival) (m : Message)
    (sent : m.id = w.tables.messages.lastId + 1)
    (recalls : Recalls (after (receive sqliteDaoFactory) w (sendOf around conn seq req content :: between)) takenBack m)
    (lasting : (after (receive sqliteDaoFactory) w (sendOf around conn seq req content :: between ++ [takenBack])).saved = none)
    (rest : List Arrival) :
    shownAlong m.conversationId m.seq
        (after (receive sqliteDaoFactory) w (sendOf around conn seq req content :: between ++ [takenBack])) rest =
      shownAlong m.conversationId m.seq
        (after (receive sqliteDaoFactory) w (sendOf around conn seq req content' :: between ++ [takenBack])) rest := by
  have others : ButContent (w.tables.messages.lastId + 1) (fun _ => True)
      (after (receive sqliteDaoFactory) w (sendOf around conn seq req content :: between ++ [takenBack]))
      (after (receive sqliteDaoFactory) w (sendOf around conn seq req content' :: between ++ [takenBack])) :=
    butContent_after (butContent_sent closed admitted admitted') (between ++ [takenBack])
  have row : RecalledRow m.id m.conversationId m.seq
      (after (receive sqliteDaoFactory) w (sendOf around conn seq req content :: between ++ [takenBack])).tables.messages := by
    rw [after_append]
    exact recalledRow_of_recalls recalls
  rw [← sent] at others
  refine shownAlong_eq ⟨others.alike, row, fun t back => ?_, rfl⟩ rest
  rw [lasting] at back
  cases back

/-- Two friends, both online. -/
def friendsAtOnce : World :=
  { (after (perform handle) twoUsers befriending) with mem := { connections := bothOnline.connections } }

/-- User 1 writes to the conversation with user 2. -/
def writes (content : Bytes) : Arrival :=
  sendOf { systemMs := 1000, input := .bus } 1 0 { conversationId := 1, content := [], clientMsgId := [] } content

/-- User 1 recalls the first message of the conversation. -/
def takesBack : Arrival :=
  { systemMs := 1000, input := .packet (.msg (.recallMsg 1 0 (some { conversationId := 1, serverSeq := 1 }))) }

/-- User 1 recalls a message, which user 2 then asks for. -/
theorem recalled_redacted_friends :
    shownAlong 1 1 (after (receive sqliteDaoFactory) friendsAtOnce [writes [1], takesBack])
        [{ input := .packet (.sync (.syncUnread 2 0)) }] =
      shownAlong 1 1 (after (receive sqliteDaoFactory) friendsAtOnce [writes [2], takesBack])
        [{ input := .packet (.sync (.syncUnread 2 0)) }] := by
  have found : (after (receive sqliteDaoFactory) friendsAtOnce [writes [1]]).tables.messages.rows.find?
      (fun r => r.conversationId = 1 && r.seq = 1) = some
        { id := 1, conversationId := 1, senderId := 1, seq := 1, msgType := 1, content := [1], createdAt := Calendar.formatUtc 1 } := by
    decide
  exact recalled_redacted friendsAtOnce rfl _ 1 0 _ [1] [2] ⟨by decide, by decide⟩ ⟨by decide, by decide⟩ [] takesBack _ rfl
    (.byUser 1 0 _ rfl found (by decide)) (by decide) _

/-- The recall is answered with OK, and user 2 is served the content by all three readers. -/
theorem recalled_content_served :
    replies 1 .recallMsgAck (sentAlong sqliteDaoFactory friendsAtOnce [writes [1], takesBack]) = [0] ∧
    replies 1 .recallMsgAck (sentAlong sqliteDaoFactory friendsAtOnce [writes [2], takesBack]) = [0] ∧
    ∀ request ∈ [Router.Request.sync (.syncMsg 2 0 (some { conversationId := 1, lastSeq := 0, limit := 10 })),
        .sync (.syncUnread 2 0), .conv (.getConvList 2 0)],
      sentAlong sqliteDaoFactory (after (receive sqliteDaoFactory) friendsAtOnce [writes [1], takesBack]) [{ input := .packet request }] ≠
        sentAlong sqliteDaoFactory (after (receive sqliteDaoFactory) friendsAtOnce [writes [2], takesBack]) [{ input := .packet request }] := by
  decide

end NovaIIM
