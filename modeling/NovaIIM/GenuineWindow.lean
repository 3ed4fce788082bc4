import NovaIIM.Desk
import NovaIIM.DedupReplay
import NovaIIM.SyncPaging

/-!
What the window of the chat store shows.

A result does not say what it is the result of: an ack is taken for the first entry that
is being sent, and a page goes into the conversation that is open. `Genuine` says that the
window shows what the server has stored. It holds in every run in which each result that
is delivered meets what it is for (`genuine_window`).
-/
namespace NovaIIM.Desktop
open Store

/-- What the window may show. -/
structure Genuine (d : Desk) : Prop where
  /-- an entry with a seq has the content that is stored under it in the open conversation -/
  contents : ∀ e ∈ d.store.messages, 0 < e.serverSeq → e.status = 0 →
    ∃ conversationId m, d.store.activeConv = some conversationId ∧ Stored conversationId d.world.tables m ∧
      m.seq = e.serverSeq ∧ m.content = e.content
  /-- an entry is marked as sent with the seq of its own message -/
  own : ∀ e ∈ d.store.messages, e.sendStatus = some .sent → ∀ localId, e.localId = some localId →
    (localId, e.serverSeq) ∈ d.acked

/-- A result meets what it is for: a page its conversation still open, an ack its own entry
    as the first that is being sent. -/
def Meets (d : Desk) : Answer → Prop
  | .page conversationId data => data.success = true → data.messages ≠ [] → d.store.activeConv = some conversationId
  | .text _ _ localId data => data.success = true →
    ∀ pending, d.store.messages.find? ChatStore.isPending = some pending → pending.localId = some localId

/-- The id that a text is given is new to the cache of the server. -/
def NewId (d : Desk) : DeskMove → Prop
  | .serve i _ clientMsgId => ∀ conversationId content localId,
    d.asked[i]? = some (.text conversationId content localId) →
      clientMsgId ≠ [] → (d.world.mem.dedup.dedupFind clientMsgId).1 = none
  | _ => True

/-- A step on which no result is taken for another: what is delivered meets what it is for, and the
    server takes no text for an earlier one. -/
def Matched (d : Desk) : DeskMove → Prop
  | .deliver i => ∀ answer, d.answered[i]? = some answer → Meets d answer
  | move => NewId d move

/-! ### What the server answers -/

/-- The message is what an item or an entry says of it. -/
def Backed (conversationId serverSeq : Int) (content : Bytes) (t : Tables) : Prop :=
  ∃ m, Stored conversationId t m ∧ m.seq = serverSeq ∧ m.content = content

theorem Backed.grows {conversationId serverSeq : Int} {content : Bytes} {t t' : Tables} (grows : Grows t t')
    (backed : Backed conversationId serverSeq content t) : Backed conversationId serverSeq content t' := by
  obtain ⟨m, ⟨inside, here⟩, seq, text⟩ := backed
  obtain ⟨m', inside', same⟩ := grows.stays m inside
  rw [Restatus] at same
  exact ⟨m', ⟨inside', by rw [same, here]⟩, by rw [same, seq], by rw [same, text]⟩

section Pages
open SyncService
variable {conn : ConnId} {req : SyncMsgReq} {w : World}

/-- Every page that is answered with OK is made of stored messages. -/
private def PagesBacked (conn : ConnId) (req : SyncMsgReq) (w : World) (o : Outcome World Event Unit) : Prop :=
  o.state.tables = w.tables ∧ ∀ resp ∈ o.events.filterMap (pageSent conn), resp.code = 0 →
    ∀ item ∈ resp.messages, Backed req.conversationId item.serverSeq item.content w.tables

private theorem pageSent_resp (resp : SyncMsgResp) :
    (((sendSyncResp conn 0 resp).run w).events.filterMap (pageSent conn)) = [resp] := by
  simp [sendSyncResp, sendPacket, send, pageSent]

private theorem refused_backed {w' : World} {resp : SyncMsgResp} (tables : w'.tables = w.tables) (bad : resp.code ≠ 0) :
    (sendSyncResp conn 0 resp).Ensures w' (PagesBacked conn req w) := by
  refine ⟨tables, fun resp' inside ok => ?_⟩
  rw [pageSent_resp] at inside
  exact absurd (List.mem_singleton.mp inside ▸ ok) bad

theorem pages_backed : (handleSyncMsg conn 0 (some req)).Ensures w (PagesBacked conn req w) := by
  refine ensures_peek (Prog.ensures_ite (fun _ => refused_backed rfl (by decide)) fun _ => ?_)
  refine Prog.ensures_ite (fun _ => refused_backed rfl (by decide)) fun _ => ensures_any fun member => ?_
  refine Prog.ensures_ite (fun _ => refused_backed rfl (by decide)) fun _ => ensures_peek (ensures_answer ?_)
  refine Prog.ensures_bind (Prog.ensures_mono (findByIds_quiet _ _) fun o quiet => ?_)
  obtain ⟨tables, -, events⟩ := quiet
  refine ⟨tables, fun resp inside _ item shown => ?_⟩
  rw [events, List.nil_append, pageSent_resp] at inside
  rw [List.mem_singleton.mp inside] at shown
  obtain ⟨m, read, rfl⟩ := List.mem_map.mp shown
  split at read
  · exact absurd read List.not_mem_nil
  · have found := (List.mem_insertionSort _).mp (List.mem_of_mem_take read)
    simp only [List.mem_filter, Bool.and_eq_true, decide_eq_true_eq] at found
    exact ⟨m, ⟨found.1, found.2.1⟩, rfl, rfl⟩

end Pages

/-- What a send emits: accesses to the dedup cache, its ack and pushes. -/
def OfSend (call : SendCall) (event : Event) : Prop :=
  (∃ key, event = .dedup key) ∨ (∃ ack, event = call.acked ack) ∨ IsPush event

private theorem step_ofSend {call : SendCall} {phase next : MsgService.Phase call} {w w' : World} {events : List Event}
    (step : MsgService.SendStep w phase next w' events) : ∀ event ∈ events, OfSend call event := by
  have looked : ∀ key, OfSend call (.dedup key) := fun key => .inl ⟨key, rfl⟩
  have answered : ∀ ack, OfSend call (call.acked ack) := fun ack => .inr (.inl ⟨ack, rfl⟩)
  cases step with
  | deliver d d' _ _ _ _ _ pushes => exact fun event inside => .inr (.inr (pushes event inside))
  | replay | busy => simp [looked, answered]
  | take | fill => simp [looked]
  | answer | refuse => simp [answered]
  | _ => exact fun event inside => absurd inside List.not_mem_nil

theorem sent_ofSend (call : SendCall) (w : World) : ∀ event ∈ (call.program.run w).events, OfSend call event := by
  obtain ⟨-, -, all⟩ := @MsgService.send_invariant call (fun _ _ sofar => ∀ event ∈ sofar, OfSend call event)
    (fun _ _ _ _ _ _ now step => List.forall_mem_append.mpr ⟨now, step_ofSend step⟩) w (by simp)
  exact all

theorem acked_of_ackSent {conn : ConnId} {body : Option SendMsgReq} {event : Event} {ack : SendMsgAck}
    (emitted : OfSend ⟨conn, 0, body⟩ event) (sent : ackSent conn event = some ack) :
    event = SendCall.acked ⟨conn, 0, body⟩ ack := by
  obtain ⟨key, rfl⟩ | ⟨ack', rfl⟩ | ⟨to_, packet, rfl, push⟩ := emitted
  · simp [ackSent] at sent
  · simp only [ackSent, SendCall.acked, and_self, if_true, Option.some.injEq] at sent
    rw [sent]
  · unfold ackSent at sent
    dsimp only at sent
    split at sent
    · have : packet.cmd ≠ .sendMsgAck := by
        obtain push | push := push <;> simp [push]
      simp [this] at sent
    · simp at sent

/-- The acks of a text whose id is new to the server are of its own message. -/
theorem text_backed {conn : ConnId} {conversationId : Int} {content clientMsgId : Bytes} {w : World}
    (fresh : clientMsgId ≠ [] → (w.mem.dedup.dedupFind clientMsgId).1 = none) {data : ChatStore.SendMsgResult} :
    let call : SendCall := ⟨conn, 0, some (textReq conversationId content clientMsgId)⟩
    data ∈ ((call.program.run w).events.filterMap (ackSent conn)).map sendResult → data.success = true →
      Backed conversationId data.serverSeq content (call.program.run w).state.tables := by
  intro call inside success
  obtain ⟨ack, sent, rfl⟩ := List.mem_map.mp inside
  obtain ⟨event, emitted, shown⟩ := List.mem_filterMap.mp sent
  have own := acked_of_ackSent (sent_ofSend call w event emitted) shown
  have ok : ack.code = 0 := by
    unfold sendResult at success
    split at success
    · assumption
    · cases success
  obtain ⟨m, there, ⟨here, -, text⟩, seq⟩ := fresh_backed call
    (fun req given keyed => by cases given; exact fresh keyed) _ ack rfl (own ▸ emitted) ok
  exact ⟨m, ⟨there, here⟩, by rw [seq, sendResult, if_pos ok], text⟩

/-! ### The window along a run -/

/-- The entry of a text is in the window only while its conversation is open. -/
structure Issued (s : ChatStore) (conversationId : Int) (content : Bytes) (localId : Nat) : Prop where
  counted : localId ≤ s.localIdCounter
  entry : ∀ e ∈ s.messages, e.localId = some localId → s.activeConv = some conversationId ∧ e.content = content

/-- What every step on which no result is taken for another carries along. -/
structure Kept (d : Desk) : Prop where
  seqs : SeqInv (· ≠ ·) d.world.tables
  genuine : Genuine d
  pages : ∀ conversationId data, Answer.page conversationId data ∈ d.answered → data.success = true →
    ∀ item ∈ data.messages, Backed conversationId item.serverSeq item.content d.world.tables
  texts : ∀ conversationId content localId data, Answer.text conversationId content localId data ∈ d.answered →
    data.success = true → (localId, data.serverSeq) ∈ d.acked ∧
      Backed conversationId data.serverSeq content d.world.tables
  asked : ∀ conversationId content localId, Asked.text conversationId content localId ∈ d.asked →
    Issued d.store conversationId content localId
  answered : ∀ conversationId content localId data, Answer.text conversationId content localId data ∈ d.answered →
    Issued d.store conversationId content localId
  numbered : ∀ e ∈ d.store.messages, ∀ localId, e.localId = some localId → localId ≤ d.store.localIdCounter
  unsent : ∀ e ∈ d.store.messages, e.sendStatus = some .sending → e.serverSeq = 0

/-- A message changed by `changeFirst` is one that was there, or the first that passes the test. -/
theorem mem_changeFirst {α : Type} {test : α → Bool} {change : α → α} {l : List α} {b : α}
    (inside : b ∈ changeFirst test change l) : b ∈ l ∨ ∃ a, l.find? test = some a ∧ b = change a := by
  induction l with
  | nil => exact .inl inside
  | cons a rest ih =>
    rw [changeFirst] at inside
    by_cases passes : test a = true
    · rw [if_pos passes] at inside
      obtain rfl | later := List.mem_cons.mp inside
      · exact .inr ⟨a, List.find?_cons_of_pos passes, rfl⟩
      · exact .inl (List.mem_cons_of_mem _ later)
    · rw [if_neg passes] at inside
      obtain rfl | later := List.mem_cons.mp inside
      · exact .inl List.mem_cons_self
      · obtain before | ⟨a', first, same⟩ := ih later
        · exact .inl (List.mem_cons_of_mem _ before)
        · exact .inr ⟨a', (List.find?_cons_of_neg passes).trans first, same⟩

section Steps
variable {conn : ConnId} {d : Desk}

/-- The server goes on; what it answers and acknowledges is backed. -/
private theorem kept_world (kept : Kept d) {w : World} {asked : List Asked} {answered : List Answer}
    {acked : List (Nat × Int)} (seqs : SeqInv (· ≠ ·) w.tables) (grows : Grows d.world.tables w.tables)
    (fewer : ∀ request ∈ asked, request ∈ d.asked) (known : ∀ entry ∈ d.acked, entry ∈ acked)
    (pages : ∀ conversationId data, Answer.page conversationId data ∈ answered → Answer.page conversationId data ∈ d.answered ∨
      (data.success = true → ∀ item ∈ data.messages, Backed conversationId item.serverSeq item.content w.tables))
    (texts : ∀ conversationId content localId data, Answer.text conversationId content localId data ∈ answered →
      Answer.text conversationId content localId data ∈ d.answered ∨ Issued d.store conversationId content localId ∧
        (data.success = true → (localId, data.serverSeq) ∈ acked ∧ Backed conversationId data.serverSeq content w.tables)) :
    Kept { d with world := w, asked := asked, answered := answered, acked := acked } where
  seqs := seqs
  genuine :=
    { contents := fun e inside sent normal => by
        obtain ⟨conversationId, m, here, stored, seq, content⟩ := kept.genuine.contents e inside sent normal
        obtain ⟨m', stored', seq', content'⟩ := Backed.grows grows ⟨m, stored, seq, content⟩
        exact ⟨conversationId, m', here, stored', seq', content'⟩
      own := fun e inside sent localId named => known _ (kept.genuine.own e inside sent localId named) }
  pages conversationId data inside success item shown := by
    obtain before | new := pages conversationId data inside
    · exact (kept.pages conversationId data before success item shown).grows grows
    · exact new success item shown
  texts conversationId content localId data inside success := by
    obtain before | ⟨-, new⟩ := texts conversationId content localId data inside
    · obtain ⟨listed, backed⟩ := kept.texts conversationId content localId data before success
      exact ⟨known _ listed, backed.grows grows⟩
    · exact new success
  asked conversationId content localId inside := kept.asked conversationId content localId (fewer _ inside)
  answered conversationId content localId data inside := by
    obtain before | ⟨issued, -⟩ := texts conversationId content localId data inside
    · exact kept.answered conversationId content localId data before
    · exact issued
  numbered := kept.numbered
  unsent := kept.unsent

private theorem kept_select (kept : Kept d) (conversationId : Int) :
    Kept (d.operate (d.store.selectConversation conversationId)) where
  seqs := kept.seqs
  genuine := ⟨fun _ inside => absurd inside List.not_mem_nil, fun _ inside => absurd inside List.not_mem_nil⟩
  pages := kept.pages
  texts := kept.texts
  asked conv content localId inside := by
    have before : Asked.text conv content localId ∈ d.asked := by
      simpa [Desk.operate, ChatStore.selectConversation, askedOf] using inside
    exact ⟨(kept.asked conv content localId before).counted, fun _ shown => absurd shown List.not_mem_nil⟩
  answered conv content localId data inside :=
    ⟨(kept.answered conv content localId data inside).counted, fun _ shown => absurd shown List.not_mem_nil⟩
  numbered _ inside := absurd inside List.not_mem_nil
  unsent _ inside := absurd inside List.not_mem_nil

/-- A store that shows the same, with no new text on its way. -/
private theorem kept_store (kept : Kept d) {s : ChatStore} {asked : List Asked} (shown : s.messages = d.store.messages)
    (active : s.activeConv = d.store.activeConv) (counter : s.localIdCounter = d.store.localIdCounter)
    (texts : ∀ conversationId content localId, Asked.text conversationId content localId ∈ asked →
      Asked.text conversationId content localId ∈ d.asked) : Kept { d with store := s, asked := asked } where
  seqs := kept.seqs
  genuine := ⟨by rw [shown, active]; exact kept.genuine.contents, by rw [shown]; exact kept.genuine.own⟩
  pages := kept.pages
  texts := kept.texts
  asked conversationId content localId inside := by
    obtain ⟨counted, entry⟩ := kept.asked conversationId content localId (texts _ _ _ inside)
    exact ⟨by rw [counter]; exact counted, by rw [shown, active]; exact entry⟩
  answered conversationId content localId data inside := by
    obtain ⟨counted, entry⟩ := kept.answered conversationId content localId data inside
    exact ⟨by rw [counter]; exact counted, by rw [shown, active]; exact entry⟩
  numbered := by rw [shown, counter]; exact kept.numbered
  unsent := by rw [shown]; exact kept.unsent

private theorem kept_loadMore (kept : Kept d) : Kept (d.operate d.store.loadMoreHistory) := by
  unfold ChatStore.loadMoreHistory
  split
  · exact kept_store kept rfl rfl rfl (by simp)
  · split
    · exact kept_store kept rfl rfl rfl (by simp)
    · exact kept_store kept rfl rfl rfl (by simp [askedOf])

private theorem kept_send (kept : Kept d) (content : Bytes) (msgType now : Int) :
    Kept (d.operate (d.store.sendMessage content msgType now)) := by
  unfold ChatStore.sendMessage
  cases active : d.store.activeConv with
  | none => exact kept_store kept rfl rfl rfl (by simp)
  | some conversationId =>
    -- an entry whose number is not the new one was there before
    have issued : ∀ conv text localId, Issued d.store conv text localId →
        Issued (d.operate (d.store.sendMessage content msgType now)).store conv text localId := by
      intro conv text localId before
      simp only [Desk.operate, ChatStore.sendMessage, active]
      refine ⟨before.counted.trans (Nat.le_succ _), fun e inside named => ?_⟩
      obtain old | new := List.mem_append.mp inside
      · rw [← active]
        exact before.entry e old named
      · rw [List.mem_singleton.mp new] at named
        have := before.counted
        have : d.store.localIdCounter + 1 = localId := Option.some.inj named
        omega
    simp only [Desk.operate, ChatStore.sendMessage, active] at issued ⊢
    refine ⟨kept.seqs, ⟨fun e inside => ?_, fun e inside => ?_⟩, kept.pages, kept.texts, fun conv text localId inside => ?_,
      fun conv text localId data inside => issued conv text localId (kept.answered conv text localId data inside),
      fun e inside => ?_, fun e inside => ?_⟩
    · obtain old | new := List.mem_append.mp inside
      · rw [← active]
        exact kept.genuine.contents e old
      · intro sent
        rw [List.mem_singleton.mp new] at sent
        exact absurd sent (lt_irrefl _)
    · obtain old | new := List.mem_append.mp inside
      · exact kept.genuine.own e old
      · intro sent
        rw [List.mem_singleton.mp new] at sent
        cases sent
    · obtain old | new := List.mem_append.mp inside
      · exact issued conv text localId (kept.asked conv text localId old)
      · simp only [askedOf, List.map_cons, List.map_nil, List.mem_singleton, Asked.text.injEq] at new
        obtain ⟨rfl, rfl, rfl⟩ := new
        refine ⟨le_rfl, fun e shown named => ?_⟩
        obtain old | new := List.mem_append.mp shown
        · have := kept.numbered e old _ named
          omega
        · exact ⟨rfl, by rw [List.mem_singleton.mp new]⟩
    · intro localId named
      obtain old | new := List.mem_append.mp inside
      · exact (kept.numbered e old localId named).trans (Nat.le_succ _)
      · rw [List.mem_singleton.mp new] at named
        exact (Option.some.inj named).ge
    · obtain old | new := List.mem_append.mp inside
      · exact kept.unsent e old
      · intro _
        rw [List.mem_singleton.mp new]

/-- Entries that no operation of the store has made come into the window. -/
private theorem kept_shown (kept : Kept d) {s : ChatStore} {new : List ChatMessage} {answered : List Answer}
    (fewer : ∀ answer ∈ answered, answer ∈ d.answered) (active : s.activeConv = d.store.activeConv)
    (counter : s.localIdCounter = d.store.localIdCounter)
    (shown : ∀ e, e ∈ s.messages ↔ e ∈ d.store.messages ∨ e ∈ new)
    (foreign : ∀ e ∈ new, e.sendStatus = none ∧ e.localId = none)
    (backed : ∀ e ∈ new, e.status = 0 → ∃ conversationId, d.store.activeConv = some conversationId ∧
      Backed conversationId e.serverSeq e.content d.world.tables) :
    Kept { d with store := s, answered := answered } := by
  have issued : ∀ conv text localId, Issued d.store conv text localId → Issued s conv text localId := by
    intro conv text localId before
    refine ⟨by rw [counter]; exact before.counted, fun e inside named => ?_⟩
    obtain old | fresh := (shown e).mp inside
    · rw [active]
      exact before.entry e old named
    · rw [(foreign e fresh).2] at named
      cases named
  refine ⟨kept.seqs, ⟨fun e inside sent normal => ?_, fun e inside sent => ?_⟩,
    fun conv data inside => kept.pages conv data (fewer _ inside),
    fun conv text localId data inside => kept.texts conv text localId data (fewer _ inside),
    fun conv text localId inside => issued conv text localId (kept.asked conv text localId inside),
    fun conv text localId data inside => issued conv text localId (kept.answered conv text localId data (fewer _ inside)),
    fun e inside localId named => ?_, fun e inside pending => ?_⟩
  · obtain old | fresh := (shown e).mp inside
    · rw [active]
      exact kept.genuine.contents e old sent normal
    · obtain ⟨conversationId, here, m, stored, same⟩ := backed e fresh normal
      exact ⟨conversationId, m, active.trans here, stored, same⟩
  · obtain old | fresh := (shown e).mp inside
    · exact kept.genuine.own e old sent
    · rw [(foreign e fresh).1] at sent
      cases sent
  · obtain old | fresh := (shown e).mp inside
    · rw [counter]
      exact kept.numbered e old localId named
    · rw [(foreign e fresh).2] at named
      cases named
  · obtain old | fresh := (shown e).mp inside
    · exact kept.unsent e old pending
    · rw [(foreign e fresh).1] at pending
      cases pending

private theorem kept_push (kept : Kept d) (conversationId serverSeq : Int) (senderUid : Bytes) (serverTime : Int) :
    Kept (d.step conn (.push conversationId serverSeq senderUid serverTime)) := by
  simp only [Desk.step]
  split
  · exact kept
  · rename_i m found
    have there := List.mem_of_find?_eq_some found
    by_cases here : d.store.activeConv = some m.conversationId
    · let entry : ChatMessage :=
        { sender := senderUid, content := m.content, self := senderUid = d.store.currentUid, serverSeq := m.seq,
          serverTime := serverTime, msgType := m.msgType, status := 0 }
      refine @kept_shown d kept _ [entry] _ (fun _ => id) rfl rfl (fun e => ?_) (fun e new => ?_) (fun e new _ => ?_)
      · have appended : (d.store.newMessage (Desk.pushOf m senderUid serverTime)).messages = d.store.messages ++ [entry] :=
          if_pos here
        rw [appended]
        exact List.mem_append
      · rw [List.mem_singleton.mp new]
        exact ⟨rfl, rfl⟩
      · rw [List.mem_singleton.mp new]
        exact ⟨_, here, m, ⟨there, rfl⟩, rfl, rfl⟩
    · refine @kept_shown d kept _ [] _ (fun _ => id) rfl rfl (fun e => ?_) (by simp) (by simp)
      simp [ChatStore.newMessage, Desk.pushOf, here]

/-- A page meets the conversation it was asked for. -/
private theorem kept_page (kept : Kept d) {conversationId : Int} {data : ChatStore.SyncMessagesResult} {answered : List Answer}
    (fewer : ∀ answer ∈ answered, answer ∈ d.answered) (arrived : Answer.page conversationId data ∈ d.answered)
    (meets : Meets d (.page conversationId data)) :
    Kept { d with store := d.store.syncMessagesResult data, answered := answered } := by
  unfold ChatStore.syncMessagesResult
  by_cases success : data.success = true
  · rw [if_pos success]
    refine kept_shown kept fewer rfl rfl (fun e => List.mem_append.trans or_comm) (fun e new => ?_) (fun e new _ => ?_)
    · obtain ⟨item, -, rfl⟩ := List.mem_map.mp new
      exact ⟨rfl, rfl⟩
    · obtain ⟨item, listed, rfl⟩ := List.mem_map.mp new
      exact ⟨conversationId, meets success (List.ne_nil_of_mem listed),
        kept.pages conversationId data arrived success item listed⟩
  · rw [if_neg success]
    exact @kept_shown d kept _ [] _ fewer rfl rfl (fun e => by simp) (by simp) (by simp)

/-- What the result of a text makes of an entry: it is as it was, has failed, or is the text's own
    and is marked as sent with its seq. -/
private theorem settled_entry (kept : Kept d) {conversationId : Int} {content : Bytes} {localId : Nat}
    {data : ChatStore.SendMsgResult} (meets : Meets d (.text conversationId content localId data)) {e : ChatMessage}
    (inside : e ∈ (d.store.sendMsgResult data).messages) :
    e ∈ d.store.messages ∨ ∃ pending ∈ d.store.messages, pending.serverSeq = 0 ∧ e.localId = pending.localId ∧
      e.content = pending.content ∧ (e.sendStatus = some .failed ∧ e.serverSeq = 0 ∨
        e.sendStatus = some .sent ∧ data.success = true ∧ e.localId = some localId ∧ e.serverSeq = data.serverSeq) := by
  obtain old | ⟨pending, first, rfl⟩ := mem_changeFirst inside
  · exact .inl old
  · have there := List.mem_of_find?_eq_some first
    have waiting : pending.sendStatus = some .sending := by
      have passes := List.find?_some first
      simp only [ChatStore.isPending, Bool.and_eq_true, decide_eq_true_eq] at passes
      exact passes.2
    have unsent := kept.unsent pending there waiting
    refine .inr ⟨pending, there, unsent, ?_⟩
    unfold ChatStore.settle
    by_cases success : data.success = true
    · rw [if_pos success]
      refine ⟨rfl, rfl, .inr ⟨rfl, success, meets success pending first, ?_⟩⟩
      by_cases given : data.serverSeq ≠ 0
      · exact if_pos given
      · exact (if_neg given).trans (unsent.trans (not_not.mp given).symm)
    · rw [if_neg success]
      exact ⟨rfl, rfl, .inl ⟨rfl, unsent⟩⟩

/-- The result of a text meets its own entry. -/
private theorem kept_result (kept : Kept d) {conversationId : Int} {content : Bytes} {localId : Nat}
    {data : ChatStore.SendMsgResult} {answered : List Answer} (fewer : ∀ answer ∈ answered, answer ∈ d.answered)
    (arrived : Answer.text conversationId content localId data ∈ d.answered)
    (meets : Meets d (.text conversationId content localId data)) :
    Kept { d with store := d.store.sendMsgResult data, answered := answered } := by
  have own := kept.answered conversationId content localId data arrived
  have issued : ∀ conv text number, Issued d.store conv text number → Issued (d.store.sendMsgResult data) conv text number := by
    intro conv text number before
    refine ⟨before.counted, fun e inside named => ?_⟩
    obtain old | ⟨pending, there, -, number', content', -⟩ := settled_entry kept meets inside
    · exact before.entry e old named
    · rw [content']
      exact before.entry pending there (number'.symm.trans named)
  refine ⟨kept.seqs, ⟨fun e inside sent normal => ?_, fun e inside sent number named => ?_⟩,
    fun conv data inside => kept.pages conv data (fewer _ inside),
    fun conv text localId data inside => kept.texts conv text localId data (fewer _ inside),
    fun conv text localId inside => issued conv text localId (kept.asked conv text localId inside),
    fun conv text localId data inside => issued conv text localId (kept.answered conv text localId data (fewer _ inside)),
    fun e inside number named => ?_, fun e inside waiting => ?_⟩
  · obtain old | ⟨pending, there, unsent, number, text, ⟨-, zero⟩ | ⟨-, success, mine, seq⟩⟩ := settled_entry kept meets inside
    · exact kept.genuine.contents e old sent normal
    · rw [zero] at sent
      exact absurd sent (lt_irrefl _)
    · obtain ⟨open_, same⟩ := own.entry pending there (number.symm.trans mine)
      obtain ⟨-, m, stored, seq', content'⟩ := kept.texts _ _ _ _ arrived success
      exact ⟨conversationId, m, open_, stored, seq'.trans seq.symm, content'.trans (same.symm.trans text.symm)⟩
  · obtain old | ⟨pending, there, unsent, -, -, ⟨failed, -⟩ | ⟨-, success, mine, seq⟩⟩ := settled_entry kept meets inside
    · exact kept.genuine.own e old sent number named
    · rw [failed] at sent
      cases sent
    · obtain ⟨acked, -⟩ := kept.texts _ _ _ _ arrived success
      rw [seq, ← Option.some.inj (mine.symm.trans named)]
      exact acked
  · obtain old | ⟨pending, there, -, number', -⟩ := settled_entry kept meets inside
    · exact kept.numbered e old number named
    · exact kept.numbered pending there number (number'.symm.trans named)
  · obtain old | ⟨pending, -, -, -, -, ⟨failed, -⟩ | ⟨sent, -⟩⟩ := settled_entry kept meets inside
    · exact kept.unsent e old waiting
    · rw [failed] at waiting
      cases waiting
    · rw [sent] at waiting
      cases waiting

/-- The server takes up a request of the store. -/
private theorem kept_serve (kept : Kept d) (around : Surroundings) (clientMsgId : Bytes) {request : Asked} {asked : List Asked}
    (fewer : ∀ request ∈ asked, request ∈ d.asked) (listed : request ∈ d.asked)
    (fresh : ∀ conversationId content localId, request = .text conversationId content localId →
      clientMsgId ≠ [] → (d.world.mem.dedup.dedupFind clientMsgId).1 = none) :
    Kept (Desk.serve conn { d with asked := asked } around clientMsgId request) := by
  cases request with
  | page conversationId lastSeq limit =>
    obtain ⟨tables, pages⟩ := @pages_backed conn { conversationId := conversationId, lastSeq := lastSeq, limit := limit }
      (around.enter d.world)
    refine kept_world kept (tables ▸ kept.seqs) (tables ▸ .refl _) fewer (fun _ => id) (fun conv data inside => ?_)
      (fun conv content localId data inside => ?_)
    · obtain old | new := List.mem_append.mp inside
      · exact .inl old
      · obtain ⟨resp, shown, same⟩ := List.mem_map.mp new
        cases same
        refine .inr fun success item there => ?_
        unfold syncResult at success there
        split at success
        · rw [if_pos ‹_›] at there
          rw [served, SyncService.handle, tables]
          exact pages resp shown ‹_› item there
        · cases success
    · obtain old | new := List.mem_append.mp inside
      · exact .inl old
      · obtain ⟨resp, -, same⟩ := List.mem_map.mp new
        cases same
  | read conversationId readUpToSeq =>
    obtain ⟨seqs, grows⟩ := perform_keeps (fun _ _ => ne_of_lt) d.world
      ⟨around, .msg (.readAck conn 0 (some { conversationId := conversationId, readUpToSeq := readUpToSeq }))⟩ kept.seqs
    exact kept_world kept seqs grows fewer (fun _ => id) (fun _ _ => .inl) (fun _ _ _ _ => .inl)
  | text conversationId content localId =>
    obtain ⟨seqs, grows⟩ := perform_keeps (fun _ _ => ne_of_lt) d.world
      ⟨around, .msg (.sendMsg conn 0 (some (textReq conversationId content clientMsgId)))⟩ kept.seqs
    refine kept_world kept seqs grows fewer (fun entry => List.mem_append_left _) (fun conv data inside => ?_)
      (fun conv text number data inside => ?_)
    · obtain old | new := List.mem_append.mp inside
      · exact .inl old
      · obtain ⟨result, -, same⟩ := List.mem_map.mp new
        cases same
    · obtain old | new := List.mem_append.mp inside
      · exact .inl old
      · obtain ⟨data, shown, same⟩ := List.mem_map.mp new
        cases same
        refine .inr ⟨kept.asked _ _ _ listed, fun success => ⟨List.mem_append_right _ ?_, ?_⟩⟩
        · exact List.mem_map.mpr ⟨_, List.mem_filter.mpr ⟨shown, success⟩, rfl⟩
        · exact @text_backed conn conversationId content clientMsgId (around.enter d.world)
            (fresh conversationId content localId rfl) data shown success

end Steps

/-- A step on which no result is taken for another. -/
theorem kept_step {conn : ConnId} {d : Desk} (kept : Kept d) (move : DeskMove) (matched : Matched d move) :
    Kept (d.step conn move) := by
  cases move with
  | select conversationId => exact kept_select kept conversationId
  | loadMore => exact kept_loadMore kept
  | send content msgType now => exact kept_send kept content msgType now
  | push conversationId serverSeq senderUid serverTime => exact kept_push kept conversationId serverSeq senderUid serverTime
  | meanwhile call =>
    obtain ⟨seqs, grows⟩ := perform_keeps (fun _ _ => ne_of_lt) d.world call kept.seqs
    exact kept_world kept seqs grows (fun _ => id) (fun _ => id) (fun _ _ => .inl) (fun _ _ _ _ => .inl)
  | serve i around clientMsgId =>
    simp only [Desk.step]
    split
    · exact kept
    · rename_i request here
      refine kept_serve kept around clientMsgId (fun _ => List.mem_of_mem_eraseIdx) (List.mem_of_getElem? here) ?_
      rintro conversationId content localId rfl
      exact matched conversationId content localId here
  | deliver i =>
    simp only [Desk.step]
    split
    · exact kept
    · rename_i answer here
      have arrived := List.mem_of_getElem? here
      cases answer with
      | page conversationId data =>
        exact kept_page kept (fun _ => List.mem_of_mem_eraseIdx) arrived (matched _ here)
      | text conversationId content localId data =>
        exact kept_result kept (fun _ => List.mem_of_mem_eraseIdx) arrived (matched _ here)

/-- In every run from an empty window on which no result is taken for another, the window shows
    what the server has stored. -/
theorem genuine_window (conn : ConnId) (d : Desk) (seqs : SeqInv (· ≠ ·) d.world.tables) (empty : d.store.messages = [])
    (idle : d.asked = [] ∧ d.answered = []) (moves : List DeskMove)
    (matched : Along (Desk.step conn) Matched d moves) : Genuine (after (Desk.step conn) d moves) := by
  have start : Kept d := by
    refine ⟨seqs, ⟨?_, ?_⟩, ?_, ?_, ?_, ?_, ?_, ?_⟩ <;> simp [empty, idle.1, idle.2]
  have kept := @after_invariant _ _ (Desk.step conn) Matched Kept (fun d move met kept => kept_step kept move met)
    d start moves matched
  exact kept.genuine

/-- The desk of user 1, who shares conversation 1 with user 2. -/
def deskOfFriends : Desk :=
  { world := after (perform handle) twoUsers befriending, store := { currentUid := [1] } }

theorem friends_seqs : SeqInv (· ≠ ·) deskOfFriends.world.tables :=
  (keeps_run (fun _ _ => ne_of_lt) ⟨fun _ inside => absurd inside List.not_mem_nil, .nil,
    fun _ inside => absurd inside List.not_mem_nil⟩ befriending).1

/-- The conversation is opened again while the result of a text is on its way, and another text
    is written in it. -/
def reopened : List DeskMove :=
  [.select 1, .send [97] 1 0, .serve 2 bothOnline [7], .select 1, .send [98] 1 0, .deliver 0]

/-- The result is taken for that of the other text, which now carries the seq of the first. -/
theorem window_mistaken : ¬∀ (conn : ConnId) (d : Desk), SeqInv (· ≠ ·) d.world.tables → d.store.messages = [] →
    d.asked = [] ∧ d.answered = [] → ∀ moves : List DeskMove, Along (Desk.step conn) NewId d moves →
      Genuine (after (Desk.step conn) d moves) := by
  intro claim
  have shown := claim 1 deskOfFriends friends_seqs rfl ⟨rfl, rfl⟩ reopened
    ⟨trivial, trivial, fun _ _ _ _ _ => rfl, trivial, trivial, trivial, trivial⟩
  let mistaken : ChatMessage :=
    { sender := [1], content := [98], self := true, serverSeq := 1, serverTime := 0, msgType := 1, status := 0,
      sendStatus := some .sent, localId := some 2 }
  have there : mistaken ∈ (after (Desk.step 1) deskOfFriends reopened).store.messages := by decide
  obtain ⟨conversationId, m, -, stored, -, content⟩ := shown.contents mistaken there (by decide) rfl
  have written : ∀ m ∈ (after (Desk.step 1) deskOfFriends reopened).world.tables.messages.rows, m.content ≠ [98] := by
    decide
  exact written m stored.1 content

/-- A text that is written and answered in an open conversation. -/
theorem genuine_window_text :
    Genuine (after (Desk.step 1) deskOfFriends [.select 1, .send [97] 1 0, .serve 2 bothOnline [7], .deliver 0]) :=
  genuine_window 1 deskOfFriends friends_seqs rfl ⟨rfl, rfl⟩ _
    ⟨trivial, trivial, fun _ _ _ _ _ => rfl, fun answer here => by
      obtain rfl := Option.some.inj here
      intro _ pending first
      obtain rfl := Option.some.inj first
      rfl, trivial⟩

end NovaIIM.Desktop
