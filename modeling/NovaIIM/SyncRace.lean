import NovaIIM.SyncPaging
import NovaIIM.SyncPhases

/-!
Paging while sends are interleaved.

Sends and page requests run in one pool. A send holds a seq from its allocation
to its insertion (`Allocations`), and a page that is read in between may hold
larger ones: the reader then passes the seq before its message is stored. A
number the reader has reached is `Passed` when no held seq is before it; that is
carried along for the cursor and for every page on its way, as long as no page
is read past a held seq (`SyncClient.InOrder`).
-/
namespace NovaIIM
open Store MsgService SyncService

/-- Sends and page requests as one machine. -/
def raceMachine : Machine World Event (SendCall ⊕ SyncCall) := sendMachine.sum syncMachine

/-- The handlers of sends and page requests. -/
def raceProgram : SendCall ⊕ SyncCall → Handler := Sum.elim SendCall.program SyncCall.program

/-- A client that pages through a conversation on a connection. -/
structure SyncClient where
  conn : ConnId
  conversationId : Int
  start : Int := 0

namespace SyncClient
variable (c : SyncClient)

/-- The packet is one of the client's page requests. -/
def asks (call : SyncCall) : Bool :=
  call.conn = c.conn && call.body.any fun req => req.conversationId = c.conversationId

/-- The response that an event is to the client. -/
def response : (SendCall ⊕ SyncCall) × Event → Option SyncMsgResp
  | (.inr call, .sent _ { body := .syncMsgResp resp, .. }) => if c.asks call then some resp else none
  | _ => none

/-- What the client has received. -/
def reader (trace : List ((SendCall ⊕ SyncCall) × Event)) : Reader SyncMsgItem Int :=
  (trace.filterMap c.response).foldl (fun r resp => messageFeed.absorb r resp.messages resp.hasMore)
    { cursor := c.start }

/-- The client asks for what follows the largest seq it has received. -/
def Pages (p : Pool World Event (SendCall ⊕ SyncCall)) : Move (SendCall ⊕ SyncCall) Surroundings → Prop
  | .start (.inr call) => c.asks call = true → ∀ req ∈ call.body, req.lastSeq = (c.reader p.trace).cursor
  | _ => True

/-- No message of the conversation that the client has passed is missing. -/
def Complete (p : Pool World Event (SendCall ⊕ SyncCall)) : Prop :=
  ∀ m, Stored c.conversationId p.shared.tables m → c.start < m.seq → m.seq ≤ (c.reader p.trace).cursor →
    ∃ item ∈ (c.reader p.trace).received, messageFeed.Reports m item

end SyncClient

/-- A send of the conversation has been allocated the seq and has not inserted its row yet. -/
def Pending (conversationId serverSeq : Int) (thread : Thread World Event (SendCall ⊕ SyncCall)) : Prop :=
  ∃ (call : SendCall) (s : Sending call), thread.call = .inl call ∧ s.req.conversationId = conversationId ∧
    (thread.rest = (Phase.timing s serverSeq).program ∨
      ∃ epochMs, thread.rest = (Phase.inserting s serverSeq epochMs).program)

/-- The thread is about to read a page for the client. -/
def SyncClient.Reading (c : SyncClient) (req : SyncMsgReq) (limit : Int)
    (thread : Thread World Event (SendCall ⊕ SyncCall)) : Prop :=
  ∃ (call : SyncCall) (given : call.body = some req), thread.call = .inr call ∧ c.asks call = true ∧
    thread.rest = (SyncPhase.reading req given limit).program

/-- How many messages of a conversation are stored between two seqs. -/
def between (conversationId last bound : Int) (t : Tables) : Nat :=
  (t.messages.rows.filter fun m =>
    m.conversationId = conversationId && decide (last < m.seq) && decide (m.seq < bound)).length

/-- A page that is read now does not reach past a seq that is allocated and not yet used:
    no larger one is stored, or the limit is used up before. -/
def SyncClient.InOrder (c : SyncClient) (p : Pool World Event (SendCall ⊕ SyncCall))
    (move : Move (SendCall ⊕ SyncCall) Surroundings) : Prop :=
  ∀ i reader req limit, move = .advance i → p.threads[i]? = some reader → c.Reading req limit reader →
    ∀ writer ∈ p.threads, ∀ serverSeq, Pending c.conversationId serverSeq writer → req.lastSeq < serverSeq →
      (∀ m, Stored c.conversationId p.shared.tables m → m.seq ≤ serverSeq) ∨
        0 ≤ limit ∧ limit ≤ between c.conversationId req.lastSeq serverSeq p.shared.tables

/-! ### Seqs on their way -/

/-- The seq that a send holds, with its conversation. -/
def MsgService.Phase.held {call : SendCall} : Phase call → Option (Int × Int)
  | .timing s serverSeq | .inserting s serverSeq _ => some (s.req.conversationId, serverSeq)
  | _ => none

/-- What a step of a send means for the seqs. -/
inductive SeqStep (t t' : Tables) : Option (Int × Int) → Option (Int × Int) → Prop where
  | aside (x : Option (Int × Int)) (keeps : Keeps t t') (messages : t'.messages = t.messages) : SeqStep t t' x x
  | allocate (conversationId : Int) (conv : Conversation) (tables : t' = t.incrMaxSeq conversationId)
      (known : conv ∈ t'.conversations.rows) (named : conv.id = conversationId) :
      SeqStep t t' none (some (conversationId, conv.maxSeq))
  | insert (m : Message) (tables : t' = t.insertMessage m) : SeqStep t t' (some (m.conversationId, m.seq)) none
  | drop (x : Int × Int) (tables : t' = t) : SeqStep t t' (some x) none

private theorem held_quit {call : SendCall} (s : Sending call) (e : Error) (bad : e.code ≠ 0) :
    (Phase.quit s e bad).held = none := by
  unfold Phase.quit
  split <;> rfl

private theorem held_stored {call : SendCall} (s : Sending call) (serverSeq epochMs : Int) :
    (Phase.stored s serverSeq epochMs).held = none := by
  unfold Phase.stored
  split <;> rfl

theorem seqStep {call : SendCall} {phase next : Phase call} {w w' : World} {events : List Event}
    (step : SendStep w phase next w' events) : SeqStep w.tables w'.tables phase.held next.held := by
  cases step with
  | anonymous | malformed | identify | invalid | unkeyed | keyed | replay | busy | take | insider | time
  | fill | answer | release | refuse => exact .aside _ (.refl _) rfl
  | outsider s =>
    rw [held_quit]
    exact .aside _ (.refl _) rfl
  | unallocated s _ mem tables =>
    rw [held_quit]
    rcases tables with same | incremented
    · rw [same]
      exact .aside _ (.refl _) rfl
    · rw [incremented]
      exact .aside _ (keeps_incremented _ _) rfl
  | allocated s conv _ mem tables faults able known named =>
    exact .allocate _ conv tables known named
  | lost s serverSeq epochMs =>
    rw [held_quit]
    exact .drop _ rfl
  | insert s serverSeq epochMs =>
    rw [held_stored]
    exact .insert (messageOf s.userId s.req serverSeq epochMs) rfl
  | deliver d d' _ _ saved mem tables =>
    rcases tables with same | ⟨conversationId, userId, selected, change, -, -, written⟩
    · rw [same]
      exact .aside _ (.refl _) rfl
    · rw [written]
      exact .aside _ (keeps_elsewhere rfl rfl) rfl

/-- The handlers hold distinct seqs that were allocated and are not used. -/
structure Allocations (t : Tables) (held : List (Option (Int × Int))) : Prop where
  inv : SeqInv (· ≠ ·) t
  within : ∀ (i : Nat) conversationId serverSeq, held[i]? = some (some (conversationId, serverSeq)) →
    1 ≤ serverSeq ∧ ∃ conv ∈ t.conversations.rows, conv.id = conversationId ∧ serverSeq ≤ conv.maxSeq
  unused : ∀ (i : Nat) conversationId serverSeq, held[i]? = some (some (conversationId, serverSeq)) →
    ∀ m, Stored conversationId t m → m.seq ≠ serverSeq
  apart : ∀ (i j : Nat) x, held[i]? = some (some x) → held[j]? = some (some x) → i = j

section Allocations
variable {t t' : Tables} {held : List (Option (Int × Int))} {i : Nat} {x y : Option (Int × Int)}

/-- What the handlers hold after one of them has changed. -/
private theorem held_set {j : Nat} {z : Int × Int} (there : (held.set i y)[j]? = some (some z)) :
    j = i ∧ y = some z ∨ j ≠ i ∧ held[j]? = some (some z) := by
  by_cases same : j = i
  · subst same
    rw [List.getElem?_set] at there
    simp only [if_true] at there
    split at there
    · exact .inl ⟨rfl, Option.some.inj there⟩
    · cases there
  · rw [List.getElem?_set_ne (Ne.symm same)] at there
    exact .inr ⟨same, there⟩

private theorem set_same (here : held[i]? = some x) : held.set i x = held := by
  obtain ⟨within, value⟩ := List.getElem?_eq_some_iff.mp here
  rw [← value, List.set_getElem_self]

/-- All stored and held seqs are below one that is allocated now. -/
private theorem below_allocated (alloc : Allocations t held) {conversationId : Int} {conv : Conversation}
    (known : conv ∈ (t.incrMaxSeq conversationId).conversations.rows) (named : conv.id = conversationId) :
    1 ≤ conv.maxSeq ∧ ∀ (j : Nat) q, held[j]? = some (some (conversationId, q)) → q < conv.maxSeq := by
  obtain ⟨old, there, here, top⟩ := incremented_row known named
  have nonneg := alloc.inv.nonneg old there
  refine ⟨by omega, ?_⟩
  intro j q holds
  obtain ⟨-, conv', known', named', high⟩ := alloc.within j conversationId q holds
  have : conv' = old := Table.eq_of_id known' there (named'.trans here.symm)
  subst this
  omega

theorem allocations_step (alloc : Allocations t held) (here : held[i]? = some x) (step : SeqStep t t' x y) :
    Allocations t' (held.set i y) := by
  cases step with
  | aside _ keeps messages =>
    rw [set_same here]
    refine ⟨keeps.inv alloc.inv, ?_, ?_, alloc.apart⟩
    · intro j conversationId q holds
      obtain ⟨low, conv, known, named, high⟩ := alloc.within j conversationId q holds
      obtain ⟨conv', known', same, up⟩ := keeps.grows.conversations conv known
      exact ⟨low, conv', known', same.trans named, high.trans up⟩
    · intro j conversationId q holds m stored
      rw [Stored, messages] at stored
      exact alloc.unused j conversationId q holds m stored
  | allocate conversationId conv tables known named =>
    subst tables
    obtain ⟨low, below⟩ := below_allocated alloc known named
    have above := (allocated_above alloc.inv known named).2
    have grows := (keeps_incremented t conversationId).grows
    refine ⟨(keeps_incremented t conversationId).inv alloc.inv, ?_, ?_, ?_⟩
    · intro j c q holds
      rcases held_set holds with ⟨-, same⟩ | ⟨-, old⟩
      · obtain ⟨rfl, rfl⟩ := Prod.mk.inj (Option.some.inj same)
        exact ⟨low, conv, known, named, le_rfl⟩
      · obtain ⟨low', conv', known', named', high⟩ := alloc.within j c q old
        obtain ⟨conv'', known'', same, up⟩ := grows.conversations conv' known'
        exact ⟨low', conv'', known'', same.trans named', high.trans up⟩
    · intro j c q holds m stored
      rcases held_set holds with ⟨-, same⟩ | ⟨-, old⟩
      · obtain ⟨rfl, rfl⟩ := Prod.mk.inj (Option.some.inj same)
        exact (above m stored.1 stored.2).ne
      · exact alloc.unused j c q old m stored
    · intro j k z first second
      rcases held_set first with ⟨rfl, same⟩ | ⟨-, old⟩ <;> rcases held_set second with ⟨rfl, same'⟩ | ⟨-, old'⟩
      · rfl
      · rw [← Option.some.inj same] at old'
        exact absurd (below k conv.maxSeq old') (lt_irrefl _)
      · rw [← Option.some.inj same'] at old
        exact absurd (below j conv.maxSeq old) (lt_irrefl _)
      · exact alloc.apart j k z old old'
  | insert m tables =>
    subst tables
    obtain ⟨low, conv, known, named, high⟩ := alloc.within i _ _ here
    have unused := alloc.unused i _ _ here
    refine ⟨inv_inserted alloc.inv known named low high fun old there same => unused old ⟨there, same⟩, ?_, ?_, ?_⟩
    · intro j c q holds
      rcases held_set holds with ⟨-, same⟩ | ⟨-, old⟩
      · cases same
      · exact alloc.within j c q old
    · intro j c q holds a stored
      rcases held_set holds with ⟨-, same⟩ | ⟨apart, old⟩
      · cases same
      rcases Table.mem_insert.mp stored.1 with before | ⟨-, rfl⟩
      · exact alloc.unused j c q old a ⟨before, stored.2⟩
      · intro equal
        have shape : (c, q) = (m.conversationId, m.seq) := Prod.ext stored.2.symm equal.symm
        rw [shape] at old
        exact apart (alloc.apart j i _ old here)
    · intro j k z first second
      rcases held_set first with ⟨-, same⟩ | ⟨-, old⟩
      · cases same
      rcases held_set second with ⟨-, same⟩ | ⟨-, old'⟩
      · cases same
      exact alloc.apart j k z old old'
  | drop x tables =>
    subst tables
    have kept : ∀ (j : Nat) z, (held.set i none)[j]? = some (some z) → held[j]? = some (some z) := by
      intro j z holds
      rcases held_set holds with ⟨-, same⟩ | ⟨-, old⟩
      · cases same
      · exact old
    exact ⟨alloc.inv, fun j c q holds => alloc.within j c q (kept j _ holds),
      fun j c q holds => alloc.unused j c q (kept j _ holds),
      fun j k z first second => alloc.apart j k z (kept j z first) (kept k z second)⟩

end Allocations
/-! ### What the client has passed -/

/-- A number that a client may reach: no seq behind its start that is held is at or before it. -/
structure Passed (c : SyncClient) (t : Tables) (held : List (Option (Int × Int))) (b : Int) : Prop where
  reached : b ≤ c.start ∨ ∃ conv ∈ t.conversations.rows, conv.id = c.conversationId ∧ b ≤ conv.maxSeq
  ahead : ∀ (i : Nat) serverSeq, held[i]? = some (some (c.conversationId, serverSeq)) → c.start < serverSeq →
    b < serverSeq

/-- Items on their way to the client, of a page behind `last`. -/
structure Flying (c : SyncClient) (t : Tables) (held : List (Option (Int × Int))) (cursor last : Int)
    (items : List SyncMsgItem) : Prop where
  began : c.start ≤ last
  upTo : last ≤ cursor
  segment : messageFeed.Segment (Stored c.conversationId t) last items
  passed : ∀ item ∈ items, Passed c t held item.serverSeq

section Passed
variable {c : SyncClient} {t t' : Tables} {held : List (Option (Int × Int))} {i : Nat} {x y : Option (Int × Int)}
  {b cursor last : Int} {items : List SyncMsgItem}

theorem passed_step (passed : Passed c t held b) (here : held[i]? = some x)
    (step : SeqStep t t' x y) : Passed c t' (held.set i y) b := by
  have risen : Grows t t' ∨ t'.conversations = t.conversations := by
    cases step with
    | aside _ keeps => exact .inl keeps.grows
    | allocate conversationId conv tables => exact .inl (tables ▸ (keeps_incremented t conversationId).grows)
    | insert m tables => exact .inr (by rw [tables]; rfl)
    | drop _ tables => exact .inr (by rw [tables])
  constructor
  · rcases passed.reached with low | ⟨conv, known, named, high⟩
    · exact .inl low
    rcases risen with grows | same
    · obtain ⟨conv', known', same, up⟩ := grows.conversations conv known
      exact .inr ⟨conv', known', same.trans named, high.trans up⟩
    · exact .inr ⟨conv, same ▸ known, named, high⟩
  · intro j q holds behind
    rcases held_set holds with ⟨-, same⟩ | ⟨-, old⟩
    · cases step with
      | aside _ keeps messages => exact passed.ahead i q (here.trans (by rw [same])) behind
      | allocate conversationId conv tables known named =>
        obtain ⟨rfl, rfl⟩ := Prod.mk.inj (Option.some.inj same)
        rcases passed.reached with low | ⟨old, there, here', high⟩
        · exact low.trans_lt behind
        · rw [tables] at known
          obtain ⟨found, there', named', top⟩ := incremented_row known named
          have : found = old := Table.eq_of_id there' there (named'.trans here'.symm)
          subst this
          omega
      | insert m tables => cases same
      | drop _ tables => cases same
    · exact passed.ahead j q old behind

/-- A page in flight is not overtaken: what is stored meanwhile is behind all of it. -/
theorem flying_step (flying : Flying c t held cursor last items)
    (here : held[i]? = some x) (step : SeqStep t t' x y) : Flying c t' (held.set i y) cursor last items := by
  refine ⟨flying.began, flying.upTo, ⟨flying.segment.behind, ?_⟩, ?_⟩
  · intro m stored behind
    have old : Stored c.conversationId t m ∨ x = some (c.conversationId, m.seq) := by
      cases step with
      | aside _ keeps messages => exact .inl ⟨messages ▸ stored.1, stored.2⟩
      | allocate conversationId conv tables =>
        rw [Stored, tables] at stored
        exact .inl stored
      | drop _ tables => exact .inl ⟨tables ▸ stored.1, stored.2⟩
      | insert new tables =>
        rw [Stored, tables] at stored
        rcases Table.mem_insert.mp stored.1 with before | ⟨-, rfl⟩
        · exact .inl ⟨before, stored.2⟩
        · exact .inr (by rw [← stored.2]; rfl)
    rcases old with old | own
    · exact flying.segment.gapless m old behind
    · right
      intro item inside
      exact (flying.passed item inside).ahead i m.seq (own ▸ here) (flying.began.trans_lt behind)
  · intro item inside
    exact passed_step (flying.passed item inside) here step

/-- What the client has covered stays covered. -/
theorem covers_step {r : Reader SyncMsgItem Int} (covers : messageFeed.Covers (Stored c.conversationId t) c.start r)
    (passed : Passed c t held r.cursor) (here : held[i]? = some x) (step : SeqStep t t' x y) :
    messageFeed.Covers (Stored c.conversationId t') c.start r := by
  refine covers.change ?_
  intro m stored behind upTo
  cases step with
  | aside _ keeps messages => exact ⟨m, ⟨messages ▸ stored.1, stored.2⟩, rfl, fun _ => id⟩
  | allocate conversationId conv tables =>
    rw [Stored, tables] at stored
    exact ⟨m, stored, rfl, fun _ => id⟩
  | drop _ tables => exact ⟨m, ⟨tables ▸ stored.1, stored.2⟩, rfl, fun _ => id⟩
  | insert new tables =>
    rw [Stored, tables] at stored
    rcases Table.mem_insert.mp stored.1 with before | ⟨-, rfl⟩
    · exact ⟨m, ⟨before, stored.2⟩, rfl, fun _ => id⟩
    · have own : (new.conversationId, new.seq) = (c.conversationId, new.seq) := by rw [← stored.2]; rfl
      rw [own] at here
      exact absurd (passed.ahead i new.seq here behind) (not_lt.mpr upTo)

/-- An empty page. -/
theorem flying_nil (began : c.start ≤ last) (upTo : last ≤ cursor) : Flying c t held cursor last [] :=
  ⟨began, upTo, ⟨by simp, fun _ _ _ => .inr (by simp)⟩, by simp⟩

/-- A page that is read now, if it does not reach past a held seq. -/
theorem flying_read (alloc : Allocations t held) (passed : Passed c t held cursor) (req : SyncMsgReq)
    (named : req.conversationId = c.conversationId) (began : c.start ≤ req.lastSeq) (upTo : req.lastSeq ≤ cursor)
    (limit : Int) (users : List User)
    (inOrder : ∀ (i : Nat) q, held[i]? = some (some (c.conversationId, q)) → req.lastSeq < q →
      (∀ m, Stored c.conversationId t m → m.seq ≤ q) ∨ 0 ≤ limit ∧ limit ≤ between c.conversationId req.lastSeq q t) :
    Flying c t held cursor req.lastSeq ((pageRows req limit t).map (syncItem users)) := by
  unfold pageRows
  rw [named]
  have isPage := isPage_items alloc.inv c.conversationId req.lastSeq
    (if limit < 0 then t.messages.rows.length else limit.toNat) users
  refine ⟨began, upTo, isPage.toSegment, ?_⟩
  intro item inside
  obtain ⟨m, stored, reports⟩ := isPage.genuine item inside
  constructor
  · obtain ⟨conv, known, same, -, high⟩ := alloc.inv.within m stored.1
    exact .inr ⟨conv, known, same.trans stored.2, reports.1.trans_le high⟩
  · intro i q holds behind
    by_cases before : q ≤ req.lastSeq
    · have := passed.ahead i q holds behind
      omega
    rcases inOrder i q holds (not_le.mp before) with top | ⟨some_, used⟩
    · have below := top m stored
      have apart := alloc.unused i _ q holds m stored
      have same := reports.1
      omega
    · have full : (if limit < 0 then t.messages.rows.length else limit.toNat) ≤
          ((t.messages.rows.filter fun m => m.conversationId = c.conversationId).filter fun m =>
            req.lastSeq < messageFeed.place m ∧ messageFeed.place m < q).length := by
        rw [if_neg (by omega), List.filter_filter]
        refine le_trans (Int.toNat_le.mpr used) (le_of_eq ?_)
        unfold between
        congr 2
        funext m
        rw [Bool.eq_iff_iff]
        simp only [Bool.and_eq_true, decide_eq_true_eq, and_assoc, and_comm]
        exact Iff.rfl
      rw [items_eq_query] at inside
      exact Feed.query_below (reports_syncItem users) (places_apart alloc.inv _) full item inside

end Passed

/-! ### The pool -/

/-- What a page request's handler has for the client. -/
def SyncPhase.Safe (c : SyncClient) (t : Tables) (held : List (Option (Int × Int))) (cursor last : Int)
    {call : SyncCall} : SyncPhase call → Prop
  | .naming _ _ _ messages _ => ∀ users, Flying c t held cursor last (messages.map (syncItem users))
  | .replying resp => Flying c t held cursor last resp.messages
  | .returned => True
  | _ => Flying c t held cursor last []

private theorem safe_mono {c : SyncClient} {t t' : Tables} {held held' : List (Option (Int × Int))}
    {cursor cursor' last : Int} {call : SyncCall} {phase : SyncPhase call}
    (flies : ∀ items, Flying c t held cursor last items → Flying c t' held' cursor' last items)
    (safe : phase.Safe c t held cursor last) : phase.Safe c t' held' cursor' last := by
  cases phase with
  | naming => exact fun users => flies _ (safe users)
  | returned => trivial
  | _ => exact flies _ safe

/-- The seq that a handler of the pool holds. -/
def heldBy : (Σ call, raceMachine.Phase call) → Option (Int × Int)
  | ⟨.inl call, phase⟩ => @Phase.held call phase
  | ⟨.inr _, _⟩ => none

/-- The invariant of the pool for a client. -/
structure Watched (c : SyncClient) (s : raceMachine.State) : Prop where
  alloc : Allocations s.shared.tables (s.handlers.map heldBy)
  covers : messageFeed.Covers (Stored c.conversationId s.shared.tables) c.start (c.reader s.trace)
  passed : Passed c s.shared.tables (s.handlers.map heldBy) (c.reader s.trace).cursor
  flights : ∀ (call : SyncCall) (phase : SyncPhase call),
    (⟨.inr call, phase⟩ : Σ call, raceMachine.Phase call) ∈ s.handlers → c.asks call = true →
      ∀ req ∈ call.body, phase.Safe c s.shared.tables (s.handlers.map heldBy) (c.reader s.trace).cursor req.lastSeq

section Pool
variable {c : SyncClient}

/-- Handlers that hold nothing new. -/
private theorem Flying.sub {t : Tables} {held held' : List (Option (Int × Int))} {cursor last : Int}
    {items : List SyncMsgItem} (fewer : ∀ (j : Nat) z, held'[j]? = some (some z) → held[j]? = some (some z))
    (flying : Flying c t held cursor last items) : Flying c t held' cursor last items :=
  ⟨flying.began, flying.upTo, flying.segment, fun item inside =>
    ⟨(flying.passed item inside).reached, fun j q holds => (flying.passed item inside).ahead j q (fewer j _ holds)⟩⟩

theorem Allocations.sub {t : Tables} {held held' : List (Option (Int × Int))}
    (fewer : ∀ (j : Nat) z, held'[j]? = some (some z) → held[j]? = some (some z)) (alloc : Allocations t held) :
    Allocations t held' :=
  ⟨alloc.inv, fun j c q holds => alloc.within j c q (fewer j _ holds),
    fun j c q holds => alloc.unused j c q (fewer j _ holds),
    fun j k z first second => alloc.apart j k z (fewer j z first) (fewer k z second)⟩

theorem held_append {held : List (Option (Int × Int))} {j : Nat} {z : Int × Int}
    (holds : (held ++ [none])[j]? = some (some z)) : held[j]? = some (some z) := by
  rw [List.getElem?_append] at holds
  split at holds
  · exact holds
  · cases List.mem_singleton.mp (List.mem_of_getElem? holds)

/-- Events of sends are no responses. -/
private theorem reader_send (trace : List ((SendCall ⊕ SyncCall) × Event)) (call : SendCall) (events : List Event) :
    c.reader (trace ++ events.map (.inl call, ·)) = c.reader trace := by
  have none : (events.map fun event => ((.inl call, event) : (SendCall ⊕ SyncCall) × Event)).filterMap c.response = [] := by
    simp [List.filterMap_map, SyncClient.response, Function.comp_def]
  rw [SyncClient.reader, List.filterMap_append, none, List.append_nil, SyncClient.reader]

private theorem reader_reply (trace : List ((SendCall ⊕ SyncCall) × Event)) (call : SyncCall) (resp : SyncMsgResp) :
    c.reader (trace ++ [call.answered resp].map (.inr call, ·)) =
      if c.asks call then messageFeed.absorb (c.reader trace) resp.messages resp.hasMore else c.reader trace := by
  by_cases own : c.asks call <;>
    simp [SyncClient.reader, List.filterMap_append, SyncClient.response, SyncCall.answered, own]

/-- A send moves on. -/
private theorem watched_send {s : raceMachine.State} (watched : Watched c s) {i : Nat} {call : SendCall}
    {phase next : Phase call} {w' : World} {events : List Event}
    (here : s.handlers[i]? = some ⟨.inl call, phase⟩) (step : SendStep s.shared phase next w' events) :
    Watched c
      { shared := w', handlers := s.handlers.set i ⟨.inl call, next⟩, trace := s.trace ++ events.map (.inl call, ·) } := by
  have held : (s.handlers.map heldBy)[i]? = some phase.held := by
    rw [List.getElem?_map, here]
    rfl
  have moved := seqStep step
  have set_ : (s.handlers.set i ⟨.inl call, next⟩).map heldBy = (s.handlers.map heldBy).set i next.held := by
    rw [List.map_set]
    rfl
  constructor
  · rw [set_]
    exact allocations_step watched.alloc held moved
  · rw [reader_send]
    exact covers_step watched.covers watched.passed held moved
  · rw [reader_send, set_]
    exact passed_step watched.passed held moved
  · intro other phase' inside asks req given
    rw [reader_send, set_]
    rcases List.mem_or_eq_of_mem_set inside with before | same
    · exact safe_mono (fun items flying => flying_step flying held moved) (watched.flights other phase' before asks req given)
    · cases same

/-- A handler that holds a seq is a pending send. -/
private theorem pending_of_held {s : raceMachine.State} {j : Nat} {conversationId serverSeq : Int}
    (holds : (s.handlers.map heldBy)[j]? = some (some (conversationId, serverSeq))) :
    ∃ writer ∈ s.pool.threads, Pending conversationId serverSeq writer := by
  rw [List.getElem?_map, Option.map_eq_some_iff] at holds
  rcases holds with ⟨⟨call, phase⟩, there, same⟩
  have inside := List.mem_map_of_mem (f := fun h => (⟨h.1, raceMachine.code h.2⟩ : Thread World Event _))
    (List.mem_of_getElem? there)
  refine ⟨_, inside, ?_⟩
  rcases call with call | call
  · cases phase <;> cases same
    · exact ⟨call, _, rfl, rfl, .inl rfl⟩
    · exact ⟨call, _, rfl, rfl, .inr ⟨_, rfl⟩⟩
  · cases same

/-- What is read next for the client may fly. -/
private theorem flying_reading {s : raceMachine.State} (watched : Watched c s) {i : Nat} {call : SyncCall}
    {req : SyncMsgReq} {given : call.body = some req} {limit : Int}
    (here : s.handlers[i]? = some ⟨.inr call, SyncPhase.reading req given limit⟩) (asks : c.asks call = true)
    (inOrder : c.InOrder s.pool (.advance i)) (users : List User) :
    Flying c s.shared.tables (s.handlers.map heldBy) (c.reader s.trace).cursor req.lastSeq
      ((pageRows req limit s.shared.tables).map (syncItem users)) := by
  have idle := watched.flights call _ (List.mem_of_getElem? here) asks req given
  have named : req.conversationId = c.conversationId := by
    have := asks
    simp only [SyncClient.asks, given, Option.any_some, Bool.and_eq_true, decide_eq_true_eq] at this
    exact this.2
  refine flying_read watched.alloc watched.passed req named idle.began idle.upTo limit users ?_
  intro j q holds behind
  obtain ⟨writer, inside, pending⟩ := pending_of_held holds
  have reader : s.pool.threads[i]? =
      some ⟨.inr call, (SyncPhase.reading req given limit : SyncPhase call).program⟩ := by
    rw [Machine.State.pool, List.getElem?_map, here]
    rfl
  exact inOrder i _ req limit rfl reader ⟨call, given, rfl, asks, rfl⟩ writer inside q pending behind

private theorem flying_later {t : Tables} {held : List (Option (Int × Int))} {cursor cursor' last : Int}
    {items : List SyncMsgItem} (later : cursor ≤ cursor') (flying : Flying c t held cursor last items) :
    Flying c t held cursor' last items :=
  ⟨flying.began, flying.upTo.trans later, flying.segment, flying.passed⟩

private theorem sync_tables {call : SyncCall} {phase next : SyncPhase call} {w w' : World} {events : List Event}
    (step : SyncStep w phase next w' events) : w'.tables = w.tables := by
  cases step <;> rfl

/-- Up to its reply a handler has only what may fly. -/
private theorem safe_next {t : Tables} {held : List (Option (Int × Int))} {cursor : Int} {call : SyncCall}
    {phase next : SyncPhase call} {w w' : World} {events : List Event} {req : SyncMsgReq}
    (step : SyncStep w phase next w' events) (given : call.body = some req)
    (safe : phase.Safe c t held cursor req.lastSeq)
    (reads : ∀ given limit, phase = .reading req given limit → ∀ users,
      Flying c t held cursor req.lastSeq ((pageRows req limit w.tables).map (syncItem users))) :
    next.Safe c t held cursor req.lastSeq := by
  cases step with
  | turnAway | identify | outsider | insider | configure => exact safe
  | lost req' given' limit =>
    rw [SyncPhase.found, dif_pos rfl]
    exact safe
  | read req' given' limit =>
    obtain rfl : req' = req := Option.some.inj (given'.symm.trans given)
    unfold SyncPhase.found
    split
    · exact safe
    · exact reads given' limit rfl
  | name req' given' limit messages some_ users => exact safe users
  | reply resp => trivial

/-- A page request moves on. -/
private theorem watched_sync {s : raceMachine.State} (watched : Watched c s) {i : Nat} {call : SyncCall}
    {phase next : SyncPhase call} {w' : World} {events : List Event}
    (here : s.handlers[i]? = some ⟨.inr call, phase⟩) (step : SyncStep s.shared phase next w' events)
    (inOrder : c.InOrder s.pool (.advance i)) :
    Watched c
      { shared := w', handlers := s.handlers.set i ⟨.inr call, next⟩, trace := s.trace ++ events.map (.inr call, ·) } := by
  have held : (s.handlers.set i ⟨.inr call, next⟩).map heldBy = s.handlers.map heldBy := by
    have none : (s.handlers.map heldBy)[i]? = some none := by
      rw [List.getElem?_map, here]
      rfl
    rw [List.map_set]
    exact set_same none
  have tables := sync_tables step
  have own : c.asks call = true → ∀ req ∈ call.body,
      next.Safe c s.shared.tables (s.handlers.map heldBy) (c.reader s.trace).cursor req.lastSeq := by
    intro asks req given
    refine safe_next step given (watched.flights call phase (List.mem_of_getElem? here) asks req given) ?_
    intro given' limit reading
    exact flying_reading watched (reading ▸ here) asks inOrder
  -- only a reply of the client's own changes what it has received
  have reader : c.reader (s.trace ++ events.map (.inr call, ·)) = c.reader s.trace ∨
      ∃ resp, phase = .replying resp ∧ c.asks call = true ∧
        c.reader (s.trace ++ events.map (.inr call, ·)) =
          messageFeed.absorb (c.reader s.trace) resp.messages resp.hasMore := by
    cases step with
    | reply resp =>
      rw [reader_reply]
      split
      · exact .inr ⟨resp, rfl, ‹_›, rfl⟩
      · exact .inl rfl
    | _ => exact .inl (by rw [List.map_nil, List.append_nil])
  have later : (c.reader s.trace).cursor ≤ (c.reader (s.trace ++ events.map (.inr call, ·))).cursor := by
    rcases reader with same | ⟨resp, -, -, absorbs⟩
    · rw [same]
    · rw [absorbs]
      exact Feed.cursor_le_absorb _ _ _
  have arrives : ∀ resp, phase = .replying resp → c.asks call = true →
      ∃ last, Flying c s.shared.tables (s.handlers.map heldBy) (c.reader s.trace).cursor last resp.messages := by
    intro resp replying asks
    cases given : call.body with
    | none => simp [SyncClient.asks, given] at asks
    | some req =>
      have safe := watched.flights call phase (List.mem_of_getElem? here) asks req given
      rw [replying] at safe
      exact ⟨req.lastSeq, safe⟩
  constructor
  · rw [held, tables]
    exact watched.alloc
  · rw [tables]
    rcases reader with same | ⟨resp, replying, asks, absorbs⟩
    · rw [same]
      exact watched.covers
    · obtain ⟨last, flying⟩ := arrives resp replying asks
      rw [absorbs]
      exact watched.covers.absorb flying.began flying.upTo flying.segment resp.hasMore
  · rw [held, tables]
    rcases reader with same | ⟨resp, replying, asks, absorbs⟩
    · rw [same]
      exact watched.passed
    · obtain ⟨last, flying⟩ := arrives resp replying asks
      rw [absorbs]
      rcases Feed.cursor_absorb (F := messageFeed) (c.reader s.trace) resp.messages resp.hasMore with same | ⟨item, inside, key⟩
      · rw [same]
        exact watched.passed
      · rw [← key]
        exact flying.passed item inside
  · intro other phase' inside asks req given
    rw [held, tables]
    refine safe_mono (fun items => flying_later later) ?_
    rcases List.mem_or_eq_of_mem_set inside with before | same
    · exact watched.flights other phase' before asks req given
    · cases same
      exact own asks req given

/-- Every move keeps the invariant, as long as the client pages and reads in order. -/
private theorem watched_moves (s : raceMachine.State) (move : Move (SendCall ⊕ SyncCall) Surroundings)
    (s' : raceMachine.State) (meets : c.Pages s.pool move ∧ c.InOrder s.pool move)
    (moves : Machine.Moves Surroundings.enter s move s') (watched : Watched c s) : Watched c s' := by
  cases moves with
  | start call =>
    have fewer : ∀ (j : Nat) z,
        (List.map heldBy (s.handlers ++ [⟨call, raceMachine.entered call⟩]))[j]? = some (some z) →
          (s.handlers.map heldBy)[j]? = some (some z) := by
      intro j z holds
      have none : heldBy ⟨call, raceMachine.entered call⟩ = none := by
        rcases call with call | call <;> rfl
      rw [List.map_append, List.map_singleton, none] at holds
      exact held_append holds
    refine ⟨watched.alloc.sub fewer, watched.covers,
      ⟨watched.passed.reached, fun j q holds => watched.passed.ahead j q (fewer j _ holds)⟩, ?_⟩
    intro other phase inside asks req given
    rcases List.mem_append.mp inside with before | new
    · exact safe_mono (fun items flying => flying.sub fewer) (watched.flights other phase before asks req given)
    · cases List.mem_singleton.mp new
      have last := meets.1 asks req given
      exact flying_nil (watched.covers.began.trans_eq last.symm) last.le
  | advance thread call phase next shared events here step =>
    rcases call with call | call
    · exact watched_send watched here step
    · exact watched_sync watched here step meets.2
  | idle thread => exact watched
  | environment change => exact ⟨watched.alloc, watched.covers, watched.passed, watched.flights⟩

end Pool

/-- In every interleaving of sends and page requests in which the client goes on from the
    largest seq it has received and no page for it is read past a seq on its way, the
    client has received every stored message of the conversation that it has passed. -/
theorem sync_in_order (c : SyncClient) (w : World) (inv : SeqInv (· ≠ ·) w.tables)
    (moves : List (Move (SendCall ⊕ SyncCall) Surroundings))
    (pages : Along (Pool.step raceProgram Surroundings.enter) c.Pages { shared := w } moves)
    (inOrder : Along (Pool.step raceProgram Surroundings.enter) c.InOrder { shared := w } moves) :
    c.Complete (after (Pool.step raceProgram Surroundings.enter) { shared := w } moves) := by
  have initially : Watched c ({ shared := w } : raceMachine.State) :=
    ⟨⟨inv, by simp, by simp, by simp⟩, Feed.covers_start c.start, ⟨.inl le_rfl, by simp⟩, by simp⟩
  have along := along_and.mpr (And.intro pages inOrder)
  obtain ⟨s, same, watched⟩ := Machine.invariant (M := raceMachine) watched_moves initially along
  have pool : after (Pool.step raceProgram Surroundings.enter) { shared := w } moves = s.pool := same.symm
  rw [pool]
  exact watched.covers.complete

/-! ### Runs of two users -/

instance (c : SyncClient) (p : Pool World Event (SendCall ⊕ SyncCall)) :
    (move : Move (SendCall ⊕ SyncCall) Surroundings) → Decidable (c.Pages p move)
  | .start (.inr call) =>
    inferInstanceAs (Decidable (c.asks call = true → ∀ req ∈ call.body, req.lastSeq = (c.reader p.trace).cursor))
  | .start (.inl _) | .advance _ | .environment _ => isTrue trivial

/-- Users 1 and 2 are friends; user 1 sends twice, and user 2 asks for a page after that many
    steps of the sends, in this order. -/
def pagedBetween (steps : List Nat) : List (Move (SendCall ⊕ SyncCall) Surroundings) :=
  let send : SendCall := ⟨1, 0, some { conversationId := 1, content := [97], clientMsgId := [] }⟩
  let page : SyncCall := ⟨2, 0, some { conversationId := 1, lastSeq := 0, limit := 0 }⟩
  [.environment bothOnline, .start (.inl send), .start (.inl send), .start (.inr page)] ++ steps.map .advance

/-- The first send gets its seq, the second is stored and read, then the first is stored. -/
def overtaken : List (Move (SendCall ⊕ SyncCall) Surroundings) :=
  pagedBetween (List.replicate 4 0 ++ List.replicate 6 1 ++ List.replicate 6 2 ++ List.replicate 2 0)

/-- A client may pass the seq of a message that is not stored yet. -/
theorem sync_skips : ¬∀ moves, Along (Pool.step raceProgram Surroundings.enter)
      (SyncClient.Pages { conn := 2, conversationId := 1 })
      { shared := after (perform handle) twoUsers befriending } moves →
    SyncClient.Complete { conn := 2, conversationId := 1 }
      (after (Pool.step raceProgram Surroundings.enter)
        { shared := after (perform handle) twoUsers befriending } moves) := by
  intro claimed
  have complete := claimed overtaken (by decide)
  have skipped : ∃ m, Stored 1 (after (Pool.step raceProgram Surroundings.enter)
      { shared := after (perform handle) twoUsers befriending } overtaken).shared.tables m ∧ m.seq = 1 :=
    ⟨_, ⟨List.mem_cons_of_mem _ List.mem_cons_self, rfl⟩, rfl⟩
  rcases skipped with ⟨m, stored, seq⟩
  have passed : m.seq ≤ (SyncClient.reader { conn := 2, conversationId := 1 }
      (after (Pool.step raceProgram Surroundings.enter)
        { shared := after (perform handle) twoUsers befriending } overtaken).trace).cursor := by
    rw [seq]
    decide
  rcases complete m stored (by rw [seq]; decide) passed with ⟨item, inside, reports⟩
  have key : item.serverSeq = 1 := (messageFeed.key_eq reports).trans seq
  clear reports
  revert item
  decide

/-- A move that is not one of a page request, or that finds all sends finished. -/
def Quiet (p : Pool World Event (SendCall ⊕ SyncCall)) : Move (SendCall ⊕ SyncCall) Surroundings → Prop
  | .advance i => (p.threads[i]?.all fun thread => thread.call.isLeft) ∨
      ∀ thread ∈ p.threads, thread.call.isLeft = true → (thread.rest.first p.shared).isNone
  | _ => True

instance (p : Pool World Event (SendCall ⊕ SyncCall)) :
    (move : Move (SendCall ⊕ SyncCall) Surroundings) → Decidable (Quiet p move)
  | .advance _ => inferInstanceAs (Decidable (_ ∨ _))
  | .start _ | .environment _ => isTrue trivial

/-- Among finished sends every page is read in order. -/
theorem Quiet.inOrder {c : SyncClient} {p : Pool World Event (SendCall ⊕ SyncCall)}
    {move : Move (SendCall ⊕ SyncCall) Surroundings} (quiet : Quiet p move) : c.InOrder p move := by
  rintro i reader req limit rfl here ⟨call, -, own, -, -⟩ writer inside serverSeq ⟨send, s, sends, -, pending⟩ -
  rcases quiet with left | finished
  · rw [here, Option.all_some, own] at left
    cases left
  · have ended := finished writer inside (by rw [sends]; rfl)
    rcases pending with timing | ⟨epochMs, inserting⟩
    · rw [timing] at ended
      cases ended
    · rw [inserting] at ended
      cases ended

/-- The page is read after both sends. -/
theorem sync_in_order_finished :
    SyncClient.Complete { conn := 2, conversationId := 1 }
      (after (Pool.step raceProgram Surroundings.enter)
        { shared := after (perform handle) twoUsers befriending }
        (pagedBetween (List.replicate 16 0 ++ List.replicate 16 1 ++ List.replicate 6 2))) :=
  sync_in_order { conn := 2, conversationId := 1 } (after (perform handle) twoUsers befriending)
    ⟨by decide, by decide, by decide⟩ _ (by decide)
    (along_mono (fun _ _ quiet => Quiet.inOrder quiet) (show Along _ Quiet _ _ by decide))

end NovaIIM
