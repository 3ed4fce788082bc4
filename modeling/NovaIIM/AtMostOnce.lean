import NovaIIM.Services

/-!
Interleaved sends with one `client_msg_id`.

Sends run in a pool, one action at a time. For a fixed key a phase of a send is
no more than its `Stake` in the key, and a step is one of the few of `KeyStep`;
`Status` says what the mark in flight, the stored rows, the cache, the stakes and
the acks so far have to do with each other. Its four cases are the life of a key:
untouched, worked on by one handler, stored by it, and answered.
-/
namespace NovaIIM
open Store MsgService

/-! ### What a key is about -/

/-- The call carries the key. -/
def SendCall.HasKey (call : SendCall) (key : Bytes) : Prop :=
  ∃ req, call.body = some req ∧ req.clientMsgId = key

/-- The stored messages with the key. -/
def rowsWith (key : Bytes) (t : Tables) : List Message := t.messages.rows.filter fun m => m.clientMsgId = key

/-- The keys that were looked up or inserted. -/
def keysUsed (events : List Event) : List Bytes :=
  events.filterMap fun event => match event with
    | .dedup key => some key
    | _ => none

@[simp] theorem keysUsed_append (first second : List Event) :
    keysUsed (first ++ second) = keysUsed first ++ keysUsed second := List.filterMap_append

/-- An ack with OK was sent to a call with the key. -/
def OkAcked (key : Bytes) (trace : List (SendCall × Event)) (ack : SendMsgAck) : Prop :=
  ∃ call : SendCall, (call, call.acked ack) ∈ trace ∧ call.HasKey key ∧ ack.code = errc.kOk.code

/-- What a handler has to do with a key. -/
inductive Stake where
  | idle
  | working
  | storing (serverSeq epochMs : Int)
  | answering (serverSeq epochMs : Int)

/-- The stake of a handler in a key. -/
def stake (key : Bytes) {call : SendCall} : Phase call → Stake
  | .checking s | .allocating s | .timing s _ | .inserting s _ _ | .quitting s _ _ _ =>
    if s.req.clientMsgId = key then .working else .idle
  | .filling s serverSeq epochMs _ => if s.req.clientMsgId = key then .storing serverSeq epochMs else .idle
  | .answering s serverSeq epochMs => if s.req.clientMsgId = key then .answering serverSeq epochMs else .idle
  | _ => .idle

/-- What a step of a handler means for a key. -/
inductive KeyStep (key : Bytes) (call : SendCall) (w w' : World) : List Event → Stake → Stake → Prop where
  /-- the key is left alone -/
  | aside (s : Stake) (events : List Event)
      (mark : w'.mem.inFlight.lookup key = w.mem.inFlight.lookup key)
      (rows : rowsWith key w'.tables = rowsWith key w.tables)
      (ages : Recency.Ages w.mem.config.dedupCacheSize key w.mem.dedup.view w'.mem.dedup.view (keysUsed events))
      (quiet : ∀ ack, call.HasKey key → call.acked ack ∈ events → ack.code ≠ errc.kOk.code) :
      KeyStep key call w w' events s s
  | busy (ack : SendMsgAck) (bad : ack.code ≠ errc.kOk.code) (same : w' = w)
      (absent : (w.mem.dedup.dedupFind key).1 = none)
      (marked : (mark w.mem.inFlight key w.mem.steady).1 = false) :
      KeyStep key call w w' [.dedup key, call.acked ack] .idle .idle
  | replay (ack : SendMsgAck) (found : (w.mem.dedup.dedupFind key).1 = some ack)
      (after_ : w' = { w with mem := { w.mem with dedup := (w.mem.dedup.dedupFind key).2 } }) :
      KeyStep key call w w' [.dedup key, call.acked ack] .idle .idle
  | take (absent : (w.mem.dedup.dedupFind key).1 = none)
      (free : (mark w.mem.inFlight key w.mem.steady).1 = true)
      (after_ : w' = { w with mem := { w.mem with inFlight := w.mem.inFlight.insert key w.mem.steady } }) :
      KeyStep key call w w' [.dedup key] .idle .working
  | drop (after_ : w' = { w with mem := { w.mem with inFlight := w.mem.inFlight.erase key } }) :
      KeyStep key call w w' [] .working .idle
  | store (serverSeq epochMs : Int) (m : Message) (mem : w'.mem = w.mem)
      (rows : rowsWith key w'.tables = rowsWith key w.tables ++ [m]) :
      KeyStep key call w w' [] .working (.storing serverSeq epochMs)
  | fill (serverSeq epochMs : Int)
      (after_ : w' = { w with mem := { w.mem with
        inFlight := w.mem.inFlight.erase key
        dedup := w.mem.dedup.dedupInsert w.mem.config.dedupCacheSize key (okAck serverSeq epochMs) } }) :
      KeyStep key call w w' [.dedup key] (.storing serverSeq epochMs) (.answering serverSeq epochMs)
  | answer (serverSeq epochMs : Int) (same : w' = w) :
      KeyStep key call w w' [call.acked (okAck serverSeq epochMs)] (.answering serverSeq epochMs) .idle

/-! ### Steps of a handler -/

section KeyStep
variable {key : Bytes} {call : SendCall} {w w' : World} {events : List Event}

private theorem aside_silent {s : Stake} (mem : w'.mem = w.mem) (messages : w'.tables.messages = w.tables.messages)
    (unused : keysUsed events = [])
    (quiet : ∀ ack, call.HasKey key → call.acked ack ∈ events → ack.code ≠ errc.kOk.code) :
    KeyStep key call w w' events s s := by
  refine .aside s events (by rw [mem]) (by rw [rowsWith, messages, rowsWith]) ?_ quiet
  rw [unused]
  exact .unused (by rw [mem])

private theorem stake_quit (s : Sending call) (e : Error) (bad : e.code ≠ 0) (keyed : key ≠ []) :
    stake key (.quit s e bad) = if s.req.clientMsgId = key then .working else .idle := by
  unfold Phase.quit
  split
  · rename_i empty
    simp [stake, empty, Ne.symm keyed]
  · rfl

private theorem stake_stored (s : Sending call) (serverSeq epochMs : Int) (keyed : key ≠ []) :
    stake key (.stored s serverSeq epochMs) =
      if s.req.clientMsgId = key then .storing serverSeq epochMs else .idle := by
  unfold Phase.stored
  split
  · rename_i empty
    simp [stake, empty, Ne.symm keyed]
  · rfl

private theorem not_hasKey (s : Sending call) (other : s.req.clientMsgId ≠ key) : ¬call.HasKey key := by
  rintro ⟨req, given, rfl⟩
  rw [Option.some.inj (given.symm.trans s.given)] at other
  exact other rfl

private theorem rowsWith_insert (t : Tables) (m : Message) :
    rowsWith key (t.insertMessage m) =
      rowsWith key t ++ if m.clientMsgId = key then [t.messages.fresh m] else [] := by
  have rows : (t.insertMessage m).messages.rows = t.messages.rows ++ [t.messages.fresh m] :=
    Table.rows_insert_free (by simp [Table.taken, Row.clash])
  have same : (t.messages.fresh m).clientMsgId = m.clientMsgId := rfl
  by_cases own : m.clientMsgId = key <;> simp [rowsWith, rows, same, own]

/-- Every step of a handler is one of these for every key. -/
theorem keyStep (keyed : key ≠ []) {phase next : Phase call} (step : SendStep w phase next w' events) :
    KeyStep key call w w' events (stake key phase) (stake key next) := by
  cases step with
  | anonymous | malformed | identify | invalid | keyed => exact aside_silent rfl rfl rfl (by simp)
  | insider | time => exact aside_silent rfl rfl rfl (by simp)
  | unkeyed s valid empty =>
    have other : s.req.clientMsgId ≠ key := empty ▸ Ne.symm keyed
    simp only [stake, other, if_false]
    exact aside_silent rfl rfl rfl (by simp)
  | replay s keyed' ack found =>
    by_cases own : s.req.clientMsgId = key
    · subst own
      exact .replay ack found rfl
    · exact .aside .idle _ rfl rfl (.found _ own (DedupCache.dedupFind_view _ _).2) fun _ has => absurd has (not_hasKey s own)
  | busy s keyed' absent marked =>
    by_cases own : s.req.clientMsgId = key
    · subst own
      exact .busy _ (by decide) rfl absent marked
    · refine .aside .idle _ rfl rfl (.found _ own ?_) fun _ has => absurd has (not_hasKey s own)
      rw [← (DedupCache.dedupFind_view _ _).2, DedupCache.dedupFind_absent absent]
  | take s keyed' absent free =>
    by_cases own : s.req.clientMsgId = key
    · subst own
      simp only [stake, if_true]
      exact .take absent free rfl
    · simp only [stake, own, if_false]
      refine .aside .idle _ (AList.lookup_insert_ne (Ne.symm own)) rfl (.found _ own ?_)
        fun _ has => absurd has (not_hasKey s own)
      rw [← (DedupCache.dedupFind_view _ _).2, DedupCache.dedupFind_absent absent]
  | outsider s | lost s =>
    rw [stake_quit s _ _ keyed]
    exact aside_silent rfl rfl rfl (by simp)
  | unallocated s _ mem tables =>
    rw [stake_quit s _ _ keyed]
    refine aside_silent mem ?_ rfl (by simp)
    obtain same | incremented := tables
    · rw [same]
    · rw [incremented]
      rfl
  | allocated s conv _ mem tables => exact aside_silent mem (by rw [tables]; rfl) rfl (by simp)
  | insert s serverSeq epochMs sound =>
    rw [stake_stored s _ _ keyed]
    have rows := @rowsWith_insert key w.tables (messageOf s.userId s.req serverSeq epochMs)
    by_cases own : s.req.clientMsgId = key
    · simp only [stake, own, if_true]
      exact .store serverSeq epochMs _ rfl (rows.trans (by rw [if_pos (show (messageOf _ _ _ _).clientMsgId = key from own)]))
    · simp only [stake, own, if_false]
      refine .aside .idle _ rfl (rows.trans ?_) (.unused rfl) (by simp)
      rw [if_neg (show (messageOf _ _ _ _).clientMsgId ≠ key from own), List.append_nil]
  | fill s serverSeq epochMs keyed' =>
    by_cases own : s.req.clientMsgId = key
    · subst own
      simp only [stake, if_true]
      exact .fill serverSeq epochMs rfl
    · simp only [stake, own, if_false]
      exact .aside .idle _ (AList.lookup_erase_ne (Ne.symm own)) rfl
        (.stored _ _ own (DedupCache.dedupInsert_view _ _ _ _)) fun _ has => absurd has (not_hasKey s own)
  | answer s serverSeq epochMs =>
    by_cases own : s.req.clientMsgId = key
    · simp only [stake, own, if_true]
      exact .answer serverSeq epochMs rfl
    · simp only [stake, own, if_false]
      exact aside_silent rfl rfl rfl fun _ has => absurd has (not_hasKey s own)
  | deliver d d' _ _ saved mem tables pushes =>
    refine aside_silent mem ?_ ?_ fun ack _ inside => ?_
    · obtain same | ⟨_, _, _, _, -, -, written⟩ := tables
      · rw [same]
      · rw [written]
        rfl
    · refine List.filterMap_eq_nil_iff.mpr fun event inside => ?_
      obtain ⟨conn, packet, rfl, -⟩ := pushes event inside
      rfl
    · obtain ⟨conn, packet, same, push⟩ := pushes _ inside
      simp only [SendCall.acked, Event.sent.injEq] at same
      simp [← same.2] at push
  | release s e bad keyed' =>
    by_cases own : s.req.clientMsgId = key
    · subst own
      simp only [stake, if_true]
      exact .drop rfl
    · simp only [stake, own, if_false]
      exact .aside .idle _ (AList.lookup_erase_ne (Ne.symm own)) rfl (.unused rfl) (by simp)
  | refuse e bad =>
    refine aside_silent rfl rfl rfl fun ack _ inside => ?_
    obtain rfl : ack = errorAck e := by simpa using inside
    exact bad

end KeyStep

/-! ### The life of a key -/

/-- No handler has a stake. -/
def Unstaked (stakes : List Stake) : Prop := ∀ (i : Nat) (s : Stake), stakes[i]? = some s → s = .idle

/-- One handler has the stake, and no other has any. -/
def Staked (i : Nat) (s : Stake) (stakes : List Stake) : Prop :=
  stakes[i]? = some s ∧ ∀ j other, j ≠ i → stakes[j]? = some other → other = .idle

section Stakes
variable {stakes : List Stake} {i j : Nat} {s other : Stake}

theorem Unstaked.append (unstaked : Unstaked stakes) : Unstaked (stakes ++ [.idle]) := by
  intro j other there
  rw [List.getElem?_append] at there
  split at there
  · exact unstaked j other there
  · exact List.mem_singleton.mp (List.mem_of_getElem? there)

theorem Staked.append (staked : Staked i s stakes) : Staked i s (stakes ++ [.idle]) := by
  refine ⟨by rw [List.getElem?_append_left (List.getElem?_eq_some_iff.mp staked.1).1]; exact staked.1, ?_⟩
  intro j other apart there
  rw [List.getElem?_append] at there
  split at there
  · exact staked.2 j other apart there
  · exact List.mem_singleton.mp (List.mem_of_getElem? there)

theorem Unstaked.set (unstaked : Unstaked stakes) (here : stakes[i]? = some other) : Staked i s (stakes.set i s) := by
  refine ⟨by rw [List.getElem?_set_self (List.getElem?_eq_some_iff.mp here).1], fun j other apart there => ?_⟩
  rw [List.getElem?_set_ne (Ne.symm apart)] at there
  exact unstaked j other there

theorem Staked.set (staked : Staked i other stakes) : Staked i s (stakes.set i s) := by
  refine ⟨by rw [List.getElem?_set_self (List.getElem?_eq_some_iff.mp staked.1).1], fun j other apart there => ?_⟩
  rw [List.getElem?_set_ne (Ne.symm apart)] at there
  exact staked.2 j other apart there

theorem Staked.clear (staked : Staked i s stakes) : Unstaked (stakes.set i .idle) := by
  intro j other there
  by_cases apart : j = i
  · subst apart
    rw [List.getElem?_set_self (List.getElem?_eq_some_iff.mp staked.1).1] at there
    exact (Option.some.inj there).symm
  · rw [List.getElem?_set_ne (Ne.symm apart)] at there
    exact staked.2 j other apart there

/-- Who has a stake is the one. -/
theorem Staked.only (staked : Staked i s stakes) (there : stakes[j]? = some other) (stake : other ≠ .idle) :
    j = i ∧ other = s := by
  by_cases apart : j = i
  · subst apart
    exact ⟨rfl, Option.some.inj (there.symm.trans staked.1)⟩
  · exact absurd (staked.2 j other apart there) stake

end Stakes

/-- The keys used in a trace. -/
def traceUses (trace : List (SendCall × Event)) : List Bytes := keysUsed (trace.map Prod.snd)

/-- Where a key stands: the world, the stakes in it, and the events so far. -/
inductive Status (key : Bytes) (w : World) (stakes : List Stake) (trace : List (SendCall × Event)) : Prop where
  | untouched (unstaked : Unstaked stakes) (unmarked : w.mem.inFlight.lookup key = none)
      (unstored : rowsWith key w.tables = []) (absent : ∀ e ∈ w.mem.dedup.view.entries, e.1 ≠ key)
      (unacked : ∀ ack, ¬OkAcked key trace ack)
  | working (i : Nat) (staked : Staked i .working stakes) (marked : w.mem.inFlight.lookup key ≠ none)
      (unstored : rowsWith key w.tables = []) (absent : ∀ e ∈ w.mem.dedup.view.entries, e.1 ≠ key)
      (unacked : ∀ ack, ¬OkAcked key trace ack)
  | storing (i : Nat) (serverSeq epochMs : Int) (staked : Staked i (.storing serverSeq epochMs) stakes)
      (marked : w.mem.inFlight.lookup key ≠ none) (m : Message) (stored : rowsWith key w.tables = [m])
      (absent : ∀ e ∈ w.mem.dedup.view.entries, e.1 ≠ key) (unacked : ∀ ack, ¬OkAcked key trace ack)
  | answered (serverSeq epochMs : Int)
      (others : ∀ (i : Nat) (s : Stake), stakes[i]? = some s → s = .idle ∨ s = .answering serverSeq epochMs)
      (unmarked : w.mem.inFlight.lookup key = none) (m : Message) (stored : rowsWith key w.tables = [m])
      (used : key ∈ traceUses trace)
      (cached : (Recency.since key (traceUses trace)).card < w.mem.config.dedupCacheSize →
        Recency.Holds key (okAck serverSeq epochMs) (Recency.since key (traceUses trace)) w.mem.dedup.view)
      (acked : ∀ ack, OkAcked key trace ack → ack = okAck serverSeq epochMs)

/-- A mark of the key is younger than the timeout. -/
def Young (key : Bytes) (w : World) : Prop :=
  ∀ marked ∈ w.mem.inFlight.lookup key, w.mem.steady - marked < kInflightTimeout

instance (key : Bytes) (w : World) : Decidable (Young key w) :=
  inferInstanceAs (Decidable (∀ marked ∈ w.mem.inFlight.lookup key, w.mem.steady - marked < kInflightTimeout))

section Status
variable {key : Bytes} {call : SendCall} {w w' : World} {events : List Event} {stakes : List Stake}
  {trace : List (SendCall × Event)}

@[simp] theorem traceUses_append (call : SendCall) :
    traceUses (trace ++ events.map (call, ·)) = traceUses trace ++ keysUsed events := by
  simp [traceUses, Function.comp_def]

/-- Acks with OK in a longer trace. -/
private theorem okAcked_append {ack : SendMsgAck} (acked : OkAcked key (trace ++ events.map (call, ·)) ack) :
    OkAcked key trace ack ∨ call.HasKey key ∧ call.acked ack ∈ events ∧ ack.code = errc.kOk.code := by
  obtain ⟨call', inside, has, ok⟩ := acked
  obtain before | new := List.mem_append.mp inside
  · exact .inl ⟨call', before, has, ok⟩
  · obtain ⟨event, there, same⟩ := List.mem_map.mp new
    obtain ⟨rfl, rfl⟩ := Prod.mk.inj same
    exact .inr ⟨has, there, ok⟩

private theorem marked_of_busy (busy : (mark w.mem.inFlight key w.mem.steady).1 = false) :
    w.mem.inFlight.lookup key ≠ none := by
  intro unmarked
  simp [mark, unmarked] at busy

private theorem unmarked_of_free (young : Young key w) (free : (mark w.mem.inFlight key w.mem.steady).1 = true) :
    w.mem.inFlight.lookup key = none := by
  cases found : w.mem.inFlight.lookup key with
  | none => rfl
  | some marked =>
    have := young marked found
    simp [mark, found, not_le.mpr this] at free

private theorem found_of_holds {value : SendMsgAck} {used : Finset Bytes}
    (holds : Recency.Holds key value used w.mem.dedup.view) :
    (w.mem.dedup.dedupFind key).1 = some value ∧
      Recency.Holds key value ∅ (w.mem.dedup.dedupFind key).2.view := by
  obtain ⟨found, view⟩ := DedupCache.dedupFind_view w.mem.dedup key
  rw [found, view]
  exact holds.find_self

private theorem absent_of_missing (missing : (w.mem.dedup.dedupFind key).1 = none) :
    ∀ e ∈ w.mem.dedup.view.entries, e.1 ≠ key :=
  Recency.absent_of_find ((DedupCache.dedupFind_view _ _).1.symm.trans missing)

private theorem missing_of_absent (absent : ∀ e ∈ w.mem.dedup.view.entries, e.1 ≠ key) {value : SendMsgAck} :
    (w.mem.dedup.dedupFind key).1 ≠ some value :=
  fun found => absent _ (Recency.mem_of_find ((DedupCache.dedupFind_view _ _).1.symm.trans found)) rfl

/-- Without new acks with OK for the key. -/
private theorem unacked_append (unacked : ∀ ack, ¬OkAcked key trace ack)
    (quiet : ∀ ack, call.HasKey key → call.acked ack ∈ events → ack.code ≠ errc.kOk.code) :
    ∀ ack, ¬OkAcked key (trace ++ events.map (call, ·)) ack := by
  intro ack acked
  obtain before | ⟨has, inside, ok⟩ := okAcked_append acked
  · exact unacked ack before
  · exact quiet ack has inside ok

variable {i : Nat} {s s' : Stake}

/-- A step that leaves the key alone. -/
private theorem status_aside (status : Status key w stakes trace) (here : stakes[i]? = some s)
    (capacity : w'.mem.config.dedupCacheSize = w.mem.config.dedupCacheSize)
    (mark : w'.mem.inFlight.lookup key = w.mem.inFlight.lookup key)
    (rows : rowsWith key w'.tables = rowsWith key w.tables)
    (ages : Recency.Ages w.mem.config.dedupCacheSize key w.mem.dedup.view w'.mem.dedup.view (keysUsed events))
    (quiet : ∀ ack, call.HasKey key → call.acked ack ∈ events → ack.code ≠ errc.kOk.code) :
    Status key w' (stakes.set i s) (trace ++ events.map (call, ·)) := by
  have same : stakes.set i s = stakes := by
    obtain ⟨within, value⟩ := List.getElem?_eq_some_iff.mp here
    rw [← value, List.set_getElem_self]
  rw [same]
  cases status with
  | untouched unstaked unmarked unstored absent unacked =>
    exact .untouched unstaked (mark.trans unmarked) (rows.trans unstored) (ages.absent absent)
      (unacked_append unacked quiet)
  | working j staked marked unstored absent unacked =>
    exact .working j staked (mark ▸ marked) (rows.trans unstored) (ages.absent absent) (unacked_append unacked quiet)
  | storing j serverSeq epochMs staked marked m stored absent unacked =>
    exact .storing j serverSeq epochMs staked (mark ▸ marked) m (rows.trans stored) (ages.absent absent)
      (unacked_append unacked quiet)
  | answered serverSeq epochMs others unmarked m stored used cached acked =>
    refine .answered serverSeq epochMs others (mark.trans unmarked) m (rows.trans stored) ?_ ?_ fun ack new => ?_
    · rw [traceUses_append]
      exact List.mem_append_left _ used
    · rw [traceUses_append, capacity]
      exact ages.holds cached
    · obtain before | ⟨has, inside, ok⟩ := okAcked_append new
      · exact acked ack before
      · exact absurd ok (quiet ack has inside)

/-- A use of an answered key finds its answer. -/
private theorem found_answer {value : SendMsgAck} (used : key ∈ traceUses trace)
    (cached : (Recency.since key (traceUses trace)).card < w.mem.config.dedupCacheSize →
      Recency.Holds key value (Recency.since key (traceUses trace)) w.mem.dedup.view)
    (spaced : Recency.Spaced w.mem.config.dedupCacheSize key (traceUses trace ++ [key])) :
    (w.mem.dedup.dedupFind key).1 = some value ∧
      Recency.Holds key value ∅ (w.mem.dedup.dedupFind key).2.view :=
  found_of_holds (cached (spaced.since used))

/-- The uses of an answered key after a use of it. -/
private theorem answered_use (serverSeq epochMs : Int)
    (others : ∀ (i : Nat) (s : Stake), stakes[i]? = some s → s = .idle ∨ s = .answering serverSeq epochMs)
    (unmarked : w'.mem.inFlight.lookup key = none) (m : Message) (stored : rowsWith key w'.tables = [m])
    (uses : keysUsed events = [key])
    (holds : Recency.Holds key (okAck serverSeq epochMs) ∅ w'.mem.dedup.view)
    (acked : ∀ ack, OkAcked key (trace ++ events.map (call, ·)) ack → ack = okAck serverSeq epochMs) :
    Status key w' stakes (trace ++ events.map (call, ·)) := by
  refine .answered serverSeq epochMs others unmarked m stored ?_ (fun _ => ?_) acked
  · rw [traceUses_append, uses]
    exact List.mem_append_right _ (List.mem_singleton_self key)
  · rw [traceUses_append, uses, Recency.since_snoc, if_pos rfl]
    exact holds

/-- Every step of a handler preserves the status of the key, if its mark has not timed
    out and its entry has not been driven out. -/
theorem status_step (status : Status key w stakes trace) (here : stakes[i]? = some s) (young : Young key w)
    (room : 1 ≤ w.mem.config.dedupCacheSize)
    (capacity : w'.mem.config.dedupCacheSize = w.mem.config.dedupCacheSize)
    (spaced : Recency.Spaced w.mem.config.dedupCacheSize key (traceUses trace ++ keysUsed events))
    (step : KeyStep key call w w' events s s') :
    Status key w' (stakes.set i s') (trace ++ events.map (call, ·)) := by
  have same : stakes.set i s = stakes := by
    obtain ⟨within, value⟩ := List.getElem?_eq_some_iff.mp here
    rw [← value, List.set_getElem_self]
  cases step with
  | aside _ _ mark rows ages quiet => exact status_aside status here capacity mark rows ages quiet
  | busy ack bad unchanged absent marked =>
    subst unchanged
    have quiet : ∀ sent, call.HasKey key → call.acked sent ∈ [.dedup key, call.acked ack] → sent.code ≠ errc.kOk.code := by
      intro sent _ inside
      obtain rfl : sent = ack := by simpa using inside
      exact bad
    rw [same]
    cases status with
    | untouched _ unmarked => exact absurd unmarked (marked_of_busy marked)
    | working j staked marked unstored absent unacked =>
      exact .working j staked marked unstored absent (unacked_append unacked quiet)
    | storing j serverSeq epochMs staked marked m stored absent unacked =>
      exact .storing j serverSeq epochMs staked marked m stored absent (unacked_append unacked quiet)
    | answered _ _ _ unmarked => exact absurd unmarked (marked_of_busy marked)
  | replay ack found after_ =>
    rw [same]
    cases status with
    | untouched _ _ _ absent => exact absurd found (missing_of_absent absent)
    | working _ _ _ _ absent => exact absurd found (missing_of_absent absent)
    | storing _ _ _ _ _ _ _ absent => exact absurd found (missing_of_absent absent)
    | answered serverSeq epochMs others unmarked m stored used cached acked =>
      obtain ⟨answer, holds⟩ := found_answer used cached spaced
      obtain rfl : ack = okAck serverSeq epochMs := Option.some.inj (found.symm.trans answer)
      subst after_
      refine answered_use serverSeq epochMs others unmarked m stored rfl holds fun sent new => ?_
      obtain before | ⟨-, inside, -⟩ := okAcked_append new
      · exact acked sent before
      · simpa using inside
  | take absent free after_ =>
    subst after_
    have unacked' : ∀ unacked : (∀ ack, ¬OkAcked key trace ack), ∀ ack,
        ¬OkAcked key (trace ++ [Event.dedup key].map (call, ·)) ack :=
      fun unacked => unacked_append unacked (by simp)
    cases status with
    | untouched unstaked unmarked unstored absent unacked =>
      exact .working i (unstaked.set here) (by simp [AList.lookup_insert]) unstored absent (unacked' unacked)
    | working _ _ marked => exact absurd (unmarked_of_free young free) marked
    | storing _ _ _ _ marked => exact absurd (unmarked_of_free young free) marked
    | answered _ _ _ _ _ _ used cached _ =>
      rw [(found_answer used cached spaced).1] at absent
      cases absent
  | drop after_ =>
    subst after_
    cases status with
    | untouched unstaked => cases unstaked i _ here
    | working j staked marked unstored absent unacked =>
      obtain ⟨rfl, -⟩ := staked.only here (by simp)
      exact .untouched staked.clear (AList.lookup_erase _ _) unstored absent (unacked_append unacked (by simp))
    | storing j _ _ staked => cases (staked.only here (by simp)).2
    | answered _ _ others => rcases others i _ here with other | other <;> cases other
  | store serverSeq epochMs m mem rows =>
    cases status with
    | untouched unstaked => cases unstaked i _ here
    | working j staked marked unstored absent unacked =>
      obtain ⟨rfl, -⟩ := staked.only here (by simp)
      rw [unstored] at rows
      exact .storing i serverSeq epochMs staked.set (mem ▸ marked) m rows (mem ▸ absent)
        (unacked_append unacked (by simp))
    | storing j _ _ staked => cases (staked.only here (by simp)).2
    | answered _ _ others => rcases others i _ here with other | other <;> cases other
  | fill serverSeq epochMs after_ =>
    subst after_
    cases status with
    | untouched unstaked => cases unstaked i _ here
    | working j staked => cases (staked.only here (by simp)).2
    | storing j serverSeq' epochMs' staked marked m stored absent unacked =>
      obtain ⟨rfl, shape⟩ := staked.only here (by simp)
      cases shape
      refine answered_use serverSeq epochMs (fun j s there => ?_) (AList.lookup_erase _ _) m stored rfl ?_ ?_
      · by_cases apart : j = i
        · subst apart
          rw [List.getElem?_set_self (List.getElem?_eq_some_iff.mp staked.1).1] at there
          exact .inr (Option.some.inj there).symm
        · rw [List.getElem?_set_ne (Ne.symm apart)] at there
          exact .inl (staked.2 j s apart there)
      · rw [DedupCache.dedupInsert_view]
        exact Recency.holds_insert_self room _ _ _
      · exact fun ack new => absurd new (unacked_append unacked (by simp) ack)
    | answered _ _ others => rcases others i _ here with other | other <;> cases other
  | answer serverSeq epochMs unchanged =>
    subst unchanged
    cases status with
    | untouched unstaked => cases unstaked i _ here
    | working j staked => cases (staked.only here (by simp)).2
    | storing j _ _ staked => cases (staked.only here (by simp)).2
    | answered serverSeq' epochMs' others unmarked m stored used cached acked =>
      obtain other | shape := others i _ here
      · cases other
      cases shape
      refine .answered serverSeq epochMs (fun j s there => ?_) unmarked m stored ?_ ?_ fun ack new => ?_
      · by_cases apart : i = j
        · subst apart
          rw [List.getElem?_set_self (List.getElem?_eq_some_iff.mp here).1] at there
          exact .inl (Option.some.inj there).symm
        · rw [List.getElem?_set_ne apart] at there
          exact others j s there
      · rw [traceUses_append]
        exact List.mem_append_left _ used
      · rw [traceUses_append]
        simpa [keysUsed, SendCall.acked] using cached
      · obtain before | ⟨-, inside, -⟩ := okAcked_append new
        · exact acked ack before
        · simpa using inside

/-- A handler starts. -/
private theorem status_start (status : Status key w stakes trace) : Status key w (stakes ++ [.idle]) trace := by
  cases status with
  | untouched unstaked unmarked unstored absent unacked =>
    exact .untouched unstaked.append unmarked unstored absent unacked
  | working i staked marked unstored absent unacked => exact .working i staked.append marked unstored absent unacked
  | storing i serverSeq epochMs staked marked m stored absent unacked =>
    exact .storing i serverSeq epochMs staked.append marked m stored absent unacked
  | answered serverSeq epochMs others unmarked m stored used cached acked =>
    refine .answered serverSeq epochMs (fun i s there => ?_) unmarked m stored used cached acked
    rw [List.getElem?_append] at there
    split at there
    · exact others i s there
    · exact .inl (List.mem_singleton.mp (List.mem_of_getElem? there))

/-- The environment touches neither marks nor rows nor cache. -/
private theorem status_enter (around : Surroundings) (status : Status key w stakes trace) :
    Status key (around.enter w) stakes trace := by
  cases status with
  | untouched unstaked unmarked unstored absent unacked => exact .untouched unstaked unmarked unstored absent unacked
  | working i staked marked unstored absent unacked => exact .working i staked marked unstored absent unacked
  | storing i serverSeq epochMs staked marked m stored absent unacked =>
    exact .storing i serverSeq epochMs staked marked m stored absent unacked
  | answered serverSeq epochMs others unmarked m stored used cached acked =>
    exact .answered serverSeq epochMs others unmarked m stored used cached acked

end Status

/-! ### Runs -/

/-- What is promised of a key in a pool of sends. -/
structure AtMostOnce (key : Bytes) (p : Pool World Event SendCall) : Prop where
  stored : (rowsWith key p.shared.tables).length ≤ 1
  answers : ∀ a b, OkAcked key p.trace a → OkAcked key p.trace b →
    a.serverSeq = b.serverSeq ∧ a.serverTime = b.serverTime
  /-- without a running handler for the key it is not in flight -/
  released : (∀ thread ∈ p.threads, thread.call.HasKey key → thread.rest = .ret ()) → key ∉ p.shared.mem.inFlight

/-- The stakes of the handlers of a state. -/
private def stakesOf (key : Bytes) (s : sendMachine.State) : List Stake :=
  s.handlers.map fun h => @stake key h.1 h.2

private theorem stake_finished {key : Bytes} {call : SendCall} {phase : Phase call} (finished : phase.Finished) :
    stake key phase = .idle := by
  obtain rfl | ⟨d, rfl⟩ := finished_cases finished <;> rfl

/-- Only a call with the key has a stake in it. -/
private theorem hasKey_of_stake {key : Bytes} {call : SendCall} {phase : Phase call} (staked : stake key phase ≠ .idle) :
    call.HasKey key := by
  cases phase <;> simp only [stake, ne_eq, not_true_eq_false, ite_eq_right_iff, Classical.not_imp] at staked
  all_goals exact ⟨_, Sending.given _, staked.1⟩

/-- The invariant of the pool: as long as the uses of the key are close enough, it has a status. -/
private def Tracked (key : Bytes) (capacity : Nat) (s : sendMachine.State) : Prop :=
  s.shared.mem.config.dedupCacheSize = capacity ∧
    (Recency.Spaced capacity key (traceUses s.trace) → Status key s.shared (stakesOf key s) s.trace)

private theorem tracked_move {key : Bytes} (keyed : key ≠ []) {capacity : Nat} (room : 1 ≤ capacity)
    (s : sendMachine.State) (move : Move SendCall Surroundings) (s' : sendMachine.State)
    (young : Young key s.shared) (moves : Machine.Moves Surroundings.enter s move s')
    (tracked : Tracked key capacity s) : Tracked key capacity s' := by
  obtain ⟨size, status⟩ := tracked
  cases moves with
  | idle => exact ⟨size, status⟩
  | environment around => exact ⟨size, fun spaced => status_enter around (status spaced)⟩
  | start call =>
    refine ⟨size, fun spaced => ?_⟩
    rw [stakesOf, List.map_append]
    exact status_start (status spaced)
  | advance thread call phase next shared events here step =>
    have sends : SendStep s.shared phase next shared events := step
    refine ⟨by rw [sends.config]; exact size, fun spaced => ?_⟩
    rw [traceUses_append] at spaced
    have staked : (stakesOf key s)[thread]? = some (stake key phase) := by
      rw [stakesOf, List.getElem?_map, here]
      rfl
    have moved := status_step (status spaced.of_append) staked young (size ▸ room) (by rw [sends.config])
      (size ▸ spaced) (keyStep keyed sends)
    rwa [stakesOf, List.map_set]

/-- A key with a status is used at most once. -/
private theorem atMostOnce_of_status {key : Bytes} {s : sendMachine.State}
    (status : Status key s.shared (stakesOf key s) s.trace) : AtMostOnce key s.pool := by
  have running : ∀ {i : Nat} {x : Stake}, x ≠ .idle → (stakesOf key s)[i]? = some x →
      ¬∀ thread ∈ s.pool.threads, thread.call.HasKey key → thread.rest = .ret () := by
    intro i x staked here finished
    rw [stakesOf, List.getElem?_map, Option.map_eq_some_iff] at here
    obtain ⟨⟨call, phase⟩, there, rfl⟩ := here
    have rest := finished ⟨call, phase.program⟩ (List.mem_map.mpr ⟨_, List.mem_of_getElem? there, rfl⟩)
      (hasKey_of_stake staked)
    exact staked (stake_finished rest)
  cases status with
  | untouched unstaked unmarked unstored absent unacked =>
    exact ⟨by simp [Machine.State.pool, unstored], fun a _ acked => absurd acked (unacked a),
      fun _ => AList.lookup_eq_none.mp unmarked⟩
  | working i staked marked unstored absent unacked =>
    exact ⟨by simp [Machine.State.pool, unstored], fun a _ acked => absurd acked (unacked a),
      fun finished => absurd finished (running (by simp) staked.1)⟩
  | storing i serverSeq epochMs staked marked m stored absent unacked =>
    exact ⟨by simp [Machine.State.pool, stored], fun a _ acked => absurd acked (unacked a),
      fun finished => absurd finished (running (by simp) staked.1)⟩
  | answered serverSeq epochMs others unmarked m stored used cached acked =>
    refine ⟨by simp [Machine.State.pool, stored], fun a b first second => ?_, fun _ => AList.lookup_eq_none.mp unmarked⟩
    rw [acked a first, acked b second]
    exact ⟨rfl, rfl⟩

/-- In every run of a pool of sends in which the marks of a key are young and its uses are
    close enough for the cache, its message is stored at most once. -/
theorem at_most_once (key : Bytes) (keyed : key ≠ []) (w : World) (room : 1 ≤ w.mem.config.dedupCacheSize)
    (unstored : ∀ m ∈ w.tables.messages.rows, m.clientMsgId ≠ key)
    (absent : (w.mem.dedup.dedupFind key).1 = none) (unmarked : key ∉ w.mem.inFlight)
    (moves : List (Move SendCall Surroundings))
    (young : Along (Pool.step SendCall.program Surroundings.enter) (fun p _ => Young key p.shared) { shared := w } moves)
    (spaced : Recency.Spaced w.mem.config.dedupCacheSize key
      (traceUses (after (Pool.step SendCall.program Surroundings.enter) { shared := w } moves).trace)) :
    AtMostOnce key (after (Pool.step SendCall.program Surroundings.enter) { shared := w } moves) := by
  have initially : Tracked key w.mem.config.dedupCacheSize ({ shared := w } : sendMachine.State) := by
    refine ⟨rfl, fun _ => .untouched (by simp [Unstaked, stakesOf]) (AList.lookup_eq_none.mpr unmarked) ?_
      (absent_of_missing absent) (by simp [OkAcked])⟩
    exact List.filter_eq_nil_iff.mpr fun m inside own => unstored m inside (of_decide_eq_true own)
  obtain ⟨s, same, tracked⟩ := Machine.invariant
    (fun s move s' young moves tracked => tracked_move keyed room s move s' young moves tracked) initially young
  have pool : after (Pool.step SendCall.program Surroundings.enter) { shared := w } moves = s.pool := same.symm
  rw [pool] at spaced ⊢
  exact atMostOnce_of_status (tracked.2 spaced)

/-- User 1 sends a message, and again while the first packet is being worked on. -/
def retriedSend : List (Move SendCall Surroundings) :=
  let send : SendCall := ⟨1, 0, some { conversationId := 1, content := [97], clientMsgId := [7] }⟩
  [.environment bothOnline, .start send, .start send] ++ List.replicate 3 (.advance 0) ++
    List.replicate 3 (.advance 1) ++ List.replicate 6 (.advance 0)

theorem at_most_once_retried :
    AtMostOnce [7] (after (Pool.step SendCall.program Surroundings.enter)
      { shared := after (perform handle) twoUsers befriending } retriedSend) :=
  at_most_once [7] (by decide) (after (perform handle) twoUsers befriending) (by decide) (by decide) rfl (by decide)
    retriedSend (by decide) (Recency.spaced_of_length (by decide))

end NovaIIM
