import NovaIIM.Traffic

/-!
The order of a sender's messages.

The network thread submits the packets of a connection one by one, and several workers take
them from one queue. What a message is numbered is decided where its handler gets to
`GenerateSeq`, so two packets are numbered in the order in which their handlers get there
(`send_order`), which need not be the order in which they came (`send_overtakes`). It is if the
first has been acked before the second is taken, and with a single worker.
-/
namespace NovaIIM
open Store MsgService

/-! ### The workers -/

/-- Packets on their way through the pool of workers: what the workers have taken, in the order in
    which it came, and the queue. -/
structure Hall where
  pool : Pool World Event SendCall
  queue : List SendCall := []

/-- What happens in the hall. -/
inductive HallMove where
  /-- the network thread submits a packet -/
  | submit (call : SendCall)
  /-- a worker pops the next packet -/
  | pop
  /-- the worker of a packet takes its next action -/
  | act (place : Nat)
  | meanwhile (change : Meanwhile)

/-- The worker has come to the end of the handler. -/
def Thread.returned {σ ε ι : Type} : Thread σ ε ι → Bool
  | ⟨_, .ret _⟩ => true
  | ⟨_, .act _ _ _⟩ => false

/-- How many workers are busy. -/
def Hall.busy (h : Hall) : Nat := h.pool.threads.countP fun thread => !thread.returned

/-- One move in a hall with that many workers. -/
def Hall.step (workers : Nat) (h : Hall) : HallMove → Hall
  | .submit call => { h with queue := h.queue ++ [call] }
  | .pop =>
    match h.queue with
    | [] => h
    | call :: rest =>
      if h.busy < workers then { pool := Pool.step SendCall.program Meanwhile.act h.pool (.start call), queue := rest } else h
  | .act place => { h with pool := Pool.step SendCall.program Meanwhile.act h.pool (.advance place) }
  | .meanwhile change => { h with pool := Pool.step SendCall.program Meanwhile.act h.pool (.environment change) }

/-- The hall behind a run. -/
def hall (workers : Nat) (w : World) (moves : List HallMove) : Hall :=
  after (Hall.step workers) { pool := { shared := w } } moves

/-- The packets of a run, in the order in which they came. -/
def arrivals (moves : List HallMove) : List SendCall :=
  moves.filterMap fun move => match move with
    | .submit call => some call
    | _ => none

/-- The `max_seq` of a conversation. -/
def maxSeq (conversationId : Int) (t : Tables) : Option Int :=
  (t.conversations.rows.find? fun r => r.id = conversationId).map Conversation.maxSeq

/-- What a change of the tables by the worker of a packet raises the `max_seq` of a conversation
    to, with the place of the packet. -/
def raises (conversationId : Int) (place : Nat) (t t' : Tables) : List (Nat × Int) :=
  let raised := maxSeq conversationId t'
  if raised = maxSeq conversationId t then [] else raised.toList.map (place, ·)

/-- What a move raises. -/
def Hall.raised (conversationId : Int) (h : Hall) : HallMove → List (Nat × Int)
  | .act place => raises conversationId place h.pool.shared.tables (h.pool.advance place).shared.tables
  | _ => []

section Raised
variable (conversationId : Int) (h : Hall)

@[simp] theorem Hall.raised_submit (call : SendCall) : h.raised conversationId (.submit call) = [] := rfl

@[simp] theorem Hall.raised_pop : h.raised conversationId .pop = [] := rfl

@[simp] theorem Hall.raised_meanwhile (change : Meanwhile) : h.raised conversationId (.meanwhile change) = [] := rfl

end Raised

/-- The numbers that the packets of a run get in a conversation, in the order in which their
    handlers get to `GenerateSeq`. -/
def numbers (workers : Nat) (conversationId : Int) : Hall → List HallMove → List (Nat × Int)
  | _, [] => []
  | h, move :: rest => h.raised conversationId move ++ numbers workers conversationId (h.step workers move) rest

/-- The handler of the packet is about to ack a message that it has stored with this seq. -/
def AcksNew (p : Pool World Event SendCall) (place : Nat) (conversationId serverSeq : Int) : Prop :=
  ∃ (call : SendCall) (s : Sending call) (epochMs : Int), s.req.conversationId = conversationId ∧
    p.threads[place]? = some ⟨call, (Phase.answering s serverSeq epochMs).program⟩

/-- Along the run the packet has been acked with OK as a new message of the conversation. -/
def AckedNew (workers : Nat) (w : World) (moves : List HallMove) (place : Nat) (conversationId serverSeq : Int) : Prop :=
  ∃ before, before ++ [.act place] <+: moves ∧ AcksNew (hall workers w before).pool place conversationId serverSeq

/-! ### What a conversation has reached -/

theorem maxSeq_eq_some {conversationId serverSeq : Int} {t : Tables} : maxSeq conversationId t = some serverSeq ↔
    ∃ conv ∈ t.conversations.rows, conv.id = conversationId ∧ conv.maxSeq = serverSeq := by
  rw [maxSeq, Option.map_eq_some_iff]
  constructor
  · rintro ⟨conv, found, reached⟩
    exact ⟨conv, List.mem_of_find?_eq_some found, by simpa using List.find?_some found, reached⟩
  · rintro ⟨conv, known, named, reached⟩
    refine ⟨conv, Table.find_eq known (by simpa using named) fun other inside same => ?_, reached⟩
    exact Table.eq_of_id inside known ((of_decide_eq_true same).trans named.symm)

theorem maxSeq_incrMaxSeq (conversationId other : Int) (t : Tables) :
    maxSeq conversationId (t.incrMaxSeq other) =
      if conversationId = other then (maxSeq conversationId t).map (· + 1) else maxSeq conversationId t := by
  refine Option.ext fun serverSeq => ?_
  rw [maxSeq_eq_some]
  constructor
  · rintro ⟨_, inside, named, rfl⟩
    obtain ⟨old, known, rfl⟩ := Table.mem_update.mp inside
    by_cases hit : old.id = other
    · have here : old.id = conversationId := by simpa [hit] using named
      rw [if_pos (here.symm.trans hit), maxSeq_eq_some.mpr ⟨old, known, here, rfl⟩]
      simp [hit]
    · have here : old.id = conversationId := by simpa [hit] using named
      rw [if_neg fun same => hit (here.trans same), maxSeq_eq_some.mpr ⟨old, known, here, rfl⟩]
      simp [hit]
  · intro reached
    split at reached
    · rename_i same
      obtain ⟨low, found, rfl⟩ := Option.map_eq_some_iff.mp reached
      obtain ⟨old, known, named, rfl⟩ := maxSeq_eq_some.mp found
      refine ⟨_, Table.mem_update.mpr ⟨old, known, rfl⟩, ?_⟩
      simp [named, same]
    · rename_i apart
      obtain ⟨old, known, named, rfl⟩ := maxSeq_eq_some.mp reached
      refine ⟨_, Table.mem_update.mpr ⟨old, known, rfl⟩, ?_⟩
      simp [named, apart]

/-- No `max_seq` falls. -/
def Rises (t t' : Tables) : Prop :=
  ∀ conversationId low, maxSeq conversationId t = some low → ∃ high, maxSeq conversationId t' = some high ∧ low ≤ high

theorem Rises.refl (t : Tables) : Rises t t := fun _ low reached => ⟨low, reached, le_rfl⟩

theorem Rises.trans {a b c : Tables} (first : Rises a b) (second : Rises b c) : Rises a c := by
  intro conversationId low reached
  obtain ⟨middle, reached', up⟩ := first conversationId low reached
  obtain ⟨high, reached'', up'⟩ := second conversationId middle reached'
  exact ⟨high, reached'', up.trans up'⟩

theorem Grows.rises {t t' : Tables} (grows : Grows t t') : Rises t t' := by
  intro conversationId low reached
  obtain ⟨conv, known, named, rfl⟩ := maxSeq_eq_some.mp reached
  obtain ⟨conv', known', same, up⟩ := grows.conversations conv known
  exact ⟨conv'.maxSeq, maxSeq_eq_some.mpr ⟨conv', known', same.trans named, rfl⟩, up⟩

theorem rises_same {t t' : Tables} (same : t'.conversations = t.conversations) : Rises t t' := by
  intro conversationId low reached
  exact ⟨low, by rwa [maxSeq, same], le_rfl⟩

/-! ### The number of a handler -/

/-- How far a handler has got with its number. -/
inductive Numbering where
  | waiting
  | holding (conversationId serverSeq : Int)
  | past

def MsgService.Phase.numbering {call : SendCall} : Phase call → Numbering
  | .entered | .identified _ | .looking _ _ | .checking _ | .allocating _ => .waiting
  | .timing s serverSeq | .inserting s serverSeq _ | .filling s serverSeq _ _ | .answering s serverSeq _ =>
    .holding s.req.conversationId serverSeq
  | .delivering _ | .quitting _ _ _ _ | .refusing _ _ | .returned => .past

/-- What a step of a send means for its number. -/
inductive NumberingStep (t t' : Tables) : Numbering → Numbering → Prop where
  | aside (x : Numbering) (same : t'.conversations = t.conversations) : NumberingStep t t' x x
  | leave (x : Numbering) (same : t'.conversations = t.conversations) : NumberingStep t t' x .past
  | allocate (conversationId serverSeq : Int) (tables : t' = t.incrMaxSeq conversationId)
      (reached : maxSeq conversationId t' = some serverSeq) : NumberingStep t t' .waiting (.holding conversationId serverSeq)
  /-- the allocation fails, and so does its rollback -/
  | stray (conversationId : Int) (tables : t' = t.incrMaxSeq conversationId) : NumberingStep t t' .waiting .past

private theorem numbering_quit {call : SendCall} (s : Sending call) (e : Error) (bad : e.code ≠ 0) :
    (Phase.quit s e bad).numbering = .past := by
  unfold Phase.quit
  split <;> rfl

private theorem numbering_stored {call : SendCall} (s : Sending call) (serverSeq epochMs : Int) :
    (Phase.stored s serverSeq epochMs).numbering = .holding s.req.conversationId serverSeq := by
  unfold Phase.stored
  split <;> rfl

theorem numberingStep {call : SendCall} {phase next : Phase call} {w w' : World} {events : List Event}
    (step : SendStep w phase next w' events) : NumberingStep w.tables w'.tables phase.numbering next.numbering := by
  cases step with
  | identify | unkeyed | keyed | take | insider | time | fill => exact .aside _ rfl
  | anonymous | malformed | invalid | replay | busy | answer | release | refuse => exact .leave _ rfl
  | outsider s | lost s =>
    rw [numbering_quit]
    exact .leave _ rfl
  | unallocated s _ mem tables =>
    rw [numbering_quit]
    rcases tables with same | incremented
    · exact .leave _ (by rw [same])
    · exact .stray _ incremented
  | allocated s conv _ mem tables faults able known named =>
    exact .allocate _ _ tables (maxSeq_eq_some.mpr ⟨conv, known, named, rfl⟩)
  | insert s serverSeq epochMs =>
    rw [numbering_stored]
    exact .aside _ rfl
  | deliver d d' _ _ saved mem tables =>
    rcases tables with same | ⟨conversationId, userId, selected, change, -, -, written⟩
    · exact .leave _ (by rw [same])
    · exact .leave _ (by rw [written]; rfl)

theorem NumberingStep.rises {t t' : Tables} {x y : Numbering} (step : NumberingStep t t' x y) : Rises t t' := by
  cases step with
  | aside _ same | leave _ same => exact rises_same same
  | allocate conversationId _ tables | stray conversationId tables =>
    rw [tables]
    exact (keeps_incremented t conversationId).grows.rises

/-- Whatever else is served, no `max_seq` falls. -/
theorem rises_meanwhile (change : Meanwhile) (w : World) : Rises w.tables (change.act w).tables := by
  cases change with
  | around surroundings => exact .refl _
  | serves call =>
    show Rises w.tables (perform handle w call).tables
    obtain ⟨send, -, program⟩ | ⟨effect, -⟩ := perform_cases w call
    · rw [perform, program]
      obtain ⟨phase, -, rises⟩ := @send_invariant send (fun _ w' _ => Rises w.tables w'.tables)
        (fun _ _ _ _ _ _ now step => now.trans (numberingStep step).rises) (call.enter w) (.refl _)
      exact rises
    · exact (keeps_effect effect).grows.rises

/-! ### The numbers so far -/

/-- The numbers that packets have got in a conversation, and how far their handlers are. -/
structure Numbered (conversationId : Int) (t : Tables) (handlers : List Numbering) (given : List (Nat × Int)) : Prop where
  rising : given.Pairwise fun a b => a.2 < b.2
  once : (given.map Prod.fst).Nodup
  reached : ∀ x ∈ given, ∃ top, maxSeq conversationId t = some top ∧ x.2 ≤ top
  taken : ∀ x ∈ given, ∃ numbering, handlers[x.1]? = some numbering ∧ numbering ≠ .waiting
  held : ∀ place serverSeq, handlers[place]? = some (.holding conversationId serverSeq) → (place, serverSeq) ∈ given

section Numbered
variable {conversationId : Int} {t t' : Tables} {handlers : List Numbering} {given : List (Nat × Int)}

theorem Numbered.rises (numbered : Numbered conversationId t handlers given) (rises : Rises t t') :
    Numbered conversationId t' handlers given := by
  refine { numbered with reached := fun x inside => ?_ }
  obtain ⟨top, here, below⟩ := numbered.reached x inside
  obtain ⟨top', here', up⟩ := rises conversationId top here
  exact ⟨top', here', below.trans up⟩

/-- A handler that starts has no number. -/
theorem numbered_start (numbered : Numbered conversationId t handlers given) :
    Numbered conversationId t (handlers ++ [.waiting]) given := by
  refine { numbered with taken := fun x inside => ?_, held := fun place serverSeq holds => ?_ }
  · obtain ⟨numbering, here, busy⟩ := numbered.taken x inside
    exact ⟨numbering, by rw [List.getElem?_append_left (List.getElem?_eq_some_iff.mp here).1, here], busy⟩
  · rw [List.getElem?_append] at holds
    split at holds
    · exact numbered.held place serverSeq holds
    · cases List.mem_singleton.mp (List.mem_of_getElem? holds)

/-- The handler at a place goes on, without a number of the conversation. -/
private theorem numbered_set {place : Nat} {x y : Numbering} (numbered : Numbered conversationId t handlers given)
    (here : handlers[place]? = some x) (on : x ≠ .waiting → y ≠ .waiting)
    (holds : ∀ serverSeq, y = .holding conversationId serverSeq → x = y) :
    Numbered conversationId t (handlers.set place y) given := by
  have within := (List.getElem?_eq_some_iff.mp here).1
  refine { numbered with taken := fun z inside => ?_, held := fun other serverSeq there => ?_ }
  · obtain ⟨numbering, there, busy⟩ := numbered.taken z inside
    by_cases same : place = z.1
    · subst same
      obtain rfl : x = numbering := Option.some.inj (here.symm.trans there)
      exact ⟨y, by rw [List.getElem?_set_self within], on busy⟩
    · exact ⟨numbering, by rw [List.getElem?_set_ne same, there], busy⟩
  · by_cases same : place = other
    · subst same
      rw [List.getElem?_set_self within] at there
      have new := Option.some.inj there
      exact numbered.held place serverSeq (by rw [here, holds serverSeq new, new])
    · rw [List.getElem?_set_ne same] at there
      exact numbered.held other serverSeq there

theorem raises_same {place : Nat} (same : maxSeq conversationId t' = maxSeq conversationId t) :
    raises conversationId place t t' = [] := if_pos same

theorem raises_next {place : Nat} {top : Int} (reached : maxSeq conversationId t = some top)
    (up : maxSeq conversationId t' = some (top + 1)) : raises conversationId place t t' = [(place, top + 1)] := by
  rw [raises, up, reached, if_neg]
  · rfl
  · intro same
    have := Option.some.inj same
    omega

/-- The handler at a place gets the next number of the conversation. -/
private theorem numbered_next {place : Nat} {y : Numbering} {top : Int} (numbered : Numbered conversationId t handlers given)
    (here : handlers[place]? = some .waiting) (on : y ≠ .waiting) (reached : maxSeq conversationId t = some top)
    (up : maxSeq conversationId t' = some (top + 1))
    (holds : ∀ serverSeq, y = .holding conversationId serverSeq → serverSeq = top + 1) :
    Numbered conversationId t' (handlers.set place y) (given ++ [(place, top + 1)]) := by
  have within := (List.getElem?_eq_some_iff.mp here).1
  have fresh : ∀ x ∈ given, x.1 ≠ place := by
    rintro x inside rfl
    obtain ⟨numbering, there, busy⟩ := numbered.taken x inside
    exact busy (Option.some.inj (there.symm.trans here))
  have below : ∀ x ∈ given, x.2 ≤ top := by
    intro x inside
    obtain ⟨top', here', low⟩ := numbered.reached x inside
    rwa [Option.some.inj (reached.symm.trans here')]
  constructor
  · refine List.pairwise_append.mpr ⟨numbered.rising, List.pairwise_singleton _ _, fun a inside b last => ?_⟩
    rw [List.mem_singleton.mp last]
    exact Int.lt_add_one_of_le (below a inside)
  · rw [List.map_append, List.nodup_append]
    refine ⟨numbered.once, List.nodup_singleton _, fun a inside b last => ?_⟩
    obtain ⟨x, old, rfl⟩ := List.mem_map.mp inside
    rw [List.mem_singleton.mp last]
    exact fresh x old
  · intro x inside
    refine ⟨top + 1, up, ?_⟩
    rcases List.mem_append.mp inside with old | last
    · exact (below x old).trans (by omega)
    · rw [List.mem_singleton.mp last]
  · intro x inside
    rcases List.mem_append.mp inside with old | last
    · obtain ⟨numbering, there, busy⟩ := numbered.taken x old
      exact ⟨numbering, by rw [List.getElem?_set_ne (Ne.symm (fresh x old)), there], busy⟩
    · rw [List.mem_singleton.mp last]
      exact ⟨y, List.getElem?_set_self within, on⟩
  · intro other serverSeq there
    by_cases same : place = other
    · subst same
      rw [List.getElem?_set_self within] at there
      rw [holds serverSeq (Option.some.inj there)]
      exact List.mem_append_right _ List.mem_cons_self
    · rw [List.getElem?_set_ne same] at there
      exact List.mem_append_left _ (numbered.held other serverSeq there)

/-- The handler at a place gets to `GenerateSeq`, in whichever conversation. -/
private theorem numbered_raised {place : Nat} {y : Numbering} {other : Int} (numbered : Numbered conversationId t handlers given)
    (here : handlers[place]? = some .waiting) (on : y ≠ .waiting)
    (holds : ∀ serverSeq, y = .holding conversationId serverSeq →
      conversationId = other ∧ maxSeq conversationId (t.incrMaxSeq other) = some serverSeq) :
    Numbered conversationId (t.incrMaxSeq other) (handlers.set place y)
      (given ++ raises conversationId place t (t.incrMaxSeq other)) := by
  have up := maxSeq_incrMaxSeq conversationId other t
  have rises : Rises t (t.incrMaxSeq other) := (keeps_incremented t other).grows.rises
  by_cases own : conversationId = other
  · rw [if_pos own] at up
    cases reached : maxSeq conversationId t with
    | none =>
      rw [reached, Option.map_none] at up
      rw [raises_same (up.trans reached.symm), List.append_nil]
      refine (numbered_set numbered here (fun _ => on) fun serverSeq new => ?_).rises rises
      cases up.symm.trans (holds serverSeq new).2
    | some top =>
      rw [reached, Option.map_some] at up
      rw [raises_next reached up]
      refine numbered_next numbered here on reached up fun serverSeq new => ?_
      exact Option.some.inj ((holds serverSeq new).2.symm.trans up)
  · rw [if_neg own] at up
    rw [raises_same up, List.append_nil]
    refine (numbered_set numbered here (fun _ => on) fun serverSeq new => ?_).rises rises
    exact absurd (holds serverSeq new).1 own

/-- A handler takes its next step. -/
theorem numbered_step {place : Nat} {x y : Numbering} (numbered : Numbered conversationId t handlers given)
    (here : handlers[place]? = some x) (step : NumberingStep t t' x y) :
    Numbered conversationId t' (handlers.set place y) (given ++ raises conversationId place t t') := by
  cases step with
  | aside _ same =>
    rw [raises_same (by rw [maxSeq, same, maxSeq]), List.append_nil]
    exact (numbered_set numbered here id fun _ _ => rfl).rises (rises_same same)
  | leave _ same =>
    rw [raises_same (by rw [maxSeq, same, maxSeq]), List.append_nil]
    refine (numbered_set numbered here (fun _ left => ?_) fun _ left => ?_).rises (rises_same same)
    · cases left
    · cases left
  | allocate other serverSeq tables reached =>
    subst tables
    refine numbered_raised numbered here (fun left => ?_) fun _ new => ?_
    · cases left
    · cases new
      exact ⟨rfl, reached⟩
  | stray other tables =>
    subst tables
    refine numbered_raised numbered here (fun left => ?_) fun _ left => ?_
    · cases left
    · cases left

end Numbered

/-! ### Runs in the hall -/

/-- The phases of the handlers in a hall, with the numbers given so far. -/
def NumberedHall (conversationId : Int) (h : Hall) (given : List (Nat × Int)) : Prop :=
  ∃ s : sendMachine.State, s.pool = h.pool ∧
    Numbered conversationId s.shared.tables (s.handlers.map fun handler => @Phase.numbering handler.1 handler.2) given

section Hall
variable {workers : Nat} {conversationId : Int} {h : Hall} {given : List (Nat × Int)}

private theorem numberedHall_start (tracked : NumberedHall conversationId h given) (call : SendCall) (queue : List SendCall) :
    NumberedHall conversationId
      { pool := Pool.step SendCall.program Meanwhile.act h.pool (.start call), queue := queue } given := by
  obtain ⟨s, pool, numbered⟩ := tracked
  obtain ⟨s', moved, same⟩ := @Machine.simulates _ _ _ _ sendMachine Meanwhile.act s (.start call)
  rw [pool] at same
  refine ⟨s', same, ?_⟩
  cases moved
  rw [List.map_append]
  exact numbered_start numbered

private theorem numberedHall_act (tracked : NumberedHall conversationId h given) (place : Nat) :
    NumberedHall conversationId (h.step workers (.act place)) (given ++ h.raised conversationId (.act place)) := by
  obtain ⟨s, pool, numbered⟩ := tracked
  obtain ⟨s', moved, same⟩ := @Machine.simulates _ _ _ _ sendMachine Meanwhile.act s (.advance place)
  rw [pool] at same
  refine ⟨s', same, ?_⟩
  have shared : (h.pool.advance place).shared = s'.shared := (congrArg Pool.shared same).symm
  have before : h.pool.shared = s.shared := (congrArg Pool.shared pool).symm
  rw [Hall.raised, shared, before]
  cases moved with
  | idle =>
    rw [raises_same rfl, List.append_nil]
    exact numbered
  | advance _ call phase next after_ events here step =>
    rw [List.map_set]
    refine numbered_step numbered ?_ (numberingStep step)
    rw [List.getElem?_map, here]
    rfl

theorem numberedHall_step (tracked : NumberedHall conversationId h given) (move : HallMove) :
    NumberedHall conversationId (h.step workers move) (given ++ h.raised conversationId move) := by
  cases move with
  | submit call =>
    rw [Hall.raised_submit, List.append_nil]
    exact tracked
  | pop =>
    rw [Hall.raised_pop, List.append_nil, Hall.step]
    cases h.queue with
    | nil => exact tracked
    | cons call rest =>
      dsimp only
      split
      · exact numberedHall_start tracked call rest
      · exact tracked
  | act place => exact numberedHall_act tracked place
  | meanwhile change =>
    obtain ⟨s, pool, numbered⟩ := tracked
    rw [Hall.raised_meanwhile, List.append_nil]
    refine ⟨{ s with shared := change.act s.shared }, ?_, numbered.rises (rises_meanwhile change s.shared)⟩
    rw [Hall.step, ← pool]
    rfl

theorem numberedHall_run (tracked : NumberedHall conversationId h given) (moves : List HallMove) :
    NumberedHall conversationId (after (Hall.step workers) h moves) (given ++ numbers workers conversationId h moves) := by
  induction moves generalizing h given with
  | nil =>
    rw [numbers, List.append_nil]
    exact tracked
  | cons move rest ih =>
    rw [numbers, after_cons, ← List.append_assoc]
    exact ih (numberedHall_step tracked move)

theorem numbers_append (first second : List HallMove) :
    numbers workers conversationId h (first ++ second) =
      numbers workers conversationId h first ++ numbers workers conversationId (after (Hall.step workers) h first) second := by
  induction first generalizing h with
  | nil => rfl
  | cons move rest ih => rw [List.cons_append, numbers, numbers, ih, after_cons, List.append_assoc]

/-- Only a handler at its reply goes on with this program. -/
theorem answering_of_program {call : SendCall} {phase : Phase call} {s : Sending call} {serverSeq epochMs : Int}
    (same : phase.program = (Phase.answering s serverSeq epochMs).program) (w : World) :
    phase.numbering = .holding s.req.conversationId serverSeq := by
  have replies : ∃ w' events, events = [call.acked (okAck serverSeq epochMs)] ∧
      phase.program.first w = some (sendDelivered call.conn s.userId s.req serverSeq epochMs, w', events) := by
    rw [same]
    exact ⟨w, _, rfl, rfl⟩
  obtain ⟨w', events, emitted, moves⟩ := replies
  obtain ⟨next, -, step⟩ := phase_first moves
  cases step with
  | answer s' serverSeq' epochMs' =>
    have ack := SendCall.acked_inj.mp (List.singleton_inj.mp emitted.symm)
    have req : s.req = s'.req := Option.some.inj (s.given.symm.trans s'.given)
    rw [Phase.numbering, req]
    exact congrArg (Numbering.holding _) (congrArg SendMsgAck.serverSeq ack).symm
  | refuse e bad =>
    have ack := SendCall.acked_inj.mp (List.singleton_inj.mp emitted)
    exact absurd (congrArg SendMsgAck.code ack) bad
  | deliver d d' _ _ saved mem tables pushes =>
    subst emitted
    obtain ⟨conn, packet, acked, push⟩ := pushes _ List.mem_cons_self
    simp only [SendCall.acked, Event.sent.injEq] at acked
    rw [← acked.2] at push
    rcases push with push | push <;> cases push
  | _ => cases emitted

theorem given_of_acksNew (tracked : NumberedHall conversationId h given) {place : Nat} {serverSeq : Int}
    (acks : AcksNew h.pool place conversationId serverSeq) : (place, serverSeq) ∈ given := by
  obtain ⟨s, pool, numbered⟩ := tracked
  obtain ⟨call, sending, epochMs, rfl, here⟩ := acks
  rw [← pool, Machine.State.pool, List.getElem?_map, Option.map_eq_some_iff] at here
  obtain ⟨⟨call', phase⟩, there, thread⟩ := here
  obtain ⟨rfl, program⟩ := Thread.mk.inj thread
  refine numbered.held place serverSeq ?_
  rw [List.getElem?_map, there]
  exact congrArg some (answering_of_program program s.shared)

/-- A packet that has not been taken has no number. -/
theorem untaken_given (tracked : NumberedHall conversationId h given) {place : Nat}
    (untaken : h.pool.threads.length ≤ place) : ∀ x ∈ given, x.1 ≠ place := by
  obtain ⟨s, pool, numbered⟩ := tracked
  rintro x inside rfl
  obtain ⟨numbering, there, -⟩ := numbered.taken x inside
  have within := (List.getElem?_eq_some_iff.mp there).1
  rw [← pool, Machine.State.pool, List.length_map] at untaken
  rw [List.length_map] at within
  omega

end Hall

/-! ### The order of the packets -/

/-- The packets of a hall: those taken, and those in the queue. -/
def Hall.calls (h : Hall) : List SendCall := h.pool.threads.map Thread.call ++ h.queue

theorem calls_advance (p : Pool World Event SendCall) (place : Nat) :
    (p.advance place).threads.map Thread.call = p.threads.map Thread.call := by
  rcases p.advance_cases place with idle | ⟨call, update, emit, next, here⟩
  · rw [idle]
  · rw [Pool.advance_act here, List.map_set]
    obtain ⟨within, value⟩ := List.getElem?_eq_some_iff.mp here
    refine List.ext_getElem (by simp) fun i first second => ?_
    rw [List.getElem_set]
    split
    · rename_i same
      subst same
      simp [value]
    · rfl

theorem calls_step (workers : Nat) (h : Hall) (move : HallMove) :
    (h.step workers move).calls = h.calls ++ arrivals [move] := by
  cases move with
  | submit call => exact (List.append_assoc _ _ _).symm
  | pop =>
    rw [Hall.step]
    cases waiting : h.queue with
    | nil => exact (List.append_nil _).symm
    | cons call rest =>
      dsimp only
      split
      · simp [Hall.calls, Pool.step, arrivals, waiting]
      · exact (List.append_nil _).symm
  | act place =>
    show (h.pool.advance place).threads.map Thread.call ++ h.queue = h.calls ++ []
    rw [calls_advance, List.append_nil, Hall.calls]
  | meanwhile change => exact (List.append_nil _).symm

/-- The workers take the packets in the order in which they came. -/
theorem hall_calls (workers : Nat) (w : World) (moves : List HallMove) : (hall workers w moves).calls = arrivals moves := by
  have run : ∀ h : Hall, (after (Hall.step workers) h moves).calls = h.calls ++ arrivals moves := by
    induction moves with
    | nil => exact fun h => (List.append_nil _).symm
    | cons move rest ih =>
      intro h
      rw [after_cons, ih, calls_step, List.append_assoc]
      congr 1
      exact List.filterMap_append.symm
  exact run _

/-- All handlers but the last one have come to their end. -/
def Serial (h : Hall) : Prop :=
  ∀ (place : Nat) (thread : Thread World Event SendCall), h.pool.threads[place]? = some thread →
    place + 1 < h.pool.threads.length → thread.returned = true

/-- With a single worker a packet is taken when the one before has been served. -/
theorem serial_step (h : Hall) (move : HallMove) (serial : Serial h) : Serial (h.step 1 move) := by
  cases move with
  | submit call => exact serial
  | meanwhile change => exact serial
  | pop =>
    rw [Hall.step]
    cases h.queue with
    | nil => exact serial
    | cons call rest =>
      dsimp only
      split
      · rename_i free
        have ended := List.countP_eq_zero.mp (Nat.lt_one_iff.mp free)
        intro place thread here before
        have old : place < h.pool.threads.length := by simpa [Pool.step] using before
        rw [Pool.step, List.getElem?_append_left old] at here
        simpa using ended thread (List.mem_of_getElem? here)
      · exact serial
  | act place =>
    show Serial { h with pool := h.pool.advance place }
    rcases h.pool.advance_cases place with idle | ⟨call, update, emit, next, here⟩
    · rw [idle]
      exact serial
    · rw [Pool.advance_act here]
      intro other thread there before
      rw [List.length_set] at before
      by_cases same : place = other
      · subst same
        cases serial place _ here before
      · rw [List.getElem?_set_ne same] at there
        exact serial other thread there before

/-- Two packets with rising numbers got them in this order, and the other way round. -/
theorem rising_iff {given : List (Nat × Int)} (rising : given.Pairwise fun a b => a.2 < b.2)
    (once : (given.map Prod.fst).Nodup) {i j : Nat} {p q : Int} (first : (i, p) ∈ given) (second : (j, q) ∈ given) :
    p < q ↔ [i, j].Sublist (given.map Prod.fst) := by
  constructor
  · intro less
    suffices pair : [(i, p), (j, q)].Sublist given by exact pair.map Prod.fst
    induction given with
    | nil => cases first
    | cons x rest ih =>
      have above := (List.pairwise_cons.mp rising).1
      rcases List.mem_cons.mp first with rfl | later
      · rcases List.mem_cons.mp second with same | later'
        · cases same
          exact absurd less (lt_irrefl _)
        · exact (List.singleton_sublist.mpr later').cons_cons _
      · rcases List.mem_cons.mp second with rfl | later'
        · have down : q < p := above (i, p) later
          exact absurd less (lt_asymm down)
        · exact (ih (List.pairwise_cons.mp rising).2 (List.nodup_cons.mp once).2 later later').cons _
  · intro order
    obtain ⟨pair, inside, same⟩ := List.sublist_map_iff.mp order
    obtain ⟨a, b, rfl⟩ : ∃ a b, pair = [a, b] := List.length_eq_two.mp (by simpa using (congrArg List.length same).symm)
    obtain ⟨rfl, rfl⟩ : i = a.1 ∧ j = b.1 := by simpa using same
    have less : a.2 < b.2 := List.pairwise_iff_forall_sublist.mp rising inside
    have named := List.inj_on_of_nodup_map once
    have low : (a.1, p) = a := named first (inside.subset (by simp)) rfl
    have high : (b.1, q) = b := named second (inside.subset (by simp)) rfl
    rwa [← low, ← high] at less

section Order
variable {workers : Nat} {w : World} {moves : List HallMove} {conversationId : Int} {i j : Nat} {p q : Int}

theorem numberedHall_hall (workers : Nat) (w : World) (moves : List HallMove) (conversationId : Int) :
    NumberedHall conversationId (hall workers w moves) (numbers workers conversationId { pool := { shared := w } } moves) :=
  numberedHall_run ⟨{ shared := w }, rfl, .nil, .nil, by simp, by simp, by simp⟩ moves

/-- The numbers given by the end of a run begin with those given so far. -/
theorem numbers_of_short {before : List HallMove} {h : Hall} (short : before <+: moves) :
    ∃ later, numbers workers conversationId h moves = numbers workers conversationId h before ++ later := by
  obtain ⟨rest, rfl⟩ := short
  exact ⟨_, numbers_append before rest⟩

theorem given_of_ackedNew (acked : AckedNew workers w moves i conversationId p) :
    (i, p) ∈ numbers workers conversationId { pool := { shared := w } } moves := by
  obtain ⟨before, short, acks⟩ := acked
  obtain ⟨later, all⟩ := numbers_of_short ((List.prefix_append _ _).trans short)
  rw [all]
  exact List.mem_append_left _ (given_of_acksNew (numberedHall_hall workers w before conversationId) acks)

/-- A packet that was acked while the other was still in the queue got its number first. -/
theorem before_of_untaken {before : List HallMove} (short : before <+: moves)
    (first : (i, p) ∈ numbers workers conversationId { pool := { shared := w } } before)
    (untaken : (hall workers w before).pool.threads.length ≤ j)
    (second : (j, q) ∈ numbers workers conversationId { pool := { shared := w } } moves) : p < q := by
  obtain ⟨later, all⟩ := @numbers_of_short workers moves conversationId before { pool := { shared := w } } short
  obtain ⟨s, -, numbered⟩ := numberedHall_hall workers w moves conversationId
  have rising := numbered.rising
  rw [all] at rising second
  rcases List.mem_append.mp second with old | new
  · exact absurd rfl (untaken_given (numberedHall_hall workers w before conversationId) untaken _ old)
  · exact (List.pairwise_append.mp rising).2.2 _ first _ new

end Order

/-! ### Two packets of one connection -/

/-- User 1 sends twice to a friend, and two workers take the packets. -/
def bothTaken : List HallMove :=
  let packet (seq : UInt32) : SendCall := ⟨1, seq, some { conversationId := 1, content := [97], clientMsgId := [] }⟩
  [.meanwhile (.around bothOnline), .submit (packet 1), .submit (packet 2), .pop, .pop]

/-- The worker of the first packet gets to `GenerateSeq` first, and is then overtaken. -/
def slowFirst : List HallMove :=
  bothTaken ++ List.replicate 4 (.act 0) ++ List.replicate 7 (.act 1) ++ List.replicate 3 (.act 0)

end NovaIIM
