import NovaIIM.MPMCSafety
import NovaIIM.ThreadPool

/-!
What a step of the pool can do (`stepped_go`), with what a thread inside of the queue
does there.
-/
namespace NovaIIM
variable {α : Type}

/-! ### Steps of the queue -/

/-- The thread looks for a ticket. -/
def Pushing.Seeks : Pushing α → Prop
  | load _ | check _ _ | swap _ _ => True
  | _ => False

def Popping.Seeks : Popping α → Prop
  | load | check _ | swap _ => True
  | _ => False

/-- What a step inside of `Push` does to the phase and to the records. -/
inductive Pushing.Moves (q : MPMCQueue α) (h : History α) (thread : Nat) (spurious : Bool) :
    Pushing α → Pushing α → History α → Prop where
  | seeks (phase next : Pushing α) (before : phase.Seeks) (sought : next.Seeks) : Moves q h thread spurious phase next h
  | full (item : α) (pos : BitVec 64) : Moves q h thread spurious (.check item pos) (.done false) h
  | claims (item : α) (pos : BitVec 64) (wins : q.head = pos ∧ spurious = false) :
      Moves q h thread spurious (.swap item pos) (.write item pos) (h.claimHead thread item)
  | writes (item : α) (pos : BitVec 64) : Moves q h thread spurious (.write item pos) (.publish pos) h
  | publishes (pos : BitVec 64) : Moves q h thread spurious (.publish pos) (.done true) (h.publish thread)

/-- What `Pop` sees when there is nothing at the position. -/
def MPMCQueue.LooksEmpty (q : MPMCQueue α) (pos : BitVec 64) : Prop := ((q.cell pos).seq - (pos + 1)).toInt < 0

instance (q : MPMCQueue α) (pos : BitVec 64) : Decidable (q.LooksEmpty pos) :=
  inferInstanceAs (Decidable (_ < _))

/-- What a step inside of `Pop` does to the phase and to the records. -/
inductive Popping.Moves (q : MPMCQueue α) (h : History α) (thread : Nat) (spurious : Bool) :
    Popping α → Popping α → History α → Prop where
  | loads : Moves q h thread spurious .load (.check q.tail) h
  | seeks (pos : BitVec 64) (next : Popping α) (there : ¬q.LooksEmpty pos) (sought : next.Seeks) :
      Moves q h thread spurious (.check pos) next h
  | empty (pos : BitVec 64) (looks : q.LooksEmpty pos) : Moves q h thread spurious (.check pos) (.done none) h
  | late (pos : BitVec 64) (fails : ¬(q.tail = pos ∧ spurious = false)) :
      Moves q h thread spurious (.swap pos) (.check q.tail) h
  | claims (pos : BitVec 64) (wins : q.tail = pos ∧ spurious = false) :
      Moves q h thread spurious (.swap pos) (.read pos) (h.claimTail thread)
  | reads (pos : BitVec 64) : Moves q h thread spurious (.read pos) (.release pos (q.cell pos).data) h
  | releases (pos : BitVec 64) (item : Option α) :
      Moves q h thread spurious (.release pos item) (.done (some item)) (h.release thread item)

section Queue
variable {s : Traffic α} {thread : Nat}

theorem advance_pushing {phase : Pushing α} (here : s.threads thread = .pushing phase)
    (going : ∀ pushed, phase ≠ .done pushed) (spurious : Bool) :
    ∃ queue next h, phase.Moves s.queue s.history thread spurious next h ∧
      s.advance thread spurious = ⟨queue, Function.update s.threads thread (.pushing next), h.look thread⟩ := by
  rw [advance_eq here]
  cases phase with
  | load item => exact ⟨_, _, _, .seeks _ (.check item _) trivial trivial, rfl⟩
  | check item pos =>
    simp only [Traffic.operate, MPMCQueue.push]
    split
    · exact ⟨_, _, _, .seeks _ (.swap item pos) trivial trivial, rfl⟩
    · split
      · exact ⟨_, _, _, .full item pos, rfl⟩
      · exact ⟨_, _, _, .seeks _ (.load item) trivial trivial, rfl⟩
  | swap item pos =>
    simp only [Traffic.operate, MPMCQueue.push]
    split
    · exact ⟨_, _, _, .claims item pos ‹_›, rfl⟩
    · exact ⟨_, _, _, .seeks _ (.check item _) trivial trivial, rfl⟩
  | write item pos => exact ⟨_, _, _, .writes item pos, rfl⟩
  | publish pos => exact ⟨_, _, _, .publishes pos, rfl⟩
  | done pushed => exact absurd rfl (going pushed)

theorem advance_popping {phase : Popping α} (here : s.threads thread = .popping phase)
    (going : ∀ popped, phase ≠ .done popped) (spurious : Bool) :
    ∃ queue next h, phase.Moves s.queue s.history thread spurious next h ∧
      s.advance thread spurious = ⟨queue, Function.update s.threads thread (.popping next), h.look thread⟩ := by
  rw [advance_eq here]
  cases phase with
  | load => exact ⟨_, _, _, .loads, rfl⟩
  | check pos =>
    simp only [Traffic.operate, MPMCQueue.pop]
    split
    · rename_i zero
      refine ⟨_, _, _, .seeks pos (.swap pos) ?_ trivial, rfl⟩
      rw [MPMCQueue.LooksEmpty, zero]
      simp
    · split
      · exact ⟨_, _, _, .empty pos ‹_›, rfl⟩
      · exact ⟨_, _, _, .seeks pos .load ‹_› trivial, rfl⟩
  | swap pos =>
    simp only [Traffic.operate, MPMCQueue.pop]
    split
    · exact ⟨_, _, _, .claims pos ‹_›, rfl⟩
    · exact ⟨_, _, _, .late pos ‹_›, rfl⟩
  | read pos => exact ⟨_, _, _, .reads pos, rfl⟩
  | release pos item => exact ⟨_, _, _, .releases pos item, rfl⟩
  | done popped => exact absurd rfl (going popped)

end Queue

/-! ### Steps of the pool -/

namespace ThreadPool

/-- What a thread does in the pool goes with what it does in the queue. -/
def Agrees : Activity α → Operation α → Prop
  | .submitPush, operation => ∃ phase, operation = .pushing phase ∧ ∀ pushed, phase ≠ .done pushed
  | .pop _, operation => ∃ phase, operation = .popping phase ∧ ∀ popped, phase ≠ .done popped
  | _, _ => True

/-- The workers are the threads that work, and all threads are where they say. -/
structure Staffed (p : ThreadPool α) : Prop where
  staff : ∀ t, t < p.workers ↔ (p.threads t).Works
  agrees : ∀ t, Agrees (p.threads t) (p.traffic.threads t)

/-- What the next step of a thread can do. -/
inductive Stepped (p : ThreadPool α) (t : Nat) (spurious : Bool) : ThreadPool α → Prop where
  | stays (still : ∀ draining, p.threads t ≠ .pop draining) : Stepped p t spurious p
  | refused (task : α) (here : p.threads t = .submitTest task) (shut : p.stop = true) :
      Stepped p t spurious (p.become t (.submitted false))
  | tested (task : α) (here : p.threads t = .submitTest task) (opened : p.stop = false) :
      Stepped p t spurious
        { p.become t .submitPush with traffic := p.traffic.enter t (.pushing (.load task)) }
  | pushes (here : p.threads t = .submitPush) (phase : Pushing α) (inside : p.traffic.threads t = .pushing phase)
      (queue : MPMCQueue α) (next : Pushing α) (h : History α)
      (moves : phase.Moves p.traffic.queue p.traffic.history t spurious next h) :
      Stepped p t spurious
        { p.become t (.afterPush (.pushing next)) with
          traffic := ⟨queue, Function.update p.traffic.threads t (.pushing next), h.look t⟩ }
  | releases (here : p.threads t = .submitRelease) :
      Stepped p t spurious
        { p.become t (.submitted true) with
          permits := p.permits + 1
          accepted := p.accepted ++ [p.traffic.history.ticket t] }
  | stops (here : p.threads t = .stopExchange) (opened : p.stop = false) :
      Stepped p t spurious { p.become t (.stopWake 0) with stop := true }
  | stopsAgain (here : p.threads t = .stopExchange) (shut : p.stop = true) :
      Stepped p t spurious (p.become t .stopped)
  | wakes (worker : Nat) (here : p.threads t = .stopWake worker) (inside : worker < p.workers) :
      Stepped p t spurious { p.become t (.stopWake (worker + 1)) with permits := p.permits + 1 }
  | woke (worker : Nat) (here : p.threads t = .stopWake worker) (all : ¬worker < p.workers) :
      Stepped p t spurious (p.become t (.stopJoin 0))
  | joins (worker : Nat) (here : p.threads t = .stopJoin worker) (inside : worker < p.workers)
      (exited : p.threads worker = .exited) :
      Stepped p t spurious (p.become t (.stopJoin (worker + 1)))
  | joined (worker : Nat) (here : p.threads t = .stopJoin worker) (all : ¬worker < p.workers) :
      Stepped p t spurious (p.become t .stopped)
  | acquires (here : p.threads t = .acquire) (free : p.permits ≠ 0) :
      Stepped p t spurious { p.become t .testStop with permits := p.permits - 1 }
  | looks (here : p.threads t = .testStop) :
      Stepped p t spurious { p.become t (.pop p.stop) with traffic := p.traffic.enter t (.popping .load) }
  | pops (draining : Bool) (here : p.threads t = .pop draining) (phase : Popping α)
      (inside : p.traffic.threads t = .popping phase) (queue : MPMCQueue α) (next : Popping α) (h : History α)
      (moves : phase.Moves p.traffic.queue p.traffic.history t spurious next h) :
      Stepped p t spurious
        { p.become t (.afterPop draining (.popping next)) with
          traffic := ⟨queue, Function.update p.traffic.threads t (.popping next), h.look t⟩
          missed := if (Operation.popping next).foundNothing && !draining then p.missed + 1 else p.missed }
  | runs (draining : Bool) (task : Option α) (here : p.threads t = .run draining task) :
      Stepped p t spurious
        { p.become t (if draining then .pop true else .acquire) with
          traffic := if draining then p.traffic.enter t (.popping .load) else p.traffic
          ran := p.ran ++ [(p.traffic.history.ticket t, task)] }

variable {p p' : ThreadPool α} {t : Nat} {spurious : Bool}

theorem stepped_go (staffed : p.Staffed) (t : Nat) (spurious : Bool) : Stepped p t spurious (p.go t spurious) := by
  have agrees := staffed.agrees t
  unfold go
  cases here : p.threads t with
  | idle => exact .stays (by rw [here]; nofun)
  | submitTest task =>
    cases flag : p.stop with
    | true => exact .refused task here flag
    | false => exact .tested task here flag
  | submitPush =>
    rw [here] at agrees
    obtain ⟨phase, inside, going⟩ := agrees
    obtain ⟨queue, next, h, moves, advanced⟩ := advance_pushing inside going spurious
    dsimp only
    rw [advanced]
    simp only [Function.update_self]
    exact .pushes here phase inside queue next h moves
  | submitRelease => exact .releases here
  | submitted ok => exact .stays (by rw [here]; nofun)
  | stopExchange =>
    cases flag : p.stop with
    | true => exact .stopsAgain here flag
    | false => exact .stops here flag
  | stopWake worker =>
    dsimp only
    split
    · exact .wakes worker here ‹_›
    · exact .woke worker here ‹_›
  | stopJoin worker =>
    dsimp only
    split
    · cases there : p.threads worker with
      | exited => exact .joins worker here ‹_› there
      | _ => exact .stays (by rw [here]; nofun)
    · exact .joined worker here ‹_›
  | stopped => exact .stays (by rw [here]; nofun)
  | acquire =>
    dsimp only
    split
    · exact .stays (by rw [here]; nofun)
    · exact .acquires here ‹_›
  | testStop => exact .looks here
  | pop draining =>
    rw [here] at agrees
    obtain ⟨phase, inside, going⟩ := agrees
    obtain ⟨queue, next, h, moves, advanced⟩ := advance_popping inside going spurious
    dsimp only
    rw [advanced]
    simp only [Function.update_self]
    exact .pops draining here phase inside queue next h moves
  | run draining task => exact .runs draining task here
  | exited => exact .stays (by rw [here]; nofun)

/-- What a step of a thread leaves to the other threads. -/
structure OthersStay (p p' : ThreadPool α) (t : Nat) : Prop where
  threads : ∀ u, u ≠ t → p'.threads u = p.threads u
  operations : ∀ u, u ≠ t → p'.traffic.threads u = p.traffic.threads u
  tickets : ∀ u, u ≠ t → p'.traffic.history.ticket u = p.traffic.history.ticket u

theorem othersStay_become (p : ThreadPool α) (t : Nat) (activity : Activity α) :
    OthersStay p (p.become t activity) t :=
  ⟨fun _ different => Function.update_of_ne different _ _, fun _ _ => rfl, fun _ _ => rfl⟩

theorem othersStay_stepped (stepped : Stepped p t spurious p') : OthersStay p p' t := by
  have threads : ∀ (activity : Activity α) u, u ≠ t → Function.update p.threads t activity u = p.threads u :=
    fun _ _ different => Function.update_of_ne different _ _
  have operations : ∀ (operation : Operation α) u, u ≠ t →
      Function.update p.traffic.threads t operation u = p.traffic.threads u := fun _ _ different =>
    Function.update_of_ne different _ _
  cases stepped with
  | stays => exact ⟨fun _ _ => rfl, fun _ _ => rfl, fun _ _ => rfl⟩
  | tested task here => exact ⟨threads _, operations _, fun _ _ => rfl⟩
  | looks here => exact ⟨threads _, operations _, fun _ _ => rfl⟩
  | pushes here phase inside queue next h moves =>
    refine ⟨threads _, operations _, fun u different => ?_⟩
    cases moves with
    | claims => exact Function.update_of_ne different _ _
    | _ => rfl
  | pops draining here phase inside queue next h moves =>
    refine ⟨threads _, operations _, fun u different => ?_⟩
    cases moves with
    | claims => exact Function.update_of_ne different _ _
    | _ => rfl
  | runs draining task here =>
    cases draining with
    | false => exact ⟨threads _, fun _ _ => rfl, fun _ _ => rfl⟩
    | true => exact ⟨threads _, operations _, fun _ _ => rfl⟩
  | _ => exact ⟨threads _, fun _ _ => rfl, fun _ _ => rfl⟩

theorem Staffed.update (staffed : p.Staffed) {next : Activity α} (workers : p'.workers = p.workers)
    (threads : p'.threads = Function.update p.threads t next)
    (others : ∀ u, u ≠ t → p'.traffic.threads u = p.traffic.threads u)
    (works : next.Works ↔ (p.threads t).Works) (agrees : Agrees next (p'.traffic.threads t)) : p'.Staffed := by
  refine ⟨fun u => ?_, fun u => ?_⟩
  · rw [workers, threads]
    by_cases here : u = t
    · rw [here, Function.update_self, works]
      exact staffed.staff t
    · rw [Function.update_of_ne here]
      exact staffed.staff u
  · rw [threads]
    by_cases here : u = t
    · rw [here, Function.update_self]
      exact agrees
    · rw [Function.update_of_ne here, others u here]
      exact staffed.agrees u

private theorem agrees_afterPush {q : MPMCQueue α} {phase next : Pushing α} {h h' : History α}
    (moves : phase.Moves q h t spurious next h') : Agrees (.afterPush (.pushing next)) (.pushing next) := by
  cases moves with
  | seeks _ _ before sought =>
    cases next with
    | load | check | swap => exact ⟨_, rfl, nofun⟩
    | _ => exact sought.elim
  | full => exact trivial
  | claims => exact ⟨_, rfl, nofun⟩
  | writes => exact ⟨_, rfl, nofun⟩
  | publishes => exact trivial

private theorem agrees_afterPop {q : MPMCQueue α} {phase next : Popping α} {h h' : History α} {draining : Bool}
    (moves : phase.Moves q h t spurious next h') : Agrees (.afterPop draining (.popping next)) (.popping next) := by
  cases moves with
  | seeks pos next there sought =>
    cases next with
    | load | check | swap => exact ⟨_, rfl, nofun⟩
    | _ => exact sought.elim
  | empty => cases draining <;> exact trivial
  | releases => exact trivial
  | _ => exact ⟨_, rfl, nofun⟩

theorem works_afterPop {draining : Bool} (operation : Operation α) :
    (Activity.afterPop draining operation).Works := by
  unfold Activity.afterPop
  split
  · trivial
  · cases draining <;> trivial
  · trivial

theorem idles_afterPush (operation : Operation α) : ¬(Activity.afterPush operation).Works := by
  unfold Activity.afterPush
  split <;> exact id

theorem staffed_stepped (staffed : p.Staffed) (stepped : Stepped p t spurious p') : p'.Staffed := by
  have away : ∀ (operation : Operation α) u, u ≠ t →
      Function.update p.traffic.threads t operation u = p.traffic.threads u := fun _ _ different =>
    Function.update_of_ne different _ _
  cases stepped with
  | stays => exact staffed
  | refused task here => exact staffed.update rfl rfl (fun _ _ => rfl) (by rw [here]; exact Iff.rfl) trivial
  | tested task here =>
    refine staffed.update rfl rfl (away _) (by rw [here]; exact Iff.rfl) ⟨.load task, ?_, nofun⟩
    exact Function.update_self ..
  | pushes here phase inside queue next h moves =>
    refine staffed.update rfl rfl (away _) ?_ ?_
    · rw [here]
      exact iff_of_false (idles_afterPush _) id
    · simpa only [Function.update_self] using agrees_afterPush moves
  | releases here => exact staffed.update rfl rfl (fun _ _ => rfl) (by rw [here]; exact Iff.rfl) trivial
  | stops here => exact staffed.update rfl rfl (fun _ _ => rfl) (by rw [here]; exact Iff.rfl) trivial
  | stopsAgain here => exact staffed.update rfl rfl (fun _ _ => rfl) (by rw [here]; exact Iff.rfl) trivial
  | wakes worker here => exact staffed.update rfl rfl (fun _ _ => rfl) (by rw [here]; exact Iff.rfl) trivial
  | woke worker here => exact staffed.update rfl rfl (fun _ _ => rfl) (by rw [here]; exact Iff.rfl) trivial
  | joins worker here => exact staffed.update rfl rfl (fun _ _ => rfl) (by rw [here]; exact Iff.rfl) trivial
  | joined worker here => exact staffed.update rfl rfl (fun _ _ => rfl) (by rw [here]; exact Iff.rfl) trivial
  | acquires here => exact staffed.update rfl rfl (fun _ _ => rfl) (by rw [here]; exact Iff.rfl) trivial
  | looks here =>
    refine staffed.update rfl rfl (away _) (by rw [here]; exact Iff.rfl) ⟨.load, ?_, nofun⟩
    exact Function.update_self ..
  | pops draining here phase inside queue next h moves =>
    refine staffed.update rfl rfl (away _) ?_ ?_
    · rw [here]
      exact iff_of_true (works_afterPop _) trivial
    · simpa only [Function.update_self] using agrees_afterPop moves
  | runs draining task here =>
    cases draining with
    | false => exact staffed.update rfl rfl (fun _ _ => rfl) (by rw [here]; exact Iff.rfl) trivial
    | true =>
      refine staffed.update rfl rfl (away _) (by rw [here]; exact Iff.rfl) ⟨.load, ?_, nofun⟩
      exact Function.update_self ..

/-- A call changes at most what its thread does. -/
theorem call_cases (p : ThreadPool α) (t : Nat) (activity : Activity α) :
    p.call t activity = p ∨
      p.call t activity = p.become t activity ∧ p.workers ≤ t ∧ (p.threads t).Returned := by
  unfold call
  split
  · exact .inr ⟨rfl, ‹_›⟩
  · exact .inl rfl

theorem Staffed.call (staffed : p.Staffed) {activity : Activity α} (idles : ¬activity.Works)
    (agrees : ∀ operation, Agrees activity operation) : (p.call t activity).Staffed := by
  obtain same | ⟨called, caller, -⟩ := p.call_cases t activity
  · rw [same]
    exact staffed
  · rw [called]
    refine staffed.update rfl rfl (fun _ _ => rfl) (iff_of_false idles fun works => ?_) (agrees _)
    have := (staffed.staff t).mpr works
    omega

theorem staffed_step (staffed : p.Staffed) (move : Nat × PoolMove α) : (p.step move).Staffed := by
  obtain ⟨t, action⟩ := move
  cases action with
  | submit task => exact staffed.call id fun _ => trivial
  | stop => exact staffed.call id fun _ => trivial
  | go spurious => exact staffed_stepped staffed (stepped_go staffed t spurious)

theorem staffed_start (capacity : Capacity) (numThreads : Nat) : (start capacity numThreads : ThreadPool α).Staffed := by
  refine ⟨fun t => ?_, fun t => ?_⟩
  · by_cases inside : t < numThreads
    · simp [start, inside, Activity.Works]
    · simp [start, inside, Activity.Works]
  · by_cases inside : t < numThreads
    · simp [start, inside, Agrees]
    · simp [start, inside, Agrees]

/-! ### Tickets of the threads -/

/-- Every ticket of a count that was given out is on a list or with a thread that does certain things. -/
def Tracks (holds : Activity α → Operation α → Prop) (given : Nat) (filed : List Nat) (p : ThreadPool α) : Prop :=
  Allotted given filed (fun t => holds (p.threads t) (p.traffic.threads t)) p.traffic.history.ticket

section Tracks
variable {holds : Activity α → Operation α → Prop} {given : Nat} {filed : List Nat}

theorem Tracks.keep (tracks : Tracks holds given filed p) (others : OthersStay p p' t)
    (mine : holds (p'.threads t) (p'.traffic.threads t) ↔ holds (p.threads t) (p.traffic.threads t))
    (ticket : holds (p.threads t) (p.traffic.threads t) →
      p'.traffic.history.ticket t = p.traffic.history.ticket t) : Tracks holds given filed p' := by
  refine Allotted.keep tracks (fun u => ?_) fun u held => ?_
  · by_cases here : u = t
    · rw [here]
      exact mine
    · rw [others.threads u here, others.operations u here]
  · by_cases here : u = t
    · rw [here] at held ⊢
      exact ticket held
    · exact others.tickets u here

theorem Tracks.give (tracks : Tracks holds given filed p) (others : OthersStay p p' t)
    (free : ¬holds (p.threads t) (p.traffic.threads t)) (now : holds (p'.threads t) (p'.traffic.threads t))
    (ticket : p'.traffic.history.ticket t = given) : Tracks holds (given + 1) filed p' := by
  refine Allotted.give tracks free now (fun u different => ?_) others.tickets ticket
  rw [others.threads u different, others.operations u different]

theorem Tracks.file (tracks : Tracks holds given filed p) (others : OthersStay p p' t)
    (held : holds (p.threads t) (p.traffic.threads t)) (done : ¬holds (p'.threads t) (p'.traffic.threads t)) :
    Tracks holds given (filed ++ [p.traffic.history.ticket t]) p' := by
  refine Allotted.file tracks held (fun u => ?_) others.tickets
  by_cases here : u = t
  · rw [here]
    exact iff_of_false done fun both => both.1 rfl
  · rw [others.threads u here, others.operations u here]
    exact ⟨fun its => ⟨here, its⟩, And.right⟩

end Tracks

end ThreadPool
end NovaIIM
