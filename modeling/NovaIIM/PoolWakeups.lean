import Mathlib.Data.Nat.Count
import NovaIIM.PoolSteps

/-!
Permits and tasks.

`Submit` adds a task and then a permit, and a worker takes a permit and then a task, so
the permits with the workers between the two steps are as many as the tasks that wait
(`conserved_step`), as long as every `Pop` takes a task whose permit was released. A
`Pop` that finds the cell at the head claimed but not published uses up a permit and
takes no task.
-/
namespace NovaIIM.ThreadPool
variable {α : Type} {p p' : ThreadPool α} {t : Nat} {spurious : Bool}

/-! ### Tickets of tasks -/

/-- The thread is in a `Submit` that has claimed a ticket and not returned. -/
def Offers : Activity α → Operation α → Prop
  | .submitRelease, _ => True
  | .submitPush, operation => operation.Writes
  | _, _ => False

/-- Each ticket of a producer is that of an accepted task, or of one that is being submitted. -/
def Ticketed (p : ThreadPool α) : Prop := Tracks Offers p.traffic.history.pushed.length p.accepted p

theorem Offers.idles {activity : Activity α} {operation : Operation α} (offers : Offers activity operation) :
    ¬activity.Works := by
  cases activity with
  | submitRelease | submitPush => exact id
  | _ => exact offers.elim

/-- A step inside of `Push` that claims no ticket changes nothing in what the thread offers. -/
theorem offers_afterPush {q : MPMCQueue α} {phase next : Pushing α} {h h' : History α}
    (moves : phase.Moves q h t spurious next h') :
    (∃ item pos, phase = .swap item pos ∧ next = .write item pos ∧ h' = h.claimHead t item) ∨
      (h'.pushed = h.pushed ∧ h'.ticket t = h.ticket t ∧
        (Offers (.afterPush (.pushing next)) (.pushing next) ↔ Offers .submitPush (.pushing phase))) := by
  cases moves with
  | seeks _ _ before sought =>
    refine .inr ⟨rfl, rfl, iff_of_false (fun offers => ?_) fun offers => ?_⟩
    · cases next with
      | load | check | swap => exact offers.elim
      | _ => exact sought.elim
    · cases phase with
      | load | check | swap => exact offers.elim
      | _ => exact before.elim
  | full => exact .inr ⟨rfl, rfl, iff_of_false id id⟩
  | claims item pos wins => exact .inl ⟨item, pos, rfl, rfl, rfl⟩
  | writes => exact .inr ⟨rfl, rfl, Iff.rfl⟩
  | publishes => exact .inr ⟨rfl, rfl, Iff.rfl⟩

theorem ticketed_stepped (ticketed : p.Ticketed) (stepped : Stepped p t spurious p') : p'.Ticketed := by
  have others := othersStay_stepped stepped
  have works : (p.threads t).Works → ¬Offers (p.threads t) (p.traffic.threads t) := fun works offers => offers.idles works
  cases stepped with
  | stays => exact ticketed
  | pushes here phase inside queue next h moves =>
    obtain ⟨item, pos, rfl, rfl, rfl⟩ | ⟨pushed, ticket, same⟩ := offers_afterPush moves
    · have given := Tracks.give ticketed others (by rw [here, inside]; exact id)
        (by simp only [become, Function.update_self]; trivial) (Function.update_self ..)
      have count : ((p.traffic.history.claimHead t item).look t).pushed.length = p.traffic.history.pushed.length + 1 := by
        simp [History.look, History.claimHead]
      change Tracks _ ((p.traffic.history.claimHead t item).look t).pushed.length _ _
      rw [count]
      exact given
    · change Tracks _ h.pushed.length _ _
      rw [pushed]
      refine Tracks.keep ticketed others ?_ fun _ => ticket
      simp only [become, Function.update_self, here, inside]
      exact same
  | releases here =>
    refine Tracks.file ticketed others (by rw [here]; trivial) ?_
    simp only [become, Function.update_self]
    exact id
  | pops draining here phase inside queue next h moves =>
    have pushed : h.pushed = p.traffic.history.pushed := by cases moves <;> rfl
    change Tracks _ h.pushed.length _ _
    rw [pushed]
    refine Tracks.keep ticketed others (iff_of_false (fun offers => offers.idles ?_) (works (by rw [here]; trivial))) fun offers =>
      absurd offers (works (by rw [here]; trivial))
    simp only [become, Function.update_self]
    exact works_afterPop _
  | runs draining task here =>
    have mine := works (by rw [here]; trivial)
    cases draining with
    | false =>
      refine Tracks.keep ticketed others (iff_of_false (fun offers => offers.idles ?_) mine) fun offers => absurd offers mine
      simp only [become, Function.update_self]
      trivial
    | true =>
      refine Tracks.keep ticketed others (iff_of_false (fun offers => offers.idles ?_) mine) fun offers => absurd offers mine
      simp only [become, Function.update_self]
      trivial
  | refused _ here | tested _ here | stops here | stopsAgain here | wakes _ here | woke _ here | joins _ here
  | joined _ here | acquires here | looks here =>
    have mine : ¬Offers (p.threads t) (p.traffic.threads t) := by
      rw [here]
      exact id
    refine Tracks.keep ticketed others (iff_of_false ?_ mine) fun offers => absurd offers mine
    simp [become, Offers, Operation.Writes]

theorem Ticketed.call (ticketed : p.Ticketed) {activity : Activity α} (silent : ∀ operation, ¬Offers activity operation) :
    (p.call t activity).Ticketed := by
  obtain same | ⟨called, -, returned⟩ := p.call_cases t activity
  · rw [same]
    exact ticketed
  · have mine : ¬Offers (p.threads t) (p.traffic.threads t) := by
      cases here : p.threads t with
      | submitRelease | submitPush => exact absurd returned (by rw [here]; exact id)
      | _ => exact id
    rw [called]
    refine Tracks.keep ticketed (othersStay_become p t activity) (iff_of_false ?_ mine) fun offers => absurd offers mine
    simpa only [become, Function.update_self] using silent _

theorem ticketed_step (staffed : p.Staffed) (ticketed : p.Ticketed) (move : Nat × PoolMove α) :
    (p.step move).Ticketed := by
  obtain ⟨t, action⟩ := move
  cases action with
  | submit task => exact ticketed.call fun _ => id
  | stop => exact ticketed.call fun _ => id
  | go spurious => exact ticketed_stepped ticketed (stepped_go staffed t spurious)

theorem ticketed_start (capacity : Capacity) (numThreads : Nat) : (start capacity numThreads : ThreadPool α).Ticketed := by
  refine Allotted.none fun t => ?_
  by_cases inside : t < numThreads
  · simp [start, inside, Offers]
  · simp [start, inside, Offers]

/-! ### Permits -/

/-- The worker has acquired a permit and not executed its `Pop`. -/
def Poised : Activity α → Operation α → Prop
  | .testStop, _ => True
  | .pop false, operation => ¬operation.Reads
  | _, _ => False

instance : DecidablePred (@Operation.Reads α)
  | .popping (.read _) | .popping (.release _ _) => isTrue trivial
  | .idle | .pushing _ | .popping .load | .popping (.check _) | .popping (.swap _) | .popping (.done _) => isFalse id

instance : ∀ (activity : Activity α) (operation : Operation α), Decidable (Poised activity operation)
  | .testStop, _ => isTrue trivial
  | .pop false, operation => inferInstanceAs (Decidable ¬operation.Reads)
  | .pop true, _ | .idle, _ | .submitTest _, _ | .submitPush, _ | .submitRelease, _ | .submitted _, _ | .stopExchange, _
  | .stopWake _, _ | .stopJoin _, _ | .stopped, _ | .acquire, _ | .run _ _, _ | .exited, _ => isFalse id

def poised (p : ThreadPool α) : Nat := Nat.count (fun t => Poised (p.threads t) (p.traffic.threads t)) p.workers

/-- How many tasks were accepted and not popped. -/
def waiting (p : ThreadPool α) : Nat := (p.accepted.filter (p.traffic.history.popped ≤ ·)).length

/-- The permits are for the accepted tasks, but for those that a `Pop` has used up. -/
def Conserved (p : ThreadPool α) : Prop :=
  p.permits + p.poised + p.traffic.history.popped + p.missed = p.accepted.length

theorem count_congr {P Q : Nat → Prop} [DecidablePred P] [DecidablePred Q] {n : Nat} (same : ∀ u < n, (Q u ↔ P u)) :
    Nat.count Q n = Nat.count P n := by
  induction n with
  | zero => rfl
  | succ n ih =>
    rw [Nat.count_succ, Nat.count_succ, ih fun u less => same u (Nat.lt_succ_of_lt less)]
    simp only [same n (Nat.lt_succ_self n)]

theorem count_change {P Q : Nat → Prop} [DecidablePred P] [DecidablePred Q] {n t : Nat} (inside : t < n)
    (same : ∀ u, u ≠ t → (Q u ↔ P u)) :
    Nat.count Q n + (if P t then 1 else 0) = Nat.count P n + (if Q t then 1 else 0) := by
  induction n with
  | zero => exact absurd inside (Nat.not_lt_zero t)
  | succ n ih =>
    rw [Nat.count_succ, Nat.count_succ]
    by_cases last : n = t
    · have before : Nat.count Q n = Nat.count P n :=
        count_congr fun u less => same u (by omega)
      rw [before, last]
      omega
    · have := ih (by omega)
      simp only [same n last]
      omega

theorem poised_caller (others : OthersStay p p' t) (workers : p'.workers = p.workers) (caller : p.workers ≤ t) :
    p'.poised = p.poised := by
  rw [poised, workers]
  refine count_congr fun u less => ?_
  rw [others.threads u (by omega), others.operations u (by omega)]

theorem poised_worker (others : OthersStay p p' t) (workers : p'.workers = p.workers) (worker : t < p.workers) :
    p'.poised + (if Poised (p.threads t) (p.traffic.threads t) then 1 else 0) =
      p.poised + (if Poised (p'.threads t) (p'.traffic.threads t) then 1 else 0) := by
  have shared := @count_change (fun t => Poised (p.threads t) (p.traffic.threads t))
    (fun t => Poised (p'.threads t) (p'.traffic.threads t)) _ _ p.workers t worker
  rw [poised, poised, workers]
  refine shared fun u different => ?_
  rw [others.threads u different, others.operations u different]

/-- No thread is in `Stop` or past the first loop of `WorkerLoop`. -/
def Runs : Activity α → Prop
  | .stopExchange | .stopWake _ | .stopJoin _ | .stopped | .pop true | .run true _ | .exited => False
  | _ => True

def Running (p : ThreadPool α) : Prop := p.stop = false ∧ ∀ t, Runs (p.threads t)

theorem runs_update (running : p.Running) {activity : Activity α} (runs : Runs activity) :
    ∀ u, Runs (Function.update p.threads t activity u) := by
  intro u
  by_cases here : u = t
  · rw [here, Function.update_self]
    exact runs
  · rw [Function.update_of_ne here]
    exact running.2 u

theorem running_stepped (running : p.Running) (stepped : Stepped p t spurious p') : p'.Running := by
  have here := running.2 t
  cases stepped with
  | stays => exact running
  | pushes _ phase inside queue next h moves =>
    refine ⟨running.1, runs_update running ?_⟩
    unfold Activity.afterPush
    split <;> exact trivial
  | looks _ => exact ⟨running.1, runs_update running (by rw [running.1]; trivial)⟩
  | pops draining popping phase inside queue next h moves =>
    refine ⟨running.1, runs_update running ?_⟩
    rw [popping] at here
    cases draining with
    | true => exact here.elim
    | false =>
      unfold Activity.afterPop
      split <;> exact trivial
  | runs draining task running' =>
    refine ⟨running.1, runs_update running ?_⟩
    rw [running'] at here
    cases draining with
    | true => exact here.elim
    | false => exact trivial
  | refused | tested | releases | acquires => exact ⟨running.1, runs_update running trivial⟩
  | stops stopping | stopsAgain stopping | wakes _ stopping | woke _ stopping | joins _ stopping | joined _ stopping =>
    rw [stopping] at here
    exact here.elim

/-- A step of a caller that adds as many permits as tasks. -/
theorem Conserved.caller (conserved : p.Conserved) (others : OthersStay p p' t) (workers : p'.workers = p.workers)
    (caller : p.workers ≤ t)
    (balance : p'.permits + p'.traffic.history.popped + p'.missed + p.accepted.length =
      p.permits + p.traffic.history.popped + p.missed + p'.accepted.length) : p'.Conserved := by
  have same := poised_caller others workers caller
  unfold Conserved at conserved ⊢
  omega

/-- A step of a worker that passes a permit on. -/
theorem Conserved.worker (conserved : p.Conserved) (others : OthersStay p p' t) (workers : p'.workers = p.workers)
    (worker : t < p.workers) (accepted : p'.accepted = p.accepted)
    (balance : p'.permits + p'.traffic.history.popped + p'.missed +
        (if Poised (p'.threads t) (p'.traffic.threads t) then 1 else 0) =
      p.permits + p.traffic.history.popped + p.missed +
        (if Poised (p.threads t) (p.traffic.threads t) then 1 else 0)) : p'.Conserved := by
  have change := poised_worker others workers worker
  unfold Conserved at conserved ⊢
  rw [accepted]
  omega

/-- A step inside of `Pop` gives the permit of the worker to the ticket that it claims, or wastes it. -/
theorem balance_pop {q : MPMCQueue α} {phase next : Popping α} {h h' : History α}
    (moves : phase.Moves q h t spurious next h') (missed : Nat) :
    h'.popped + (if (Operation.popping next).foundNothing then missed + 1 else missed) +
        (if Poised (.afterPop false (.popping next)) (.popping next) then 1 else 0) =
      h.popped + missed + (if Poised (.pop false) (.popping phase) then 1 else 0) := by
  cases moves with
  | seeks pos next there sought =>
    cases next with
    | load | check | swap => rfl
    | _ => exact sought.elim
  | claims pos wins =>
    change h.popped + 1 + missed + 0 = h.popped + missed + 1
    omega
  | _ => rfl

theorem conserved_stepped (staffed : p.Staffed) (running : p.Running) (conserved : p.Conserved)
    (stepped : Stepped p t spurious p') : p'.Conserved := by
  have others := othersStay_stepped stepped
  have runs := running.2 t
  have caller : ∀ {activity : Activity α}, p.threads t = activity → ¬activity.Works → p.workers ≤ t := by
    rintro _ rfl idles
    by_contra less
    exact idles ((staffed.staff t).mp (by omega))
  have worker : ∀ {activity : Activity α}, p.threads t = activity → activity.Works → t < p.workers := by
    rintro _ rfl works
    exact (staffed.staff t).mpr works
  cases stepped with
  | stays => exact conserved
  | refused task here => exact conserved.caller others rfl (caller here id) rfl
  | tested task here => exact conserved.caller others rfl (caller here id) rfl
  | pushes here phase inside queue next h moves =>
    have popped : h.popped = p.traffic.history.popped := by cases moves <;> rfl
    refine conserved.caller others rfl (caller here id) ?_
    change _ + h.popped + _ + _ = _
    rw [popped]
    rfl
  | releases here =>
    refine conserved.caller others rfl (caller here id) ?_
    simp only [List.length_append, List.length_singleton, become]
    omega
  | acquires here free =>
    refine conserved.worker others rfl (worker here trivial) rfl ?_
    simp only [here, become, Function.update_self, Poised, if_true, if_false]
    omega
  | looks here =>
    refine conserved.worker others rfl (worker here trivial) rfl ?_
    simp only [here, become, Function.update_self, Poised, running.1, Traffic.enter_threads, Operation.Reads, not_false_eq_true]
    rfl
  | pops draining here phase inside queue next h moves =>
    rw [here] at runs
    cases draining with
    | true => exact runs.elim
    | false =>
      refine conserved.worker others rfl (worker here trivial) rfl ?_
      have balance := balance_pop moves p.missed
      simp only [here, inside, become, Function.update_self, Bool.not_false, Bool.and_true]
      change _ + h.popped + _ + _ = _
      omega
  | runs draining task here =>
    rw [here] at runs
    cases draining with
    | true => exact runs.elim
    | false =>
      refine conserved.worker others rfl (worker here trivial) rfl ?_
      simp only [here, become, Function.update_self, Bool.false_eq_true, if_false, Poised]
  | stops stopping | stopsAgain stopping | wakes _ stopping | woke _ stopping | joins _ stopping | joined _ stopping =>
    rw [stopping] at runs
    exact runs.elim

/-! ### Wakeups -/

/-- All workers wait for a permit, and there is none. -/
def Blocked (p : ThreadPool α) : Prop := p.permits = 0 ∧ ∀ t < p.workers, p.threads t = .acquire

/-- Each accepted task that waits has a permit or a worker that comes for it, so none waits
    while all workers do. -/
def Woken (p : ThreadPool α) : Prop :=
  p.waiting ≤ p.permits + p.poised ∧ (p.Blocked → p.waiting = 0)

instance [DecidableEq α] (p : ThreadPool α) : Decidable p.Blocked := inferInstanceAs (Decidable (_ ∧ _))

instance [DecidableEq α] (p : ThreadPool α) : Decidable p.Woken := inferInstanceAs (Decidable (_ ∧ _))

/-- No `Pop` has found nothing or taken a task whose permit was not released. -/
def Prompt (p : ThreadPool α) : Prop := p.missed = 0 ∧ ∀ n < p.traffic.history.popped, n ∈ p.accepted

/-- The step is not a `Pop` that finds the cell at its position unpublished, or that claims the
    ticket of a task whose `Submit` has not released its permit. -/
def PopsOrderly (p : ThreadPool α) (spurious : Bool) : Activity α → Operation α → Prop
  | .pop false, .popping (.check pos) => ¬p.traffic.queue.LooksEmpty pos
  | .pop false, .popping (.swap pos) =>
    p.traffic.queue.tail = pos ∧ spurious = false → p.traffic.history.popped ∈ p.accepted
  | _, _ => True

def Orderly (p : ThreadPool α) : Nat × PoolMove α → Prop
  | (t, .go spurious) => p.PopsOrderly spurious (p.threads t) (p.traffic.threads t)
  | _ => True

/-- The members of a list below a bound, when none is there twice. -/
theorem length_filter_lt {l : List Nat} (once : l.Nodup) (bound : Nat) :
    (l.filter (· < bound)).length ≤ bound ∧ (bound ≤ (l.filter (· < bound)).length ↔ ∀ n < bound, n ∈ l) := by
  have below : (l.filter (· < bound)).toFinset ⊆ Finset.range bound := by
    intro n inside
    simp only [List.mem_toFinset, List.mem_filter, decide_eq_true_eq] at inside
    exact Finset.mem_range.mpr inside.2
  have card := List.toFinset_card_of_nodup (once.filter (· < bound))
  have le := Finset.card_le_card below
  rw [card, Finset.card_range] at le
  refine ⟨le, fun all n less => ?_, fun all => ?_⟩
  · have same := Finset.eq_of_subset_of_card_le below (by rwa [card, Finset.card_range])
    have inside := Finset.mem_range.mpr less
    rw [← same, List.mem_toFinset] at inside
    exact (List.mem_filter.mp inside).1
  · have every : Finset.range bound ⊆ (l.filter (· < bound)).toFinset := by
      intro n inside
      have less := Finset.mem_range.mp inside
      simpa [less] using all n less
    have := Finset.card_le_card every
    rwa [card, Finset.card_range] at this

theorem woken_iff (ticketed : p.Ticketed) (conserved : p.Conserved) : p.Woken ↔ p.Prompt := by
  have parts : (p.accepted.filter (· < p.traffic.history.popped)).length + p.waiting = p.accepted.length := by
    have split := p.accepted.length_eq_length_filter_add (· < p.traffic.history.popped)
    simpa [waiting, ← decide_not, Nat.not_lt] using split.symm
  obtain ⟨le, all⟩ := length_filter_lt ticketed.once p.traffic.history.popped
  unfold Conserved at conserved
  constructor
  · rintro ⟨enough, -⟩
    exact ⟨by omega, all.mp (by omega)⟩
  · rintro ⟨none, popped⟩
    have := all.mpr popped
    refine ⟨by omega, fun blocked => ?_⟩
    have unposed : p.poised = 0 := by
      rw [poised, Nat.count_eq_card_filter_range, Finset.card_eq_zero, Finset.filter_eq_empty_iff]
      intro t inside
      rw [blocked.2 t (Finset.mem_range.mp inside)]
      exact id
    have := blocked.1
    omega

theorem Prompt.keep (prompt : p.Prompt) (missed : p'.missed = p.missed)
    (popped : p'.traffic.history.popped = p.traffic.history.popped) (accepted : p.accepted ⊆ p'.accepted) : p'.Prompt := by
  refine ⟨missed.trans prompt.1, fun n less => accepted (prompt.2 n ?_)⟩
  rwa [popped] at less

/-- A step keeps the promptness exactly if it is orderly. -/
theorem prompt_stepped (running : p.Running) (prompt : p.Prompt) (stepped : Stepped p t spurious p') :
    p'.Prompt ↔ p.Orderly (t, .go spurious) := by
  have runs := running.2 t
  cases stepped with
  | stays still =>
    refine iff_of_true prompt ?_
    rw [Orderly, PopsOrderly]
    · trivial
    · exact fun pos popping => absurd popping (still false)
    · exact fun pos popping => absurd popping (still false)
  | pops draining here phase inside queue next h moves =>
    rw [here] at runs
    cases draining with
    | true => exact runs.elim
    | false =>
      rw [Orderly, here, inside]
      cases moves with
      | seeks pos next there sought =>
        refine iff_of_true (prompt.keep ?_ rfl fun _ => id) there
        cases next with
        | load | check | swap => rfl
        | _ => exact sought.elim
      | empty pos looks => exact iff_of_false (fun prompt' => Nat.succ_ne_zero _ prompt'.1) fun orderly => orderly looks
      | late pos fails => exact iff_of_true (prompt.keep rfl rfl fun _ => id) fun wins => absurd wins fails
      | claims pos wins =>
        constructor
        · exact fun prompt' _ => prompt'.2 _ (Nat.lt_succ_self _)
        · intro orderly
          refine ⟨prompt.1, fun n less => ?_⟩
          rcases Nat.lt_or_eq_of_le (Nat.le_of_lt_succ less) with before | last
          · exact prompt.2 n before
          · exact last ▸ orderly wins
      | _ => exact iff_of_true (prompt.keep rfl rfl fun _ => id) trivial
  | pushes here phase inside queue next h moves =>
    refine iff_of_true (prompt.keep rfl ?_ fun _ => id) ?_
    · cases moves <;> rfl
    · rw [Orderly, here]
      trivial
  | releases here =>
    refine iff_of_true (prompt.keep rfl rfl (List.subset_append_left _ _)) ?_
    rw [Orderly, here]
    trivial
  | runs draining task here =>
    refine iff_of_true (prompt.keep rfl (by cases draining <;> rfl) fun _ => id) ?_
    rw [Orderly, here]
    trivial
  | refused _ here | tested _ here | stops here | stopsAgain here | wakes _ here | woke _ here | joins _ here
  | joined _ here | acquires here | looks here =>
    refine iff_of_true (prompt.keep rfl rfl fun _ => id) ?_
    rw [Orderly, here]
    trivial

/-- What holds of a pool before `Stop` is called. -/
structure Sane (p : ThreadPool α) : Prop where
  staffed : p.Staffed
  ticketed : p.Ticketed
  running : p.Running
  conserved : p.Conserved

theorem sane_start (capacity : Capacity) (numThreads : Nat) : (start capacity numThreads : ThreadPool α).Sane where
  staffed := staffed_start capacity numThreads
  ticketed := ticketed_start capacity numThreads
  running := by
    refine ⟨rfl, fun t => ?_⟩
    by_cases inside : t < numThreads
    · simp [start, inside, Runs]
    · simp [start, inside, Runs]
  conserved := by
    have none : (start capacity numThreads : ThreadPool α).poised = 0 := by
      rw [poised, Nat.count_eq_card_filter_range, Finset.card_eq_zero, Finset.filter_eq_empty_iff]
      intro t inside
      have worker : t < numThreads := Finset.mem_range.mp inside
      simp [start, worker, Poised]
    rw [Conserved, none]
    rfl

theorem sane_step (sane : p.Sane) (move : Nat × PoolMove α) (running : move.2 ≠ .stop) : (p.step move).Sane := by
  obtain ⟨t, action⟩ := move
  refine ⟨staffed_step sane.staffed _, ticketed_step sane.staffed sane.ticketed _, ?_, ?_⟩
  · cases action with
    | stop => exact absurd rfl running
    | go spurious => exact running_stepped sane.running (stepped_go sane.staffed t spurious)
    | submit task =>
      obtain same | ⟨called, -⟩ := p.call_cases t (.submitTest task)
      · rw [step, same]
        exact sane.running
      · rw [step, called]
        exact ⟨sane.running.1, runs_update sane.running trivial⟩
  · cases action with
    | stop => exact absurd rfl running
    | go spurious =>
      exact conserved_stepped sane.staffed sane.running sane.conserved (stepped_go sane.staffed t spurious)
    | submit task =>
      obtain same | ⟨called, caller, -⟩ := p.call_cases t (.submitTest task)
      · rw [step, same]
        exact sane.conserved
      · rw [step, called]
        exact sane.conserved.caller (othersStay_become p t _) rfl caller rfl

/-- What one step preserves. -/
theorem woken_step (sane : p.Sane) (woken : p.Woken) (move : Nat × PoolMove α) (running : move.2 ≠ .stop) :
    (p.step move).Woken ↔ p.Orderly move := by
  have next := sane_step sane move running
  have prompt := (woken_iff sane.ticketed sane.conserved).mp woken
  rw [woken_iff next.ticketed next.conserved]
  obtain ⟨t, action⟩ := move
  cases action with
  | stop => exact absurd rfl running
  | go spurious => exact prompt_stepped sane.running prompt (stepped_go sane.staffed t spurious)
  | submit task =>
    refine iff_of_true ?_ trivial
    obtain same | ⟨called, -⟩ := p.call_cases t (.submitTest task)
    · rw [step, same]
      exact prompt
    · rw [step, called]
      exact prompt.keep rfl rfl fun _ => id

/-- Until `Stop` is called, no wakeup is missing in any state exactly if every step of the run
    is orderly. -/
theorem wakeups_kept (capacity : Capacity) (numThreads : Nat) (moves : List (Nat × PoolMove α))
    (running : ∀ move ∈ moves, move.2 ≠ .stop) :
    (∀ before, before <+: moves → (after step (start capacity numThreads) before).Woken) ↔
      Along step Orderly (start capacity numThreads) moves := by
  have sane := @sane_start α capacity numThreads
  refine @prefixes_iff_along _ _ step _ Sane Woken moves (fun p move inside sane => ?_)
    (fun p move inside sane woken => ?_) _ sane ?_
  · exact sane_step sane move (running move inside)
  · exact woken_step sane woken move (running move inside)
  · refine (woken_iff sane.ticketed sane.conserved).mpr ⟨rfl, fun n none => ?_⟩
    exact absurd none (Nat.not_lt_zero n)

/-- A thread takes as many steps. -/
def going (t n : Nat) : List (Nat × PoolMove Nat) := List.replicate n (t, .go false)

/-- Thread 1 claims the first ticket and pauses; thread 2 submits a task behind it. The worker
    comes for that task, finds the first cell unpublished and goes back to wait. Then thread 1
    goes on, and the worker comes for its task. -/
def overtaken : List (Nat × PoolMove Nat) :=
  [(1, .submit 7), (2, .submit 8)] ++ going 1 4 ++ going 2 7 ++ going 0 4 ++ going 1 3 ++ going 0 8

/-- A step of this run is not orderly: in its last state a wakeup is missing. -/
theorem wakeups_kept_overtaken :
    (∀ move ∈ overtaken, move.2 ≠ .stop) ∧ ¬Along step Orderly (start twoCells 1) overtaken := by
  refine ⟨by decide, fun orderly => ?_⟩
  have woken := (wakeups_kept twoCells 1 overtaken (by decide)).mpr orderly overtaken (List.prefix_refl _)
  exact absurd woken (by decide +kernel)

/-- Both calls of `Submit` have returned true, and one task is left while the worker waits. -/
theorem wakeup_lost :
    (∀ move ∈ overtaken, move.2 ≠ .stop) ∧
      (after step (start twoCells 1) overtaken).threads 1 = .submitted true ∧
      (after step (start twoCells 1) overtaken).threads 2 = .submitted true ∧
      (after step (start twoCells 1) overtaken).Blocked ∧
      (after step (start twoCells 1) overtaken).waiting = 1 ∧
      ¬(after step (start twoCells 1) overtaken).Woken :=
  ⟨by decide, by decide +kernel, by decide +kernel, by decide +kernel, by decide +kernel, by decide +kernel⟩

end NovaIIM.ThreadPool
