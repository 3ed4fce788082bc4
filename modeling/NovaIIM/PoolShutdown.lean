import NovaIIM.PoolWakeups

/-!
Shutting down.

A ticket that a worker has claimed is run before the worker exits, so once all workers
have exited the tasks that were run are those that were popped (`Handled`). They are all
tasks if the last worker leaves the drain with nothing claimed, and nothing is claimed
after it (`Drained`); the flag that `Submit` tests does not see to either.
-/
namespace NovaIIM.ThreadPool
variable {α : Type} {p p' : ThreadPool α} {t : Nat} {spurious : Bool}

/-! ### Popped tasks -/

/-- The worker has popped a task and not run it. -/
def Handles : Activity α → Operation α → Prop
  | .run _ _, _ => True
  | .pop _, operation => operation.Reads
  | _, _ => False

/-- Each ticket of a consumer is that of a task that was run, or that a worker has. -/
def Handled (p : ThreadPool α) : Prop := Tracks Handles p.traffic.history.popped (p.ran.map Prod.fst) p

theorem Handles.works {activity : Activity α} {operation : Operation α} (handles : Handles activity operation) :
    activity.Works := by
  cases activity with
  | run | pop => trivial
  | _ => exact handles.elim

theorem Handles.remains {activity : Activity α} {operation : Operation α} (handles : Handles activity operation) :
    activity ≠ .exited := by
  rintro rfl
  exact handles

/-- A step inside of `Pop` that claims no ticket leaves the worker what it has. -/
theorem handles_afterPop {q : MPMCQueue α} {phase next : Popping α} {h h' : History α} {draining : Bool}
    (moves : phase.Moves q h t spurious next h') :
    (∃ pos, phase = .swap pos ∧ next = .read pos ∧ h' = h.claimTail t) ∨
      (h'.popped = h.popped ∧ h'.ticket t = h.ticket t ∧
        (Handles (.afterPop draining (.popping next)) (.popping next) ↔
          Handles (.pop draining : Activity α) (.popping phase))) := by
  cases moves with
  | seeks pos next there sought =>
    refine .inr ⟨rfl, rfl, iff_of_false (fun handles => ?_) id⟩
    cases next with
    | load | check | swap => exact handles
    | _ => exact sought.elim
  | empty => exact .inr ⟨rfl, rfl, iff_of_false (fun handles => by cases draining <;> exact handles) id⟩
  | claims pos wins => exact .inl ⟨pos, rfl, rfl, rfl⟩
  | _ => exact .inr ⟨rfl, rfl, Iff.rfl⟩

theorem handled_stepped (handled : p.Handled) (stepped : Stepped p t spurious p') : p'.Handled := by
  have others := othersStay_stepped stepped
  cases stepped with
  | stays => exact handled
  | pops draining here phase inside queue next h moves =>
    obtain ⟨pos, rfl, rfl, rfl⟩ | ⟨popped, ticket, same⟩ := @handles_afterPop _ _ _ _ _ _ _ _ draining moves
    · have given := Tracks.give handled others (by rw [here, inside]; exact id)
        (by simp only [become, Function.update_self]; trivial) (Function.update_self ..)
      exact given
    · change Tracks _ h.popped _ _
      rw [popped]
      refine Tracks.keep handled others ?_ fun _ => ticket
      simp only [become, Function.update_self, here, inside]
      exact same
  | runs draining task here =>
    have filed := Tracks.file handled others (by rw [here]; trivial) (by
      simp only [become, Function.update_self]
      cases draining with
      | false => exact id
      | true => simp [Handles, Operation.Reads])
    have list : (p.ran ++ [(p.traffic.history.ticket t, task)]).map Prod.fst =
        p.ran.map Prod.fst ++ [p.traffic.history.ticket t] := by simp
    cases draining with
    | false =>
      change Tracks _ _ ((p.ran ++ [(p.traffic.history.ticket t, task)]).map Prod.fst) _
      rw [list]
      exact filed
    | true =>
      change Tracks _ _ ((p.ran ++ [(p.traffic.history.ticket t, task)]).map Prod.fst) _
      rw [list]
      exact filed
  | pushes here phase inside queue next h moves =>
    have popped : h.popped = p.traffic.history.popped := by cases moves <;> rfl
    have mine : ¬Handles (p.threads t) (p.traffic.threads t) := by
      rw [here]
      exact id
    change Tracks _ h.popped _ _
    rw [popped]
    refine Tracks.keep handled others (iff_of_false (fun handles => ?_) mine) fun handles => absurd handles mine
    simp only [become, Function.update_self] at handles
    exact idles_afterPush _ handles.works
  | refused _ here | tested _ here | releases here | stops here | stopsAgain here | wakes _ here | woke _ here
  | joins _ here | joined _ here | acquires here | looks here =>
    have mine : ¬Handles (p.threads t) (p.traffic.threads t) := by
      rw [here]
      exact id
    refine Tracks.keep handled others (iff_of_false ?_ mine) fun handles => absurd handles mine
    simp [become, Handles, Operation.Reads]

/-- The worker is about to run the task of its ticket, and so were those before. -/
structure Faithful (p : ThreadPool α) : Prop where
  next : ∀ t draining task, p.threads t = .run draining task →
    p.traffic.history.Holds (p.traffic.history.ticket t) task
  ran : ∀ e ∈ p.ran, p.traffic.history.Holds e.1 e.2

/-- The tasks that were pushed stay on record. -/
theorem pushed_stepped (stepped : Stepped p t spurious p') :
    p.traffic.history.pushed <+: p'.traffic.history.pushed := by
  cases stepped with
  | pushes here phase inside queue next h moves =>
    cases moves with
    | claims => exact List.prefix_append _ _
    | _ => exact List.prefix_refl _
  | pops draining here phase inside queue next h moves => cases moves <;> exact List.prefix_refl _
  | runs draining task here => cases draining <;> exact List.prefix_refl _
  | _ => exact List.prefix_refl _

theorem faithful_stepped {capacity : Capacity} {r : Ring capacity.size} (serves : Serves capacity r p.traffic)
    (faithful : p.Faithful) (stepped : Stepped p t spurious p') : p'.Faithful := by
  have longer := pushed_stepped stepped
  have others := othersStay_stepped stepped
  -- a thread that is running a task, and is not the one that stepped, was running it before
  have old : ∀ u draining task, u ≠ t → p'.threads u = .run draining task →
      p'.traffic.history.Holds (p'.traffic.history.ticket u) task := by
    intro u draining task different here
    rw [others.threads u different] at here
    rw [others.tickets u different]
    exact (faithful.next u draining task here).mono longer
  have before : ∀ e ∈ p.ran, p'.traffic.history.Holds e.1 e.2 := fun e inside => (faithful.ran e inside).mono longer
  have idle : ∀ {activity : Activity α}, p'.threads t = activity → (∀ draining task, activity ≠ .run draining task) →
      ∀ u draining task, p'.threads u = .run draining task →
        p'.traffic.history.Holds (p'.traffic.history.ticket u) task := by
    rintro _ rfl never u draining task here
    by_cases mine : u = t
    · exact absurd (mine ▸ here) (never draining task)
    · exact old u draining task mine here
  cases stepped with
  | stays => exact faithful
  | runs draining task here =>
    refine ⟨idle (Function.update_self ..) (by cases draining <;> simp), fun e inside => ?_⟩
    obtain earlier | last := List.mem_append.mp inside
    · exact before e earlier
    · rw [List.mem_singleton.mp last]
      exact (faithful.next t draining task here).mono longer
  | pops draining here phase inside queue next h moves =>
    refine ⟨fun u draining' task running => ?_, before⟩
    by_cases mine : u = t
    · have sound := serves.sound t
      rw [inside] at sound
      simp only [mine, become, Function.update_self] at running ⊢
      cases moves with
      | seeks pos next there sought =>
        cases next with
        | load | check | swap => cases running
        | _ => exact sought.elim
      | empty => cases draining <;> cases running
      | releases pos item =>
        cases running
        exact sound.2.2.2.1
      | _ => cases running
    · exact old u draining' task mine running
  | pushes here phase inside queue next h moves =>
    refine ⟨idle (Function.update_self ..) fun draining task same => ?_, before⟩
    exact idles_afterPush (.pushing next) (by rw [same]; trivial)
  | _ => exact ⟨idle (Function.update_self ..) (by simp), before⟩

/-! ### The drain -/

/-- All workers have returned from `WorkerLoop`. -/
def AllExited (p : ThreadPool α) : Prop := ∀ worker < p.workers, p.threads worker = .exited

/-- Once all workers have exited, every ticket of a producer was popped. -/
def Drained (p : ThreadPool α) : Prop :=
  p.AllExited → p.traffic.history.pushed.length = p.traffic.history.popped

/-- `Stop` joins the workers one after the other, and returns when all have exited. -/
structure Joining (p : ThreadPool α) : Prop where
  joined : ∀ t worker, p.threads t = .stopJoin worker → ∀ earlier < worker, p.threads earlier = .exited
  stopped : ∀ t, p.threads t = .stopped → p.AllExited

/-- The thread takes its next step in the queue. -/
def InQueue : Activity α → Prop
  | .submitPush | .pop _ => True
  | _ => False

/-- The step does none of these: the last worker leaves the drain while a ticket is claimed
    and not popped; `Push` claims a ticket when all workers have exited; another call of
    `Stop` returns while workers are left. -/
def StopsOrderly (p : ThreadPool α) (t : Nat) (spurious : Bool) : Activity α → Operation α → Prop
  | .pop true, .popping (.check pos) =>
    p.traffic.queue.LooksEmpty pos → (∀ worker < p.workers, worker ≠ t → p.threads worker = .exited) →
      p.traffic.history.pushed.length = p.traffic.history.popped
  | .submitPush, .pushing (.swap _ pos) => p.traffic.queue.head = pos ∧ spurious = false → ¬p.AllExited
  | .stopExchange, _ => p.stop = true → p.AllExited
  | _, _ => True

section Decidable
variable [DecidableEq α]

instance (p : ThreadPool α) : Decidable p.AllExited := inferInstanceAs (Decidable (∀ _ < _, _))

instance (p : ThreadPool α) (t : Nat) (spurious : Bool) :
    ∀ (activity : Activity α) (operation : Operation α), Decidable (p.StopsOrderly t spurious activity operation)
  | .pop true, .popping (.check _) => inferInstanceAs (Decidable (_ → _ → _))
  | .submitPush, .pushing (.swap _ _) => inferInstanceAs (Decidable (_ → ¬_))
  | .stopExchange, _ => inferInstanceAs (Decidable (_ → _))
  | .pop true, .idle | .pop true, .pushing _ | .pop true, .popping .load | .pop true, .popping (.swap _)
  | .pop true, .popping (.read _) | .pop true, .popping (.release _ _) | .pop true, .popping (.done _) | .pop false, _
  | .submitPush, .idle | .submitPush, .popping _ | .submitPush, .pushing (.load _) | .submitPush, .pushing (.check _ _)
  | .submitPush, .pushing (.write _ _) | .submitPush, .pushing (.publish _) | .submitPush, .pushing (.done _)
  | .idle, _ | .submitTest _, _ | .submitRelease, _ | .submitted _, _ | .stopWake _, _ | .stopJoin _, _ | .stopped, _
  | .acquire, _ | .testStop, _ | .run _ _, _ | .exited, _ => isTrue trivial

instance : DecidablePred (@InQueue α)
  | .submitPush | .pop _ => isTrue trivial
  | .idle | .submitTest _ | .submitRelease | .submitted _ | .stopExchange | .stopWake _ | .stopJoin _ | .stopped
  | .acquire | .testStop | .run _ _ | .exited => isFalse id

end Decidable

/-- The step is in order, and fewer than 2^63 tickets were claimed since the thread's last step in the queue. -/
def Graceful (p : ThreadPool α) : Nat × PoolMove α → Prop
  | (t, .go spurious) =>
    p.StopsOrderly t spurious (p.threads t) (p.traffic.threads t) ∧
      (InQueue (p.threads t) → p.traffic.Brisk (t, .go spurious))
  | _ => True

instance [DecidableEq α] (p : ThreadPool α) : DecidablePred p.Graceful
  | (_, .go _) => inferInstanceAs (Decidable (_ ∧ (_ → _)))
  | (_, .submit _) | (_, .stop) => isTrue trivial

/-- A worker that has exited stays so. -/
theorem exited_stays (stepped : Stepped p t spurious p') {worker : Nat} (exited : p.threads worker = .exited) :
    p'.threads worker = .exited := by
  by_cases here : worker = t
  · rw [here] at exited
    cases stepped with
    | stays => rw [here, exited]
    | refused _ doing | tested _ doing | pushes doing | releases doing | stops doing | stopsAgain doing
    | wakes _ doing | woke _ doing | joins _ doing | joined _ doing | acquires doing | looks doing | pops _ doing
    | runs _ _ doing => cases doing.symm.trans exited
  · rw [(othersStay_stepped stepped).threads worker here, exited]

theorem workers_stepped (stepped : Stepped p t spurious p') : p'.workers = p.workers := by
  cases stepped <;> rfl

theorem allExited_stepped (stepped : Stepped p t spurious p') (all : p.AllExited) : p'.AllExited := by
  intro worker inside
  rw [workers_stepped stepped] at inside
  exact exited_stays stepped (all worker inside)

/-- Before a step of a caller as many workers have exited as after it. -/
theorem allExited_caller (stepped : Stepped p t spurious p') (caller : p.workers ≤ t) (all : p'.AllExited) :
    p.AllExited := by
  intro worker inside
  rw [← (othersStay_stepped stepped).threads worker (by omega)]
  exact all worker (by rwa [workers_stepped stepped])

theorem drained_stepped (staffed : p.Staffed) (drained : p.Drained)
    (orderly : p.StopsOrderly t spurious (p.threads t) (p.traffic.threads t)) (stepped : Stepped p t spurious p') :
    p'.Drained := by
  intro all
  have caller : ∀ {activity : Activity α}, p.threads t = activity → ¬activity.Works → p.AllExited := by
    rintro _ rfl idles
    refine allExited_caller stepped ?_ all
    by_contra less
    exact idles ((staffed.staff t).mp (by omega))
  have worker : (p.threads t).Works → p'.threads t = .exited := fun works =>
    all t (by rw [workers_stepped stepped]; exact (staffed.staff t).mpr works)
  cases stepped with
  | stays => exact drained all
  | pushes here phase inside queue next h moves =>
    have before := caller here id
    cases moves with
    | claims item pos wins =>
      rw [here, inside] at orderly
      exact absurd before (orderly wins)
    | _ => exact drained before
  | acquires here =>
    have := worker (by rw [here]; trivial)
    simp [become] at this
  | looks here =>
    have := worker (by rw [here]; trivial)
    simp [become] at this
  | runs draining task here =>
    have := worker (by rw [here]; trivial)
    cases draining <;> simp [become] at this
  | pops draining here phase inside queue next h moves =>
    have exits := worker (by rw [here]; trivial)
    simp only [become, Function.update_self] at exits
    rw [here, inside] at orderly
    cases moves with
    | seeks pos next there sought =>
      cases next with
      | load | check | swap => cases exits
      | _ => exact sought.elim
    | empty pos looks =>
      cases draining with
      | false => cases exits
      | true =>
        refine orderly looks fun worker inside different => ?_
        have := all worker inside
        simpa [become, different] using this
    | _ => cases exits
  | refused _ here | tested _ here | releases here | stops here | stopsAgain here | wakes _ here | woke _ here
  | joins _ here | joined _ here => exact drained (caller here id)

/-- How a thread comes to join a worker, or to return from `Stop`. -/
private theorem stopping_stepped (stepped : Stepped p t spurious p')
    (stopping : p'.threads t = .stopped ∨ ∃ worker, p'.threads t = .stopJoin worker) :
    p'.threads t = p.threads t ∨ p'.threads t = .stopJoin 0 ∨
      (∃ worker, p.threads t = .stopJoin worker ∧ p.threads worker = .exited ∧ p'.threads t = .stopJoin (worker + 1)) ∨
      (p'.threads t = .stopped ∧ (p.threads t = .stopExchange ∧ p.stop = true ∨
        ∃ worker, p.threads t = .stopJoin worker ∧ ¬worker < p.workers)) := by
  cases stepped with
  | stays => exact .inl rfl
  | woke => exact .inr (.inl (Function.update_self ..))
  | joins worker doing inside exited => exact .inr (.inr (.inl ⟨worker, doing, exited, Function.update_self ..⟩))
  | joined worker doing all => exact .inr (.inr (.inr ⟨Function.update_self .., .inr ⟨worker, doing, all⟩⟩))
  | stopsAgain doing shut => exact .inr (.inr (.inr ⟨Function.update_self .., .inl ⟨doing, shut⟩⟩))
  | pushes doing phase inside queue next h moves =>
    simp only [become, Function.update_self, Activity.afterPush] at stopping
    obtain here | ⟨worker, here⟩ := stopping <;> split at here <;> cases here
  | pops draining doing phase inside queue next h moves =>
    simp only [become, Function.update_self, Activity.afterPop] at stopping
    obtain here | ⟨worker, here⟩ := stopping
    · split at here <;> cases draining <;> cases here
    · split at here <;> cases draining <;> cases here
  | runs draining =>
    simp only [become, Function.update_self] at stopping
    obtain here | ⟨worker, here⟩ := stopping <;> cases draining <;> cases here
  | _ =>
    simp only [become, Function.update_self] at stopping
    obtain here | ⟨worker, here⟩ := stopping <;> cases here

theorem joining_stepped (joining : p.Joining)
    (orderly : p.StopsOrderly t spurious (p.threads t) (p.traffic.threads t)) (stepped : Stepped p t spurious p') :
    p'.Joining := by
  have others := othersStay_stepped stepped
  refine ⟨fun u worker here => ?_, fun u here => allExited_stepped stepped ?_⟩
  · suffices earlier : ∀ earlier < worker, p.threads earlier = .exited from fun w less => exited_stays stepped (earlier w less)
    by_cases mine : u = t
    · rw [mine] at here
      obtain same | first | ⟨before, doing, exited, next⟩ | ⟨stopped, -⟩ := stopping_stepped stepped (.inr ⟨worker, here⟩)
      · exact joining.joined t worker (same.symm.trans here)
      · cases first.symm.trans here
        exact fun earlier less => absurd less (Nat.not_lt_zero earlier)
      · cases next.symm.trans here
        intro earlier less
        rcases Nat.lt_or_eq_of_le (Nat.le_of_lt_succ less) with smaller | last
        · exact joining.joined t before doing earlier smaller
        · exact last ▸ exited
      · cases stopped.symm.trans here
    · rw [others.threads u mine] at here
      exact joining.joined u worker here
  · by_cases mine : u = t
    · rw [mine] at here
      obtain same | first | ⟨before, -, -, next⟩ | ⟨-, ⟨doing, shut⟩ | ⟨worker, doing, all⟩⟩ := stopping_stepped stepped (.inl here)
      · exact joining.stopped t (same.symm.trans here)
      · cases first.symm.trans here
      · cases next.symm.trans here
      · rw [doing] at orderly
        exact orderly shut
      · exact fun earlier inside => joining.joined t worker doing earlier (by omega)
    · rw [others.threads u mine] at here
      exact joining.stopped u here

/-! ### Runs -/

/-- What holds of a pool whose steps are graceful. -/
structure Sure (capacity : Capacity) (p : ThreadPool α) : Prop where
  staffed : p.Staffed
  ticketed : p.Ticketed
  serves : ∃ r, Serves capacity r p.traffic
  handled : p.Handled
  faithful : p.Faithful
  drained : p.Drained
  joining : p.Joining

theorem serves_stepped {capacity : Capacity} (serves : ∃ r, Serves capacity r p.traffic)
    (brisk : InQueue (p.threads t) → p.traffic.Brisk (t, .go spurious)) :
    ∃ r, Serves capacity r (p.go t spurious).traffic := by
  obtain ⟨r, serves⟩ := serves
  unfold go
  cases here : p.threads t with
  | submitPush => exact serves_step serves (t, .go spurious) (brisk (by rw [here]; trivial))
  | pop draining => exact serves_step serves (t, .go spurious) (brisk (by rw [here]; trivial))
  | submitTest task =>
    dsimp only
    split
    · exact ⟨r, serves⟩
    · exact ⟨r, serves.enter _ ⟨nofun, nofun⟩ trivial⟩
  | testStop => exact ⟨r, serves.enter _ ⟨nofun, nofun⟩ trivial⟩
  | run draining task =>
    cases draining with
    | false => exact ⟨r, serves⟩
    | true => exact ⟨r, serves.enter _ ⟨nofun, nofun⟩ trivial⟩
  | stopExchange | stopWake =>
    dsimp only
    split <;> exact ⟨r, serves⟩
  | stopJoin =>
    dsimp only
    split
    · split <;> exact ⟨r, serves⟩
    · exact ⟨r, serves⟩
  | acquire =>
    dsimp only
    split <;> exact ⟨r, serves⟩
  | _ => exact ⟨r, serves⟩

theorem sure_go {capacity : Capacity} (sure : p.Sure capacity) (graceful : p.Graceful (t, .go spurious)) :
    (p.go t spurious).Sure capacity := by
  have stepped := stepped_go sure.staffed t spurious
  obtain ⟨r, serves⟩ := sure.serves
  exact
    { staffed := staffed_stepped sure.staffed stepped
      ticketed := ticketed_stepped sure.ticketed stepped
      serves := serves_stepped sure.serves graceful.2
      handled := handled_stepped sure.handled stepped
      faithful := faithful_stepped serves sure.faithful stepped
      drained := drained_stepped sure.staffed sure.drained graceful.1 stepped
      joining := joining_stepped sure.joining graceful.1 stepped }

/-- A call of another thread than a worker. -/
theorem sure_call {capacity : Capacity} (sure : p.Sure capacity) {activity : Activity α}
    (call : (∃ task, activity = .submitTest task) ∨ activity = .stopExchange) : (p.call t activity).Sure capacity := by
  have idles : ¬activity.Works := by
    obtain ⟨task, rfl⟩ | rfl := call <;> exact id
  have agrees : ∀ operation, Agrees activity operation := by
    obtain ⟨task, rfl⟩ | rfl := call <;> exact fun _ => trivial
  have silent : ∀ operation, ¬Offers activity operation := by
    obtain ⟨task, rfl⟩ | rfl := call <;> exact fun _ => id
  obtain same | ⟨called, caller, returned⟩ := p.call_cases t activity
  · rw [same]
    exact sure
  · have staffed := sure.staffed.call (t := t) idles agrees
    have ticketed := sure.ticketed.call (t := t) silent
    rw [called] at staffed ticketed ⊢
    have others := othersStay_become p t activity
    have kept : ∀ {worker}, worker < p.workers → Function.update p.threads t activity worker = p.threads worker :=
      fun inside => Function.update_of_ne (by omega) _ _
    have stays : ∀ {worker}, p.threads worker = .exited → Function.update p.threads t activity worker = .exited := by
      intro worker exited
      rw [Function.update_of_ne, exited]
      rintro rfl
      rw [exited] at returned
      exact returned
    have new : (∀ worker, activity ≠ .stopJoin worker) ∧ activity ≠ .stopped := by
      obtain ⟨task, rfl⟩ | rfl := call <;> exact ⟨nofun, nofun⟩
    refine ⟨staffed, ticketed, sure.serves, ?_, ⟨fun u draining task here => ?_, sure.faithful.ran⟩, fun all => ?_,
      fun u worker here earlier less => ?_, fun u here worker inside => ?_⟩
    · refine Tracks.keep sure.handled others (iff_of_false (fun handles => idles ?_) fun handles => ?_) fun _ => rfl
      · simp only [become, Function.update_self] at handles
        exact handles.works
      · have := (sure.staffed.staff t).mpr handles.works
        omega
    · by_cases mine : u = t
      · simp only [mine, become, Function.update_self] at here
        exact absurd (by rw [here]; trivial) idles
      · rw [others.threads u mine] at here
        exact sure.faithful.next u draining task here
    · refine sure.drained fun worker inside => ?_
      rw [← kept inside]
      exact all worker inside
    · by_cases mine : u = t
      · simp only [mine, become, Function.update_self] at here
        exact absurd here (new.1 worker)
      · rw [others.threads u mine] at here
        exact stays (sure.joining.joined u worker here earlier less)
    · by_cases mine : u = t
      · simp only [mine, become, Function.update_self] at here
        exact absurd here new.2
      · rw [others.threads u mine] at here
        exact stays (sure.joining.stopped u here worker inside)

/-- What one step preserves. -/
theorem sure_step {capacity : Capacity} (sure : p.Sure capacity) (move : Nat × PoolMove α) (graceful : p.Graceful move) :
    (p.step move).Sure capacity := by
  obtain ⟨t, action⟩ := move
  cases action with
  | submit task => exact sure_call sure (.inl ⟨task, rfl⟩)
  | stop => exact sure_call sure (.inr rfl)
  | go spurious => exact sure_go sure graceful

theorem sure_start (capacity : Capacity) (numThreads : Nat) :
    (start capacity numThreads : ThreadPool α).Sure capacity := by
  have first : ∀ t, (start capacity numThreads : ThreadPool α).threads t = .acquire ∨
      (start capacity numThreads : ThreadPool α).threads t = .idle := by
    intro t
    by_cases inside : t < numThreads
    · exact .inl (if_pos inside)
    · exact .inr (if_neg inside)
  refine ⟨staffed_start capacity numThreads, ticketed_start capacity numThreads, ⟨_, serves_start capacity⟩, ?_,
    ⟨fun t draining task here => ?_, fun e none => absurd none List.not_mem_nil⟩, fun _ => rfl,
    fun t worker here => ?_, fun t here => ?_⟩
  · refine Allotted.none fun t handles => ?_
    obtain here | here := first t <;> exact (here ▸ handles : Handles _ _)
  · obtain idle | idle := first t <;> cases idle.symm.trans here
  · obtain idle | idle := first t <;> cases idle.symm.trans here
  · obtain idle | idle := first t <;> cases idle.symm.trans here

/-- A call of `Submit` is in progress. -/
def Submits : Activity α → Prop
  | .submitTest _ | .submitPush | .submitRelease => True
  | _ => False

instance : DecidablePred (@Submits α)
  | .submitTest _ | .submitPush | .submitRelease => isTrue trivial
  | .idle | .submitted _ | .stopExchange | .stopWake _ | .stopJoin _ | .stopped | .acquire | .testStop | .pop _
  | .run _ _ | .exited => isFalse id

/-- When a call of `Stop` has returned and none of `Submit` is in progress, each accepted task
    was run exactly once. -/
def LosesNothing (p : ThreadPool α) : Prop :=
  (∃ t, p.threads t = .stopped) → (∀ t, ¬Submits (p.threads t)) →
    ∀ n ∈ p.accepted, ∃ task, p.traffic.history.pushed[n]? = some task ∧
      (p.ran.filter fun e => e.1 = n) = [(n, some task)]

/-- The one entry of a key. -/
theorem filter_key {l : List (Nat × Option α)} (once : (l.map Prod.fst).Nodup) {n : Nat} {value : Option α}
    (inside : (n, value) ∈ l) : (l.filter fun e => e.1 = n) = [(n, value)] := by
  induction l with
  | nil => exact absurd inside List.not_mem_nil
  | cons e rest ih =>
    rw [List.map_cons, List.nodup_cons] at once
    rcases List.mem_cons.mp inside with rfl | later
    · rw [List.filter_cons_of_pos (by simp), List.filter_eq_nil_iff.mpr]
      intro e there same
      exact once.1 (List.mem_map.mpr ⟨e, there, by simpa using same⟩)
    · rw [List.filter_cons_of_neg, ih once.2 later]
      intro same
      exact once.1 (List.mem_map.mpr ⟨_, later, by simpa using Eq.symm (of_decide_eq_true same)⟩)

theorem Sure.losesNothing {capacity : Capacity} (sure : p.Sure capacity) : p.LosesNothing := by
  rintro ⟨t, stopped⟩ - n accepted
  have all := sure.joining.stopped t stopped
  have popped : n < p.traffic.history.popped := by
    rw [← sure.drained all]
    exact Allotted.issued sure.ticketed n accepted
  obtain filed | ⟨worker, handles, -⟩ := Allotted.covered sure.handled n popped
  · obtain ⟨⟨_, item⟩, inside, rfl⟩ := List.mem_map.mp filed
    obtain ⟨task, rfl, pushed⟩ := sure.faithful.ran _ inside
    exact ⟨task, pushed, filter_key (Allotted.once sure.handled) inside⟩
  · exact absurd (all worker ((sure.staffed.staff worker).mpr handles.works)) handles.remains

/-- A run whose steps are graceful loses no task. -/
theorem shutdown_loses_nothing (capacity : Capacity) (numThreads : Nat) (moves : List (Nat × PoolMove α))
    (graceful : Along step Graceful (start capacity numThreads) moves) :
    (after step (start capacity numThreads) moves).LosesNothing := by
  suffices sure : (after step (start capacity numThreads) moves).Sure capacity from sure.losesNothing
  exact @after_invariant _ _ step _ (Sure capacity) (fun p move graceful sure => sure_step sure move graceful) _
    (sure_start capacity numThreads) _ graceful

/-- A task is submitted; then `Stop` is called, and the worker runs the task in the drain. -/
def orderly : List (Nat × PoolMove Nat) :=
  [(1, .submit 7)] ++ going 1 7 ++ [(2, .stop)] ++ going 2 3 ++ going 0 10 ++ going 2 2

theorem shutdown_loses_nothing_orderly :
    (after step (start twoCells 1) orderly).threads 2 = .stopped ∧
      (after step (start twoCells 1) orderly).ran = [(0, some 7)] ∧
      (after step (start twoCells 1) orderly).LosesNothing :=
  ⟨by decide +kernel, by decide +kernel, shutdown_loses_nothing twoCells 1 orderly (by decide +kernel)⟩

/-- A thread that no move is of stays as it is. -/
theorem threads_elsewhere (staffed : p.Staffed) {moves : List (Nat × PoolMove α)} {u : Nat}
    (elsewhere : ∀ move ∈ moves, move.1 ≠ u) : (after step p moves).threads u = p.threads u := by
  induction moves generalizing p with
  | nil => rfl
  | cons move rest ih =>
    have away := elsewhere move List.mem_cons_self
    rw [after_cons, ih (staffed_step staffed move) fun move inside => elsewhere move (List.mem_cons_of_mem _ inside)]
    obtain ⟨t, action⟩ := move
    have called : ∀ activity, (p.call t activity).threads u = p.threads u := fun activity => by
      obtain same | ⟨called, -⟩ := p.call_cases t activity
      · rw [same]
      · rw [called]
        exact Function.update_of_ne away.symm _ _
    cases action with
    | submit task => exact called _
    | stop => exact called _
    | go spurious => exact (othersStay_stepped (stepped_go staffed t spurious)).threads u away.symm

/-- `Stop` runs from its call to its return between the test of the flag and the push of `Submit`. -/
def overlooked : List (Nat × PoolMove Nat) :=
  [(1, .submit 7)] ++ going 1 1 ++ [(2, .stop)] ++ going 2 3 ++ going 0 4 ++ going 2 2 ++ going 1 6

/-- `Submit` has returned true and `Stop` has returned, and the task is never run. -/
theorem shutdown_loses_task :
    (after step (start twoCells 1) overlooked).threads 1 = .submitted true ∧
      (after step (start twoCells 1) overlooked).threads 2 = .stopped ∧
      (after step (start twoCells 1) overlooked).ran = [] ∧
      ¬(after step (start twoCells 1) overlooked).LosesNothing := by
  have none : (after step (start twoCells 1) overlooked).ran = [] := by decide +kernel
  have silent : ∀ t, ¬Submits ((after step (start twoCells 1) overlooked).threads t) := by
    intro t
    by_cases moved : t < 3
    · have idle : ∀ t < 3, ¬Submits ((after step (start twoCells 1) overlooked).threads t) := by decide +kernel
      exact idle t moved
    · rw [threads_elsewhere (staffed_start twoCells 1)]
      · have caller : t ≠ 0 := by omega
        simp [start, caller, Submits]
      · have known : ∀ move ∈ overlooked, move.1 < 3 := by decide
        intro move inside same
        have := known move inside
        omega
  refine ⟨by decide +kernel, by decide +kernel, none, fun claim => ?_⟩
  obtain ⟨task, -, run⟩ := claim ⟨2, by decide +kernel⟩ silent 0 (by decide +kernel)
  rw [none] at run
  cases run

end NovaIIM.ThreadPool
