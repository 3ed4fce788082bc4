import NovaIIM.MPMCQueue

/-!
The pool of worker threads (`core/thread_pool.h`).

The workers run `WorkerLoop`, any number of other threads call `Submit` and `Stop`,
and all take their atomic steps in any order. A thread that is inside of `Push` or
`Pop` takes the steps of the queue.
-/
namespace NovaIIM

/-- What a thread does in the pool, by the step that it takes next. -/
inductive Activity (α : Type) where
  | idle
  -- `Submit`
  | submitTest (task : α)
  | submitPush
  | submitRelease
  | submitted (ok : Bool)
  -- `Stop`
  | stopExchange
  | stopWake (worker : Nat)
  | stopJoin (worker : Nat)
  | stopped
  -- `WorkerLoop`; `draining` tells the loop after the `break` from the one before
  | acquire
  | testStop
  | pop (draining : Bool)
  | run (draining : Bool) (task : Option α)
  | exited
deriving DecidableEq

/-- `Pop` has returned false. -/
def Operation.foundNothing {α : Type} : Operation α → Bool
  | .popping (.done none) => true
  | _ => false

namespace Activity
variable {α : Type}

/-- The thread can make another call. -/
def Returned : Activity α → Prop
  | idle | submitted _ | stopped => True
  | _ => False

instance : DecidablePred (@Returned α) := fun activity => by
  unfold Returned
  split <;> infer_instance

/-- The thread is in `WorkerLoop`. -/
def Works : Activity α → Prop
  | acquire | testStop | pop _ | run _ _ | exited => True
  | _ => False

/-- Where `Submit` goes on while `Push` runs, and when it has returned. -/
def afterPush : Operation α → Activity α
  | .pushing (.done true) => submitRelease
  | .pushing (.done false) => submitted false
  | _ => submitPush

/-- Where `WorkerLoop` goes on while `Pop` runs, and when it has returned. -/
def afterPop (draining : Bool) : Operation α → Activity α
  | .popping (.done (some task)) => run draining task
  | .popping (.done none) => if draining then exited else acquire
  | _ => pop draining

end Activity

structure ThreadPool (α : Type) where
  workers : Nat
  traffic : Traffic α
  permits : Nat := 0
  stop : Bool := false
  threads : Nat → Activity α
  /-- Record: the tickets of the tasks whose `Submit` has returned true. -/
  accepted : List Nat := []
  /-- Record: how often a `Pop` before the drain has found nothing. -/
  missed : Nat := 0
  /-- Record: the tasks that were run, with their tickets. -/
  ran : List (Nat × Option α) := []

/-- A thread calls `Submit` or `Stop`, or takes the next step of what it does. -/
inductive PoolMove (α : Type) where
  | submit (task : α)
  | stop
  | go (spurious : Bool)
deriving DecidableEq

namespace ThreadPool
variable {α : Type}

/-- The constructor: the threads below `num_threads` are the workers. -/
def start (capacity : Capacity) (numThreads : Nat) : ThreadPool α where
  workers := numThreads
  traffic := .start capacity
  threads t := if t < numThreads then .acquire else .idle

def become (p : ThreadPool α) (thread : Nat) (activity : Activity α) : ThreadPool α :=
  { p with threads := Function.update p.threads thread activity }

/-- Another thread than a worker begins a call. -/
def call (p : ThreadPool α) (thread : Nat) (activity : Activity α) : ThreadPool α :=
  if p.workers ≤ thread ∧ (p.threads thread).Returned then p.become thread activity else p

/-- A thread takes its next step; one that cannot go on stays as it is. -/
def go (p : ThreadPool α) (thread : Nat) (spurious : Bool) : ThreadPool α :=
  match p.threads thread with
  | .submitTest task =>
    if p.stop then p.become thread (.submitted false)
    else { p.become thread .submitPush with traffic := p.traffic.enter thread (.pushing (.load task)) }
  | .submitPush =>
    let traffic := p.traffic.advance thread spurious
    { p.become thread (.afterPush (traffic.threads thread)) with traffic := traffic }
  | .submitRelease =>
    { p.become thread (.submitted true) with
      permits := p.permits + 1
      accepted := p.accepted ++ [p.traffic.history.ticket thread] }
  | .stopExchange =>
    if p.stop then p.become thread .stopped else { p.become thread (.stopWake 0) with stop := true }
  | .stopWake worker =>
    if worker < p.workers then { p.become thread (.stopWake (worker + 1)) with permits := p.permits + 1 }
    else p.become thread (.stopJoin 0)
  | .stopJoin worker =>
    if worker < p.workers then
      if p.threads worker matches .exited then p.become thread (.stopJoin (worker + 1)) else p
    else p.become thread .stopped
  | .acquire =>
    if p.permits = 0 then p else { p.become thread .testStop with permits := p.permits - 1 }
  | .testStop => { p.become thread (.pop p.stop) with traffic := p.traffic.enter thread (.popping .load) }
  | .pop draining =>
    let traffic := p.traffic.advance thread spurious
    { p.become thread (.afterPop draining (traffic.threads thread)) with
      traffic := traffic
      missed := if (traffic.threads thread).foundNothing && !draining then p.missed + 1 else p.missed }
  | .run draining task =>
    { p.become thread (if draining then .pop true else .acquire) with
      traffic := if draining then p.traffic.enter thread (.popping .load) else p.traffic
      ran := p.ran ++ [(p.traffic.history.ticket thread, task)] }
  | .idle | .submitted _ | .stopped | .exited => p

def step (p : ThreadPool α) : Nat × PoolMove α → ThreadPool α
  | (thread, .submit task) => p.call thread (.submitTest task)
  | (thread, .stop) => p.call thread .stopExchange
  | (thread, .go spurious) => p.go thread spurious

end ThreadPool
end NovaIIM
