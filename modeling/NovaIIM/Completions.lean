import Mathlib.Data.List.Nodup
import Mathlib.Data.List.Perm.Basic
import NovaIIM.ClientRequests

/-!
How the requests of a client end (`core/request_manager.cpp`).

A registration leaves the table by a response, by a timeout, by another registration
under its seq or by a cancellation. The callbacks are taken out under the lock and run
behind it, so they run at any time afterwards, between and inside other calls.
Registrations are numbered in the order in which they are made, and their numbers stand
in for the calls that drew the seqs, which may be any here.
-/
namespace NovaIIM.Client
open ClientRequests

/-- What a request is registered with. A callback may be missing. -/
structure Registration where
  seq : UInt32
  onResp : Bool
  onTimeout : Bool
deriving DecidableEq, Repr

/-- A callback of a registration, with what it is called with. -/
inductive Callback where
  | response (number : Nat) (resp : RawPacket)
  | timeout (number : Nat) (seq : UInt32)
deriving DecidableEq, Repr

def Callback.number : Callback → Nat
  | .response number _ | .timeout number _ => number

/-- A request manager with all registrations so far, the requests that have left it by each
    way, and the callbacks that are to run and that have run. -/
structure Managed where
  requests : ClientRequests := {}
  registrations : List Registration := []
  answered : List PendingRequest := []
  timedOut : List PendingRequest := []
  replaced : List PendingRequest := []
  cancelled : List PendingRequest := []
  due : List Callback := []
  ran : List Callback := []

/-- A call of the manager, or a callback that runs. -/
inductive ManagerEvent where
  | addPending (registration : Registration) (now : Nat)
  | handleResponse (resp : RawPacket)
  | checkTimeouts (now : Nat)
  | cancel (seq : UInt32)
  | cancelAll
  | run (place : Nat)

namespace Managed

/-- The request that is pending under a seq. -/
def under (s : Managed) (seq : UInt32) : Option PendingRequest := s.requests.pending.find? fun r => r.drawn.seq = seq

/-- The requests whose deadline has come. -/
def late (s : Managed) (now : Nat) : List PendingRequest := s.requests.pending.filter fun r => ¬now < r.deadline

/-- The timeout callback of a request, if it has one. -/
def timeoutOf (registrations : List Registration) (r : PendingRequest) : Option Callback :=
  if registrations[r.drawn.call]?.any Registration.onTimeout then some (.timeout r.drawn.call r.drawn.seq) else none

/-- The response callback of a request, if it has one. -/
def responseOf (registrations : List Registration) (resp : RawPacket) (r : PendingRequest) : Option Callback :=
  if registrations[r.drawn.call]?.any Registration.onResp then some (.response r.drawn.call resp) else none

def step (timeoutMs : Nat) (s : Managed) : ManagerEvent → Managed
  | .addPending registration now =>
    { s with
      requests := s.requests.addPending timeoutMs ⟨s.registrations.length, registration.seq⟩ now
      registrations := s.registrations ++ [registration]
      replaced := s.replaced ++ (s.under registration.seq).toList
      due := s.due ++ (s.under registration.seq).toList.filterMap (timeoutOf s.registrations) }
  | .handleResponse resp =>
    { s with
      requests := (s.requests.handleResponse resp.seq).2
      answered := s.answered ++ (s.requests.handleResponse resp.seq).1.toList
      due := s.due ++ (s.requests.handleResponse resp.seq).1.toList.filterMap (responseOf s.registrations resp) }
  | .checkTimeouts now =>
    { s with
      requests := s.requests.checkTimeouts now
      timedOut := s.timedOut ++ s.late now
      due := s.due ++ (s.late now).filterMap (timeoutOf s.registrations) }
  | .cancel seq =>
    { s with
      requests := s.requests.cancel seq
      cancelled := s.cancelled ++ (s.under seq).toList }
  | .cancelAll =>
    { s with
      requests := s.requests.cancelAll
      cancelled := s.cancelled ++ s.requests.pending }
  | .run place =>
    match s.due[place]? with
    | none => s
    | some callback => { s with due := s.due.eraseIdx place, ran := s.ran ++ [callback] }

/-- The requests whose callbacks may run. -/
def completed (s : Managed) : List PendingRequest := s.answered ++ s.timedOut ++ s.replaced

/-- The callbacks that have run or are to run. -/
def fired (s : Managed) : List Callback := s.ran ++ s.due

/-- How often a number occurs among requests. -/
def occurs (number : Nat) (requests : List PendingRequest) : Nat := requests.countP fun r => r.drawn.call = number

/-- How often a number occurs among callbacks. -/
def fires (number : Nat) (callbacks : List Callback) : Nat := callbacks.countP fun c => c.number = number

/-- The callback is one of the registration with its number, called with its seq. -/
def Proper (registrations : List Registration) : Callback → Prop
  | .response number resp => ∃ g, registrations[number]? = some g ∧ resp.seq = g.seq
  | .timeout number seq => ∃ g, registrations[number]? = some g ∧ seq = g.seq

/-- Every registration is in one place, and no callback is taken out but with its request. -/
structure Accounted (s : Managed) : Prop where
  keyed : s.requests.pending.Pairwise fun a b => a.drawn.seq ≠ b.drawn.seq
  once : ∀ number, occurs number s.requests.pending + occurs number s.completed + occurs number s.cancelled =
    if number < s.registrations.length then 1 else 0
  total : s.requests.pending.length + s.completed.length + s.cancelled.length = s.registrations.length
  seqs : ∀ r ∈ s.requests.pending, ∃ g, s.registrations[r.drawn.call]? = some g ∧ r.drawn.seq = g.seq
  fired : ∀ number, fires number s.fired ≤ occurs number s.completed
  proper : ∀ c ∈ s.fired, Proper s.registrations c

variable {s : Managed} {pending : List PendingRequest} {seq : UInt32} {number : Nat}

@[simp] theorem occurs_append (a b : List PendingRequest) : occurs number (a ++ b) = occurs number a + occurs number b :=
  List.countP_append

@[simp] theorem fires_append (a b : List Callback) : fires number (a ++ b) = fires number a + fires number b :=
  List.countP_append

/-- A selection and the rest are all the requests. -/
theorem occurs_filter (selected : PendingRequest → Bool) (pending : List PendingRequest) :
    occurs number (pending.filter selected) + occurs number (pending.filter fun r => !selected r) =
      occurs number pending := by
  simp only [occurs, List.countP_filter]
  induction pending with
  | nil => rfl
  | cons r rest ih =>
    simp only [List.countP_cons]
    cases selected r <;> simp <;> omega

theorem length_filter (selected : PendingRequest → Bool) (pending : List PendingRequest) :
    (pending.filter selected).length + (pending.filter fun r => !selected r).length = pending.length := by
  induction pending with
  | nil => rfl
  | cons r rest ih =>
    simp only [List.filter_cons]
    cases selected r <;> simp <;> omega

/-- At most one request is pending under a seq. -/
theorem filter_seq (keyed : pending.Pairwise fun a b => a.drawn.seq ≠ b.drawn.seq) :
    pending.filter (fun r => r.drawn.seq = seq) = (pending.find? fun r => r.drawn.seq = seq).toList := by
  induction pending with
  | nil => rfl
  | cons first rest ih =>
    obtain ⟨apart, keyed⟩ := List.pairwise_cons.mp keyed
    rw [List.filter_cons, List.find?_cons]
    by_cases here : first.drawn.seq = seq
    · have none' : rest.filter (fun r => r.drawn.seq = seq) = [] := by
        rw [List.filter_eq_nil_iff]
        intro r inside same
        exact apart r inside (here.trans (of_decide_eq_true same).symm)
      simp [here, none']
    · simp [here, ih keyed]

/-- No request has more callbacks taken out than it is. -/
theorem fires_filterMap {callback : PendingRequest → Option Callback}
    (named : ∀ r c, callback r = some c → c.number = r.drawn.call) (requests : List PendingRequest) :
    fires number (requests.filterMap callback) ≤ occurs number requests := by
  induction requests with
  | nil => exact Nat.le_refl _
  | cons r rest ih =>
    simp only [fires, occurs] at ih ⊢
    rw [List.filterMap_cons, List.countP_cons]
    split
    · omega
    · next c found =>
      rw [List.countP_cons, named r c found]
      omega

theorem number_timeoutOf (registrations : List Registration) (r : PendingRequest) (c : Callback)
    (found : timeoutOf registrations r = some c) : c.number = r.drawn.call := by
  unfold timeoutOf at found
  split at found
  · cases found
    rfl
  · cases found

theorem number_responseOf (registrations : List Registration) (resp : RawPacket) (r : PendingRequest) (c : Callback)
    (found : responseOf registrations resp r = some c) : c.number = r.drawn.call := by
  unfold responseOf at found
  split at found
  · cases found
    rfl
  · cases found

/-- The requests of other seqs are what a selection by the seq leaves. -/
theorem others_seq (pending : List PendingRequest) (seq : UInt32) :
    pending.filter (fun r => r.drawn.seq ≠ seq) = pending.filter fun r => !decide (r.drawn.seq = seq) := by
  simp only [ne_eq, decide_not]

theorem under_splits (keyed : s.requests.pending.Pairwise fun a b => a.drawn.seq ≠ b.drawn.seq) (seq : UInt32) :
    (∀ number, occurs number (s.under seq).toList + occurs number (s.requests.pending.filter fun r => r.drawn.seq ≠ seq) =
        occurs number s.requests.pending) ∧
      (s.under seq).toList.length + (s.requests.pending.filter fun r => r.drawn.seq ≠ seq).length =
        s.requests.pending.length := by
  rw [under, ← filter_seq keyed, others_seq]
  exact ⟨fun number => occurs_filter _ _, length_filter _ _⟩

theorem late_splits (s : Managed) (now : Nat) :
    (∀ number, occurs number (s.late now) + occurs number (s.requests.checkTimeouts now).pending =
        occurs number s.requests.pending) ∧
      (s.late now).length + (s.requests.checkTimeouts now).pending.length = s.requests.pending.length := by
  have rest : (s.requests.checkTimeouts now).pending = s.requests.pending.filter fun r => !decide ¬now < r.deadline := by
    simp only [checkTimeouts, decide_not, Bool.not_not]
  rw [rest, late]
  exact ⟨fun number => occurs_filter _ _, length_filter _ _⟩

/-- A response takes the request out that is under its seq. -/
theorem handleResponse_under (s : Managed) (seq : UInt32) :
    (s.requests.handleResponse seq).1 = s.under seq ∧
      (s.requests.handleResponse seq).2.pending = s.requests.pending.filter fun r => r.drawn.seq ≠ seq := by
  rw [handleResponse, under]
  split
  · next missing =>
    refine ⟨missing.symm, (List.filter_eq_self.mpr fun r inside => ?_).symm⟩
    simpa using List.find?_eq_none.mp missing r inside
  · next r found => exact ⟨found.symm, rfl⟩

theorem Proper.append {registrations : List Registration} {c : Callback} (proper : Proper registrations c)
    (more : List Registration) : Proper (registrations ++ more) c := by
  cases c with
  | response number resp =>
    obtain ⟨g, found, same⟩ := proper
    exact ⟨g, (List.getElem?_append_left (List.getElem?_eq_some_iff.mp found).1).trans found, same⟩
  | timeout number seq =>
    obtain ⟨g, found, same⟩ := proper
    exact ⟨g, (List.getElem?_append_left (List.getElem?_eq_some_iff.mp found).1).trans found, same⟩

theorem mem_under {r : PendingRequest} (inside : r ∈ (s.under seq).toList) :
    r ∈ s.requests.pending ∧ r.drawn.seq = seq := by
  have found : s.under seq = some r := Option.mem_toList.mp inside
  exact ⟨List.mem_of_find?_eq_some found, by simpa using List.find?_some found⟩

theorem proper_timeouts (accounted : Accounted s) {gone : List PendingRequest} (were : gone ⊆ s.requests.pending) :
    ∀ c ∈ gone.filterMap (timeoutOf s.registrations), Proper s.registrations c := by
  intro c inside
  obtain ⟨r, there, found⟩ := List.mem_filterMap.mp inside
  unfold timeoutOf at found
  split at found
  · cases found
    exact accounted.seqs r (were there)
  · cases found

theorem proper_responses (accounted : Accounted s) {resp : RawPacket} :
    ∀ c ∈ (s.under resp.seq).toList.filterMap (responseOf s.registrations resp), Proper s.registrations c := by
  intro c inside
  obtain ⟨r, there, found⟩ := List.mem_filterMap.mp inside
  obtain ⟨pends, same⟩ := mem_under there
  unfold responseOf at found
  split at found
  · cases found
    obtain ⟨g, registered, equal⟩ := accounted.seqs r pends
    exact ⟨g, registered, same.symm.trans equal⟩
  · cases found

/-! ### Steps -/

theorem accounted_addPending {timeoutMs : Nat} (accounted : Accounted s) (registration : Registration) (now : Nat) :
    Accounted (s.step timeoutMs (.addPending registration now)) := by
  obtain ⟨split, lengths⟩ := under_splits accounted.keyed registration.seq
  refine ⟨?_, fun number => ?_, ?_, ?_, fun number => ?_, ?_⟩
  · refine .cons (fun r inside same => ?_) (accounted.keyed.filter _)
    obtain ⟨-, other⟩ := List.mem_filter.mp inside
    exact of_decide_eq_true other same.symm
  · have once := accounted.once number
    have parts := split number
    simp only [step, addPending, completed, occurs_append, List.length_append, List.length_singleton] at once ⊢
    have new : occurs number (⟨⟨s.registrations.length, registration.seq⟩, now + timeoutMs * 1000000⟩ ::
        s.requests.pending.filter fun r => r.drawn.seq ≠ registration.seq) =
        occurs number (s.requests.pending.filter fun r => r.drawn.seq ≠ registration.seq) +
          if s.registrations.length = number then 1 else 0 := by
      simp only [occurs, List.countP_cons, decide_eq_true_eq]
    rw [new]
    split at once <;> split <;> split <;> omega
  · have total := accounted.total
    simp only [step, addPending, completed, List.length_append, List.length_cons, List.length_nil] at total ⊢
    omega
  · refine List.forall_mem_cons.mpr ⟨⟨registration, List.getElem?_concat_length, rfl⟩, fun r inside => ?_⟩
    obtain ⟨g, found, same⟩ := accounted.seqs r (List.mem_filter.mp inside).1
    exact ⟨g, (List.getElem?_append_left (List.getElem?_eq_some_iff.mp found).1).trans found, same⟩
  · have fired := accounted.fired number
    have few := @fires_filterMap number _ (number_timeoutOf s.registrations) (s.under registration.seq).toList
    simp only [step, Managed.fired, completed, fires_append, occurs_append] at fired ⊢
    omega
  · intro c inside
    have inside : c ∈ s.ran ++ (s.due ++ (s.under registration.seq).toList.filterMap (timeoutOf s.registrations)) := inside
    rw [← List.append_assoc] at inside
    obtain old | new := List.mem_append.mp inside
    · exact (accounted.proper c old).append _
    · exact (proper_timeouts accounted (fun r there => (mem_under there).1) c new).append _

theorem accounted_handleResponse {timeoutMs : Nat} (accounted : Accounted s) (resp : RawPacket) :
    Accounted (s.step timeoutMs (.handleResponse resp)) := by
  obtain ⟨split, lengths⟩ := under_splits accounted.keyed resp.seq
  obtain ⟨found, rest⟩ := handleResponse_under s resp.seq
  simp only [step, found]
  refine ⟨?_, fun number => ?_, ?_, fun r inside => ?_, fun number => ?_, ?_⟩
  · rw [rest]
    exact accounted.keyed.filter _
  · have once := accounted.once number
    have parts := split number
    simp only [completed, occurs_append, rest] at once ⊢
    rw [← once]
    omega
  · have total := accounted.total
    simp only [completed, List.length_append, rest] at total ⊢
    omega
  · rw [rest] at inside
    exact accounted.seqs r (List.mem_filter.mp inside).1
  · have fired := accounted.fired number
    have few := @fires_filterMap number _ (number_responseOf s.registrations resp) (s.under resp.seq).toList
    simp only [Managed.fired, completed, fires_append, occurs_append] at fired ⊢
    omega
  · intro c inside
    have inside : c ∈ s.ran ++ (s.due ++ (s.under resp.seq).toList.filterMap (responseOf s.registrations resp)) := inside
    rw [← List.append_assoc] at inside
    obtain old | new := List.mem_append.mp inside
    · exact accounted.proper c old
    · exact proper_responses accounted c new

theorem accounted_checkTimeouts {timeoutMs : Nat} (accounted : Accounted s) (now : Nat) :
    Accounted (s.step timeoutMs (.checkTimeouts now)) := by
  obtain ⟨split, lengths⟩ := late_splits s now
  refine ⟨accounted.keyed.filter _, fun number => ?_, ?_, fun r inside => ?_, fun number => ?_, ?_⟩
  · refine Eq.trans ?_ (accounted.once number)
    have parts := split number
    simp only [step, completed, occurs_append]
    omega
  · have total := accounted.total
    simp only [step, completed, List.length_append] at total ⊢
    omega
  · exact accounted.seqs r (List.mem_filter.mp inside).1
  · have fired := accounted.fired number
    have few := @fires_filterMap number _ (number_timeoutOf s.registrations) (s.late now)
    simp only [step, Managed.fired, completed, fires_append, occurs_append] at fired ⊢
    omega
  · intro c inside
    have inside : c ∈ s.ran ++ (s.due ++ (s.late now).filterMap (timeoutOf s.registrations)) := inside
    rw [← List.append_assoc] at inside
    obtain old | new := List.mem_append.mp inside
    · exact accounted.proper c old
    · exact proper_timeouts accounted (fun r there => (List.mem_filter.mp there).1) c new

/-- A cancelled request runs no callback. -/
theorem accounted_cancelled (accounted : Accounted s) {requests : ClientRequests} {gone : List PendingRequest}
    (keyed : requests.pending.Pairwise fun a b => a.drawn.seq ≠ b.drawn.seq)
    (parts : ∀ number, occurs number gone + occurs number requests.pending = occurs number s.requests.pending)
    (lengths : gone.length + requests.pending.length = s.requests.pending.length)
    (were : requests.pending ⊆ s.requests.pending) :
    Accounted { s with requests := requests, cancelled := s.cancelled ++ gone } := by
  refine ⟨keyed, fun number => ?_, ?_, fun r inside => accounted.seqs r (were inside), accounted.fired, accounted.proper⟩
  · have once := accounted.once number
    have split := parts number
    simp only [completed, occurs_append] at once ⊢
    rw [← once]
    omega
  · have total := accounted.total
    simp only [completed, List.length_append] at total ⊢
    omega

/-- Every event keeps the account. -/
theorem accounted_step {timeoutMs : Nat} (accounted : Accounted s) (event : ManagerEvent) :
    Accounted (s.step timeoutMs event) := by
  cases event with
  | addPending registration now => exact accounted_addPending accounted registration now
  | handleResponse resp => exact accounted_handleResponse accounted resp
  | checkTimeouts now => exact accounted_checkTimeouts accounted now
  | cancel seq =>
    obtain ⟨split, lengths⟩ := under_splits accounted.keyed seq
    exact accounted_cancelled accounted (accounted.keyed.filter _) split lengths fun r inside => (List.mem_filter.mp inside).1
  | cancelAll =>
    exact accounted_cancelled accounted .nil (fun number => rfl) rfl (List.nil_subset _)
  | run place =>
    rw [step]
    split
    · exact accounted
    · next callback there =>
      have moved : (s.due.eraseIdx place ++ [callback]).Perm s.due := by
        obtain ⟨inside, rfl⟩ := List.getElem?_eq_some_iff.mp there
        exact (List.perm_append_singleton _ _).trans (List.getElem_cons_eraseIdx_perm inside)
      have same : (s.ran ++ [callback] ++ s.due.eraseIdx place).Perm s.fired := by
        rw [List.append_assoc]
        exact (List.perm_append_comm.trans moved).append_left s.ran
      refine ⟨accounted.keyed, accounted.once, accounted.total, accounted.seqs, fun number => ?_, fun c inside => ?_⟩
      · exact (same.countP_eq _).trans_le (accounted.fired number)
      · exact accounted.proper c (same.mem_iff.mp inside)

theorem accounted_empty : Accounted {} :=
  ⟨.nil, fun _ => rfl, rfl, by simp, fun _ => Nat.le_refl _, by simp [Managed.fired]⟩

/-- Over every run of a request manager, whatever the seqs, at most one callback of a registration
    runs, and once; it is called with a packet of the registered seq, or with that seq; and the
    registrations are the pending, answered, timed out, replaced and cancelled ones, each of them
    in one place. -/
theorem completed_once (timeoutMs : Nat) (events : List ManagerEvent) :
    ((after (step timeoutMs) {} events).ran.map Callback.number).Nodup ∧
      (∀ c ∈ (after (step timeoutMs) {} events).ran, Proper (after (step timeoutMs) {} events).registrations c) ∧
      (∀ number < (after (step timeoutMs) {} events).registrations.length,
        occurs number ((after (step timeoutMs) {} events).requests.pending ++ (after (step timeoutMs) {} events).answered ++
          (after (step timeoutMs) {} events).timedOut ++ (after (step timeoutMs) {} events).replaced ++
          (after (step timeoutMs) {} events).cancelled) = 1) ∧
      (after (step timeoutMs) {} events).registrations.length =
        (after (step timeoutMs) {} events).requests.pending.length + (after (step timeoutMs) {} events).answered.length +
          (after (step timeoutMs) {} events).timedOut.length + (after (step timeoutMs) {} events).replaced.length +
          (after (step timeoutMs) {} events).cancelled.length := by
  have accounted : Accounted (after (step timeoutMs) {} events) :=
    @after_invariant_always Managed ManagerEvent (step timeoutMs) Accounted
      (fun _ event accounted => accounted_step accounted event) {} accounted_empty events
  revert accounted
  generalize after (step timeoutMs) {} events = s
  intro accounted
  refine ⟨?_, fun c inside => accounted.proper c (List.mem_append_left _ inside), fun number registered => ?_, ?_⟩
  · rw [List.nodup_iff_count]
    intro number
    have fired := accounted.fired number
    have once := accounted.once number
    have few : (s.ran.map Callback.number).count number = fires number s.ran := by
      rw [List.count, List.countP_map]
      rfl
    simp only [Managed.fired, fires_append] at fired
    split at once <;> omega
  · have once := accounted.once number
    rw [if_pos registered] at once
    simp only [completed, occurs_append] at once ⊢
    omega
  · have total := accounted.total
    simp only [completed, List.length_append] at total
    omega

end Managed
end NovaIIM.Client
