import Mathlib.Data.Nat.ModEq
import NovaIIM.PacketCodec
import NovaIIM.Runs

/-!
Sequence numbers of the client (`core/client_context.h`, `core/request_manager.cpp`).

Threads draw a seq from a 32-bit counter and register requests under it later, while the
network thread takes packets to be responses to what is registered, and to be pushes
otherwise. The number of the call that drew a seq goes with it, so that a seq that has come
round again can be told from the one before: a call collides exactly if its number is a
multiple of 2^32, or differs from that of a pending request by one (`Collides`).
-/
namespace NovaIIM.Client

/-- A seq that a call of `NextSeq` returned, with the number of the call. -/
structure SeqCall where
  call : Nat
  seq : UInt32
deriving DecidableEq, Repr

structure PendingRequest where
  drawn : SeqCall
  deadline : Nat
deriving DecidableEq, Repr

/-- The counter of `ClientContext` and the table of `RequestManager`. The calls so far are
    counted, and those whose seq has not been used yet are known. -/
structure ClientRequests where
  seqCounter : UInt32 := 1
  pending : List PendingRequest := []
  calls : Nat := 0
  held : List SeqCall := []

/-- What becomes of a packet. -/
inductive Dispatch where
  | consumed (r : PendingRequest)
  | published (topic : Bytes)
  | ignored
deriving DecidableEq, Repr

namespace ClientRequests

def init : ClientRequests := {}

/-- `ClientContext::NextSeq`. -/
def nextSeq (s : ClientRequests) : UInt32 × ClientRequests :=
  (s.seqCounter,
    { s with
      seqCounter := s.seqCounter + 1
      calls := s.calls + 1
      held := ⟨s.calls + 1, s.seqCounter⟩ :: s.held })

/-- `RequestManager::AddPending`; a request under the same seq is evicted. -/
def addPending (timeoutMs : Nat) (s : ClientRequests) (drawn : SeqCall) (now : Nat) : ClientRequests :=
  { s with
    pending := ⟨drawn, now + timeoutMs * 1000000⟩ :: s.pending.filter fun r => r.drawn.seq ≠ drawn.seq
    held := s.held.erase drawn }

/-- `RequestManager::HandleResponse`. -/
def handleResponse (s : ClientRequests) (seq : UInt32) : Option PendingRequest × ClientRequests :=
  match s.pending.find? fun r => r.drawn.seq = seq with
  | none => (none, s)
  | some r => (some r, { s with pending := s.pending.filter fun r => r.drawn.seq ≠ seq })

/-- `RequestManager::CheckTimeouts`. -/
def checkTimeouts (s : ClientRequests) (now : Nat) : ClientRequests :=
  { s with pending := s.pending.filter fun r => now < r.deadline }

/-- `RequestManager::Cancel`. -/
def cancel (s : ClientRequests) (seq : UInt32) : ClientRequests :=
  { s with pending := s.pending.filter fun r => r.drawn.seq ≠ seq }

/-- `RequestManager::CancelAll`. -/
def cancelAll (s : ClientRequests) : ClientRequests := { s with pending := [] }

end ClientRequests

/-- The topic of a push of the server, by its command. -/
def pushTopic (cmd : UInt16) : Option Bytes :=
  if cmd = 0x0102 then some (ascii "PushMsg")
  else if cmd = 0x0107 then some (ascii "RecallNotify")
  else if cmd = 0x003E then some (ascii "FriendNotify")
  else if cmd = 0x011A then some (ascii "ConvUpdate")
  else if cmd = 0x0516 then some (ascii "GroupNotify")
  else if cmd = 0x0006 then some (ascii "KickNotify")
  else none

/-- The callback of `SetupPacketDispatch`, where `deserializes` says whether the body is one of
    its command. -/
def dispatch (s : ClientRequests) (pkt : RawPacket) (deserializes : Bool) : Dispatch × ClientRequests :=
  match s.handleResponse pkt.seq with
  | (some r, s) => (.consumed r, s)
  | (none, s) =>
    match pushTopic pkt.cmd with
    | some topic => (if deserializes then .published topic else .ignored, s)
    | none => (.ignored, s)

/-- What happens to the requests of a client. A seq is registered once. -/
inductive RequestEvent where
  | nextSeq
  | addPending (drawn : SeqCall) (now : Nat)
  | discard (drawn : SeqCall)
  | receive (pkt : RawPacket) (deserializes : Bool)
  | checkTimeouts (now : Nat)
  | cancel (seq : UInt32)
  | cancelAll

/-- One step of the client. -/
def ClientRequests.step (timeoutMs : Nat) (s : ClientRequests) : RequestEvent → ClientRequests
  | .nextSeq => s.nextSeq.2
  | .addPending drawn now => if drawn ∈ s.held then s.addPending timeoutMs drawn now else s
  | .discard drawn => { s with held := s.held.erase drawn }
  | .receive pkt deserializes => (dispatch s pkt deserializes).2
  | .checkTimeouts now => s.checkTimeouts now
  | .cancel seq => s.cancel seq
  | .cancelAll => s.cancelAll

/-- What is promised of a step: a new seq is neither 0 nor that of a pending request, and a push
    goes to the event bus. -/
def SeqLaw (s : ClientRequests) : RequestEvent → Prop
  | .nextSeq => s.nextSeq.1 ≠ 0 ∧ ∀ r ∈ s.pending, r.drawn.seq ≠ s.nextSeq.1
  | .receive pkt true => pkt.seq = 0 → ∀ topic ∈ pushTopic pkt.cmd, (dispatch s pkt true).1 = .published topic
  | _ => True

/-- A call of `NextSeq` comes a multiple of 2^32 calls after the start, or after the call of a
    request that is pending. -/
def Collides (s : ClientRequests) : RequestEvent → Prop
  | .nextSeq => 2 ^ 32 ∣ s.calls + 1 ∨ ∃ r ∈ s.pending, 2 ^ 32 ∣ s.calls + 1 - r.drawn.call
  | _ => False

/-! ### The numbers of the calls -/

/-- A seq is the number of its call modulo 2^32, and not 0. -/
structure Numbered (calls : Nat) (d : SeqCall) : Prop where
  word : d.seq = UInt32.ofNat d.call
  earlier : 1 ≤ d.call ∧ d.call ≤ calls
  nonzero : d.seq ≠ 0

/-- The counter and every seq in use are numbered. -/
structure Counted (s : ClientRequests) : Prop where
  counter : s.seqCounter = UInt32.ofNat (s.calls + 1)
  held : ∀ d ∈ s.held, Numbered s.calls d
  pending : ∀ r ∈ s.pending, Numbered s.calls r.drawn

theorem Numbered.mono {calls calls' : Nat} {d : SeqCall} (numbered : Numbered calls d) (later : calls ≤ calls') :
    Numbered calls' d :=
  ⟨numbered.word, ⟨numbered.earlier.1, Nat.le_trans numbered.earlier.2 later⟩, numbered.nonzero⟩

theorem ofNat_eq_zero {n : Nat} : UInt32.ofNat n = 0 ↔ 2 ^ 32 ∣ n := by
  rw [← UInt32.toNat_inj, UInt32.toNat_ofNat', UInt32.toNat_zero]
  exact Nat.dvd_iff_mod_eq_zero.symm

theorem ofNat_eq {m n : Nat} (le : m ≤ n) : UInt32.ofNat m = UInt32.ofNat n ↔ 2 ^ 32 ∣ n - m := by
  rw [← UInt32.toNat_inj, UInt32.toNat_ofNat', UInt32.toNat_ofNat']
  exact (Nat.modEq_iff_dvd' le)

variable {s : ClientRequests}

/-- No request is pending under the seq of a push. -/
theorem Counted.handleResponse_zero (counted : Counted s) : s.handleResponse 0 = (none, s) := by
  have missing : s.pending.find? (fun r => decide (r.drawn.seq = 0)) = none :=
    List.find?_eq_none.mpr fun r inside => by simpa using (counted.pending r inside).nonzero
  rw [ClientRequests.handleResponse, missing]

/-- As long as no seq in use is 0, the law is kept exactly by the calls that do not collide. -/
theorem seqLaw_iff (counted : Counted s) (event : RequestEvent) : SeqLaw s event ↔ ¬Collides s event := by
  cases event with
  | nextSeq =>
    have zero : s.nextSeq.1 = 0 ↔ 2 ^ 32 ∣ s.calls + 1 := by
      rw [ClientRequests.nextSeq, counted.counter, ofNat_eq_zero]
    have same : ∀ r ∈ s.pending, r.drawn.seq = s.nextSeq.1 ↔ 2 ^ 32 ∣ s.calls + 1 - r.drawn.call := by
      intro r inside
      have numbered := counted.pending r inside
      rw [ClientRequests.nextSeq, counted.counter, numbered.word]
      exact ofNat_eq (Nat.le_succ_of_le numbered.earlier.2)
    simp only [SeqLaw, Collides, not_or, not_exists, not_and, ne_eq, zero]
    exact and_congr_right fun _ => forall₂_congr fun r inside => not_congr (same r inside)
  | receive pkt deserializes =>
    refine iff_of_true ?_ id
    cases deserializes with
    | false => trivial
    | true =>
      intro push topic known
      have known' : pushTopic pkt.cmd = some topic := known
      simp only [dispatch, push, counted.handleResponse_zero, known', if_true]
  | _ => exact iff_of_true trivial id

/-- Fewer requests. -/
theorem Counted.filter (counted : Counted s) (selected : PendingRequest → Bool) :
    Counted { s with pending := s.pending.filter selected } :=
  ⟨counted.counter, counted.held, fun r inside => counted.pending r (List.mem_filter.mp inside).1⟩

theorem counted_step {timeoutMs : Nat} (counted : Counted s) {event : RequestEvent} (law : SeqLaw s event) :
    Counted (s.step timeoutMs event) := by
  cases event with
  | nextSeq =>
    have later : s.calls ≤ s.calls + 1 := Nat.le_succ _
    refine ⟨?_, List.forall_mem_cons.mpr ⟨⟨counted.counter, ⟨Nat.succ_pos _, Nat.le_refl _⟩, law.1⟩, fun d inside =>
      (counted.held d inside).mono later⟩, fun r inside => (counted.pending r inside).mono later⟩
    show s.seqCounter + 1 = UInt32.ofNat (s.calls + 1 + 1)
    rw [counted.counter, UInt32.ofNat_add (s.calls + 1)]
    rfl
  | addPending drawn now =>
    simp only [ClientRequests.step]
    split
    · rename_i inside
      refine ⟨counted.counter, fun d there => counted.held d (List.mem_of_mem_erase there), ?_⟩
      exact List.forall_mem_cons.mpr ⟨counted.held drawn inside, fun r there => counted.pending r (List.mem_filter.mp there).1⟩
    · exact counted
  | discard drawn => exact ⟨counted.counter, fun d there => counted.held d (List.mem_of_mem_erase there), counted.pending⟩
  | receive pkt deserializes =>
    have kept : Counted (s.handleResponse pkt.seq).2 := by
      unfold ClientRequests.handleResponse
      split
      · exact counted
      · exact counted.filter _
    simp only [ClientRequests.step, dispatch]
    cases found : s.handleResponse pkt.seq with
    | mk r s' =>
      rw [found] at kept
      cases r with
      | some r => exact kept
      | none => cases pushTopic pkt.cmd <;> exact kept
  | checkTimeouts now => exact counted.filter _
  | cancel seq => exact counted.filter _
  | cancelAll => exact ⟨counted.counter, counted.held, fun _ inside => absurd inside List.not_mem_nil⟩

theorem counted_init : Counted .init :=
  ⟨rfl, fun _ inside => absurd inside List.not_mem_nil, fun _ inside => absurd inside List.not_mem_nil⟩

/-- In every run of a client its seqs collide with nothing, and every push is dispatched, exactly
    if no call of `NextSeq` collides with the start or with a pending request. -/
theorem client_seqs (timeoutMs : Nat) (events : List RequestEvent) :
    Along (ClientRequests.step timeoutMs) SeqLaw .init events ↔
      Along (ClientRequests.step timeoutMs) (fun s event => ¬Collides s event) .init events :=
  @along_iff_of_kept _ _ (ClientRequests.step timeoutMs) SeqLaw (fun s event => ¬Collides s event) Counted
    (fun _ event counted => seqLaw_iff counted event) (fun _ _ counted law => counted_step counted law) .init counted_init events

/-- Calls of `NextSeq` alone. -/
theorem after_calls (timeoutMs n : Nat) :
    (after (ClientRequests.step timeoutMs) .init (List.replicate n .nextSeq)).seqCounter = UInt32.ofNat (n + 1) := by
  induction n with
  | zero => rfl
  | succ n ih =>
    rw [List.replicate_succ', after_snoc, ClientRequests.step, ClientRequests.nextSeq, ih]
    exact (UInt32.ofNat_add (n + 1) 1).symm

/-- The call number 2^32 returns 0. -/
theorem seqs_come_round :
    ¬Along (ClientRequests.step 10000) SeqLaw .init (List.replicate (2 ^ 32 - 1) .nextSeq ++ [.nextSeq]) := by
  rw [along_append]
  rintro ⟨-, law, -⟩
  refine law.1 ?_
  rw [ClientRequests.nextSeq, after_calls]
  decide

end NovaIIM.Client
