import NovaIIM.SyncRace

/-!
Sends step by step, with other requests in between.

The threads of the pool are sends; between their steps the surroundings change
and other requests are served. In every state of such a run the stored messages
have distinct seqs within the `max_seq` of their conversations (`traffic_seqs`),
whatever is on its way and whatever has failed.
-/
namespace NovaIIM
open Store MsgService

/-- What happens between the steps of the sends. -/
inductive Meanwhile where
  | around (surroundings : Surroundings)
  | serves (call : Call Request)

def Meanwhile.act : Meanwhile → World → World
  | around surroundings, w => surroundings.enter w
  | serves call, w => perform handle w call

/-- The state of the server after a run of sends among other requests. -/
def traffic (w : World) (moves : List (Move SendCall Meanwhile)) : World :=
  (after (Pool.step SendCall.program Meanwhile.act) { shared := w } moves).shared

section Allocations
variable {t t' : Tables} {held : List (Option (Int × Int))}

/-- Writes that store nothing new leave the seqs on their way alone. -/
private theorem allocations_kept (alloc : Allocations t held) (keeps : Keeps t t')
    (old : ∀ m' ∈ t'.messages.rows, ∃ m ∈ t.messages.rows, Restatus m m') : Allocations t' held := by
  refine ⟨keeps.inv alloc.inv, ?_, ?_, alloc.apart⟩
  · intro j conversationId q holds
    obtain ⟨low, conv, known, named, high⟩ := alloc.within j conversationId q holds
    obtain ⟨conv', known', same, up⟩ := keeps.grows.conversations conv known
    exact ⟨low, conv', known', same.trans named, high.trans up⟩
  · intro j conversationId q holds m' stored
    obtain ⟨m, inside, same⟩ := old m' stored.1
    rw [same]
    exact alloc.unused j conversationId q holds m ⟨inside, by rw [← stored.2, same]⟩

/-- An effect other than a send's stores nothing new. -/
private theorem effect_old {me : Connection} {request : Request} (effect : Effect me t t' request) :
    ∀ m' ∈ t'.messages.rows, ∃ m ∈ t.messages.rows, Restatus m m' := by
  intro m' inside
  obtain same | ⟨id, status, recalled⟩ := messages_effect effect
  · exact ⟨m', same ▸ inside, .refl m'⟩
  · rw [recalled] at inside
    obtain ⟨m, there, rfl⟩ := Table.mem_update.mp inside
    refine ⟨m, there, ?_⟩
    split
    · rfl
    · exact .refl m

/-- A send that runs through leaves what the others hold alone. -/
private theorem allocations_send (send : SendCall) {w : World} (alloc : Allocations w.tables held) :
    Allocations (send.program.run w).state.tables held := by
  have start : Allocations w.tables (held ++ [none]) := alloc.sub fun _ _ => held_append
  obtain ⟨phase, -, kept⟩ := @send_invariant send
    (fun phase w' _ => Allocations w'.tables (held ++ [phase.held]))
    (fun phase next w w' _ _ now step => by
      have here : (held ++ [phase.held])[held.length]? = some phase.held := by simp
      simpa using allocations_step now here (seqStep step)) w start
  refine kept.sub fun j z holds => ?_
  rwa [List.getElem?_append_left (List.getElem?_eq_some_iff.mp holds).1]

private theorem allocations_served (call : Call Request) {w : World} (alloc : Allocations w.tables held) :
    Allocations (perform handle w call).tables held := by
  obtain ⟨send, -, program⟩ | ⟨effect, -⟩ := perform_cases w call
  · rw [perform, program]
    exact allocations_send send alloc
  · exact allocations_kept alloc (keeps_effect effect) (effect_old effect)

end Allocations

/-- What the sends of a pool hold. -/
private def Allocated (s : sendMachine.State) : Prop :=
  Allocations s.shared.tables (s.handlers.map fun h => @Phase.held h.1 h.2)

private theorem allocated_move (s : sendMachine.State) (move : Move SendCall Meanwhile) (s' : sendMachine.State)
    (moves : Machine.Moves Meanwhile.act s move s') (alloc : Allocated s) : Allocated s' := by
  cases moves with
  | idle => exact alloc
  | start call =>
    rw [Allocated, List.map_append]
    exact alloc.sub fun _ _ => held_append
  | environment change =>
    cases change with
    | around surroundings => exact alloc
    | serves call => exact allocations_served call alloc
  | advance thread call phase next shared events here step =>
    have sends : SendStep s.shared phase next shared events := step
    have held : (s.handlers.map fun h => @Phase.held h.1 h.2)[thread]? = some phase.held := by
      rw [List.getElem?_map, here]
      rfl
    rw [Allocated, List.map_set]
    exact allocations_step alloc held (seqStep sends)

/-- In every state of every run from a database without conversations the seqs of a
    conversation are distinct and within its `max_seq`. -/
theorem traffic_seqs {w : World} (messages : w.tables.messages.rows = [])
    (conversations : w.tables.conversations.rows = []) (moves : List (Move SendCall Meanwhile)) :
    SeqInv (· ≠ ·) (traffic w moves).tables := by
  have inv : SeqInv (· ≠ ·) w.tables := ⟨by simp [messages], by simp [messages], by simp [conversations]⟩
  have initially : Allocated ({ shared := w } : sendMachine.State) := ⟨inv, by simp, by simp, by simp⟩
  have always := @along_of_forall _ _ (Pool.step SendCall.program Meanwhile.act) (fun _ _ => True)
    (fun _ _ => trivial) { shared := w } moves
  obtain ⟨s, same, alloc⟩ := Machine.invariant
    (fun s move s' _ moves alloc => allocated_move s move s' moves alloc) initially always
  have pool : after (Pool.step SendCall.program Meanwhile.act) { shared := w } moves = s.pool := same.symm
  rw [traffic, pool]
  exact alloc.inv

end NovaIIM
