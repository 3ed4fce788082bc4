import NovaIIM.Services

/-!
Blocks, and who can lift them.

A block is a friendship row with the status `blocked`. `Blocks` and `Lifts` are
the calls in which its owner is told that it was set or lifted. Whatever a call
does, it leaves the row as it is, unless it lifts the block or is the deletion of
a friend by the blocked user (`DeletesBlocker`), whose own row still is normal.
-/
namespace NovaIIM
open Store
open Relation (ReflTransGen)

/-- A reply that carries nothing but a code and a text, as an event. -/
def rspEvent (conn : ConnId) (cmd : Cmd) (seq : UInt32) (e : Error) : Event :=
  .sent conn { cmd := cmd, seq := seq, uid := 0, body := .rspBase ⟨e.code, e.msg⟩ }

/-- The friendship row of `a` about `b` with a given status. -/
def IsRow (row : Friendship) (a b : Int) (status : FriendshipStatus) : Prop :=
  row.userId = a ∧ row.friendId = b ∧ row.status = status

/-- The request of the user `a` to block the user `b` is answered with OK. -/
def Blocks (w : World) (call : Call Request) (a b : Int) : Prop :=
  ∃ conn seq req, call.request = .friend (.block conn seq (some req)) ∧
    (call.connections conn).userId = a ∧
    (∃ target ∈ w.tables.users.rows, target.uid = req.targetUid ∧ target.id = b) ∧
    rspEvent conn .blockFriendAck seq errc.kOk ∈ (served handle w call).events

/-- The request of the user `a` to unblock the user `b` is answered with OK. -/
def Lifts (w : World) (call : Call Request) (a b : Int) : Prop :=
  ∃ conn seq req, call.request = .friend (.unblock conn seq (some req)) ∧
    (call.connections conn).userId = a ∧
    (∃ target ∈ w.tables.users.rows, target.uid = req.targetUid ∧ target.id = b) ∧
    rspEvent conn .unblockFriendAck seq errc.kOk ∈ (served handle w call).events

/-- The user `b` asks to delete `a` as a friend, and the row of `b` about `a` is normal. -/
def DeletesBlocker (w : World) (call : Call Request) (a b : Int) : Prop :=
  ∃ conn seq req, call.request = .friend (.deleteFriend conn seq (some req)) ∧
    (call.connections conn).userId = b ∧
    (∃ target ∈ w.tables.users.rows, target.uid = req.targetUid ∧ target.id = a) ∧
    ∃ row ∈ w.tables.friendships.rows, IsRow row b a .normal

namespace FriendService

/-- An unblocking that changes anything is answered with OK. -/
theorem handleUnblock_answers (conn : ConnId) (seq : UInt32) (w : World) (body : Option TargetReq) :
    (handleUnblock conn seq body).Ensures w fun o =>
      rspEvent conn .unblockFriendAck seq errc.kOk ∈ o.events ∨ o.state.tables = w.tables := by
  have stop : ∀ e (w' : World), w'.tables = w.tables → (sendRsp conn .unblockFriendAck seq e).Ensures w' fun o =>
      rspEvent conn .unblockFriendAck seq errc.kOk ∈ o.events ∨ o.state.tables = w.tables :=
    fun e w' same => .inr ((silent_sendRsp w').tables.trans same)
  refine ensures_peek (Prog.ensures_ite (fun _ => stop _ _ rfl) fun _ => ?_)
  cases body with
  | none => exact stop _ _ rfl
  | some req =>
    refine Prog.ensures_ite (fun _ => stop _ _ rfl) fun _ => ?_
    refine ensures_lookup (stop _ _ rfl) fun target _ => ensures_lookup (stop _ _ rfl) fun row _ => ?_
    refine Prog.ensures_ite (fun _ => stop _ _ rfl) fun _ => ?_
    refine ensures_execute (run_updateFriendshipStatus ..) (fun _ => stop _ _ rfl) fun _ => .inl ?_
    simp [sendRsp, sendPacket, send, rspEvent]

/-- A blocking that is answered with OK leaves the row. -/
theorem handleBlock_answers (conn : ConnId) (seq : UInt32) (w : World) (req : TargetReq) :
    (handleBlock conn seq (some req)).Ensures w fun o =>
      rspEvent conn .blockFriendAck seq errc.kOk ∈ o.events →
        ∃ target ∈ w.tables.users.rows, target.uid = req.targetUid ∧
          ∃ row ∈ o.state.tables.friendships.rows, IsRow row (w.mem.connections conn).userId target.id .blocked := by
  have stop : ∀ e (w' : World), e.code ≠ errc.kOk.code →
      (sendRsp conn .blockFriendAck seq e).Ensures w' fun o =>
        rspEvent conn .blockFriendAck seq errc.kOk ∈ o.events →
          ∃ target ∈ w.tables.users.rows, target.uid = req.targetUid ∧
            ∃ row ∈ o.state.tables.friendships.rows,
              IsRow row (w.mem.connections conn).userId target.id .blocked := by
    intro e w' bad ok
    simp only [sendRsp, sendPacket, send, rspEvent, Prog.run_emits, List.mem_singleton, Event.sent.injEq,
      Packet.mk.injEq, Body.rspBase.injEq, RspBase.mk.injEq] at ok
    exact absurd ok.2.2.2.2.1.symm bad
  refine ensures_peek (Prog.ensures_ite (fun _ => stop _ _ (by decide)) fun _ => ?_)
  refine Prog.ensures_ite (fun _ => stop _ _ (by decide)) fun _ => ?_
  refine Prog.ensures_ite (fun _ => stop _ _ (by decide)) fun _ => ?_
  refine ensures_lookup (stop _ _ (by decide)) fun target user => ?_
  obtain ⟨known, named⟩ := found_by_uid user
  refine ensures_lookup ?_ fun row found => Prog.ensures_ite (fun _ => stop _ _ (by decide)) fun _ => ?_
  · refine ensures_statement (run_insertFriendship ..) (fun _ => stop _ _ (by decide)) fun _ => ?_
    cases free : w.spend.spend.tables.friendships.taken _ with
    | true => exact stop _ _ (by decide)
    | false =>
      refine fun _ => ⟨target, known, named, _, Table.mem_insert.mpr (.inr ⟨free, rfl⟩), rfl, rfl, rfl⟩
  · have pair := List.find?_some found
    simp only [Bool.and_eq_true, decide_eq_true_eq] at pair
    refine ensures_execute (run_updateFriendshipStatus ..) (fun _ => stop _ _ (by decide)) fun _ _ => ?_
    refine ⟨target, known, named, _, Table.mem_update.mpr ⟨row, List.mem_of_find?_eq_some found, rfl⟩, ?_⟩
    simp [pair, IsRow]

end FriendService

/-! ### What leaves a row alone -/

private theorem friendships_step {call : SendCall} {phase next : MsgService.Phase call} {w w' : World}
    {events : List Event} (step : MsgService.SendStep w phase next w' events) :
    w'.tables.friendships = w.tables.friendships := by
  cases step with
  | unallocated s _ mem tables stuck => obtain same | incremented := tables <;> simp [*, Tables.incrMaxSeq]
  | allocated s conv _ mem tables faults able => simp [tables, Tables.incrMaxSeq]
  | deliver d d' _ _ saved mem tables pushes =>
    obtain same | ⟨_, _, _, _, -, -, written⟩ := tables <;> simp [*, Tables.updateMember]
  | _ => rfl

theorem friendships_send (call : SendCall) (w : World) :
    (call.program.run w).state.tables.friendships = w.tables.friendships := by
  obtain ⟨phase, -, same⟩ := @MsgService.send_invariant call
    (fun _ w' _ => w'.tables.friendships = w.tables.friendships)
    (fun phase next w' w'' sofar events same step => (friendships_step step).trans same) w rfl
  exact same

theorem friendships_group {t t' : Tables} (writes : ReflTransGen GroupWrite t t') :
    t'.friendships = t.friendships := by
  induction writes with
  | refl => rfl
  | tail _ last ih => 
    rw [← ih]
    cases last <;> rfl

/-- Deletion changes the two rows of the pair. -/
theorem mem_deleted {myId targetId conversationId : Int} {t t' : Tables} {row : Friendship}
    (writes : ReflTransGen (DeleteWrite myId targetId conversationId) t t')
    (inside : row ∈ t.friendships.rows) (mine : ¬(row.userId = myId ∧ row.friendId = targetId))
    (theirs : ¬(row.userId = targetId ∧ row.friendId = myId)) : row ∈ t'.friendships.rows := by
  induction writes with
  | refl => exact inside
  | tail _ last ih =>
    cases last with
    | mine now => exact Table.mem_update.mpr ⟨row, ih, by simp [mine]⟩
    | theirs now => exact Table.mem_update.mpr ⟨row, ih, by simp [theirs]⟩
    | left userId => exact ih

/-- Acceptance only adds rows. -/
theorem mem_accepted {fr : FriendRequest} {t t' : Tables} {row : Friendship}
    (writes : ReflTransGen (AcceptWrite fr) t t') (inside : row ∈ t.friendships.rows) :
    row ∈ t'.friendships.rows := by
  induction writes with
  | refl => exact inside
  | tail _ last ih =>
    cases last with
    | friendship f parties => exact Table.mem_insert.mpr (.inl ih)
    | _ => exact ih

/-- A call that neither lifts the block nor deletes the blocker leaves the row as it is. -/
theorem mem_performed {w : World} {call : Call Request} {row : Friendship} {a b : Int}
    (inside : row ∈ w.tables.friendships.rows) (block : IsRow row a b .blocked)
    (kept : ¬Lifts w call a b) (spared : ¬DeletesBlocker w call a b) :
    row ∈ (perform handle w call).tables.friendships.rows := by
  obtain ⟨owner, about, status⟩ := block
  have only : ∀ other ∈ w.tables.friendships.rows, other.userId = a → other.friendId = b → other = row :=
    fun other there first second => Table.eq_of_clash there inside (by simp [Row.clash, *])
  obtain ⟨send, -, program⟩ | ⟨effect, -⟩ := perform_cases w call
  · unfold perform
    rwa [program, friendships_send]
  generalize handled : (perform handle w call).tables = t' at effect
  generalize asked : call.request = request at effect
  cases effect with
  | group request writes => rwa [friendships_group writes]
  | conv request effect => cases effect <;> exact inside
  | msg request effect => cases effect <;> exact inside
  | friend request effect => 
    cases effect with
    | unchanged | requested | rejected => exact inside
    | accepted fr known pending mine writes => exact mem_accepted writes inside
    | deleted friend known normal mine target deletes named writes =>
      refine mem_deleted writes inside (fun pair => ?_) fun pair => ?_
      · have : friend = row := Table.eq_of_clash known inside (by simp [Row.clash, mine, named, pair])
        simp [← this, normal] at status
      · obtain ⟨conn, seq, req, rfl, user, uid⟩ := deletes
        have sender : call.me = call.connections conn := by rw [Call.me, asked]; rfl
        refine absurd ⟨conn, seq, req, asked, ?_, ⟨target, user, uid, pair.1.symm.trans owner⟩,
          friend, known, ?_, ?_, normal⟩ spared
        · rw [← sender, ← pair.2, about]
        · rw [mine, ← pair.2, about]
        · rw [named, ← pair.1, owner]
    | blocked friend known free mine now =>
      refine Table.mem_update.mpr ⟨row, inside, if_neg fun pair => free ?_⟩
      simp only [Bool.and_eq_true, decide_eq_true_eq] at pair
      have : friend = row := Table.eq_of_clash known inside (by simp [Row.clash, mine, pair])
      rw [this, status]
    | blockedNew f mine status => exact Table.mem_insert.mpr (.inl inside)
    | unblocked friend known blocked mine target unblocks named now =>
      obtain ⟨conn, seq, req, rfl, user, uid⟩ := unblocks
      have sender : call.me = call.connections conn := by rw [Call.me, asked]; rfl
      by_cases pair : row.userId = call.me.userId ∧ row.friendId = target.id
      · -- the call concerns this row, so it did not answer with OK
        have answers := FriendService.handleUnblock_answers conn seq (call.enter w) (some req)
        have same : served handle w call = (FriendService.handleUnblock conn seq (some req)).run (call.enter w) := by
          rw [served, asked]
          rfl
        rw [Prog.Ensures, ← same] at answers
        obtain ok | kept_ := answers
        · refine absurd ⟨conn, seq, req, asked, ?_, ⟨target, user, uid, ?_⟩, ok⟩ kept
          · rw [← sender, ← pair.1, owner]
          · rw [← pair.2, about]
        · rw [← handled, perform, kept_]
          exact inside
      · refine Table.mem_update.mpr ⟨row, inside, if_neg ?_⟩
        simpa using pair

/-- The owner of a block that was answered with OK has the row. -/
theorem blocks_row {w : World} {call : Call Request} {a b : Int} (blocks : Blocks w call a b) :
    ∃ row ∈ (perform handle w call).tables.friendships.rows, IsRow row a b .blocked := by
  obtain ⟨conn, seq, req, asked, sender, ⟨target, user, uid, id⟩, ok⟩ := blocks
  have same : served handle w call = (FriendService.handleBlock conn seq (some req)).run (call.enter w) := by
    rw [served, asked]
    rfl
  rw [same] at ok
  obtain ⟨found, user', uid', row, inside, isRow⟩ :=
    FriendService.handleBlock_answers conn seq (call.enter w) req ok
  have : found = target := Table.eq_of_clash user' user (by simp [Row.clash, uid, uid'])
  subst this
  rw [Surroundings.enter_connections, sender, id] at isRow
  exact ⟨row, by rwa [perform, same], isRow⟩

/-- A block lasts until its owner lifts it, in every run in which the blocked user
    does not delete the owner as a friend while the other row is normal. -/
theorem block_lasts (w : World) (block : Call Request) (calls : List (Call Request)) (a b : Int)
    (blocks : Blocks w block a b)
    (kept : Along (perform handle) (fun w call => ¬Lifts w call a b) (perform handle w block) calls)
    (spared : Along (perform handle) (fun w call => ¬DeletesBlocker w call a b) (perform handle w block) calls) :
    ∃ row ∈ (perform handle w block).tables.friendships.rows, IsRow row a b .blocked ∧
      row ∈ (after (perform handle) (perform handle w block) calls).tables.friendships.rows := by
  obtain ⟨row, inside, isRow⟩ := blocks_row blocks
  refine ⟨row, inside, isRow, ?_⟩
  exact @after_invariant _ _ (perform handle) _ (fun w => row ∈ w.tables.friendships.rows)
    (fun w call meets inside => mem_performed inside isRow meets.1 meets.2) _ inside _ (along_and.mpr ⟨kept, spared⟩)

/-- User 1 blocks user 2. -/
def blocking : Call Request := fromUser (.friend (.block 1 0 (some { targetUid := [2] })))

/-- User 2 deletes user 1 as a friend. -/
def deletion : Call Request := fromUser (.friend (.deleteFriend 2 0 (some { targetUid := [1] })))

private theorem blocking_blocks : Blocks (after (perform handle) twoUsers befriending) blocking 1 2 :=
  ⟨1, 0, { targetUid := [2] }, rfl, rfl, by decide, List.Mem.head _⟩

/-- The blocked user lifts the block: user 1 befriends and blocks user 2, who then
    deletes user 1 as a friend. -/
theorem block_lifted_by_target :
    ¬∀ (before calls : List (Call Request)) (block : Call Request) (a b : Int),
      Blocks (after (perform handle) twoUsers before) block a b →
      Along (perform handle) (fun w call => ¬Lifts w call a b)
        (perform handle (after (perform handle) twoUsers before) block) calls →
      ∃ row ∈ (after (perform handle) (perform handle (after (perform handle) twoUsers before) block)
        calls).tables.friendships.rows, IsRow row a b .blocked := by
  intro claim
  have unlifted : ∀ w, ¬Lifts w deletion 1 2 := by
    rintro w ⟨conn, seq, req, other, -⟩
    simp [deletion, fromUser] at other
  obtain ⟨row, inside, isRow⟩ :=
    claim befriending [deletion] blocking 1 2 blocking_blocks ⟨unlifted _, trivial⟩
  have none : ∀ row ∈ (after (perform handle) (perform handle (after (perform handle) twoUsers befriending)
      blocking) [deletion]).tables.friendships.rows, ¬(row.userId = 1 ∧ row.friendId = 2 ∧ row.status = .blocked) := by
    decide
  exact none row inside isRow

/-- A block through which user 2 asks for the list of friends. -/
theorem block_lasts_unlifted :
    ∃ row ∈ (perform handle (after (perform handle) twoUsers befriending) blocking).tables.friendships.rows,
      IsRow row 1 2 .blocked ∧
        row ∈ (after (perform handle) (perform handle (after (perform handle) twoUsers befriending) blocking)
          [fromUser (.friend (.getFriendList 2 0))]).tables.friendships.rows :=
  block_lasts (after (perform handle) twoUsers befriending) blocking _ 1 2 blocking_blocks
    ⟨fun ⟨_, _, _, other, _⟩ => by simp [fromUser] at other, trivial⟩
    ⟨fun ⟨_, _, _, other, _⟩ => by simp [fromUser] at other, trivial⟩

end NovaIIM
