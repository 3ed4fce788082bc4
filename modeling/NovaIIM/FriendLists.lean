import NovaIIM.FriendTransactions
import NovaIIM.Refriending

/-!
Friend lists and the two rows behind a friendship.

A user is on another's list when the row of the other for the user is `Normal`.
Acceptance and deletion write both rows of a pair, a block and its lifting only
one. While a row is blocked the other may still be normal, and a row whose block
is lifted is deleted: the lists stay symmetric as long as no block is lifted
against a normal row (`friend_lists_symmetric`).
-/
namespace NovaIIM
open Store FriendService

/-! ### The two rows -/

namespace FriendService
section HasStatus
variable {t : Tables} {a b userId friendId : Int} {status : FriendshipStatus}

/-- An update leaves the rows of other pairs alone. -/
theorem hasStatus_elsewhere {new : FriendshipStatus} {now : Bytes} (other : ¬(a = userId ∧ b = friendId)) :
    HasStatus (t.setFriendshipStatus userId friendId new now) a b status ↔ HasStatus t a b status := by
  constructor
  · rintro ⟨row, there, user, friend, has⟩
    rcases Table.mem_update.mp there with ⟨old, inside, rfl⟩
    by_cases selected : (old.userId = userId && old.friendId = friendId) = true
    · rw [if_pos selected] at user friend
      simp only [Bool.and_eq_true, decide_eq_true_eq] at selected
      exact absurd ⟨user.symm.trans selected.1, friend.symm.trans selected.2⟩ other
    · rw [if_neg selected] at user friend has
      exact ⟨old, inside, user, friend, has⟩
  · rintro ⟨row, there, user, friend, has⟩
    refine ⟨row, Table.mem_update.mpr ⟨row, there, if_neg ?_⟩, user, friend, has⟩
    simp only [Bool.and_eq_true, decide_eq_true_eq]
    rw [user, friend]
    exact other

/-- An update gives the row of its pair, if there is one, the new status. -/
theorem hasStatus_updated {new : FriendshipStatus} {now : Bytes} :
    HasStatus (t.setFriendshipStatus a b new now) a b status ↔
      status = new ∧ ∃ old, HasStatus t a b old := by
  constructor
  · rintro ⟨row, there, user, friend, rfl⟩
    rcases Table.mem_update.mp there with ⟨old, inside, rfl⟩
    by_cases selected : (old.userId = a && old.friendId = b) = true
    · rw [if_pos selected]
      simp only [Bool.and_eq_true, decide_eq_true_eq] at selected
      exact ⟨rfl, old.status, old, inside, selected.1, selected.2, rfl⟩
    · rw [if_neg selected] at user friend
      exact absurd (by simp [user, friend]) selected
  · rintro ⟨rfl, old, row, there, user, friend, -⟩
    refine ⟨_, Table.mem_update.mpr ⟨row, there, if_pos (by simp [user, friend])⟩, user, friend, rfl⟩

theorem hasStatus_inserted {f : Friendship} (free : t.friendships.taken f = false) :
    HasStatus (t.insertFriendship f) a b status ↔
      HasStatus t a b status ∨ f.userId = a ∧ f.friendId = b ∧ f.status = status := by
  constructor
  · rintro ⟨row, there, user, friend, has⟩
    rcases Table.mem_insert.mp there with old | ⟨-, rfl⟩
    · exact .inl ⟨row, old, user, friend, has⟩
    · exact .inr ⟨user, friend, has⟩
  · rintro (⟨row, there, pair⟩ | ⟨user, friend, has⟩)
    · exact ⟨row, Table.mem_insert.mpr (.inl there), pair⟩
    · exact ⟨_, Table.mem_insert.mpr (.inr ⟨free, rfl⟩), user, friend, has⟩

end HasStatus
end FriendService

/-! ### Symmetry -/

/-- A normal row has a row on the other side that is normal or blocked. -/
def Returned (t : Tables) (a b : Int) : Prop :=
  HasStatus t a b .normal → HasStatus t b a .normal ∨ HasStatus t b a .blocked

/-- The request lifts the block of one of the two on the other while the other's row is normal. -/
def LiftsAgainst (a b : Int) (w : World) (call : Call FriendService.Request) : Prop :=
  ∃ conn seq req, ∃ target ∈ w.tables.users.rows, call.request = .unblock conn seq (some req) ∧
    target.uid = req.targetUid ∧
    ((call.connections conn).userId = a ∧ target.id = b ∨ (call.connections conn).userId = b ∧ target.id = a) ∧
    HasStatus w.tables (call.connections conn).userId target.id .blocked ∧
    HasStatus w.tables target.id (call.connections conn).userId .normal

/-- No transaction is left open: a ROLLBACK that was executed has succeeded. -/
def RollsBack {ι : Type} (handle : ι → Handler) (w : World) (call : Call ι) : Prop :=
  (perform handle w call).saved = none

section Step
variable {t t' : Tables} {a b : Int}

/-- Setting the status of a row to anything but normal keeps the relation, unless the row
    on the other side is normal and is left without a return. -/
private theorem returned_set {userId friendId : Int} {new : FriendshipStatus} {now : Bytes}
    (returned : Returned t a b) (abnormal : new ≠ .normal)
    (safe : userId = b → friendId = a → new = .blocked ∨ ¬HasStatus t a b .normal) :
    Returned (t.setFriendshipStatus userId friendId new now) a b := by
  intro normal
  have old : HasStatus t a b .normal := by
    by_cases own : a = userId ∧ b = friendId
    · rw [← own.1, ← own.2, hasStatus_updated] at normal
      exact absurd normal.1.symm abnormal
    · exact (hasStatus_elsewhere own).mp normal
  by_cases other : b = userId ∧ a = friendId
  · rcases safe other.1.symm other.2.symm with blocked | stranger
    · right
      rw [← other.1, ← other.2, hasStatus_updated]
      exact ⟨blocked.symm, (returned old).elim (fun has => ⟨_, has⟩) fun has => ⟨_, has⟩⟩
    · exact absurd old stranger
  · rw [hasStatus_elsewhere other, hasStatus_elsewhere other]
    exact returned old

private theorem returned_accepted {fr : FriendRequest} {now : Bytes} (accepted : Accepted fr now t t')
    (returned : Returned t a b) : Returned t' a b := by
  obtain ⟨rfl, -, -, there, back⟩ := accepted
  have rows : ∀ x y status, HasStatus (acceptedTables fr now t) x y status ↔
      (HasStatus t x y status ∨ fr.fromId = x ∧ fr.toId = y ∧ .normal = status) ∨
        fr.toId = x ∧ fr.fromId = y ∧ .normal = status := by
    intro x y status
    exact (hasStatus_inserted back).trans (or_congr_left (hasStatus_inserted there))
  intro normal
  rw [rows, rows]
  rw [rows] at normal
  rcases normal with (old | ⟨rfl, rfl, -⟩) | ⟨rfl, rfl, -⟩
  · rcases returned old with has | has
    · exact .inl (.inl (.inl has))
    · exact .inr (.inl (.inl has))
  · exact .inl (.inr ⟨rfl, rfl, rfl⟩)
  · exact .inl (.inl (.inr ⟨rfl, rfl, rfl⟩))

private theorem returned_deleted {myId targetId conversationId : Int} {now : Bytes}
    (writes : applyAll (deleteWrites myId targetId conversationId now) t = some t')
    (returned : Returned t a b) : Returned t' a b := by
  have rows : t'.friendships =
      ((t.setFriendshipStatus myId targetId .deleted now).setFriendshipStatus targetId myId .deleted now).friendships := by
    unfold deleteWrites at writes
    split at writes <;> cases writes <;> rfl
  have same : ∀ x y status, HasStatus t' x y status ↔
      HasStatus ((t.setFriendshipStatus myId targetId .deleted now).setFriendshipStatus targetId myId .deleted now)
        x y status := by
    intro x y status
    rw [HasStatus, HasStatus, rows]
  rw [Returned, same, same, same]
  intro normal
  have untouched : ¬(a = targetId ∧ b = myId) ∧ ¬(a = myId ∧ b = targetId) := by
    constructor
    · rintro ⟨rfl, rfl⟩
      cases (hasStatus_updated.mp normal).1
    · rintro ⟨rfl, rfl⟩
      by_cases self : a = b
      · subst self
        cases (hasStatus_updated.mp normal).1
      · rw [hasStatus_elsewhere (fun both => self both.1), hasStatus_updated] at normal
        cases normal.1
  have kept : ∀ status, HasStatus ((t.setFriendshipStatus myId targetId .deleted now).setFriendshipStatus
      targetId myId .deleted now) b a status ↔ HasStatus t b a status := by
    intro status
    rw [hasStatus_elsewhere fun both => untouched.2 both.symm, hasStatus_elsewhere fun both => untouched.1 both.symm]
  rw [kept, kept]
  rw [hasStatus_elsewhere untouched.1, hasStatus_elsewhere untouched.2] at normal
  exact returned normal

end Step

/-- A step that does not lift a block against a normal row keeps the relation. -/
theorem returned_performed {a b : Int} (w : World) (call : Call FriendService.Request)
    (rollsBack : RollsBack FriendService.handle w call) (mutual_ : ¬LiftsAgainst a b w call)
    (returned : Returned w.tables a b) : Returned (perform FriendService.handle w call).tables a b := by
  have steps : (perform FriendService.handle w call).tables = w.tables ∨
      FriendStep _ _ _ w.tables call.request (perform FriendService.handle w call).tables :=
    FriendService.handle_steps call.request rollsBack
  generalize (perform FriendService.handle w call).tables = t' at steps ⊢
  rcases steps with rfl | step
  · exact returned
  generalize asked : call.request = request at step
  cases step with
  | requested | rejected => exact returned
  | accepted conn seq req fr known named mine pending action t' writes =>
    exact returned_accepted (accepted_of_writes writes) returned
  | deleted conn seq req target known named row there pair normal t' writes =>
    exact returned_deleted writes returned
  | blocked conn seq req target known named row there pair free =>
    exact returned_set returned (by decide) fun _ _ => .inl rfl
  | blockedStranger conn seq req target known named free =>
    intro normal
    rw [hasStatus_inserted free, hasStatus_inserted free]
    rcases (hasStatus_inserted free).mp normal with old | ⟨-, -, has⟩
    · rcases returned old with has | has
      · exact .inl (.inl has)
      · exact .inr (.inl has)
    · cases has
  | unblocked conn seq req target known named row there pair blocked =>
    refine returned_set returned (by decide) fun mine theirs => ?_
    right
    intro normal
    refine mutual_ ⟨conn, seq, req, target, known, asked, named, .inr ⟨mine, theirs⟩, ?_, ?_⟩
    · exact ⟨row, there, pair.1, pair.2, blocked⟩
    · have me : (call.connections conn).userId = b := mine
      rw [theirs, me]
      exact normal

/-! ### The lists -/

/-- The users on a friend list. -/
def listed (o : Outcome World Event Unit) : List Bytes :=
  o.events.flatMap fun
    | .sent _ { body := .getFriendListAck ack, .. } => ack.friends.map FriendItem.uid
    | _ => []

/-- A user asks for the friend list, and no statement fails. -/
structure AsksList (call : Call FriendService.Request) (user : User) : Prop where
  asks : ∃ conn seq, call.request = .getFriendList conn seq ∧ (call.connections conn).userId = user.id
  sound : call.faults = []

/-- A user who is not deleted is on the list when the row of the other is normal. -/
theorem mem_listed {w : World} {call : Call FriendService.Request} {a b : User} (asks : AsksList call a)
    (mine : a ∈ w.tables.users.rows) (known : b ∈ w.tables.users.rows) (standing : b.status ≠ .deleted) :
    b.uid ∈ listed (served FriendService.handle w call) ↔ HasStatus w.tables a.id b.id .normal := by
  obtain ⟨⟨conn, seq, asked, me⟩, sound⟩ := asks
  have positive : 1 ≤ a.id := (w.tables.users.bounded a mine).1
  have chain : (handleGetFriendList conn seq).Ensures (call.enter w) fun o =>
      b.uid ∈ listed o ↔ HasStatus w.tables a.id b.id .normal := by
    refine ensures_peek (Prog.ensures_ite (fun anonymous => ?_) fun _ => ?_)
    · rw [Surroundings.enter_connections, me] at anonymous
      omega
    refine sound_query sound (sound_findByIds (by simp [sound]) fun w' same _ => ?_)
    rw [Surroundings.enter_connections, me]
    simp only [Prog.Ensures, sendPacket, send, Prog.run_emits, listed, List.flatMap_singleton, List.mem_map,
      List.mem_filterMap, Option.map_eq_some_iff, spend_tables, Surroundings.enter_tables]
    constructor
    · rintro ⟨item, ⟨f, friend, user, found, rfl⟩, uid⟩
      have inside := List.mem_of_find?_eq_some found
      have named : user.id = f.friendId := by simpa using List.find?_some found
      have same : user = b :=
        Table.eq_of_clash (List.mem_filter.mp inside).1 known (by simp [Row.clash, show user.uid = b.uid from uid])
      have row := List.mem_filter.mp friend
      simp only [Bool.and_eq_true, decide_eq_true_eq] at row
      exact ⟨f, row.1, row.2.1, by rw [← named, same], row.2.2⟩
    · rintro ⟨f, there, user, friend, normal⟩
      have row : f ∈ w.tables.friendships.rows.filter fun r => r.userId = a.id && r.status = .normal :=
        List.mem_filter.mpr ⟨there, by simp [user, normal]⟩
      have found : (w.tables.users.rows.filter fun r =>
          r.id ∈ (w.tables.friendships.rows.filter fun r => r.userId = a.id && r.status = .normal).map
            Friendship.friendId && r.status ≠ .deleted).find? (fun u => u.id = f.friendId) = some b := by
        have inside : b.id ∈ (w.tables.friendships.rows.filter fun r => r.userId = a.id && r.status = .normal).map
            Friendship.friendId := friend ▸ List.mem_map_of_mem row
        rw [List.find?_filter]
        refine Table.find_eq known ?_ fun other inside' same => ?_
        · simp only [Bool.and_eq_true, decide_eq_true_eq]
          exact ⟨⟨inside, standing⟩, friend.symm⟩
        · simp only [Bool.and_eq_true, decide_eq_true_eq] at same
          exact Table.eq_of_id inside' known (same.2.trans friend)
      simp only [List.mem_map] at found
      exact ⟨_, ⟨f, row, b, found, rfl⟩, rfl⟩
  rw [served, asked]
  exact chain

/-- In every state of a run in which no ROLLBACK fails and no block between two users is
    lifted against a normal row, each of them is on the list of the other or neither is,
    unless one blocks the other. -/
theorem friend_lists_symmetric (w : World) (strangers : w.tables.friendships.rows = []) (a b : User)
    (calls : List (Call FriendService.Request))
    (rollsBack : Along (perform FriendService.handle) (RollsBack FriendService.handle) w calls)
    (mutual_ : Along (perform FriendService.handle) (fun w call => ¬LiftsAgainst a.id b.id w call) w calls)
    (known : a ∈ (after (perform FriendService.handle) w calls).tables.users.rows)
    (known' : b ∈ (after (perform FriendService.handle) w calls).tables.users.rows)
    (standing : a.status ≠ .deleted) (standing' : b.status ≠ .deleted)
    (unblocked : ∀ row ∈ (after (perform FriendService.handle) w calls).tables.friendships.rows,
      OfPair row a.id b.id → row.status ≠ .blocked)
    (call call' : Call FriendService.Request) (asks : AsksList call a) (asks' : AsksList call' b) :
    b.uid ∈ listed (served FriendService.handle (after (perform FriendService.handle) w calls) call) ↔
      a.uid ∈ listed (served FriendService.handle (after (perform FriendService.handle) w calls) call') := by
  have initially : Returned w.tables a.id b.id ∧ Returned w.tables b.id a.id := by
    constructor <;>
    · rintro ⟨row, there, -⟩
      rw [strangers] at there
      cases there
  have mirrored : ∀ w (call : Call FriendService.Request), LiftsAgainst b.id a.id w call → LiftsAgainst a.id b.id w call := by
    rintro w call ⟨conn, seq, req, target, known, asked, named, pair, rest⟩
    exact ⟨conn, seq, req, target, known, asked, named, pair.symm, rest⟩
  obtain ⟨there, back⟩ := @after_invariant _ _ (perform FriendService.handle) _
    (fun w => Returned w.tables a.id b.id ∧ Returned w.tables b.id a.id)
    (fun w call meets now => ⟨returned_performed w call meets.1 meets.2 now.1,
      returned_performed w call meets.1 (fun lifts => meets.2 (mirrored w call lifts)) now.2⟩)
    w initially calls (along_and.mpr ⟨rollsBack, mutual_⟩)
  rw [mem_listed asks known known' standing', mem_listed asks' known' known standing]
  have free : ∀ x y, (x = a.id ∧ y = b.id ∨ x = b.id ∧ y = a.id) →
      ¬HasStatus (after (perform FriendService.handle) w calls).tables x y .blocked := by
    rintro x y pair ⟨row, inside, user, friend, blocked⟩
    exact unblocked row inside (by rw [OfPair, user, friend]; exact pair) blocked
  constructor
  · intro normal
    exact (there normal).resolve_right (free _ _ (.inr ⟨rfl, rfl⟩))
  · intro normal
    exact (back normal).resolve_right (free _ _ (.inl ⟨rfl, rfl⟩))

/-! ### Runs of two users -/

/-- A request of one of the two users to the friend service, without database faults. -/
private def ofUser (request : FriendService.Request) : Call FriendService.Request :=
  { bothOnline with request := request }

/-- Users 1 and 2 become friends. -/
private def befriended : List (Call FriendService.Request) :=
  [ofUser (.addFriend 1 0 (some { targetUid := [2], remark := [] })),
    ofUser (.handleRequest 2 0 (some { requestId := 1, action := 1 }))]

/-- User 1 blocks user 2 and lifts the block. -/
private def blockedAndLifted : List (Call FriendService.Request) :=
  befriended ++ [ofUser (.block 1 0 (some { targetUid := [2] })), ofUser (.unblock 1 0 (some { targetUid := [2] }))]

/-- The users of the two connections. -/
private def firstUser : User := { id := 1, uid := [1], email := [1] }
private def secondUser : User := { id := 2, uid := [2], email := [2] }

/-- After a block that is lifted user 1 is on the list of user 2, and not the other way round. -/
theorem friend_lists_asymmetric :
    ¬∀ (a b : User) (calls : List (Call FriendService.Request)),
      a ∈ (after (perform FriendService.handle) twoUsers calls).tables.users.rows →
      b ∈ (after (perform FriendService.handle) twoUsers calls).tables.users.rows →
      a.status = .normal → b.status = .normal →
      (∀ row ∈ (after (perform FriendService.handle) twoUsers calls).tables.friendships.rows,
        OfPair row a.id b.id → row.status ≠ .blocked) →
      ∀ call call' : Call FriendService.Request, AsksList call a → AsksList call' b →
        (b.uid ∈ listed (served FriendService.handle (after (perform FriendService.handle) twoUsers calls) call) ↔
          a.uid ∈ listed (served FriendService.handle (after (perform FriendService.handle) twoUsers calls) call')) := by
  intro claim
  have lists := claim firstUser secondUser blockedAndLifted (by decide) (by decide) rfl rfl (by decide)
    (ofUser (.getFriendList 1 0)) (ofUser (.getFriendList 2 0)) ⟨⟨1, 0, rfl, rfl⟩, rfl⟩ ⟨⟨2, 0, rfl, rfl⟩, rfl⟩
  have mine : secondUser.uid ∉ listed (served FriendService.handle
      (after (perform FriendService.handle) twoUsers blockedAndLifted) (ofUser (.getFriendList 1 0))) := by decide
  have theirs : firstUser.uid ∈ listed (served FriendService.handle
      (after (perform FriendService.handle) twoUsers blockedAndLifted) (ofUser (.getFriendList 2 0))) := by decide
  exact mine (lists.mpr theirs)

/-- Two users who have become friends. -/
theorem friend_lists_symmetric_friends :
    secondUser.uid ∈ listed (served FriendService.handle
        (after (perform FriendService.handle) twoUsers befriended) (ofUser (.getFriendList 1 0))) ↔
      firstUser.uid ∈ listed (served FriendService.handle
        (after (perform FriendService.handle) twoUsers befriended) (ofUser (.getFriendList 2 0))) := by
  have noLift : ∀ (w : World) (request : FriendService.Request), (∀ conn seq body, request ≠ .unblock conn seq body) →
      ¬LiftsAgainst 1 2 w (ofUser request) := by
    rintro w request other ⟨conn, seq, req, target, -, asked, -⟩
    exact other conn seq (some req) asked
  exact friend_lists_symmetric twoUsers rfl firstUser secondUser befriended ⟨rfl, rfl, trivial⟩
    ⟨noLift _ _ (by simp), noLift _ _ (by simp), trivial⟩ (by decide) (by decide) (by decide) (by decide) (by decide)
    (ofUser (.getFriendList 1 0)) (ofUser (.getFriendList 2 0)) ⟨⟨1, 0, rfl, rfl⟩, rfl⟩ ⟨⟨2, 0, rfl, rfl⟩, rfl⟩

end NovaIIM
