import NovaIIM.Services

/-!
Accepting a friend request.

In a reachable state an acceptance without database faults gets as far as the two
friendship rows. They are inserted, so it succeeds when the pair has no row yet,
and rows left behind by a deletion or a block turn it away (`accepts_iff`).
-/
namespace NovaIIM
open Store FriendService
open Relation (ReflTransGen)

/-- The row is one of the two of a pair of users. -/
def OfPair (row : Friendship) (a b : Int) : Prop :=
  row.userId = a ∧ row.friendId = b ∨ row.userId = b ∧ row.friendId = a

instance (row : Friendship) (a b : Int) : Decidable (OfPair row a b) :=
  inferInstanceAs (Decidable (row.userId = a ∧ row.friendId = b ∨ row.userId = b ∧ row.friendId = a))

/-- The reply to a handled request, as an event. -/
def handledEvent (conn : ConnId) (seq : UInt32) (e : Error) (conversationId : Int) : Event :=
  .sent conn
    { cmd := .handleFriendReqAck, seq := seq, uid := 0,
      body := .handleFriendReqAck { code := e.code, msg := e.msg, conversationId := conversationId } }

/-- Two users are friends: a normal row for each direction, with one conversation
    of which both are members. -/
def Friends (t : Tables) (a b conversationId : Int) : Prop :=
  (∃ row ∈ t.friendships.rows, row.userId = a ∧ row.friendId = b ∧ row.status = .normal ∧
      row.conversationId = conversationId) ∧
    (∃ row ∈ t.friendships.rows, row.userId = b ∧ row.friendId = a ∧ row.status = .normal ∧
      row.conversationId = conversationId) ∧
    (∃ m ∈ t.members.rows, m.conversationId = conversationId ∧ m.userId = a) ∧
    ∃ m ∈ t.members.rows, m.conversationId = conversationId ∧ m.userId = b

/-! ### Reachable states -/

/-- What the friend service keeps about its tables. -/
structure FriendInv (t : Tables) : Prop where
  /-- requests are between two different users -/
  requests : ∀ fr ∈ t.friendRequests.rows, fr.fromId ≠ fr.toId ∧ 1 ≤ fr.toId
  /-- members belong to conversations that were created -/
  members : ∀ m ∈ t.members.rows, m.conversationId ≤ t.conversations.lastId

/-- The fields of a connection are unset or those of a registered user. -/
def Registered (t : Tables) (me : Connection) : Prop :=
  me.userId = 0 ∨ ∃ user ∈ t.users.rows, user.id = me.userId ∧ user.uid = me.uid

instance (t : Tables) (me : Connection) : Decidable (Registered t me) :=
  inferInstanceAs (Decidable (me.userId = 0 ∨ ∃ user ∈ t.users.rows, user.id = me.userId ∧ user.uid = me.uid))

private theorem inv_members {t t' : Tables} (inv : FriendInv t) (requests : t'.friendRequests = t.friendRequests)
    (fewer : ∀ m ∈ t'.members.rows, m ∈ t.members.rows ∨ m.conversationId ≤ t'.conversations.lastId)
    (created : t.conversations.lastId ≤ t'.conversations.lastId) : FriendInv t' := by
  refine ⟨requests ▸ inv.requests, fun m inside => ?_⟩
  obtain old | new := fewer m inside
  · have := inv.members m old
    omega
  · exact new

private theorem inv_status {t : Tables} (inv : FriendInv t) (id : Int) (status : FriendRequestStatus)
    (now : Bytes) : FriendInv (t.setRequestStatus id status now) := by
  refine ⟨fun fr inside => ?_, inv.members⟩
  obtain ⟨old, there, rfl⟩ := Table.mem_update.mp inside
  have := inv.requests old there
  split <;> simpa using this

private theorem inv_acceptWrite {fr : FriendRequest} {t t' : Tables} (inv : FriendInv t)
    (write : AcceptWrite fr t t') : FriendInv t' := by
  cases write with
  | marked now => exact inv_status inv _ _ _
  | conversation => exact inv_members inv rfl (fun m inside => .inl inside) (Table.lastId_le_insert _ _)
  | member conversationId userId party created =>
    refine inv_members inv rfl (fun m inside => ?_) le_rfl
    obtain old | ⟨-, rfl⟩ := Table.mem_insert.mp inside
    · exact .inl old
    · exact .inr created
  | friendship f parties => exact inv_members inv rfl (fun m inside => .inl inside) le_rfl

private theorem inv_deleteWrite {myId targetId conversationId : Int} {t t' : Tables} (inv : FriendInv t)
    (write : DeleteWrite myId targetId conversationId t t') : FriendInv t' := by
  cases write with
  | mine now | theirs now => exact inv_members inv rfl (fun m inside => .inl inside) le_rfl
  | left userId => exact inv_members inv rfl (fun m inside => .inl (Table.mem_delete.mp inside).1) le_rfl

private theorem inv_path {W : Tables → Tables → Prop} (each : ∀ {t t'}, FriendInv t → W t t' → FriendInv t')
    {t t' : Tables} (inv : FriendInv t) (writes : ReflTransGen W t t') : FriendInv t' := by
  induction writes with
  | refl => exact inv
  | tail _ last ih => exact each ih last

theorem friendInv_performed (w : World) (call : Call FriendService.Request)
    (registered : Registered w.tables (call.connections call.request.conn)) (inv : FriendInv w.tables) :
    FriendInv (perform FriendService.handle w call).tables := by
  have effect := (FriendService.handle_does call.request (call.enter w)).1
  change FriendEffect _ _ _ (perform FriendService.handle w call).tables at effect
  generalize (perform FriendService.handle w call).tables = t' at effect
  cases effect with
  | unchanged => exact inv
  | requested fr target sender receiver known other =>
    refine ⟨fun fr' inside => ?_, inv.members⟩
    obtain old | ⟨-, rfl⟩ := Table.mem_insert.mp inside
    · exact inv.requests fr' old
    · have positive : 1 ≤ target.id := (w.tables.users.bounded target known).1
      refine ⟨fun same => ?_, show 1 ≤ fr.toId by omega⟩
      replace same : fr.fromId = fr.toId := same
      obtain anonymous | ⟨user, there, id, uid⟩ := registered
      · have := sender.trans anonymous
        omega
      · have : user = target := Table.eq_of_id there known (id.trans (sender.symm.trans (same.trans receiver)))
        exact other (this ▸ uid)
  | rejected id now => exact inv_status inv _ _ _
  | accepted fr known pending mine writes => exact inv_path inv_acceptWrite inv writes
  | deleted row known normal mine target asked named writes => exact inv_path inv_deleteWrite inv writes
  | blocked row known status mine now | blockedNew f mine status
  | unblocked row known status mine target asked named now => exact ⟨inv.requests, inv.members⟩

/-! ### Acceptance without faults -/

/-- An acceptance that is turned away does not answer with OK. -/
private theorem refused {conn : ConnId} {seq : UInt32} {e : Error} (bad : e.code ≠ 0) (w : World) :
    (abort (sendHandleFriendReqAck conn seq e 0)).Ensures w fun o =>
      ∀ conversationId, handledEvent conn seq errc.kOk conversationId ∉ o.events := by
  have quiet : ∀ w : World, (rollback : Handler).run w = ⟨(), ((rollback : Handler).run w).state, []⟩ := by
    intro w
    rw [run_rollback]
    split <;> rfl
  have code : (0 : Int) ≠ e.code := Ne.symm bad
  rw [Prog.Ensures, abort, Prog.run_bind, quiet]
  simp [sendHandleFriendReqAck, sendPacket, send, handledEvent, errc.kOk, code]

/-- The acceptance of a request is answered with OK, and afterwards the two are friends. -/
def Befriends (conn : ConnId) (seq : UInt32) (fr : FriendRequest) (o : Outcome World Event Unit) : Prop :=
  ∃ conversationId, handledEvent conn seq errc.kOk conversationId ∈ o.events ∧
    Friends o.state.tables fr.fromId fr.toId conversationId

private theorem requestHandled_befriends {conn : ConnId} {seq : UInt32} {userId : Int} {fr : FriendRequest}
    {conversationId : Int} {w : World} (friends : Friends w.tables fr.fromId fr.toId conversationId) :
    (requestHandled conn seq userId fr 2 conversationId).Ensures w (Befriends conn seq fr) := by
  refine ⟨conversationId, ?_, ?_⟩
  · simp [requestHandled, sendHandleFriendReqAck, sendPacket, send, handledEvent]
  · have kept : ((requestHandled conn seq userId fr 2 conversationId).run w).state.tables = w.tables :=
      (silent_requestHandled w).tables
    rwa [kept]

/-- Behind the two members: the pair becomes friends when it has no rows, and an
    insertion fails when it has one. -/
private theorem pairUp_iff (conn : ConnId) (seq : UInt32) (userId : Int) (fr : FriendRequest)
    (conversationId : Int) (w : World) (sound : w.faults = []) (opened : w.saved ≠ none)
    (different : fr.fromId ≠ fr.toId)
    (asker : ∃ m ∈ w.tables.members.rows, m.conversationId = conversationId ∧ m.userId = fr.fromId)
    (asked : ∃ m ∈ w.tables.members.rows, m.conversationId = conversationId ∧ m.userId = fr.toId) :
    (pairUp conn seq userId fr conversationId).Ensures w fun o =>
      Befriends conn seq fr o ↔ ∀ row ∈ w.tables.friendships.rows, ¬OfPair row fr.fromId fr.toId := by
  have stop : ∀ row ∈ w.tables.friendships.rows, OfPair row fr.fromId fr.toId → ∀ w' : World,
      (abort (sendHandleFriendReqAck conn seq errc.kDatabaseError 0)).Ensures w' fun o =>
        Befriends conn seq fr o ↔
          ∀ row ∈ w.tables.friendships.rows, ¬OfPair row fr.fromId fr.toId := by
    intro row inside pair w'
    refine Prog.ensures_mono (refused (by decide) w') fun o silent => iff_of_false ?_ ?_
    · exact fun ⟨conversationId, ok, _⟩ => silent conversationId ok
    · exact fun none => none row inside pair
  by_cases there : ∃ row ∈ w.tables.friendships.rows, row.userId = fr.fromId ∧ row.friendId = fr.toId
  · obtain ⟨row, inside, pair⟩ := there
    exact sound_clash sound inside pair (stop row inside (.inl pair))
  refine sound_insertFriendship sound (fun row inside pair => there ⟨row, inside, pair⟩) ?_
  by_cases back : ∃ row ∈ w.tables.friendships.rows, row.userId = fr.toId ∧ row.friendId = fr.fromId
  · obtain ⟨row, inside, pair⟩ := back
    exact sound_clash (by simp [sound]) (Table.mem_insert.mpr (.inl inside)) pair (stop row inside (.inr pair))
  have free : ∀ row ∈ w.tables.friendships.rows, ¬OfPair row fr.fromId fr.toId :=
    fun row inside pair => pair.elim (fun pair => there ⟨row, inside, pair⟩) fun pair => back ⟨row, inside, pair⟩
  refine sound_insertFriendship (by simp [sound]) (fun row inside pair => ?_) ?_
  · obtain old | ⟨-, rfl⟩ := Table.mem_insert.mp inside
    · exact back ⟨row, old, pair⟩
    · exact different pair.1
  refine sound_commit (by simp [sound]) (by simpa using opened) ?_
  refine Prog.ensures_mono (requestHandled_befriends ⟨?_, ?_, asker, asked⟩) fun o done => iff_of_true done free
  · refine ⟨_, Table.mem_insert.mpr (.inl (Table.mem_insert.mpr (.inr ⟨?_, rfl⟩))), rfl, rfl, rfl, rfl⟩
    exact friendship_free fun row inside pair => there ⟨row, inside, pair⟩
  · refine ⟨_, Table.mem_insert.mpr (.inr ⟨friendship_free fun row inside pair => ?_, rfl⟩), rfl, rfl, rfl, rfl⟩
    obtain old | ⟨-, rfl⟩ := Table.mem_insert.mp inside
    · exact back ⟨row, old, pair⟩
    · exact different pair.1

/-- Behind the new conversation. -/
private theorem befriend_iff (conn : ConnId) (seq : UInt32) (userId : Int) (fr : FriendRequest)
    (conversationId : Int) (w : World) (sound : w.faults = []) (opened : w.saved ≠ none)
    (different : fr.fromId ≠ fr.toId)
    (fresh : ∀ m ∈ w.tables.members.rows, m.conversationId ≠ conversationId) :
    (befriend conn seq userId fr conversationId).Ensures w fun o =>
      Befriends conn seq fr o ↔ ∀ row ∈ w.tables.friendships.rows, ¬OfPair row fr.fromId fr.toId := by
  have asker : ∀ m ∈ w.tables.members.rows, ¬(m.conversationId = conversationId ∧ m.userId = fr.fromId) :=
    fun m inside pair => fresh m inside pair.1
  have asked : ∀ m ∈ (w.tables.addMember { conversationId := conversationId, userId := fr.fromId }).members.rows,
      ¬(m.conversationId = conversationId ∧ m.userId = fr.toId) := by
    intro m inside pair
    obtain old | ⟨-, rfl⟩ := Table.mem_insert.mp inside
    · exact fresh m old pair.1
    · exact different pair.2
  refine sound_addMember sound asker (sound_addMember (by simp [sound]) asked ?_)
  refine pairUp_iff conn seq userId fr conversationId _ (by simp [sound]) (by simpa using opened) different ?_ ?_
  · exact ⟨_, Table.mem_insert.mpr (.inl (Table.mem_insert.mpr (.inr ⟨member_free asker, rfl⟩))), rfl, rfl⟩
  · exact ⟨_, Table.mem_insert.mpr (.inr ⟨member_free asked, rfl⟩), rfl, rfl⟩

/-- Behind the BEGIN. -/
private theorem accept_iff (conn : ConnId) (seq : UInt32) (userId : Int) (fr : FriendRequest) (w : World)
    (sound : w.faults = []) (opened : w.saved ≠ none) (different : fr.fromId ≠ fr.toId)
    (created : ∀ m ∈ w.tables.members.rows, m.conversationId ≤ w.tables.conversations.lastId) :
    (accept conn seq userId fr.id fr).Ensures w fun o =>
      Befriends conn seq fr o ↔ ∀ row ∈ w.tables.friendships.rows, ¬OfPair row fr.fromId fr.toId := by
  refine sound_statement sound (run_updateRequestStatus _ _ _) ?_
  refine sound_statement (by simp [sound]) (run_createConversation _ _) ?_
  refine befriend_iff conn seq userId fr (w.tables.conversations.lastId + 1) _ (by simp [sound])
    (by simpa using opened) different fun m inside same => ?_
  have := created m inside
  omega

/-- A pending request that its receiver accepts, from a user in good standing and
    without a block or a database fault in the way. -/
structure Acceptable (w : World) (call : Call FriendService.Request) (conn : ConnId) (seq : UInt32)
    (fr : FriendRequest) : Prop where
  asked : call.request = .handleRequest conn seq (some { requestId := fr.id, action := 1 })
  receiver : (call.connections conn).userId = fr.toId
  known : fr ∈ w.tables.friendRequests.rows
  pending : fr.status = .pending
  requester : ∃ user ∈ w.tables.users.rows, user.id = fr.fromId ∧ user.status = .normal
  unblocked : ∀ row ∈ w.tables.friendships.rows, OfPair row fr.fromId fr.toId → row.status ≠ .blocked
  sound : call.faults = []
  closed : w.saved = none

private theorem acceptable_iff {w : World} {call : Call FriendService.Request} {conn : ConnId} {seq : UInt32}
    {fr : FriendRequest} (inv : FriendInv w.tables) (acceptable : Acceptable w call conn seq fr) :
    Befriends conn seq fr (served FriendService.handle w call) ↔
      ∀ row ∈ w.tables.friendships.rows, ¬OfPair row fr.fromId fr.toId := by
  obtain ⟨asked, receiver, known, pending, ⟨user, member, id, standing⟩, -, sound, closed⟩ := acceptable
  obtain ⟨different, positive⟩ := inv.requests fr known
  have numbered : 1 ≤ fr.id := (w.tables.friendRequests.bounded fr known).1
  have request : w.tables.friendRequests.rows.find? (fun r => r.id = fr.id) = some fr :=
    Table.find_eq known (by simp) fun other inside same => Table.eq_of_id inside known (of_decide_eq_true same)
  have asker : w.tables.users.rows.find? (fun r => r.id = fr.fromId && r.status ≠ .deleted) = some user := by
    refine Table.find_eq member (by simp [id, standing]) fun other inside same => ?_
    simp only [Bool.and_eq_true, decide_eq_true_eq] at same
    exact Table.eq_of_id inside member (same.1.trans id.symm)
  have chain : (FriendService.handleRequest conn seq (some { requestId := fr.id, action := 1 })).Ensures
      (call.enter w) fun o =>
        Befriends conn seq fr o ↔ ∀ row ∈ w.tables.friendships.rows, ¬OfPair row fr.fromId fr.toId := by
    refine ensures_peek (Prog.ensures_ite (fun none => ?_) fun _ => ?_)
    · rw [Surroundings.enter_connections, receiver] at none
      omega
    refine Prog.ensures_ite (fun none => absurd none (by simp; omega)) fun _ => ?_
    refine Prog.ensures_ite (fun other => absurd other (by simp)) fun _ => ?_
    refine sound_query (by simp [sound]) ?_
    rw [Surroundings.enter_tables, request]
    refine Prog.ensures_ite (fun other => absurd receiver.symm other) fun _ => ?_
    refine Prog.ensures_ite (fun other => absurd pending other) fun _ => ?_
    refine Prog.ensures_ite (fun _ => ?_) fun other => absurd rfl other
    refine sound_query (by simp [sound]) ?_
    rw [spend_tables, Surroundings.enter_tables, asker]
    refine Prog.ensures_ite (fun banned => by simp [standing] at banned) fun _ => ?_
    refine sound_begin (by simp [sound]) closed ?_
    exact accept_iff conn seq _ fr _ (by simp [sound]) (by simp) different inv.members
  rw [served, asked]
  exact chain

/-- In every reachable state an acceptance without database faults makes the two
    users friends if and only if no friendship row is left between them. -/
theorem accepts_iff (w : World) (requests : w.tables.friendRequests.rows = [])
    (members : w.tables.members.rows = []) (calls : List (Call FriendService.Request))
    (registered : Along (perform FriendService.handle)
      (fun w call => Registered w.tables (call.connections call.request.conn)) w calls)
    (call : Call FriendService.Request) (conn : ConnId) (seq : UInt32) (fr : FriendRequest)
    (acceptable : Acceptable (after (perform FriendService.handle) w calls) call conn seq fr) :
    Befriends conn seq fr (served FriendService.handle (after (perform FriendService.handle) w calls) call) ↔
      ∀ row ∈ (after (perform FriendService.handle) w calls).tables.friendships.rows,
        ¬OfPair row fr.fromId fr.toId := by
  have initially : FriendInv w.tables := ⟨by simp [requests], by simp [members]⟩
  refine acceptable_iff ?_ acceptable
  exact @after_invariant _ _ (perform FriendService.handle) _ (fun w => FriendInv w.tables)
    (fun w call registered inv => friendInv_performed w call registered inv) w initially calls registered

/-- User 1 asks user 2 to be friends. -/
private def asking : Call FriendService.Request :=
  { bothOnline with request := .addFriend 1 0 (some { targetUid := [2], remark := [] }) }

/-- User 2 accepts a request. -/
private def accepting (requestId : Int) : Call FriendService.Request :=
  { bothOnline with request := .handleRequest 2 0 (some { requestId := requestId, action := 1 }) }

/-- User 1 deletes user 2 as a friend. -/
private def deleting : Call FriendService.Request :=
  { bothOnline with request := .deleteFriend 1 0 (some { targetUid := [2] }) }

/-- The request as it is stored at the epoch. -/
private def requestOf (id : Int) : FriendRequest :=
  { id := id, fromId := 1, toId := 2, createdAt := Calendar.formatUtc 0, updatedAt := Calendar.formatUtc 0 }

/-- After a deletion the two rows are still there, and a new request cannot be accepted. -/
theorem refriending_fails :
    ¬∀ (calls : List (Call FriendService.Request)) (call : Call FriendService.Request) (conn : ConnId)
        (seq : UInt32) (fr : FriendRequest),
      Along (perform FriendService.handle)
        (fun w call => Registered w.tables (call.connections call.request.conn)) twoUsers calls →
      Acceptable (after (perform FriendService.handle) twoUsers calls) call conn seq fr →
      Befriends conn seq fr (served FriendService.handle (after (perform FriendService.handle) twoUsers calls) call) := by
  intro claim
  have acceptable : Acceptable (after (perform FriendService.handle) twoUsers [asking, accepting 1, deleting, asking])
      (accepting 2) 2 0 (requestOf 2) :=
    { asked := rfl, receiver := rfl, known := by decide, pending := rfl, requester := by decide
      unblocked := by decide, sound := rfl, closed := rfl }
  obtain ⟨conversationId, ok, -⟩ := claim [asking, accepting 1, deleting, asking] (accepting 2) 2 0 (requestOf 2)
    ⟨by decide, by decide, by decide, by decide, trivial⟩ acceptable
  have events : (served FriendService.handle (after (perform FriendService.handle) twoUsers
      [asking, accepting 1, deleting, asking]) (accepting 2)).events =
        [handledEvent 2 0 errc.kDatabaseError 0] := rfl
  rw [events] at ok
  simp [handledEvent, errc.kOk, errc.kDatabaseError] at ok

/-- Two strangers become friends. -/
theorem accepts_iff_strangers :
    Befriends 2 0 (requestOf 1) (served FriendService.handle
        (after (perform FriendService.handle) twoUsers [asking]) (accepting 1)) ↔
      ∀ row ∈ (after (perform FriendService.handle) twoUsers [asking]).tables.friendships.rows,
        ¬OfPair row (requestOf 1).fromId (requestOf 1).toId :=
  accepts_iff twoUsers rfl rfl [asking] ⟨by decide, trivial⟩ (accepting 1) 2 0 (requestOf 1)
    { asked := rfl, receiver := rfl, known := by decide, pending := rfl, requester := by decide
      unblocked := by decide, sound := rfl, closed := rfl }

end NovaIIM
