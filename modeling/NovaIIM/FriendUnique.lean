import NovaIIM.FriendLists
import NovaIIM.GroupTransactions

/-!
At most one pending request and one private conversation for two users.

A request is turned away while one is pending in either direction, as long as the
queries that look for it do not fail; a private conversation is created with the
two rows of a friendship, which are never removed and are unique
(`requests_and_conversations_unique`).
-/
namespace NovaIIM
open Store FriendService
open GroupService (Joined)

/-- The request is between two users, one way or the other. -/
def Between (fr : FriendRequest) (a b : Int) : Prop :=
  fr.fromId = a ∧ fr.toId = b ∨ fr.fromId = b ∧ fr.toId = a

instance (fr : FriendRequest) (a b : Int) : Decidable (Between fr a b) :=
  inferInstanceAs (Decidable (fr.fromId = a ∧ fr.toId = b ∨ fr.fromId = b ∧ fr.toId = a))

/-- At most one request between two users is pending. -/
def OnePending (a b : Int) (t : Tables) : Prop :=
  ∀ fr ∈ t.friendRequests.rows, ∀ fr' ∈ t.friendRequests.rows, Between fr a b → Between fr' a b →
    fr.status = .pending → fr'.status = .pending → fr = fr'

/-- The rows of two users for each other that name a conversation name the same one. -/
def OneConversation (a b : Int) (t : Tables) : Prop :=
  ∀ row ∈ t.friendships.rows, ∀ row' ∈ t.friendships.rows, row.userId = a → row.friendId = b →
    row'.userId = b → row'.friendId = a → row.conversationId ≠ 0 → row'.conversationId ≠ 0 →
    row.conversationId = row'.conversationId

/-- The private conversations of two users that are new in the second of two states. -/
def founded (a b : Int) (t t' : Tables) : List Int :=
  (t'.conversations.rows.filter fun conv =>
    conv.type = .private_ ∧ conv.id ∉ t.conversations.rows.map Conversation.id ∧
      Joined t' conv.id a ∧ Joined t' conv.id b).map Conversation.id

/-- Those that are created in a run. -/
def foundedAlong (a b : Int) (w : World) : List (Call FriendService.Request) → List Int
  | [] => []
  | call :: rest =>
    founded a b w.tables (perform FriendService.handle w call).tables ++
      foundedAlong a b (perform FriendService.handle w call) rest

/-- A friend request between two users goes through while one is pending: the query that
    looks for it fails, and nothing else turns the new one away. -/
def AsksTwice (a b : Int) (w : World) (call : Call FriendService.Request) : Prop :=
  ∃ conn seq req target, call.request = .addFriend conn seq (some req) ∧
    ((call.connections conn).userId = a ∧ target.id = b ∨ (call.connections conn).userId = b ∧ target.id = a) ∧
    Unhindered (call.connections conn) call.faults w.tables req target ∧
    (FriendService.Asks w.tables (call.connections conn).userId target.id ∨
      FriendService.Asks w.tables target.id (call.connections conn).userId)

/-! ### Requests -/

section Pending
variable {t t' : Tables} {a b : Int}

/-- Requests that were there, pending or not, with some of them settled. -/
private theorem onePending_settled (one : OnePending a b t)
    (old : ∀ fr' ∈ t'.friendRequests.rows, ∃ fr ∈ t.friendRequests.rows, fr.id = fr'.id ∧
      fr.fromId = fr'.fromId ∧ fr.toId = fr'.toId ∧ (fr'.status = .pending → fr.status = .pending)) :
    OnePending a b t' := by
  intro fr inside fr' inside' pair pair' pending pending'
  obtain ⟨before, there, id, from_, to_, was⟩ := old fr inside
  obtain ⟨before', there', id', from', to', was'⟩ := old fr' inside'
  have same : before = before' := by
    refine one before there before' there' ?_ ?_ (was pending) (was' pending')
    · rwa [Between, from_, to_]
    · rwa [Between, from', to']
  refine Table.eq_of_id inside inside' ?_
  show fr.id = fr'.id
  rw [← id, ← id', same]

private theorem onePending_status {id : Int} {status : FriendRequestStatus} {now : Bytes} (settled : status ≠ .pending)
    (one : OnePending a b t) : OnePending a b (t.setRequestStatus id status now) := by
  refine onePending_settled one ?_
  intro fr inside
  rcases Table.mem_update.mp inside with ⟨old, there, rfl⟩
  refine ⟨old, there, ?_⟩
  split
  · exact ⟨rfl, rfl, rfl, fun pending => absurd pending settled⟩
  · exact ⟨rfl, rfl, rfl, fun pending => pending⟩

private theorem onePending_requested {fr : FriendRequest} (one : OnePending a b t)
    (unasked : Between fr a b → ∀ old ∈ t.friendRequests.rows, Between old a b → old.status ≠ .pending) :
    OnePending a b (t.insertRequest fr) := by
  intro first inside second inside' pair pair' pending pending'
  rcases Table.mem_insert.mp inside with there | ⟨-, rfl⟩ <;> rcases Table.mem_insert.mp inside' with there' | ⟨-, rfl⟩
  · exact one first there second there' pair pair' pending pending'
  · exact absurd pending (unasked pair' first there pair)
  · exact absurd pending' (unasked pair second there' pair')
  · rfl

end Pending

theorem onePending_performed {a b : Int} (w : World) (call : Call FriendService.Request)
    (rollsBack : RollsBack FriendService.handle w call) (once : ¬AsksTwice a b w call)
    (one : OnePending a b w.tables) : OnePending a b (perform FriendService.handle w call).tables := by
  have steps : (perform FriendService.handle w call).tables = w.tables ∨
      FriendStep _ _ _ w.tables call.request (perform FriendService.handle w call).tables :=
    FriendService.handle_steps call.request rollsBack
  generalize (perform FriendService.handle w call).tables = t' at steps ⊢
  rcases steps with rfl | step
  · exact one
  generalize asked : call.request = request at step
  cases step with
  | blocked | blockedStranger | unblocked => exact one
  | rejected => exact onePending_status (by decide) one
  | accepted conn seq req fr known named mine pending action t' writes =>
    obtain ⟨rfl, -⟩ := accepted_of_writes writes
    exact onePending_status (by decide) one
  | deleted conn seq req target known named row there pair normal t' writes =>
    have same : t'.friendRequests = w.tables.friendRequests := by
      unfold deleteWrites at writes
      split at writes <;> cases writes <;> rfl
    rwa [OnePending, same]
  | requested conn seq req target unhindered =>
    refine onePending_requested one fun pair old there between pending => once ?_
    refine ⟨conn, seq, req, target, asked, pair, unhindered, ?_⟩
    rcases pair with ⟨me, other⟩ | ⟨me, other⟩ <;> rcases between with ⟨from_, to_⟩ | ⟨from_, to_⟩
    · exact .inl ⟨old, there, from_.trans me.symm, to_.trans other.symm, pending⟩
    · exact .inr ⟨old, there, from_.trans other.symm, to_.trans me.symm, pending⟩
    · exact .inr ⟨old, there, from_.trans other.symm, to_.trans me.symm, pending⟩
    · exact .inl ⟨old, there, from_.trans me.symm, to_.trans other.symm, pending⟩

/-! ### Conversations -/

/-- The pair has a row. -/
def Paired (t : Tables) (a b : Int) : Prop := ∃ row ∈ t.friendships.rows, OfPair row a b

instance (t : Tables) (a b : Int) : Decidable (Paired t a b) :=
  inferInstanceAs (Decidable (∃ row ∈ t.friendships.rows, _))

/-- What the friend service keeps about conversations and rows. -/
structure PairInv (a b : Int) (t : Tables) : Prop where
  /-- members belong to conversations that were created -/
  members : ∀ m ∈ t.members.rows, m.conversationId ≤ t.conversations.lastId
  one : OneConversation a b t

/-- The rows keep their users and conversations. -/
def RowsKept (t t' : Tables) : Prop :=
  (∀ row' ∈ t'.friendships.rows, ∃ row ∈ t.friendships.rows,
    row.userId = row'.userId ∧ row.friendId = row'.friendId ∧ row.conversationId = row'.conversationId) ∧
  ∀ row ∈ t.friendships.rows, ∃ row' ∈ t'.friendships.rows, row'.userId = row.userId ∧ row'.friendId = row.friendId

section Rows
variable {t t' t'' : Tables} {a b : Int}

private theorem rowsKept_set (userId friendId : Int) (status : FriendshipStatus) (now : Bytes) :
    RowsKept t (t.setFriendshipStatus userId friendId status now) := by
  constructor
  · intro row' inside
    rcases Table.mem_update.mp inside with ⟨row, there, rfl⟩
    refine ⟨row, there, ?_⟩
    split <;> exact ⟨rfl, rfl, rfl⟩
  · intro row there
    refine ⟨_, Table.mem_update.mpr ⟨row, there, rfl⟩, ?_⟩
    split <;> exact ⟨rfl, rfl⟩

private theorem RowsKept.trans (first : RowsKept t t') (second : RowsKept t' t'') : RowsKept t t'' := by
  constructor
  · intro row'' inside
    obtain ⟨row', there', user, friend, conv⟩ := second.1 row'' inside
    obtain ⟨row, there, user', friend', conv'⟩ := first.1 row' there'
    exact ⟨row, there, user'.trans user, friend'.trans friend, conv'.trans conv⟩
  · intro row there
    obtain ⟨row', inside, user, friend⟩ := first.2 row there
    obtain ⟨row'', inside', user', friend'⟩ := second.2 row' inside
    exact ⟨row'', inside', user'.trans user, friend'.trans friend⟩

private theorem RowsKept.one (kept : RowsKept t t') (one : OneConversation a b t) : OneConversation a b t' := by
  intro row inside row' inside' user friend user' friend' named named'
  obtain ⟨old, there, u, f, c⟩ := kept.1 row inside
  obtain ⟨old', there', u', f', c'⟩ := kept.1 row' inside'
  rw [← c, ← c']
  exact one old there old' there' (u.trans user) (f.trans friend) (u'.trans user') (f'.trans friend')
    (c ▸ named) (c' ▸ named')

private theorem RowsKept.paired (kept : RowsKept t t') (paired : Paired t a b) : Paired t' a b := by
  rcases paired with ⟨row, there, pair⟩
  obtain ⟨row', inside, user, friend⟩ := kept.2 row there
  exact ⟨row', inside, by rwa [OfPair, user, friend]⟩

/-- A row that is inserted is the first of its pair. -/
private theorem fresh_pair {rows : Table Friendship} {f : Friendship} (free : rows.taken f = false) :
    ∀ row ∈ rows.rows, ¬(row.userId = f.userId ∧ row.friendId = f.friendId) := by
  rintro row there ⟨user, friend⟩
  have taken : rows.taken f = true := (Table.taken_iff _ _).mpr ⟨row, there, by simp [Row.clash, user, friend]⟩
  rw [free] at taken
  cases taken

private theorem paired_insert {f : Friendship} (paired : Paired t a b) : Paired (t.insertFriendship f) a b := by
  rcases paired with ⟨row, there, pair⟩
  exact ⟨row, Table.mem_insert.mpr (.inl there), pair⟩

/-- Without a new conversation nothing is founded. -/
private theorem founded_nothing (same : t'.conversations = t.conversations) : founded a b t t' = [] := by
  unfold founded
  rw [List.map_eq_nil_iff, List.filter_eq_nil_iff, same]
  intro conv there
  simp only [decide_eq_true_eq, not_and]
  intro _ new
  exact absurd (List.mem_map_of_mem there) new

end Rows

section Acceptance
variable {t t' : Tables} {a b : Int} {fr : FriendRequest} {now : Bytes}

/-- The rows behind an acceptance. -/
theorem accepted_row (accepted : Accepted fr now t t') {row : Friendship} (inside : row ∈ t'.friendships.rows) :
    row ∈ t.friendships.rows ∨ row.conversationId = t.conversations.lastId + 1 ∧
      (row.userId = fr.fromId ∧ row.friendId = fr.toId ∨ row.userId = fr.toId ∧ row.friendId = fr.fromId) := by
  rw [accepted.tables] at inside
  rcases Table.mem_insert.mp inside with inside | ⟨-, rfl⟩
  · rcases Table.mem_insert.mp inside with inside | ⟨-, rfl⟩
    · exact .inl inside
    · exact .inr ⟨rfl, .inl ⟨rfl, rfl⟩⟩
  · exact .inr ⟨rfl, .inr ⟨rfl, rfl⟩⟩

/-- The pair of an accepted request had no row. -/
theorem accepted_strangers (accepted : Accepted fr now t t') : ¬Paired t fr.fromId fr.toId := by
  rintro ⟨row, there, pair | pair⟩
  · exact fresh_pair accepted.there row there pair
  · exact fresh_pair accepted.back row (Table.mem_insert.mpr (.inl there)) pair

private theorem accepted_paired (accepted : Accepted fr now t t') : Paired t' fr.fromId fr.toId := by
  rw [accepted.tables]
  exact ⟨_, Table.mem_insert.mpr (.inr ⟨accepted.back, rfl⟩), .inr ⟨rfl, rfl⟩⟩

private theorem accepted_keeps (accepted : Accepted fr now t t') (paired : Paired t a b) : Paired t' a b := by
  rw [accepted.tables]
  exact paired_insert (paired_insert paired)

/-- The members behind an acceptance. -/
theorem accepted_member (accepted : Accepted fr now t t') {m : ConversationMember} (inside : m ∈ t'.members.rows) :
    m ∈ t.members.rows ∨ m.conversationId = t.conversations.lastId + 1 ∧ (m.userId = fr.fromId ∨ m.userId = fr.toId) := by
  rw [accepted.tables] at inside
  rcases Table.mem_insert.mp inside with inside | ⟨-, rfl⟩
  · rcases Table.mem_insert.mp inside with inside | ⟨-, rfl⟩
    · exact .inl inside
    · exact .inr ⟨rfl, .inl rfl⟩
  · exact .inr ⟨rfl, .inr rfl⟩

theorem accepted_conversations (accepted : Accepted fr now t t') :
    t'.conversations.rows = t.conversations.rows ++ [t.conversations.fresh { type := .private_ }] ∧
      t'.conversations.lastId = t.conversations.lastId + 1 := by
  have free : t.conversations.taken { type := .private_ } = false := by simp [Table.taken, Row.clash]
  rw [accepted.tables]
  exact ⟨Table.rows_insert_free free, Table.lastId_insert_free free⟩

private theorem accepted_inv (accepted : Accepted fr now t t') (inv : PairInv a b t) : PairInv a b t' := by
  obtain ⟨-, last⟩ := accepted_conversations accepted
  have strangers := accepted_strangers accepted
  constructor
  · intro m inside
    rw [last]
    rcases accepted_member accepted inside with there | ⟨new, -⟩
    · have := inv.members m there
      push_cast
      omega
    · push_cast
      omega
  · intro row inside row' inside' user friend user' friend' named named'
    rcases accepted_row accepted inside with there | ⟨conv, pair⟩ <;>
      rcases accepted_row accepted inside' with there' | ⟨conv', pair'⟩
    · exact inv.one row there row' there' user friend user' friend' named named'
    · refine absurd ⟨row, there, ?_⟩ strangers
      rcases pair' with ⟨u, f⟩ | ⟨u, f⟩
      · exact .inr ⟨by omega, by omega⟩
      · exact .inl ⟨by omega, by omega⟩
    · refine absurd ⟨row', there', ?_⟩ strangers
      rcases pair with ⟨u, f⟩ | ⟨u, f⟩
      · exact .inr ⟨by omega, by omega⟩
      · exact .inl ⟨by omega, by omega⟩
    · rw [conv, conv']

/-- The conversation of an acceptance is the one of its two users. -/
private theorem accepted_founded (accepted : Accepted fr now t t') (distinct : a ≠ b)
    (members : ∀ m ∈ t.members.rows, m.conversationId ≤ t.conversations.lastId) :
    founded a b t t' = [] ∨ (founded a b t t').length = 1 ∧ Between fr a b := by
  obtain ⟨rows, -⟩ := accepted_conversations accepted
  have old : (t.conversations.rows.filter fun conv =>
      decide (conv.type = .private_ ∧ conv.id ∉ t.conversations.rows.map Conversation.id ∧
        Joined t' conv.id a ∧ Joined t' conv.id b)) = [] := by
    rw [List.filter_eq_nil_iff]
    intro conv there
    simp only [decide_eq_true_eq, not_and]
    intro _ new
    exact absurd (List.mem_map_of_mem there) new
  have joins : ∀ user, Joined t' ((t.conversations.lastId : Int) + 1) user → user = fr.fromId ∨ user = fr.toId := by
    rintro user ⟨m, inside, conv, rfl⟩
    rcases accepted_member accepted inside with there | ⟨-, who⟩
    · have := members m there
      omega
    · exact who
  unfold founded
  rw [rows, List.filter_append, old, List.nil_append, List.filter_singleton, Bool.cond_eq_ite]
  split
  · rename_i new
    simp only [decide_eq_true_eq] at new
    obtain ⟨-, -, first, second⟩ := new
    right
    refine ⟨rfl, ?_⟩
    rcases joins a first with rfl | rfl <;> rcases joins b second with rfl | rfl
    · exact absurd rfl distinct
    · exact .inl ⟨rfl, rfl⟩
    · exact .inr ⟨rfl, rfl⟩
    · exact absurd rfl distinct
  · exact .inl rfl

end Acceptance

/-- One step keeps the invariant; it founds a conversation for a pair without a row only,
    and the pair has one then. -/
theorem pair_performed {a b : Int} (distinct : a ≠ b) (w : World) (call : Call FriendService.Request)
    (rollsBack : RollsBack FriendService.handle w call) (inv : PairInv a b w.tables) :
    PairInv a b (perform FriendService.handle w call).tables ∧
      (Paired w.tables a b → Paired (perform FriendService.handle w call).tables a b) ∧
      (founded a b w.tables (perform FriendService.handle w call).tables = [] ∨
        (founded a b w.tables (perform FriendService.handle w call).tables).length = 1 ∧
          ¬Paired w.tables a b ∧ Paired (perform FriendService.handle w call).tables a b) := by
  have steps : (perform FriendService.handle w call).tables = w.tables ∨
      FriendStep _ _ _ w.tables call.request (perform FriendService.handle w call).tables :=
    FriendService.handle_steps call.request rollsBack
  generalize (perform FriendService.handle w call).tables = t' at steps ⊢
  rcases steps with rfl | step
  · exact ⟨inv, fun paired => paired, .inl (founded_nothing rfl)⟩
  generalize call.request = request at step
  cases step with
  | requested | rejected => exact ⟨⟨inv.members, inv.one⟩, fun paired => paired, .inl (founded_nothing rfl)⟩
  | blocked | unblocked =>
    have kept := rowsKept_set (t := w.tables)
    exact ⟨⟨inv.members, (kept _ _ _ _).one inv.one⟩, (kept _ _ _ _).paired, .inl (founded_nothing rfl)⟩
  | blockedStranger conn seq req target known named free =>
    refine ⟨⟨inv.members, ?_⟩, paired_insert, .inl (founded_nothing rfl)⟩
    intro row inside row' inside' user friend user' friend' named named'
    rcases Table.mem_insert.mp inside with there | ⟨-, rfl⟩
    · rcases Table.mem_insert.mp inside' with there' | ⟨-, rfl⟩
      · exact inv.one row there row' there' user friend user' friend' named named'
      · exact absurd rfl named'
    · exact absurd rfl named
  | deleted conn seq req target known named row there pair normal t' writes =>
    have rows : t'.conversations = w.tables.conversations ∧
        (∀ m ∈ t'.members.rows, m ∈ w.tables.members.rows) ∧ RowsKept w.tables t' := by
      unfold deleteWrites at writes
      split at writes <;> cases writes
      · refine ⟨rfl, fun m inside => ?_, (rowsKept_set _ _ _ _).trans (rowsKept_set _ _ _ _)⟩
        exact (Table.mem_delete.mp (Table.mem_delete.mp inside).1).1
      · exact ⟨rfl, fun m inside => inside, (rowsKept_set _ _ _ _).trans (rowsKept_set _ _ _ _)⟩
    obtain ⟨conversations, members, kept⟩ := rows
    refine ⟨⟨fun m inside => ?_, kept.one inv.one⟩, kept.paired, .inl (founded_nothing conversations)⟩
    rw [conversations]
    exact inv.members m (members m inside)
  | accepted conn seq req fr known named mine pending action t' writes =>
    have accepted := accepted_of_writes writes
    refine ⟨accepted_inv accepted inv, accepted_keeps accepted, ?_⟩
    rcases accepted_founded accepted distinct inv.members with nothing | ⟨one, between⟩
    · exact .inl nothing
    · have strangers := accepted_strangers accepted
      have paired := accepted_paired accepted
      refine .inr ⟨one, ?_, ?_⟩
      · rcases between with ⟨rfl, rfl⟩ | ⟨rfl, rfl⟩
        · exact strangers
        · rintro ⟨row, there, pair⟩
          exact strangers ⟨row, there, pair.symm⟩
      · rcases between with ⟨rfl, rfl⟩ | ⟨rfl, rfl⟩
        · exact paired
        · obtain ⟨row, there, pair⟩ := paired
          exact ⟨row, there, pair.symm⟩

/-- A run founds at most one conversation for a pair, and none for a pair with a row. -/
private theorem pair_run {a b : Int} (distinct : a ≠ b) (w : World) (calls : List (Call FriendService.Request))
    (rollsBack : Along (perform FriendService.handle) (RollsBack FriendService.handle) w calls)
    (inv : PairInv a b w.tables) :
    PairInv a b (after (perform FriendService.handle) w calls).tables ∧
      (foundedAlong a b w calls).length ≤ if Paired w.tables a b then 0 else 1 := by
  induction calls generalizing w with
  | nil => exact ⟨inv, Nat.zero_le _⟩
  | cons call rest ih =>
    obtain ⟨inv', keeps, founds⟩ := pair_performed distinct w call rollsBack.1 inv
    obtain ⟨finally_, count⟩ := ih (perform FriendService.handle w call) rollsBack.2 inv'
    refine ⟨finally_, ?_⟩
    rw [foundedAlong, List.length_append]
    rcases founds with nothing | ⟨one, strangers, paired⟩
    · rw [nothing, List.length_nil, Nat.zero_add]
      by_cases paired : Paired w.tables a b
      · rw [if_pos (keeps paired)] at count
        rwa [if_pos paired]
      · rw [if_neg paired]
        exact count.trans (by split <;> omega)
    · rw [if_pos paired] at count
      rw [if_neg strangers]
      omega

/-- In every run in which no ROLLBACK fails, two users have at most one private
    conversation between them and their rows agree on it; and they have at most one
    pending request if none goes through while another is pending. -/
theorem requests_and_conversations_unique (w : World) (requests : w.tables.friendRequests.rows = [])
    (friendships : w.tables.friendships.rows = []) (members : w.tables.members.rows = [])
    (a b : Int) (distinct : a ≠ b) (calls : List (Call FriendService.Request))
    (rollsBack : Along (perform FriendService.handle) (RollsBack FriendService.handle) w calls) :
    (Along (perform FriendService.handle) (fun w call => ¬AsksTwice a b w call) w calls →
      OnePending a b (after (perform FriendService.handle) w calls).tables) ∧
    (foundedAlong a b w calls).length ≤ 1 ∧
    OneConversation a b (after (perform FriendService.handle) w calls).tables := by
  have initially : PairInv a b w.tables := ⟨by simp [members], by simp [OneConversation, friendships]⟩
  obtain ⟨inv, count⟩ := pair_run distinct w calls rollsBack initially
  refine ⟨fun once => ?_, count.trans (by split <;> omega), inv.one⟩
  exact @after_invariant _ _ (perform FriendService.handle) _ (fun w => OnePending a b w.tables)
    (fun w call meets one => onePending_performed w call meets.1 meets.2 one) w
    (by simp [OnePending, requests]) calls (along_and.mpr ⟨rollsBack, once⟩)

/-! ### Runs of two users -/

/-- User 1 asks user 2, with a list of failures to come. -/
private def asksWith (faults : List Bool) : Call FriendService.Request :=
  { bothOnline with faults := faults, request := .addFriend 1 0 (some { targetUid := [2], remark := [] }) }

/-- The query for a pending request fails, and a second one is stored. -/
theorem requests_pending_twice :
    ¬∀ calls : List (Call FriendService.Request),
      Along (perform FriendService.handle) (RollsBack FriendService.handle) twoUsers calls →
      OnePending 1 2 (after (perform FriendService.handle) twoUsers calls).tables ∧
        (foundedAlong 1 2 twoUsers calls).length ≤ 1 ∧
        OneConversation 1 2 (after (perform FriendService.handle) twoUsers calls).tables := by
  intro claim
  obtain ⟨one, -, -⟩ := claim [asksWith [], asksWith [false, false, false, true]] ⟨rfl, rfl, trivial⟩
  have twice : ∃ fr ∈ (after (perform FriendService.handle) twoUsers
      [asksWith [], asksWith [false, false, false, true]]).tables.friendRequests.rows,
      ∃ fr' ∈ (after (perform FriendService.handle) twoUsers
        [asksWith [], asksWith [false, false, false, true]]).tables.friendRequests.rows,
      Between fr 1 2 ∧ Between fr' 1 2 ∧ fr.status = .pending ∧ fr'.status = .pending ∧ fr ≠ fr' := by decide
  obtain ⟨fr, inside, fr', inside', pair, pair', pending, pending', different⟩ := twice
  exact different (one fr inside fr' inside' pair pair' pending pending')

/-- A request of one of the two users, without failures. -/
private def inTurn (request : FriendService.Request) : Call FriendService.Request :=
  { bothOnline with request := request }

/-- User 2 accepts the request of user 1, user 1 ends the friendship, and user 2 asks in turn. -/
private def askedBack : List (Call FriendService.Request) :=
  [asksWith [], inTurn (.handleRequest 2 0 (some { requestId := 1, action := 1 })),
    inTurn (.deleteFriend 1 0 (some { targetUid := [2] })),
    inTurn (.addFriend 2 0 (some { targetUid := [1], remark := [] }))]

/-- Nobody asks twice when no request is pending. -/
private theorem asks_once {w : World} {call : Call FriendService.Request} {a b : Int}
    (settled : ∀ fr ∈ w.tables.friendRequests.rows, fr.status ≠ .pending) : ¬AsksTwice a b w call := by
  rintro ⟨-, -, -, -, -, -, -, ⟨fr, inside, -, -, pending⟩ | ⟨fr, inside, -, -, pending⟩⟩ <;>
    exact settled fr inside pending

/-- An answer to a request asks for nothing. -/
private theorem asks_not {w : World} {request : FriendService.Request} {a b : Int}
    (other : ∀ conn seq body, request ≠ .addFriend conn seq body) : ¬AsksTwice a b w (inTurn request) := by
  rintro ⟨conn, seq, req, -, asked, -⟩
  exact other conn seq (some req) asked

/-- A request that is accepted founds the conversation of the pair, and a later one in the
    other direction is the only one pending then. -/
theorem requests_and_conversations_unique_accepted :
    OnePending 1 2 (after (perform FriendService.handle) twoUsers askedBack).tables ∧
      OneConversation 1 2 (after (perform FriendService.handle) twoUsers askedBack).tables ∧
      foundedAlong 1 2 twoUsers askedBack = [1] ∧
      (after (perform FriendService.handle) twoUsers askedBack).tables.friendRequests.rows.map FriendRequest.status =
        [.accepted, .pending] := by
  obtain ⟨once, -, one⟩ :=
    requests_and_conversations_unique twoUsers rfl rfl rfl 1 2 (by decide) askedBack ⟨rfl, rfl, rfl, rfl, trivial⟩
  exact ⟨once ⟨asks_once (by decide), asks_not (by simp), asks_not (by simp), asks_once (by decide), trivial⟩,
    one, by decide, by decide⟩

end NovaIIM
