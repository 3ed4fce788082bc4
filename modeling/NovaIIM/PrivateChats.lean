import NovaIIM.FriendUnique
import NovaIIM.GroupInvariant
import NovaIIM.Services

/-!
Friends and their private conversation.

Two users whose rows are both `Normal` share a private conversation of which both
are members, whatever the friend, group, conversation and message services are
asked for with whatever conversation ids, as long as neither of them leaves that
conversation like a group (`friends_share_conversation`). Nothing else reaches it:
it has no group row, its members have no role, and it belongs to one pair
(`ChatInv`).
-/
namespace NovaIIM
open Store FriendService GroupService

/-- The conversation exists and has a type. -/
def OfKind (t : Tables) (type : ConvType) (conversationId : Int) : Prop :=
  ∃ conv ∈ t.conversations.rows, conv.id = conversationId ∧ conv.type = type

/-- Both rows of a pair are normal, and they name a conversation. -/
structure BothNormal (t : Tables) (a b : Int) (row row' : Friendship) : Prop where
  there : row ∈ t.friendships.rows
  back : row' ∈ t.friendships.rows
  ours : row.userId = a ∧ row.friendId = b
  theirs : row'.userId = b ∧ row'.friendId = a
  normal : row.status = .normal ∧ row'.status = .normal

/-- Friends share a private conversation and are members of it. -/
def Coherent (a b : Int) (t : Tables) : Prop :=
  ∀ row row', BothNormal t a b row row' → row.conversationId = row'.conversationId ∧
    OfKind t .private_ row.conversationId ∧ Joined t row.conversationId a ∧ Joined t row.conversationId b

/-- One of the two leaves, like a group, the conversation that they have as friends. -/
def LeavesFriend (a b : Int) (w : World) (call : Call Request) : Prop :=
  ∃ conn seq req, call.request = .group (.leaveGroup conn seq (some req)) ∧
    ((call.connections conn).userId = a ∨ (call.connections conn).userId = b) ∧
    (∃ row row', BothNormal w.tables a b row row' ∧ row.conversationId = req.conversationId) ∧
    ¬StatementFails call.faults 0 ∧ ¬StatementFails call.faults 1

/-- What the services keep about private conversations. -/
structure ChatInv (t : Tables) : Prop where
  numbered : ∀ m ∈ t.members.rows, m.conversationId ≤ t.conversations.lastId
  plain : ∀ m ∈ t.members.rows, OfKind t .private_ m.conversationId → m.role = .member
  grouped : ∀ g ∈ t.groups.rows, OfKind t .group g.conversationId
  typed : ∀ row ∈ t.friendships.rows, row.conversationId ≠ 0 → OfKind t .private_ row.conversationId
  named : ∀ row ∈ t.friendships.rows, row.status = .normal → row.conversationId ≠ 0
  apart : ∀ row ∈ t.friendships.rows, ∀ row' ∈ t.friendships.rows, row.conversationId ≠ 0 →
    row.conversationId = row'.conversationId → OfPair row' row.userId row.friendId
  one : ∀ row ∈ t.friendships.rows, ∀ row' ∈ t.friendships.rows, OfPair row' row.userId row.friendId →
    row.conversationId ≠ 0 → row'.conversationId ≠ 0 → row.conversationId = row'.conversationId

/-- Friends are members of their conversation. -/
def Together (a b : Int) (t : Tables) : Prop :=
  ∀ row row', BothNormal t a b row row' → Joined t row.conversationId a ∧ Joined t row.conversationId b

section Kinds
variable {t t' : Tables} {c : Int} {type type' : ConvType}

theorem ofKind_unique (first : OfKind t type c) (second : OfKind t type' c) : type = type' := by
  obtain ⟨conv, there, id, rfl⟩ := first
  obtain ⟨conv', there', id', rfl⟩ := second
  rw [Table.eq_of_id there there' (id.trans id'.symm)]

theorem ofKind_bounded (known : OfKind t type c) : 1 ≤ c ∧ c ≤ t.conversations.lastId := by
  obtain ⟨conv, there, rfl, -⟩ := known
  exact t.conversations.bounded conv there

theorem coherent_of_inv {a b : Int} (inv : ChatInv t) (together : Together a b t) : Coherent a b t := by
  intro row row' friends
  have ours := inv.named row friends.there friends.normal.1
  have theirs := inv.named row' friends.back friends.normal.2
  have pair : OfPair row' row.userId row.friendId := by
    right
    rw [friends.ours.1, friends.ours.2]
    exact friends.theirs
  exact ⟨inv.one row friends.there row' friends.back pair ours theirs, inv.typed row friends.there ours,
    together row row' friends⟩

end Kinds

/-! ### Members that go -/

section Shrinks
variable {t t' : Tables} {a b : Int}

/-- Some members go, or get another role outside of the private conversations, and groups keep
    their conversations. -/
structure Shrinks (t t' : Tables) : Prop where
  friendships : t'.friendships = t.friendships
  lastId : t'.conversations.lastId = t.conversations.lastId
  kinds : ∀ type c, OfKind t' type c ↔ OfKind t type c
  groups : ∀ g' ∈ t'.groups.rows, ∃ g ∈ t.groups.rows, g.conversationId = g'.conversationId
  members : ∀ m' ∈ t'.members.rows, ∃ m ∈ t.members.rows, m.conversationId = m'.conversationId ∧
    (OfKind t .private_ m.conversationId → m.role = m'.role)

theorem Shrinks.inv (shrinks : Shrinks t t') (inv : ChatInv t) : ChatInv t' where
  numbered m' inside := by
    obtain ⟨m, there, conv, -⟩ := shrinks.members m' inside
    rw [shrinks.lastId, ← conv]
    exact inv.numbered m there
  plain m' inside kind := by
    obtain ⟨m, there, conv, role⟩ := shrinks.members m' inside
    rw [shrinks.kinds, ← conv] at kind
    rw [← role kind]
    exact inv.plain m there kind
  grouped g' inside := by
    obtain ⟨g, there, conv⟩ := shrinks.groups g' inside
    rw [shrinks.kinds, ← conv]
    exact inv.grouped g there
  typed row inside named := by
    rw [shrinks.friendships] at inside
    exact (shrinks.kinds _ _).mpr (inv.typed row inside named)
  named := shrinks.friendships.symm ▸ inv.named
  apart := shrinks.friendships.symm ▸ inv.apart
  one := shrinks.friendships.symm ▸ inv.one

/-- Friends stay together when the members of their conversation stay. -/
theorem together_of_joined (friendships : t'.friendships = t.friendships)
    (stay : ∀ row row', BothNormal t a b row row' → ∀ user, user = a ∨ user = b →
      Joined t row.conversationId user → Joined t' row.conversationId user)
    (together : Together a b t) : Together a b t' := by
  intro row row' ⟨there, back, ours, theirs, normal⟩
  rw [friendships] at there back
  have friends : BothNormal t a b row row' := ⟨there, back, ours, theirs, normal⟩
  obtain ⟨mine, yours⟩ := together row row' friends
  exact ⟨stay row row' friends a (.inl rfl) mine, stay row row' friends b (.inr rfl) yours⟩

theorem shrinks_delete (selected : ConversationMember → Bool) :
    Shrinks t { t with members := t.members.delete selected } :=
  ⟨rfl, rfl, fun _ _ => Iff.rfl, fun g inside => ⟨g, inside, rfl⟩,
    fun m inside => ⟨m, (Table.mem_delete.mp inside).1, rfl, fun _ => rfl⟩⟩

theorem joined_removeMember {c c' user user' : Int} (other : c ≠ c' ∨ user ≠ user') (joined : Joined t c user) :
    Joined (t.removeMember c' user') c user := by
  obtain ⟨m, there, rfl, rfl⟩ := joined
  refine ⟨m, Table.mem_delete.mpr ⟨there, ?_⟩, rfl, rfl⟩
  rw [Bool.and_eq_false_iff, decide_eq_false_iff_not, decide_eq_false_iff_not]
  exact other

end Shrinks

/-! ### Steps beside the friendships -/

section Aside
variable {t t' t'' : Tables} {a b : Int}

/-- The second tables have the same friendships, conversations and groups, and the same
    members with the same roles. -/
structure SameChats (t t' : Tables) : Prop where
  friendships : t'.friendships = t.friendships
  groups : t'.groups = t.groups
  lastId : t'.conversations.lastId = t.conversations.lastId
  kinds : ∀ type c, OfKind t' type c ↔ OfKind t type c
  members : ∀ m' ∈ t'.members.rows, ∃ m ∈ t.members.rows, m.conversationId = m'.conversationId ∧ m.role = m'.role
  joined : ∀ c user, Joined t c user → Joined t' c user

theorem SameChats.refl (t : Tables) : SameChats t t :=
  ⟨rfl, rfl, rfl, fun _ _ => Iff.rfl, fun m inside => ⟨m, inside, rfl, rfl⟩, fun _ _ joined => joined⟩

theorem SameChats.trans (first : SameChats t t') (second : SameChats t' t'') : SameChats t t'' where
  friendships := second.friendships.trans first.friendships
  groups := second.groups.trans first.groups
  lastId := second.lastId.trans first.lastId
  kinds type c := (second.kinds type c).trans (first.kinds type c)
  members m'' inside := by
    obtain ⟨m', inside', conv', role'⟩ := second.members m'' inside
    obtain ⟨m, there, conv, role⟩ := first.members m' inside'
    exact ⟨m, there, conv.trans conv', role.trans role'⟩
  joined c user joined := second.joined c user (first.joined c user joined)

theorem sameChats_updateMember (t : Tables) (conversationId userId : Int) (selected : ConversationMember → Bool)
    {change : RowUpdate ConversationMember} (settled : KeepsRole change) :
    SameChats t (t.updateMember conversationId userId selected change) where
  friendships := rfl
  groups := rfl
  lastId := rfl
  kinds _ _ := Iff.rfl
  members m' inside := by
    obtain ⟨m, there, rfl⟩ := Table.mem_update.mp inside
    refine ⟨m, there, ?_⟩
    split
    · exact ⟨(named_update change m).1.symm, (settled m).symm⟩
    · exact ⟨rfl, rfl⟩
  joined c user := by
    rintro ⟨m, there, conv, rfl⟩
    refine ⟨_, Table.mem_update.mpr ⟨m, there, rfl⟩, ?_⟩
    split
    · exact ⟨(named_update change m).1.trans conv, (named_update change m).2⟩
    · exact ⟨conv, rfl⟩

theorem sameChats_incrMaxSeq (t : Tables) (conversationId : Int) : SameChats t (t.incrMaxSeq conversationId) where
  friendships := rfl
  groups := rfl
  lastId := rfl
  kinds type c := by
    constructor
    · rintro ⟨conv', inside, id, kind⟩
      obtain ⟨conv, there, rfl⟩ := Table.mem_update.mp inside
      refine ⟨conv, there, ?_⟩
      split at id <;> split at kind <;> exact ⟨id, kind⟩
    · rintro ⟨conv, there, id, kind⟩
      refine ⟨_, Table.mem_update.mpr ⟨conv, there, rfl⟩, ?_⟩
      split <;> exact ⟨id, kind⟩
  members m inside := ⟨m, inside, rfl, rfl⟩
  joined _ _ joined := joined

/-- Tables that differ in other columns and tables only. -/
theorem sameChats_of_eq (friendships : t'.friendships = t.friendships) (groups : t'.groups = t.groups)
    (conversations : t'.conversations = t.conversations) (members : t'.members = t.members) : SameChats t t' := by
  refine ⟨friendships, groups, by rw [conversations], fun type c => ?_, fun m inside => ?_, fun c user => ?_⟩
  · rw [OfKind, OfKind, conversations]
  · exact ⟨m, members ▸ inside, rfl, rfl⟩
  · rw [GroupService.Joined, GroupService.Joined, members]
    exact id

theorem SameChats.inv (same : SameChats t t') (inv : ChatInv t) : ChatInv t' := by
  refine Shrinks.inv (t := t) ⟨same.friendships, same.lastId, same.kinds, fun g inside => ?_, fun m' inside => ?_⟩ inv
  · exact ⟨g, same.groups ▸ inside, rfl⟩
  · obtain ⟨m, there, conv, role⟩ := same.members m' inside
    exact ⟨m, there, conv, fun _ => role⟩

theorem SameChats.together (same : SameChats t t') (together : Together a b t) : Together a b t' :=
  together_of_joined same.friendships (fun _ _ _ user _ => same.joined _ user) together

theorem SameChats.chat (same : SameChats t t') (inv : ChatInv t) : ChatInv t' ∧ (Together a b t → Together a b t') :=
  ⟨same.inv inv, same.together⟩

/-- The message and the conversation service do not touch the chats. -/
theorem chatting_sameChats : Chatting SameChats where
  refl := .refl
  trans := .trans
  numbered := sameChats_incrMaxSeq
  stored _ _ := sameChats_of_eq rfl rfl rfl rfl
  status _ _ _ := sameChats_of_eq rfl rfl rfl rfl
  settings t conversationId userId selected _ := sameChats_updateMember t conversationId userId selected

end Aside

/-! ### Writes -/

section Writes
variable {t t' : Tables} {a b : Int}

/-- A status that is set takes the row out of the friendships. -/
theorem chatInv_status {userId friendId : Int} {status : FriendshipStatus} {now : Bytes} (ended : status ≠ .normal)
    (inv : ChatInv t) : ChatInv (t.setFriendshipStatus userId friendId status now) := by
  have rows : ∀ row' ∈ (t.setFriendshipStatus userId friendId status now).friendships.rows,
      ∃ row ∈ t.friendships.rows, row.userId = row'.userId ∧ row.friendId = row'.friendId ∧
        row.conversationId = row'.conversationId ∧ (row'.status = .normal → row.status = .normal) := by
    intro row' inside
    obtain ⟨row, there, rfl⟩ := Table.mem_update.mp inside
    refine ⟨row, there, ?_⟩
    split
    · exact ⟨rfl, rfl, rfl, fun normal => absurd normal ended⟩
    · exact ⟨rfl, rfl, rfl, fun normal => normal⟩
  refine { inv with typed := fun row' inside => ?_, named := fun row' inside normal => ?_, apart := ?_, one := ?_ }
  · obtain ⟨row, there, -, -, conv, -⟩ := rows row' inside
    rw [← conv]
    exact inv.typed row there
  · obtain ⟨row, there, -, -, conv, was⟩ := rows row' inside
    rw [← conv]
    exact inv.named row there (was normal)
  · intro first inside second inside' named same
    obtain ⟨row, there, user, friend, conv, -⟩ := rows first inside
    obtain ⟨row', there', user', friend', conv', -⟩ := rows second inside'
    have pair := inv.apart row there row' there' (by rwa [conv]) (by rw [conv, conv', same])
    rwa [OfPair, user, friend, user', friend'] at pair
  · intro first inside second inside' pair named named'
    obtain ⟨row, there, user, friend, conv, -⟩ := rows first inside
    obtain ⟨row', there', user', friend', conv', -⟩ := rows second inside'
    rw [← conv, ← conv']
    refine inv.one row there row' there' ?_ (by rwa [conv]) (by rwa [conv'])
    rwa [OfPair, user, friend, user', friend']

/-- A normal row was there before, and it is not the one whose status was set. -/
private theorem normal_row {userId friendId : Int} {status : FriendshipStatus} {now : Bytes} (ended : status ≠ .normal)
    {row : Friendship} (inside : row ∈ (t.setFriendshipStatus userId friendId status now).friendships.rows)
    (normal : row.status = .normal) :
    row ∈ t.friendships.rows ∧ ¬(row.userId = userId ∧ row.friendId = friendId) := by
  obtain ⟨old, there, rfl⟩ := Table.mem_update.mp inside
  split at normal
  · exact absurd normal ended
  · rename_i other
    rw [if_neg other]
    exact ⟨there, by simpa using other⟩

theorem together_status {userId friendId : Int} {status : FriendshipStatus} {now : Bytes} (ended : status ≠ .normal)
    (together : Together a b t) : Together a b (t.setFriendshipStatus userId friendId status now) := by
  intro row row' ⟨there, back, ours, theirs, normal⟩
  exact together row row' ⟨(normal_row ended there normal.1).1, (normal_row ended back normal.2).1, ours, theirs, normal⟩

end Writes

/-! ### Friend requests -/

section Friend
variable {t t' : Tables} {a b : Int} {fr : FriendRequest} {now : Bytes}

private theorem blockedRow_chat {f : Friendship} (unnamed : f.conversationId = 0) (blocked : f.status ≠ .normal)
    (inv : ChatInv t) : ChatInv (t.insertFriendship f) ∧ (Together a b t → Together a b (t.insertFriendship f)) := by
  have rows : ∀ row ∈ (t.insertFriendship f).friendships.rows,
      row ∈ t.friendships.rows ∨ row.conversationId = 0 ∧ row.status ≠ .normal := by
    intro row inside
    rcases Table.mem_insert.mp inside with there | ⟨-, rfl⟩
    · exact .inl there
    · exact .inr ⟨unnamed, blocked⟩
  constructor
  · refine { inv with typed := fun row inside named => ?_, named := fun row inside normal => ?_, apart := ?_, one := ?_ }
    · rcases rows row inside with there | ⟨zero, -⟩
      · exact inv.typed row there named
      · exact absurd zero named
    · rcases rows row inside with there | ⟨-, other⟩
      · exact inv.named row there normal
      · exact absurd normal other
    · intro row inside row' inside' named same
      rcases rows row inside with there | ⟨zero, -⟩
      · rcases rows row' inside' with there' | ⟨zero', -⟩
        · exact inv.apart row there row' there' named same
        · exact absurd (same.trans zero') named
      · exact absurd zero named
    · intro row inside row' inside' pair named named'
      rcases rows row inside with there | ⟨zero, -⟩
      · rcases rows row' inside' with there' | ⟨zero', -⟩
        · exact inv.one row there row' there' pair named named'
        · exact absurd zero' named'
      · exact absurd zero named
  · intro together row row' ⟨there, back, ours, theirs, normal⟩
    rcases rows row there with old | ⟨-, other⟩
    · rcases rows row' back with old' | ⟨-, other⟩
      · exact together row row' ⟨old, old', ours, theirs, normal⟩
      · exact absurd normal.2 other
    · exact absurd normal.1 other

/-- The kinds of the conversations behind an acceptance. -/
theorem accepted_kinds (accepted : Accepted fr now t t') {type : ConvType} {c : Int} :
    OfKind t' type c ↔ OfKind t type c ∨ c = t.conversations.lastId + 1 ∧ type = .private_ := by
  obtain ⟨rows, -⟩ := accepted_conversations accepted
  unfold OfKind
  rw [rows]
  constructor
  · rintro ⟨conv, inside, id, kind⟩
    rcases List.mem_append.mp inside with there | new
    · exact .inl ⟨conv, there, id, kind⟩
    · rw [List.mem_singleton.mp new] at id kind
      exact .inr ⟨id.symm, kind.symm⟩
  · rintro (⟨conv, there, named⟩ | ⟨rfl, rfl⟩)
    · exact ⟨conv, List.mem_append_left _ there, named⟩
    · exact ⟨_, List.mem_append_right _ (List.mem_singleton_self _), rfl, rfl⟩

private theorem accepted_joined (accepted : Accepted fr now t t') :
    (∀ c user, Joined t c user → Joined t' c user) ∧
      Joined t' (t.conversations.lastId + 1) fr.fromId ∧ Joined t' (t.conversations.lastId + 1) fr.toId := by
  rw [accepted.tables]
  refine ⟨?_, ?_, ?_⟩
  · rintro c user ⟨m, there, named⟩
    exact ⟨m, Table.mem_insert.mpr (.inl (Table.mem_insert.mpr (.inl there))), named⟩
  · exact ⟨_, Table.mem_insert.mpr (.inl (Table.mem_insert.mpr (.inr ⟨accepted.asker, rfl⟩))), rfl, rfl⟩
  · exact ⟨_, Table.mem_insert.mpr (.inr ⟨accepted.asked, rfl⟩), rfl, rfl⟩

private theorem accepted_role (accepted : Accepted fr now t t') {m : ConversationMember} (inside : m ∈ t'.members.rows) :
    m ∈ t.members.rows ∨ m.conversationId = t.conversations.lastId + 1 ∧ m.role = .member := by
  rw [accepted.tables] at inside
  rcases Table.mem_insert.mp inside with inside | ⟨-, rfl⟩
  · rcases Table.mem_insert.mp inside with inside | ⟨-, rfl⟩
    · exact .inl inside
    · exact .inr ⟨rfl, rfl⟩
  · exact .inr ⟨rfl, rfl⟩

/-- Rows of one pair of which one is new are both new. -/
private theorem accepted_pair (accepted : Accepted fr now t t') {row row' : Friendship}
    (inside : row ∈ t'.friendships.rows) (inside' : row' ∈ t'.friendships.rows)
    (pair : OfPair row' row.userId row.friendId) :
    row ∈ t.friendships.rows ∧ row' ∈ t.friendships.rows ∨
      row.conversationId = t.conversations.lastId + 1 ∧ row'.conversationId = t.conversations.lastId + 1 ∧
        OfPair row fr.fromId fr.toId := by
  have strangers := accepted_strangers accepted
  rcases accepted_row accepted inside with there | ⟨conv, users⟩ <;>
    rcases accepted_row accepted inside' with there' | ⟨conv', users'⟩
  · exact .inl ⟨there, there'⟩
  · refine absurd ⟨row, there, ?_⟩ strangers
    unfold OfPair at pair ⊢
    omega
  · refine absurd ⟨row', there', ?_⟩ strangers
    unfold OfPair at pair ⊢
    omega
  · exact .inr ⟨conv, conv', users.imp id id⟩

private theorem accepted_chat (accepted : Accepted fr now t t') (inv : ChatInv t) :
    ChatInv t' ∧ (Together a b t → Together a b t') := by
  obtain ⟨-, last⟩ := accepted_conversations accepted
  have old : ∀ row ∈ t.friendships.rows, row.conversationId ≠ 0 → row.conversationId ≤ t.conversations.lastId :=
    fun row there named => (ofKind_bounded (inv.typed row there named)).2
  refine ⟨⟨fun m inside => ?_, fun m inside kind => ?_, fun g inside => ?_, fun row inside named => ?_,
    fun row inside normal => ?_, ?_, ?_⟩, fun together row row' friends => ?_⟩
  · rw [last]
    push_cast
    rcases accepted_role accepted inside with there | ⟨new, -⟩
    · exact (inv.numbered m there).trans (by omega)
    · exact new.le
  · rcases accepted_role accepted inside with there | ⟨-, role⟩
    · rcases (accepted_kinds accepted).mp kind with kind | ⟨new, -⟩
      · exact inv.plain m there kind
      · have := inv.numbered m there
        omega
    · exact role
  · rw [accepted_kinds accepted]
    rw [accepted.tables] at inside
    exact .inl (inv.grouped g inside)
  · rw [accepted_kinds accepted]
    rcases accepted_row accepted inside with there | ⟨new, -⟩
    · exact .inl (inv.typed row there named)
    · exact .inr ⟨new, rfl⟩
  · rcases accepted_row accepted inside with there | ⟨new, -⟩
    · exact inv.named row there normal
    · omega
  · intro row inside row' inside' named same
    rcases accepted_row accepted inside with there | ⟨conv, users⟩ <;>
      rcases accepted_row accepted inside' with there' | ⟨conv', users'⟩
    · exact inv.apart row there row' there' named same
    · have := old row there named
      omega
    · have := old row' there' (same ▸ named)
      omega
    · unfold OfPair
      omega
  · intro row inside row' inside' pair named named'
    rcases accepted_pair accepted inside inside' pair with ⟨there, there'⟩ | ⟨conv, conv', -⟩
    · exact inv.one row there row' there' pair named named'
    · rw [conv, conv']
  · obtain ⟨keeps, from_, to_⟩ := accepted_joined accepted
    have pair : OfPair row' row.userId row.friendId := by
      right
      rw [friends.ours.1, friends.ours.2]
      exact friends.theirs
    rcases accepted_pair accepted friends.there friends.back pair with ⟨there, back⟩ | ⟨conv, -, users⟩
    · obtain ⟨mine, yours⟩ := together row row' ⟨there, back, friends.ours, friends.theirs, friends.normal⟩
      exact ⟨keeps _ _ mine, keeps _ _ yours⟩
    · rw [conv]
      rcases users with ⟨user, friend⟩ | ⟨user, friend⟩
      · rw [← friends.ours.1, ← friends.ours.2, user, friend]
        exact ⟨from_, to_⟩
      · rw [← friends.ours.1, ← friends.ours.2, user, friend]
        exact ⟨to_, from_⟩

/-- The deletion of a friendship reaches the conversation of that pair only. -/
private theorem deleted_chat {myId targetId : Int} {row : Friendship} (there : row ∈ t.friendships.rows)
    (pair : row.userId = myId ∧ row.friendId = targetId)
    (writes : applyAll (deleteWrites myId targetId row.conversationId now) t = some t') (inv : ChatInv t) :
    ChatInv t' ∧ (Together a b t → Together a b t') := by
  have ended : FriendshipStatus.deleted ≠ .normal := by decide
  have inv₁ : ChatInv ((t.setFriendshipStatus myId targetId .deleted now).setFriendshipStatus targetId myId .deleted
      now) := chatInv_status ended (chatInv_status ended inv)
  have together₁ : Together a b t → Together a b ((t.setFriendshipStatus myId targetId .deleted
      now).setFriendshipStatus targetId myId .deleted now) :=
    fun together => together_status ended (together_status ended together)
  unfold deleteWrites at writes
  split at writes <;> cases writes
  · rename_i named
    refine ⟨(shrinks_delete _).inv ((shrinks_delete _).inv inv₁), fun together => ?_⟩
    refine together_of_joined (t := (t.setFriendshipStatus myId targetId .deleted now).setFriendshipStatus
      targetId myId .deleted now) rfl (fun first second friends user who joined => ?_) (together₁ together)
    -- a friendship that is still there has a conversation of its own
    have other : first.conversationId ≠ row.conversationId := by
      intro same
      obtain ⟨kept, notTheirs⟩ := normal_row ended friends.there friends.normal.1
      obtain ⟨old, notOurs⟩ := normal_row ended kept friends.normal.1
      rcases inv.apart row there first old (by omega) same.symm with ours | theirs
      · exact notOurs ⟨ours.1.trans pair.1, ours.2.trans pair.2⟩
      · exact notTheirs ⟨theirs.1.trans pair.2, theirs.2.trans pair.1⟩
    exact joined_removeMember (.inl other) (joined_removeMember (.inl other) joined)
  · exact ⟨inv₁, together₁⟩

/-- A friend request keeps what is known of the chats. -/
theorem friendStep_chat {me : Connection} {faults : List Bool} {request : FriendService.Request}
    (step : FriendStep me faults now t request t') (inv : ChatInv t) :
    ChatInv t' ∧ (Together a b t → Together a b t') := by
  cases step with
  | requested | rejected =>
    refine SameChats.chat (t := t) ?_ inv
    exact sameChats_of_eq rfl rfl rfl rfl
  | blocked => exact ⟨chatInv_status (by decide) inv, together_status (by decide)⟩
  | unblocked => exact ⟨chatInv_status (by decide) inv, together_status (by decide)⟩
  | blockedStranger => exact blockedRow_chat rfl (fun blocked => nomatch blocked) inv
  | accepted conn seq req fr known named mine pending action _ writes => exact accepted_chat (accepted_of_writes writes) inv
  | deleted conn seq req target known named row there pair normal _ writes => exact deleted_chat there pair writes inv

end Friend

/-! ### Group requests -/

section Group
variable {t t' : Tables} {a b : Int} {now : Bytes}

/-- The kinds of the conversations behind the creation of a group. -/
theorem created_kinds {conv : Conversation} {group : Group} {owner : ConversationMember} {added : List ConversationMember}
    (created : Created t t' conv group owner added) {type : ConvType} {c : Int} :
    OfKind t' type c ↔ OfKind t type c ∨ c = group.conversationId ∧ type = .group := by
  unfold OfKind
  rw [created.conversations]
  constructor
  · rintro ⟨other, inside, id, kind⟩
    rcases List.mem_append.mp inside with there | new
    · exact .inl ⟨other, there, id, kind⟩
    · rw [List.mem_singleton.mp new] at id kind
      exact .inr ⟨id.symm.trans created.copies.1, kind.symm.trans created.copies.2.1⟩
  · rintro (⟨other, there, named⟩ | ⟨rfl, rfl⟩)
    · exact ⟨other, List.mem_append_left _ there, named⟩
    · exact ⟨conv, List.mem_append_right _ (List.mem_singleton_self _), created.copies.1, created.copies.2.1⟩

private theorem created_chat {conv : Conversation} {group : Group} {owner : ConversationMember}
    {added : List ConversationMember} (created : Created t t' conv group owner added) (inv : ChatInv t) :
    ChatInv t' ∧ (Together a b t → Together a b t') := by
  have fresh := created.fresh
  have kinds : ∀ {type c}, OfKind t' type c ↔ OfKind t type c ∨ c = group.conversationId ∧ type = .group :=
    created_kinds created
  have friends : t'.friendships = t.friendships := created.friendships
  refine ⟨⟨fun m inside => ?_, fun m inside kind => ?_, fun g inside => ?_, fun row inside named => ?_,
    friends.symm ▸ inv.named, friends.symm ▸ inv.apart, friends.symm ▸ inv.one⟩, together_of_joined friends ?_⟩
  · rw [created.lastId]
    push_cast
    rw [created.members] at inside
    rcases List.mem_append.mp inside with there | new
    · exact (inv.numbered m there).trans (by omega)
    · have := created.newMember new
      omega
  · rcases kinds.mp kind with kind | ⟨-, other⟩
    · rw [created.members] at inside
      rcases List.mem_append.mp inside with there | new
      · exact inv.plain m there kind
      · have := created.newMember new
        have := (ofKind_bounded kind).2
        omega
    · cases other
  · rw [kinds]
    rw [created.groups] at inside
    rcases List.mem_append.mp inside with there | new
    · exact .inl (inv.grouped g there)
    · rw [List.mem_singleton.mp new]
      exact .inr ⟨rfl, rfl⟩
  · rw [kinds]
    rw [friends] at inside
    exact .inl (inv.typed row inside named)
  · rintro row row' - user - ⟨m, there, named⟩
    rw [GroupService.Joined, created.members]
    exact ⟨m, List.mem_append_left _ there, named⟩

/-- A manager is not a member of a private conversation. -/
theorem managed_group {c userId : Int} (manager : Manages t c userId) (inv : ChatInv t) : ¬OfKind t .private_ c := by
  obtain ⟨m, there, rfl, -, may⟩ := manager
  intro kind
  simp [mayManage, inv.plain m there kind] at may

private theorem approved_chat {m : ConversationMember} (role : m.role = .member)
    (resident : ∃ other ∈ t.members.rows, other.conversationId = m.conversationId) (inv : ChatInv t) :
    ChatInv (t.addMember m) ∧ (Together a b t → Together a b (t.addMember m)) := by
  obtain ⟨other, there, same⟩ := resident
  refine ⟨{ inv with numbered := fun m' inside => ?_, plain := fun m' inside kind => ?_ }, together_of_joined rfl ?_⟩
  · rcases Table.mem_insert.mp inside with old | ⟨-, rfl⟩
    · exact inv.numbered m' old
    · exact same ▸ inv.numbered other there
  · rcases Table.mem_insert.mp inside with old | ⟨-, rfl⟩
    · exact inv.plain m' old kind
    · exact role
  · rintro row row' - user - ⟨m', inside, named⟩
    exact ⟨m', Table.mem_insert.mpr (.inl inside), named⟩

/-- A member that goes from another conversation than that of the friends. -/
private theorem removed_chat {c user : Int} (inv : ChatInv t)
    (other : ∀ row row', BothNormal t a b row row' → user = a ∨ user = b → row.conversationId ≠ c) :
    ChatInv (t.removeMember c user) ∧ (Together a b t → Together a b (t.removeMember c user)) := by
  refine ⟨(shrinks_delete _).inv inv, together_of_joined rfl fun row row' friends who ours joined => ?_⟩
  refine joined_removeMember ?_ joined
  by_cases same : who = user
  · exact .inl (other row row' friends (same ▸ ours))
  · exact .inr same

/-- A rewritten group keeps its conversation, and a rewritten conversation its type. -/
theorem updated_kinds {req : UpdateGroupReq} {group : Group} {conv : Conversation}
    (known : conv ∈ t.conversations.rows) {type : ConvType} {c : Int} :
    OfKind (t.updateConversation (rewritten req group conv)) type c ↔ OfKind t type c := by
  have rows : ∀ {other}, other ∈ (t.updateConversation (rewritten req group conv)).conversations.rows ↔
      other = rewritten req group conv ∨ other ∈ t.conversations.rows ∧ other ≠ conv := mem_replaced known (if_pos rfl)
  constructor
  · rintro ⟨other, inside, id, kind⟩
    rcases rows.mp inside with rfl | ⟨there, -⟩
    · exact ⟨conv, known, id, kind⟩
    · exact ⟨other, there, id, kind⟩
  · rintro ⟨other, there, id, kind⟩
    by_cases same : other = conv
    · exact ⟨_, rows.mpr (.inl rfl), same ▸ id, same ▸ kind⟩
    · exact ⟨other, rows.mpr (.inr ⟨there, same⟩), id, kind⟩

private theorem updateGroup_chat {group : Group} {req : UpdateGroupReq} (known : group ∈ t.groups.rows) (inv : ChatInv t) :
    ChatInv (t.updateGroup (updated group req)) ∧ (Together a b t → Together a b (t.updateGroup (updated group req))) := by
  refine ⟨{ inv with grouped := fun g inside => ?_ }, together_of_joined rfl fun _ _ _ _ _ joined => joined⟩
  have rows := (mem_replaced (b := updated group req) known (if_pos rfl)).mp inside
  rcases rows with rfl | ⟨there, -⟩
  · exact inv.grouped group known
  · exact inv.grouped g there

private theorem updated_chat {group : Group} {req : UpdateGroupReq} (known : group ∈ t.groups.rows)
    (writes : applyAll (updateWrites req (updated group req) t) t = some t') (inv : ChatInv t) :
    ChatInv t' ∧ (Together a b t → Together a b t') := by
  obtain ⟨inv₁, together₁⟩ : ChatInv (t.updateGroup (updated group req)) ∧
      (Together a b t → Together a b (t.updateGroup (updated group req))) := updateGroup_chat known inv
  unfold updateWrites at writes
  cases found : conversationOf req.conversationId t with
  | none =>
    rw [found] at writes
    cases writes
    exact ⟨inv₁, together₁⟩
  | some conv =>
    rw [found] at writes
    cases writes
    have there : conv ∈ (t.updateGroup (updated group req)).conversations.rows := List.mem_of_find?_eq_some found
    have shrinks : Shrinks (t.updateGroup (updated group req))
        ((t.updateGroup (updated group req)).updateConversation (rewritten req (updated group req) conv)) :=
      ⟨rfl, rfl, fun _ _ => updated_kinds there, fun g inside => ⟨g, inside, rfl⟩, fun m inside => ⟨m, inside, rfl, fun _ => rfl⟩⟩
    refine ⟨shrinks.inv inv₁, fun together => ?_⟩
    exact together_of_joined (t := t.updateGroup (updated group req)) rfl (fun _ _ _ _ _ joined => joined) (together₁ together)

/-- Roles are set in groups only. -/
private theorem roleSet_chat {c target : Int} {role : MemberRole} {operator : ConversationMember}
    (there : operator ∈ t.members.rows) (mine : operator.conversationId = c) (owner : operator.role = .owner)
    (inv : ChatInv t) :
    let t' := t.updateMember c target (fun _ => true) ⟨fun r => { r with role := role }, fun _ => rfl, fun _ _ => rfl⟩
    ChatInv t' ∧ (Together a b t → Together a b t') := by
  have group : ¬OfKind t .private_ c := by
    intro kind
    have := inv.plain operator there (mine ▸ kind)
    rw [owner] at this
    cases this
  refine ⟨Shrinks.inv (t := t) ⟨rfl, rfl, fun _ _ => Iff.rfl, fun g inside => ⟨g, inside, rfl⟩, fun m' inside => ?_⟩ inv,
    together_of_joined rfl ?_⟩
  · obtain ⟨m, known, rfl⟩ := Table.mem_update.mp inside
    refine ⟨m, known, ?_⟩
    split
    · rename_i selected
      simp only [Bool.and_true, Bool.and_eq_true, decide_eq_true_eq] at selected
      exact ⟨rfl, fun kind => absurd (selected.1 ▸ kind) group⟩
    · exact ⟨rfl, fun _ => rfl⟩
  · rintro row row' - user - ⟨m, known, named⟩
    refine ⟨_, Table.mem_update.mpr ⟨m, known, rfl⟩, ?_⟩
    split <;> exact named

/-- A group request keeps what is known of the chats, unless it takes a friend out of the
    conversation. -/
theorem groupStep_chat {me : Connection} {faults : List Bool} {request : GroupService.Request}
    (step : GroupStep me faults now t request t')
    (stays : ∀ conn seq req, request = .leaveGroup conn seq (some req) → me.userId = a ∨ me.userId = b →
      (∃ row row', BothNormal t a b row row' ∧ row.conversationId = req.conversationId) →
      ¬StatementFails faults 0 → StatementFails faults 1)
    (inv : ChatInv t) : ChatInv t' ∧ (Together a b t → Together a b t') := by
  have private_ : ∀ {row row'}, BothNormal t a b row row' → OfKind t .private_ row.conversationId :=
    fun friends => inv.typed _ friends.there (inv.named _ friends.there friends.normal.1)
  cases step with
  | created conn seq req room _ writes =>
    obtain ⟨conv, group, owner, added, created⟩ := created_of_writes room writes
    exact created_chat created inv
  | dismissed conn seq req group known named owner _ writes =>
    cases writes
    have shrinks : Shrinks t ((t.deleteGroup req.conversationId).removeAllMembers req.conversationId) :=
      ⟨rfl, rfl, fun _ _ => Iff.rfl, fun g inside => ⟨g, (Table.mem_delete.mp inside).1, rfl⟩,
        fun m inside => ⟨m, (Table.mem_delete.mp inside).1, rfl, fun _ => rfl⟩⟩
    refine ⟨shrinks.inv inv, together_of_joined rfl ?_⟩
    rintro row row' friends user - ⟨m, there, conv, user⟩
    refine ⟨m, Table.mem_delete.mpr ⟨there, decide_eq_false ?_⟩, conv, user⟩
    rintro same
    have group := inv.grouped group known
    rw [named, ← same, conv] at group
    cases ofKind_unique (private_ friends) group
  | asked | rejected =>
    refine SameChats.chat (t := t) ?_ inv
    exact sameChats_of_eq rfl rfl rfl rfl
  | approved conn seq req jr known named pending manager action room _ writes =>
    obtain ⟨m, there, conv, -⟩ := manager
    rw [approveWrites, Tables.memberWrite, applyAll_guarded, applyAll_plain] at writes
    obtain ⟨-, writes⟩ := writes
    cases writes
    show ChatInv ((t.setJoinRequestStatus jr.id .accepted now).addMember _) ∧
      (_ → Together a b ((t.setJoinRequestStatus jr.id .accepted now).addMember _))
    have same : SameChats t (t.setJoinRequestStatus jr.id .accepted now) := sameChats_of_eq rfl rfl rfl rfl
    obtain ⟨inv', keeps⟩ := approved_chat (a := a) (b := b) (t := t.setJoinRequestStatus jr.id .accepted now)
      (m := memberOf jr.conversationId jr.userId .member now) rfl ⟨m, there, conv⟩ (same.inv inv)
    exact ⟨inv', fun together => keeps (same.together together)⟩
  | left conn seq req member known mine role found removed =>
    exact removed_chat inv fun row row' friends who same =>
      removed (stays conn seq req rfl who ⟨row, row', friends, same⟩ found)
  | kicked conn seq req manager target known named role =>
    exact removed_chat inv fun row row' friends _ same => managed_group manager inv (same ▸ private_ friends)
  | updated conn seq req manager group known named _ writes => exact updated_chat known writes inv
  | halfUpdated conn seq req manager group known named => exact updateGroup_chat known inv
  | roleSet conn seq req operator known mine owner other role below => exact roleSet_chat known mine.1 owner inv

end Group
/-! ### Runs -/

/-- One call keeps what is known of the chats. -/
theorem chat_performed {a b : Int} (w : World) (call : Call Request) (rollsBack : RollsBack handle w call)
    (stays : ¬LeavesFriend a b w call) (inv : ChatInv w.tables) :
    ChatInv (perform handle w call).tables ∧
      (Together a b w.tables → Together a b (perform handle w call).tables) := by
  have aside : (∃ r, call.request = .msg r) ∨ (∃ r, call.request = .conv r) →
      SameChats w.tables (perform handle w call).tables :=
    fun service => chatting_handle chatting_sameChats service (call.enter w)
  have unchanged : (perform handle w call).tables = w.tables → ChatInv (perform handle w call).tables ∧
      (Together a b w.tables → Together a b (perform handle w call).tables) := by
    intro same
    rw [same]
    exact ⟨inv, fun together => together⟩
  unfold RollsBack at rollsBack
  rcases call with ⟨around, request⟩
  cases request with
  | msg request => exact (aside (.inl ⟨_, rfl⟩)).chat inv
  | conv request => exact (aside (.inr ⟨_, rfl⟩)).chat inv
  | friend request =>
    rcases FriendService.handle_steps request rollsBack with same | step
    · exact unchanged same
    · exact friendStep_chat step inv
  | group request =>
    rcases GroupService.handle_steps request rollsBack with same | step
    · exact unchanged same
    · refine groupStep_chat step ?_ inv
      rintro conn seq req rfl who chat found
      by_contra removed
      exact stays ⟨conn, seq, req, rfl, who, chat, found, removed⟩

/-- In every serial run from tables without friendships, members and groups in which no
    ROLLBACK fails and neither of two users leaves, like a group, the conversation they have as
    friends: two users whose rows are both normal share a private conversation, as members. -/
theorem friends_share_conversation (w : World) (friendships : w.tables.friendships.rows = [])
    (members : w.tables.members.rows = []) (groups : w.tables.groups.rows = []) (a b : Int)
    (calls : List (Call Request))
    (rollsBack : Along (perform handle) (RollsBack handle) w calls)
    (stays : Along (perform handle) (fun w call => ¬LeavesFriend a b w call) w calls) :
    Coherent a b (after (perform handle) w calls).tables := by
  have initially : ChatInv w.tables ∧ Together a b w.tables := by
    refine ⟨⟨by simp [members], by simp [members], by simp [groups], by simp [friendships], by simp [friendships],
      by simp [friendships], by simp [friendships]⟩, fun row row' friends => ?_⟩
    have := friends.there
    simp [friendships] at this
  have keeps : ∀ (w : World) (call : Call Request), RollsBack handle w call ∧ ¬LeavesFriend a b w call →
      ChatInv w.tables ∧ Together a b w.tables →
        ChatInv (perform handle w call).tables ∧ Together a b (perform handle w call).tables := by
    intro w call ⟨rollsBack, stays⟩ ⟨inv, together⟩
    obtain ⟨inv', carried⟩ := chat_performed w call rollsBack stays inv
    exact ⟨inv', carried together⟩
  obtain ⟨inv, together⟩ := after_invariant keeps initially (along_and.mpr ⟨rollsBack, stays⟩)
  exact coherent_of_inv inv together

/-- User 1 leaves the conversation with user 2. -/
private def leaving : List (Call Request) :=
  befriending ++ [fromUser (.group (.leaveGroup 1 0 (some { conversationId := 1 })))]

/-- A friend who leaves the private conversation is still a friend. -/
theorem friends_lose_conversation :
    ¬∀ (a b : Int) (calls : List (Call Request)), Along (perform handle) (RollsBack handle) twoUsers calls →
      Coherent a b (after (perform handle) twoUsers calls).tables := by
  intro claim
  have coherent := claim 1 2 leaving ⟨rfl, rfl, rfl, trivial⟩
  have friends : ∃ row ∈ (after (perform handle) twoUsers leaving).tables.friendships.rows,
      ∃ row' ∈ (after (perform handle) twoUsers leaving).tables.friendships.rows,
      ((row.userId = 1 ∧ row.friendId = 2) ∧ (row'.userId = 2 ∧ row'.friendId = 1) ∧
        row.status = .normal ∧ row'.status = .normal) ∧
      ¬Joined (after (perform handle) twoUsers leaving).tables row.conversationId 1 := by decide
  obtain ⟨row, there, row', back, ⟨ours, theirs, normal⟩, gone⟩ := friends
  exact gone (coherent row row' ⟨there, back, ours, theirs, normal⟩).2.2.1

/-- Two friends after the acceptance. -/
theorem friends_share_conversation_befriended : Coherent 1 2 (after (perform handle) twoUsers befriending).tables :=
  friends_share_conversation twoUsers rfl rfl rfl 1 2 befriending ⟨rfl, rfl, trivial⟩ (by
    refine ⟨?_, ?_, trivial⟩ <;> rintro ⟨conn, seq, req, asked, -⟩ <;> cases asked)

end NovaIIM
