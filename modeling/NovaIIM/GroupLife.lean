import NovaIIM.Credentials
import NovaIIM.ServerSteps

/-!
The life of a group on the whole server.

What the group service keeps (`GroupInv`) is kept by every other service as well, as long as
friendships name private conversations only (`ChatInv`); so `Settlement` holds in every state of
every run without failures. Behind a dismissal no service brings the group back: nobody is a member
again and no message is stored (`dismissed_forever`).
-/
namespace NovaIIM
open Store FriendService GroupService

/-! ### What the message and the conversation service leave of a group -/

/-- The second tables have the same groups, and conversations and members that differ in other columns only. -/
structure SameGroups (t t' : Tables) : Prop where
  groups : t'.groups = t.groups
  requests : t'.groupJoinRequests = t.groupJoinRequests
  lastId : t'.conversations.lastId = t.conversations.lastId
  conversations : ∃ change : Conversation → Conversation, t'.conversations.rows = t.conversations.rows.map change ∧
    ∀ conv, (change conv).id = conv.id ∧ (change conv).type = conv.type ∧ (change conv).ownerId = conv.ownerId ∧
      (change conv).name = conv.name ∧ (change conv).avatar = conv.avatar
  members : ∃ change : ConversationMember → ConversationMember, t'.members.rows = t.members.rows.map change ∧
    ∀ m, (change m).conversationId = m.conversationId ∧ (change m).userId = m.userId ∧ (change m).role = m.role

section SameGroups
variable {t t' t'' : Tables}

theorem sameGroups_of_eq (groups : t'.groups = t.groups) (requests : t'.groupJoinRequests = t.groupJoinRequests)
    (conversations : t'.conversations = t.conversations) (members : t'.members = t.members) : SameGroups t t' := by
  refine ⟨groups, requests, by rw [conversations], ⟨id, ?_, fun _ => ⟨rfl, rfl, rfl, rfl, rfl⟩⟩, id, ?_, fun _ => ⟨rfl, rfl, rfl⟩⟩
  · rw [conversations, List.map_id]
  · rw [members, List.map_id]

theorem SameGroups.trans (first : SameGroups t t') (second : SameGroups t' t'') : SameGroups t t'' := by
  obtain ⟨change, rows, same⟩ := first.conversations
  obtain ⟨change', rows', same'⟩ := second.conversations
  obtain ⟨move, members, stays⟩ := first.members
  obtain ⟨move', members', stays'⟩ := second.members
  refine ⟨second.groups.trans first.groups, second.requests.trans first.requests, second.lastId.trans first.lastId,
    ⟨change' ∘ change, ?_, fun conv => ?_⟩, move' ∘ move, ?_, fun m => ?_⟩
  · rw [rows', rows, List.map_map]
  · have later := same' (change conv)
    have before := same conv
    simp only [Function.comp_apply]
    rw [later.1, later.2.1, later.2.2.1, later.2.2.2.1, later.2.2.2.2]
    exact before
  · rw [members', members, List.map_map]
  · have later := stays' (move m)
    have before := stays m
    simp only [Function.comp_apply]
    rw [later.1, later.2.1, later.2.2]
    exact before

theorem chatting_sameGroups : Chatting SameGroups where
  refl t := sameGroups_of_eq rfl rfl rfl rfl
  trans := .trans
  numbered t conversationId := by
    refine { @sameGroups_of_eq t t rfl rfl rfl rfl with conversations := ⟨_, rfl, fun conv => ?_⟩ }
    split
    · exact ⟨rfl, rfl, rfl, rfl, rfl⟩
    · exact ⟨rfl, rfl, rfl, rfl, rfl⟩
  stored t m := sameGroups_of_eq rfl rfl rfl rfl
  status t id status := sameGroups_of_eq rfl rfl rfl rfl
  settings t conversationId userId selected change settled := by
    refine { @sameGroups_of_eq t t rfl rfl rfl rfl with members := ⟨_, rfl, fun m => ?_⟩ }
    split
    · exact ⟨(named_update change m).1, (named_update change m).2, settled m⟩
    · exact ⟨rfl, rfl, rfl⟩

/-- A conversation of the second tables and the one it was. -/
theorem SameGroups.conversation (same : SameGroups t t') {conv' : Conversation} (inside : conv' ∈ t'.conversations.rows) :
    ∃ conv ∈ t.conversations.rows, conv'.id = conv.id ∧ conv'.type = conv.type := by
  obtain ⟨change, rows, kept⟩ := same.conversations
  rw [rows] at inside
  obtain ⟨conv, there, rfl⟩ := List.mem_map.mp inside
  exact ⟨conv, there, (kept conv).1, (kept conv).2.1⟩

theorem SameGroups.groupConversation (same : SameGroups t t') {conversationId : Int} :
    GroupConversation t' conversationId ↔ GroupConversation t conversationId := by
  obtain ⟨change, rows, kept⟩ := same.conversations
  constructor
  · rintro ⟨conv', inside, id, type⟩
    obtain ⟨conv, there, id', type'⟩ := same.conversation inside
    exact ⟨conv, there, id'.symm.trans id, type'.symm.trans type⟩
  · rintro ⟨conv, there, id, type⟩
    refine ⟨change conv, ?_, (kept conv).1.trans id, (kept conv).2.1.trans type⟩
    rw [rows]
    exact List.mem_map_of_mem there

theorem SameGroups.inv (same : SameGroups t t') (inv : GroupInv t) : GroupInv t' := by
  obtain ⟨change, rows, kept⟩ := same.conversations
  obtain ⟨move, members, stays⟩ := same.members
  have member : ∀ {c m'}, MemberRow t' c m' → ∃ m, MemberRow t c m ∧ move m = m' := by
    rintro c m' ⟨inside, conv⟩
    rw [members] at inside
    obtain ⟨m, there, rfl⟩ := List.mem_map.mp inside
    exact ⟨m, ⟨there, (stays m).1.symm.trans conv⟩, rfl⟩
  have moved : ∀ {c m}, MemberRow t c m → MemberRow t' c (move m) := by
    rintro c m ⟨there, conv⟩
    refine ⟨?_, (stays m).1.trans conv⟩
    rw [members]
    exact List.mem_map_of_mem there
  have pending : ∀ {c userId jr}, PendingRow t' c userId jr ↔ PendingRow t c userId jr := by
    intro c userId jr
    rw [PendingRow, PendingRow, same.requests]
  constructor
  · intro g inside
    rw [same.groups] at inside
    have before := inv.consistent g inside
    constructor
    · obtain ⟨conv, there, id, type, owner, name, avatar⟩ := before.conversation
      refine ⟨change conv, by rw [rows]; exact List.mem_map_of_mem there, ?_⟩
      obtain ⟨id', type', owner', name', avatar'⟩ := kept conv
      exact ⟨id'.trans id, type'.trans type, owner'.trans owner, name'.trans name, avatar'.trans avatar⟩
    · obtain ⟨m, row, role, user⟩ := before.owner
      exact ⟨move m, moved row, (stays m).2.2.trans role, (stays m).2.1.trans user⟩
    · intro m m' row row' role role'
      obtain ⟨first, there, rfl⟩ := member row
      obtain ⟨second, there', rfl⟩ := member row'
      rw [before.onlyOwner first second there there' ((stays first).2.2.symm.trans role) ((stays second).2.2.symm.trans role')]
    · have size := before.size
      unfold memberCount at size ⊢
      rw [members, List.filter_map, List.length_map]
      refine le_of_eq_of_le (congrArg List.length (List.filter_congr fun m _ => ?_)) size
      simp only [Function.comp_apply, (stays m).1]
    · intro userId jr jr' row row'
      exact before.oneRequest userId jr jr' (pending.mp row) (pending.mp row')
    · rintro userId ⟨jr, row⟩ joined
      obtain ⟨m', there', user⟩ := joined_iff.mp joined
      obtain ⟨m, there, rfl⟩ := member there'
      refine before.outsiders userId ⟨jr, pending.mp row⟩ (joined_iff.mpr ⟨m, there, ?_⟩)
      exact (stays m).2.1.symm.trans user
  · rw [same.groups]
    exact inv.apart
  · rintro c ⟨group, gone⟩ m' row
    obtain ⟨m, there, -⟩ := member row
    rw [same.groups] at gone
    exact inv.emptied c ⟨same.groupConversation.mp group, gone⟩ m there
  · intro m' inside
    obtain ⟨m, there, rfl⟩ := member ⟨inside, rfl⟩
    rw [same.lastId, ← there.2]
    exact inv.numbered m there.1
  · intro jr inside
    rw [same.requests] at inside
    exact same.groupConversation.mpr (inv.requested jr inside)

/-- Tables that differ in other tables only. -/
theorem groupInv_of_eq (inv : GroupInv t) (groups : t'.groups = t.groups) (requests : t'.groupJoinRequests = t.groupJoinRequests)
    (conversations : t'.conversations = t.conversations) (members : t'.members = t.members) : GroupInv t' :=
  (sameGroups_of_eq groups requests conversations members).inv inv

end SameGroups

/-! ### What the friend service leaves of a group -/

section Friends
variable {t t' : Tables} {fr : FriendRequest} {now : Bytes}

/-- A new member of another conversation. -/
theorem filter_insert {c : Int} {rows : Table ConversationMember} {m : ConversationMember} (other : m.conversationId ≠ c) :
    (rows.insert m).rows.filter (fun r => r.conversationId = c) = rows.rows.filter fun r => r.conversationId = c := by
  rw [Table.rows_insert]
  split
  · rfl
  · rw [List.filter_append, List.append_right_eq_self, List.filter_singleton]
    rw [decide_eq_false (show (rows.fresh m).conversationId ≠ c from other)]
    rfl

/-- An acceptance is about a conversation of its own. -/
theorem accepted_groups (accepted : Accepted fr now t t') (inv : GroupInv t) : GroupInv t' := by
  obtain ⟨rows, last⟩ := accepted_conversations accepted
  have groups : t'.groups = t.groups := by rw [accepted.tables]; rfl
  have requests : t'.groupJoinRequests = t.groupJoinRequests := by rw [accepted.tables]; rfl
  have kind : ∀ {c : Int}, GroupConversation t' c → GroupConversation t c := by
    rintro c ⟨conv, inside, id, type⟩
    rw [rows] at inside
    rcases List.mem_append.mp inside with there | new
    · exact ⟨conv, there, id, type⟩
    · rw [List.mem_singleton.mp new] at type
      cases type
  have bound : ∀ {c : Int}, GroupConversation t c → c ≤ t.conversations.lastId := by
    rintro c ⟨conv, there, rfl, -⟩
    exact (t.conversations.bounded conv there).2
  have member : ∀ {c : Int} {m}, c ≤ t.conversations.lastId → MemberRow t' c m → MemberRow t c m := by
    rintro c m low ⟨inside, conv⟩
    rcases accepted_member accepted inside with there | ⟨new, -⟩
    · exact ⟨there, conv⟩
    · omega
  have untouched : ∀ {c : Int}, c ≤ t.conversations.lastId → Untouched c t t' := by
    intro c low
    refine ⟨fun conv there _ => by rw [rows]; exact List.mem_append_left _ there, ?_, fun userId jr row => ?_⟩
    · rw [accepted.tables]
      have other : (t.conversations.lastId : Int) + 1 ≠ c := by omega
      exact (filter_insert other).trans (filter_insert other)
    · rwa [PendingRow, requests] at row
  constructor
  · intro g inside
    rw [groups] at inside
    exact consistent_elsewhere (untouched (inv.known inside)) (inv.consistent g inside)
  · rw [groups]
    exact inv.apart
  · rintro c ⟨group, gone⟩ m row
    rw [groups] at gone
    exact inv.emptied c ⟨kind group, gone⟩ m (member (bound (kind group)) row)
  · intro m inside
    rw [last]
    rcases accepted_member accepted inside with there | ⟨new, -⟩
    · have := inv.numbered m there
      push_cast
      omega
    · push_cast
      omega
  · intro jr inside
    rw [requests] at inside
    obtain ⟨conv, there, named⟩ := inv.requested jr inside
    exact ⟨conv, by rw [rows]; exact List.mem_append_left _ there, named⟩

/-- Members of a private conversation go. -/
theorem groupInv_removeMember {c userId : Int} (private_ : OfKind t .private_ c) (inv : GroupInv t) :
    GroupInv (t.removeMember c userId) := by
  refine { inv with consistent := fun g inside => ?_, emptied := fun id dismissed m row => ?_, numbered := fun m inside => ?_ }
  · refine consistent_elsewhere (t := t) ⟨fun conv known _ => known, filter_delete fun m chosen => ?_, fun _ _ row => row⟩
      (inv.consistent g inside)
    obtain ⟨conv, there, id, type, -⟩ := (inv.consistent g inside).conversation
    simp only [Bool.and_eq_true, decide_eq_true_eq] at chosen
    intro same
    have kind : OfKind t .group c := ⟨conv, there, id.trans (same.symm.trans chosen.1), type⟩
    cases ofKind_unique private_ kind
  · exact inv.emptied id dismissed m ⟨(Table.mem_delete.mp row.1).1, row.2⟩
  · exact inv.numbered m (Table.mem_delete.mp inside).1

/-- A friend request keeps what the group service keeps. -/
theorem friendStep_groups {me : Connection} {faults : List Bool} {request : FriendService.Request}
    (step : FriendStep me faults now t request t') (chats : ChatInv t) (inv : GroupInv t) : GroupInv t' := by
  cases step with
  | requested | rejected | blocked | unblocked | blockedStranger =>
    exact groupInv_of_eq inv rfl rfl rfl rfl
  | accepted conn seq req fr known named mine pending action _ writes => exact accepted_groups (accepted_of_writes writes) inv
  | deleted conn seq req target known named row there pair normal _ writes =>
    have ended : ∀ {s : Tables} {a b : Int}, GroupInv s → GroupInv (s.setFriendshipStatus a b .deleted now) := fun held =>
      groupInv_of_eq held rfl rfl rfl rfl
    unfold deleteWrites at writes
    split at writes <;> cases writes
    · have some_ : row.conversationId ≠ 0 := by omega
      have kind := chats.typed row there some_
      refine groupInv_removeMember ?_ (groupInv_removeMember ?_ (ended (ended inv)))
      · exact kind
      · exact kind
    · exact ended (ended inv)

end Friends

/-! ### Between arrivals -/

/-- What holds of the server between arrivals. -/
structure Settlement (w : World) : Prop extends Chats w where
  groups : GroupInv w.tables

theorem settlement_received {w : World} (settled : Settlement w) {arrival : Arrival} (sound : arrival.faults = []) :
    Settlement (receive sqliteDaoFactory w arrival) := by
  refine ⟨chats_received settled.toChats sound, ?_⟩
  have step := received_tables settled.closed sound
  have inv : GroupInv ((arrival.call w).enter w).tables := settled.groups
  have chats : ChatInv ((arrival.call w).enter w).tables := settled.inv
  generalize arrival.input = input, (receive sqliteDaoFactory w arrival).tables = t' at step ⊢
  cases step with
  | aside input t' same =>
    simp only [Tables.social, Tables.kept, Prod.mk.injEq] at same
    obtain ⟨⟨-, -, conversations, members, groups⟩, -, requests⟩ := same
    exact groupInv_of_eq inv groups requests conversations members
  | chatted input t' writes => exact (writes chatting_sameGroups).inv inv
  | befriended request t' step => exact friendStep_groups step chats inv
  | grouped request t' step =>
    have unfailing : ((arrival.call w).enter w).faults = [] := sound
    rw [unfailing] at step
    exact inv_step step inv

/-- No arrival of a run meets a failure. -/
abbrev Faultless (_ : World) (arrival : Arrival) : Prop := arrival.faults = []

/-- What the services keep about chats and groups holds in every state of a run without failures. -/
theorem settlement_run {w : World} (settled : Settlement w) {arrivals : List Arrival}
    (sound : Along (receive sqliteDaoFactory) Faultless w arrivals) : Settlement (after (receive sqliteDaoFactory) w arrivals) :=
  @after_invariant _ _ (receive sqliteDaoFactory) Faultless Settlement (fun _ _ sound settled => settlement_received settled sound) w
    settled arrivals sound

/-- A server on which there are users only. -/
theorem settlement_empty {w : World} (closed : w.saved = none) (friendships : w.tables.friendships.rows = [])
    (members : w.tables.members.rows = []) (groups : w.tables.groups.rows = [])
    (requests : w.tables.groupJoinRequests.rows = []) : Settlement w where
  closed := closed
  inv := by constructor <;> simp [friendships, members, groups]
  groups := by
    refine ⟨by simp [groups], by simp [groups], ?_, by simp [members], by simp [requests]⟩
    rintro c - m ⟨inside, -⟩
    simp [members] at inside

/-! ### Behind a dismissal -/

/-- Groups stay with their conversations, and a new one is about a new conversation. -/
structure GroupsMove (t t' : Tables) : Prop where
  kinds : ∀ c, GroupConversation t c → GroupConversation t' c
  groups : ∀ g' ∈ t'.groups.rows, (∃ g ∈ t.groups.rows, g.conversationId = g'.conversationId) ∨
    t.conversations.lastId < g'.conversationId

section Moves
variable {t t' : Tables}

theorem groupsMove_of_eq (conversations : t'.conversations = t.conversations)
    (groups : ∀ g' ∈ t'.groups.rows, ∃ g ∈ t.groups.rows, g.conversationId = g'.conversationId) : GroupsMove t t' := by
  refine ⟨fun c group => ?_, fun g' inside => .inl (groups g' inside)⟩
  rwa [GroupConversation, conversations]

theorem GroupsMove.dismissed (moves : GroupsMove t t') {c : Int} (dismissed : Dismissed t c) : Dismissed t' c := by
  obtain ⟨group, gone⟩ := dismissed
  refine ⟨moves.kinds c group, fun g' inside named => ?_⟩
  rcases moves.groups g' inside with ⟨g, there, same⟩ | new
  · exact gone g there (same.trans named)
  · obtain ⟨conv, there, id, -⟩ := group
    have bound : conv.id ≤ t.conversations.lastId := (t.conversations.bounded conv there).2
    omega

/-- A rewritten group keeps its conversation. -/
theorem updateGroup_rows {group : Group} {req : UpdateGroupReq} (known : group ∈ t.groups.rows) :
    ∀ g' ∈ (t.updateGroup (updated group req)).groups.rows, ∃ g ∈ t.groups.rows, g.conversationId = g'.conversationId := by
  intro g' inside
  rcases (mem_replaced (b := updated group req) known (if_pos rfl)).mp inside with rfl | ⟨there, -⟩
  · exact ⟨group, known, rfl⟩
  · exact ⟨g', there, rfl⟩

theorem friendStep_moves {me : Connection} {faults : List Bool} {now : Bytes} {request : FriendService.Request}
    (step : FriendStep me faults now t request t') : GroupsMove t t' := by
  cases step with
  | requested | rejected | blocked | unblocked | blockedStranger =>
    exact groupsMove_of_eq rfl fun g inside => ⟨g, inside, rfl⟩
  | accepted conn seq req fr known named mine pending action _ writes =>
    have accepted := accepted_of_writes writes
    have groups : t'.groups = t.groups := by rw [accepted.tables]; rfl
    refine ⟨fun c group => ?_, fun g inside => .inl ⟨g, groups ▸ inside, rfl⟩⟩
    obtain ⟨conv, there, named⟩ := group
    exact ⟨conv, by rw [(accepted_conversations accepted).1]; exact List.mem_append_left _ there, named⟩
  | deleted conn seq req target known named row there pair normal _ writes =>
    unfold deleteWrites at writes
    split at writes <;> cases writes
    · exact groupsMove_of_eq rfl fun g inside => ⟨g, inside, rfl⟩
    · exact groupsMove_of_eq rfl fun g inside => ⟨g, inside, rfl⟩

theorem groupStep_moves {me : Connection} {faults : List Bool} {now : Bytes} {request : GroupService.Request}
    (step : GroupStep me faults now t request t') : GroupsMove t t' := by
  cases step with
  | created conn seq req room _ writes =>
    obtain ⟨conv, group, owner, added, created⟩ := created_of_writes room writes
    refine ⟨fun c known => ?_, fun g inside => ?_⟩
    · obtain ⟨old, there, named⟩ := known
      exact ⟨old, by rw [created.conversations]; exact List.mem_append_left _ there, named⟩
    · rw [created.groups] at inside
      rcases List.mem_append.mp inside with there | new
      · exact .inl ⟨g, there, rfl⟩
      · have fresh := created.fresh
        rw [List.mem_singleton.mp new]
        exact .inr (by omega)
  | dismissed conn seq req group known named owner _ writes =>
    cases writes
    exact groupsMove_of_eq rfl fun g inside => ⟨g, (Table.mem_delete.mp inside).1, rfl⟩
  | approved conn seq req jr known named pending manager action room _ writes =>
    rw [approveWrites, Tables.memberWrite, applyAll_guarded, applyAll_plain] at writes
    obtain ⟨-, writes⟩ := writes
    cases writes
    exact groupsMove_of_eq rfl fun g inside => ⟨g, inside, rfl⟩
  | asked | rejected | left | kicked | roleSet => exact groupsMove_of_eq rfl fun g inside => ⟨g, inside, rfl⟩
  | halfUpdated conn seq req manager group known => exact groupsMove_of_eq rfl (updateGroup_rows known)
  | updated conn seq req manager group known named _ writes =>
    unfold updateWrites at writes
    cases found : conversationOf req.conversationId t with
    | none =>
      rw [found] at writes
      cases writes
      exact groupsMove_of_eq rfl (updateGroup_rows known)
    | some conv =>
      rw [found] at writes
      cases writes
      have there : conv ∈ (t.updateGroup (updated group req)).conversations.rows := List.mem_of_find?_eq_some found
      refine ⟨fun c kind => ?_, fun g inside => .inl (updateGroup_rows known g inside)⟩
      exact (updated_kinds there).mpr kind

/-- No arrival brings a dismissed group back. -/
theorem dismissed_received {w : World} (settled : Settlement w) {arrival : Arrival} (sound : arrival.faults = []) {c : Int}
    (dismissed : Dismissed w.tables c) : Dismissed (receive sqliteDaoFactory w arrival).tables c := by
  have step := received_tables settled.closed sound
  have before : Dismissed ((arrival.call w).enter w).tables c := dismissed
  generalize arrival.input = input, (receive sqliteDaoFactory w arrival).tables = t' at step ⊢
  cases step with
  | aside input t' same =>
    simp only [Tables.social, Tables.kept, Prod.mk.injEq] at same
    obtain ⟨⟨-, -, conversations, -, groups⟩, -, -⟩ := same
    exact (groupsMove_of_eq conversations fun g inside => ⟨g, groups ▸ inside, rfl⟩).dismissed before
  | chatted input t' writes =>
    have same := writes chatting_sameGroups
    refine GroupsMove.dismissed ⟨fun c => same.groupConversation.mpr, fun g inside => ?_⟩ before
    exact .inl ⟨g, same.groups ▸ inside, rfl⟩
  | befriended request t' step => exact (friendStep_moves step).dismissed before
  | grouped request t' step => exact (groupStep_moves step).dismissed before

end Moves

section Runs
variable {w : World} {arrivals : List Arrival} {c : Int}

theorem dismissed_run (settled : Settlement w) (dismissed : Dismissed w.tables c)
    (sound : Along (receive sqliteDaoFactory) Faultless w arrivals) :
    Settlement (after (receive sqliteDaoFactory) w arrivals) ∧ Dismissed (after (receive sqliteDaoFactory) w arrivals).tables c :=
  @after_invariant _ _ (receive sqliteDaoFactory) Faultless (fun v => Settlement v ∧ Dismissed v.tables c)
    (fun _ _ sound held => ⟨settlement_received held.1 sound, dismissed_received held.1 sound held.2⟩) w ⟨settled, dismissed⟩
    arrivals sound

/-- Behind the dismissal of a group it stays dismissed, nobody is a member of it again, and no message is stored in it. -/
theorem dismissed_forever (settled : Settlement w) (dismissed : Dismissed w.tables c)
    (sound : Along (receive sqliteDaoFactory) Faultless w arrivals) :
    Dismissed (after (receive sqliteDaoFactory) w arrivals).tables c ∧
      (∀ userId, ¬Joined (after (receive sqliteDaoFactory) w arrivals).tables c userId) ∧
      ∀ m ∈ (after (receive sqliteDaoFactory) w arrivals).tables.messages.rows, m.conversationId = c →
        ∃ old ∈ w.tables.messages.rows, old.id = m.id := by
  obtain ⟨settled', still⟩ := dismissed_run settled dismissed sound
  refine ⟨still, fun userId joined => ?_, fun m inside here => ?_⟩
  · obtain ⟨m, row, -⟩ := joined_iff.mp joined
    exact settled'.groups.emptied c still m row
  · by_contra new
    have apart : ∀ old ∈ w.tables.messages.rows, old.id ≠ m.id := fun old there same => new ⟨old, there, same⟩
    obtain ⟨sofar, arrival, rest, rfl, conn, req, authored⟩ := message_authored inside apart
    obtain ⟨before, -⟩ := along_append.mp sound
    obtain ⟨settled'', still'⟩ := dismissed_run settled dismissed before
    obtain ⟨row, there, named⟩ := List.any_eq_true.mp authored.member
    simp only [Bool.and_eq_true, decide_eq_true_eq] at named
    exact settled''.groups.emptied c still' row ⟨there, named.1.trans here⟩

end Runs

/-- Three users, each logged in on the connection of the same number. -/
def threeOnline : World := { threeUsers with mem := { connections := fun conn => { userId := conn } } }

/-- User 1 creates a group and dismisses it. -/
def foundAndDismissed : List Arrival :=
  [{ input := .packet (.group (.createGroup 1 0 (some { name := [103], avatar := [], memberIds := [2, 3] }))) },
    { input := .packet (.group (.dismissGroup 1 0 (some { conversationId := 1 }))) }]

/-- User 2 writes to the group and asks to join it. -/
def knocking : List Arrival :=
  [{ input := .packet (.msg (.sendMsg 2 0 (some { conversationId := 1, content := [104], clientMsgId := [] }))) },
    { input := .packet (.group (.joinGroup 2 0 (some { conversationId := 1, remark := [] }))) }]

theorem dismissed_forever_knocking :
    Dismissed (after (receive sqliteDaoFactory) (after (receive sqliteDaoFactory) threeOnline foundAndDismissed) knocking).tables 1 ∧
      (∀ userId, ¬Joined (after (receive sqliteDaoFactory) (after (receive sqliteDaoFactory) threeOnline foundAndDismissed) knocking).tables
        1 userId) ∧
      ∀ m ∈ (after (receive sqliteDaoFactory) (after (receive sqliteDaoFactory) threeOnline foundAndDismissed) knocking).tables.messages.rows,
        m.conversationId = 1 → ∃ old ∈ (after (receive sqliteDaoFactory) threeOnline foundAndDismissed).tables.messages.rows, old.id = m.id := by
  have settled : Settlement threeOnline := settlement_empty rfl rfl rfl rfl rfl
  have gone : Dismissed (after (receive sqliteDaoFactory) threeOnline foundAndDismissed).tables 1 := by
    refine ⟨⟨_, List.Mem.head _, by decide, by decide⟩, by decide⟩
  exact dismissed_forever (settlement_run settled ⟨rfl, rfl, trivial⟩) gone ⟨rfl, rfl, trivial⟩

end NovaIIM
