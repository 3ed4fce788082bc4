import NovaIIM.Calls
import NovaIIM.GroupTransactions

/-!
What the rows of a group say about each other, in every serial run without
database failures.

The group row, its conversation and its members repeat the owner, the name and
the avatar (`Consistent`); the tables keep, besides, that a group is the only one
of its conversation and that nobody is a member of a dismissed one
(`GroupInv`). What a request writes about one conversation leaves the groups of
the others as they are (`consistent_elsewhere`); a run keeps the invariant
(`groups_consistent`).
-/
namespace NovaIIM
open Store GroupService

/-- A member row of a conversation. -/
def MemberRow (t : Tables) (conversationId : Int) (m : ConversationMember) : Prop :=
  m ∈ t.members.rows ∧ m.conversationId = conversationId

/-- A pending request of a user to join a conversation. -/
def PendingRow (t : Tables) (conversationId userId : Int) (jr : GroupJoinRequest) : Prop :=
  jr ∈ t.groupJoinRequests.rows ∧ jr.conversationId = conversationId ∧ jr.userId = userId ∧ jr.status = .pending

/-- What the tables say about a group. -/
structure Consistent (t : Tables) (g : Group) : Prop where
  conversation : ∃ conv ∈ t.conversations.rows, conv.id = g.conversationId ∧ conv.type = .group ∧
    conv.ownerId = g.ownerId ∧ conv.name = g.name ∧ conv.avatar = g.avatar
  owner : ∃ m, MemberRow t g.conversationId m ∧ m.role = .owner ∧ m.userId = g.ownerId
  onlyOwner : ∀ m m', MemberRow t g.conversationId m → MemberRow t g.conversationId m' →
    m.role = .owner → m'.role = .owner → m = m'
  size : memberCount t g.conversationId ≤ kMaxGroupMembers
  oneRequest : ∀ userId jr jr', PendingRow t g.conversationId userId jr →
    PendingRow t g.conversationId userId jr' → jr = jr'
  outsiders : ∀ userId, AsksToJoin t g.conversationId userId → ¬Joined t g.conversationId userId

/-- A conversation of type group. -/
def GroupConversation (t : Tables) (conversationId : Int) : Prop :=
  ∃ conv ∈ t.conversations.rows, conv.id = conversationId ∧ conv.type = .group

/-- The conversation of a group that has been dismissed: its group row is gone. -/
def Dismissed (t : Tables) (conversationId : Int) : Prop :=
  GroupConversation t conversationId ∧ ∀ g ∈ t.groups.rows, g.conversationId ≠ conversationId

/-- What the group service keeps. -/
structure GroupInv (t : Tables) : Prop where
  consistent : ∀ g ∈ t.groups.rows, Consistent t g
  apart : ∀ g ∈ t.groups.rows, ∀ g' ∈ t.groups.rows, g.conversationId = g'.conversationId → g = g'
  emptied : ∀ conversationId, Dismissed t conversationId → ∀ m, ¬MemberRow t conversationId m
  numbered : ∀ m ∈ t.members.rows, m.conversationId ≤ t.conversations.lastId
  requested : ∀ jr ∈ t.groupJoinRequests.rows, GroupConversation t jr.conversationId

section Steps
variable {t t' : Tables} {g : Group}

theorem joined_iff {conversationId userId : Int} :
    Joined t conversationId userId ↔ ∃ m, MemberRow t conversationId m ∧ m.userId = userId := by
  constructor
  · rintro ⟨m, inside, conv, user⟩
    exact ⟨m, ⟨inside, conv⟩, user⟩
  · rintro ⟨m, ⟨inside, conv⟩, user⟩
    exact ⟨m, inside, conv, user⟩

/-- A member is determined by the conversation and the user. -/
theorem member_unique {conversationId : Int} {m m' : ConversationMember} (first : MemberRow t conversationId m)
    (second : MemberRow t conversationId m') (same : m.userId = m'.userId) : m = m' := by
  refine Table.eq_of_clash first.1 second.1 ?_
  show (m.conversationId = m'.conversationId && m.userId = m'.userId) = true
  simp [first.2, second.2, same]

/-- The conversation of a group is numbered. -/
theorem GroupInv.known (inv : GroupInv t) (inside : g ∈ t.groups.rows) : g.conversationId ≤ t.conversations.lastId := by
  obtain ⟨conv, there, id, -⟩ := (inv.consistent g inside).conversation
  have := (t.conversations.bounded conv there).2
  rwa [← id]

/-! ### What a step leaves alone -/

/-- The second tables have the same conversation, the same members and the same requests
    for a conversation. -/
structure Untouched (conversationId : Int) (t t' : Tables) : Prop where
  conversation : ∀ conv ∈ t.conversations.rows, conv.id = conversationId → conv ∈ t'.conversations.rows
  members : t'.members.rows.filter (fun m => m.conversationId = conversationId) =
    t.members.rows.filter fun m => m.conversationId = conversationId
  requests : ∀ userId jr, PendingRow t' conversationId userId jr → PendingRow t conversationId userId jr

theorem memberRow_filter {conversationId : Int} {m : ConversationMember} :
    MemberRow t conversationId m ↔ m ∈ t.members.rows.filter fun m => m.conversationId = conversationId := by
  rw [List.mem_filter, decide_eq_true_eq]
  exact Iff.rfl

theorem Untouched.memberRow {conversationId : Int} (same : Untouched conversationId t t') (m : ConversationMember) :
    MemberRow t' conversationId m ↔ MemberRow t conversationId m := by
  rw [memberRow_filter, memberRow_filter, same.members]

/-- A group whose conversation is left alone stays consistent. -/
theorem consistent_elsewhere (same : Untouched g.conversationId t t') (consistent : Consistent t g) :
    Consistent t' g where
  conversation := by
    obtain ⟨conv, there, id, copies⟩ := consistent.conversation
    exact ⟨conv, same.conversation conv there id, id, copies⟩
  owner := by
    obtain ⟨m, row, role⟩ := consistent.owner
    exact ⟨m, (same.memberRow m).mpr row, role⟩
  onlyOwner m m' first second :=
    consistent.onlyOwner m m' ((same.memberRow m).mp first) ((same.memberRow m').mp second)
  size := by
    have size := consistent.size
    unfold memberCount at size ⊢
    rwa [same.members]
  oneRequest userId jr jr' first second :=
    consistent.oneRequest userId jr jr' (same.requests userId jr first) (same.requests userId jr' second)
  outsiders userId := by
    rintro ⟨jr, row⟩ joined
    obtain ⟨m, member, user⟩ := joined_iff.mp joined
    exact consistent.outsiders userId ⟨jr, same.requests userId jr row⟩
      (joined_iff.mpr ⟨m, (same.memberRow m).mp member, user⟩)

/-- A delete of members of another conversation. -/
theorem filter_delete {conversationId : Int} {rows : Table ConversationMember}
    {selected : ConversationMember → Bool} (other : ∀ m, selected m = true → m.conversationId ≠ conversationId) :
    (rows.delete selected).rows.filter (fun m => m.conversationId = conversationId) =
      rows.rows.filter fun m => m.conversationId = conversationId := by
  rw [Table.rows_delete, List.filter_filter]
  refine List.filter_congr fun m _ => ?_
  by_cases here : m.conversationId = conversationId
  · have : selected m = false := by
      by_contra chosen
      exact other m (by simpa using chosen) here
    simp [here, this]
  · simp [here]

/-! ### One request -/

/-- The members that a creation adds. -/
private theorem members_added {conversationId : Int} {now : Bytes} (ids : List Int)
    (writes : applyAll (ids.map fun id => Tables.memberWrite (memberOf conversationId id .member now)) t = some t') :
    t' = { t with members := t'.members } ∧ ∃ added : List ConversationMember,
      t'.members.rows = t.members.rows ++ added ∧ added.length = ids.length ∧
        ∀ m ∈ added, m.conversationId = conversationId ∧ m.role = .member := by
  induction ids generalizing t with
  | nil =>
    cases writes
    exact ⟨rfl, [], by simp, rfl, by simp⟩
  | cons id rest ih =>
    rw [List.map_cons, Tables.memberWrite, applyAll_guarded] at writes
    obtain ⟨free, writes⟩ := writes
    obtain ⟨same, added, rows, length, all⟩ := ih writes
    refine ⟨same, t.members.fresh (memberOf conversationId id .member now) :: added, ?_, by simp [length], ?_⟩
    · rw [rows]
      show (t.members.insert _).rows ++ added = _
      rw [Table.rows_insert_free free, List.append_assoc, List.singleton_append]
    · intro m inside
      rcases List.mem_cons.mp inside with rfl | inside
      · exact ⟨rfl, rfl⟩
      · exact all m inside

/-- What a creation has made of the tables. -/
structure Created (t t' : Tables) (conv : Conversation) (group : Group) (owner : ConversationMember)
    (added : List ConversationMember) : Prop where
  conversations : t'.conversations.rows = t.conversations.rows ++ [conv]
  lastId : t'.conversations.lastId = t.conversations.lastId + 1
  groups : t'.groups.rows = t.groups.rows ++ [group]
  requests : t'.groupJoinRequests = t.groupJoinRequests
  friendships : t'.friendships = t.friendships
  members : t'.members.rows = t.members.rows ++ owner :: added
  number : conv.id = t.conversations.lastId + 1
  copies : conv.id = group.conversationId ∧ conv.type = .group ∧ conv.ownerId = group.ownerId ∧
    conv.name = group.name ∧ conv.avatar = group.avatar
  ownerRow : owner.conversationId = group.conversationId ∧ owner.role = .owner ∧ owner.userId = group.ownerId
  addedRows : ∀ m ∈ added, m.conversationId = group.conversationId ∧ m.role = .member
  room : added.length + 1 ≤ kMaxGroupMembers

theorem created_of_writes {userId : Int} {req : CreateGroupReq} {ids : List Int} {now : Bytes}
    (room : ids.length + 1 ≤ kMaxGroupMembers) (writes : applyAll (createWrites userId req ids now t) t = some t') :
    ∃ conv group owner added, Created t t' conv group owner added := by
  simp only [createWrites, List.cons_append, List.nil_append, Tables.memberWrite, applyAll_plain, applyAll_guarded] at writes
  obtain ⟨free, writes⟩ := writes
  obtain ⟨same, added, rows, length, all⟩ := members_added ids writes
  refine ⟨t.conversations.fresh
      { type := .group, name := req.name, avatar := req.avatar, ownerId := userId, createdAt := now, updatedAt := now },
    t.groups.fresh (GroupDao.stampGroup now
      { conversationId := t.conversations.lastId + 1, name := req.name, avatar := req.avatar, ownerId := userId,
        createdAt := now }),
    t.members.fresh (memberOf (t.conversations.lastId + 1) userId .owner now), added, ?_⟩
  rw [same]
  constructor
  case conversations => exact Table.rows_insert_free (by simp [Table.taken, Row.clash])
  case lastId => exact Table.lastId_insert_free (by simp [Table.taken, Row.clash])
  case groups => exact Table.rows_insert_free (by simp [Table.taken, Row.clash])
  case requests => rfl
  case friendships => rfl
  case members =>
    rw [rows]
    exact (congrArg (· ++ added) (Table.rows_insert_free free)).trans (List.append_assoc _ _ _)
  case number => rfl
  case copies => exact ⟨rfl, rfl, rfl, rfl, rfl⟩
  case ownerRow => exact ⟨rfl, rfl, rfl⟩
  case addedRows => exact all
  case room => omega

section Creation
variable {conv : Conversation} {group : Group} {owner : ConversationMember} {added : List ConversationMember}

/-- The new rows carry the new number, which no row of `t` has. -/
theorem Created.fresh (created : Created t t' conv group owner added) :
    group.conversationId = t.conversations.lastId + 1 := created.copies.1 ▸ created.number

theorem Created.newMember (created : Created t t' conv group owner added) {m : ConversationMember}
    (inside : m ∈ owner :: added) : m.conversationId = group.conversationId := by
  rcases List.mem_cons.mp inside with rfl | inside
  · exact created.ownerRow.1
  · exact (created.addedRows m inside).1

theorem Created.memberRow (created : Created t t' conv group owner added) (inv : GroupInv t)
    {m : ConversationMember} : MemberRow t' group.conversationId m ↔ m ∈ owner :: added := by
  rw [MemberRow, created.members, List.mem_append]
  constructor
  · rintro ⟨old | new, here⟩
    · have := inv.numbered m old
      have := created.fresh
      omega
    · exact new
  · intro new
    exact ⟨.inr new, created.newMember new⟩

theorem Created.untouched (created : Created t t' conv group owner added) {conversationId : Int}
    (old : conversationId ≤ t.conversations.lastId) : Untouched conversationId t t' where
  conversation other there _ := by
    rw [created.conversations]
    exact List.mem_append_left _ there
  members := by
    rw [created.members, List.filter_append, List.append_right_eq_self, List.filter_eq_nil_iff]
    intro m inside here
    have := created.newMember inside
    have := created.fresh
    simp only [decide_eq_true_eq] at here
    omega
  requests userId jr row := by rwa [PendingRow, created.requests] at row

theorem Created.consistent (created : Created t t' conv group owner added) (inv : GroupInv t) :
    Consistent t' group where
  conversation := by
    refine ⟨conv, ?_, created.copies⟩
    rw [created.conversations]
    exact List.mem_append_right _ (List.mem_singleton_self _)
  owner := ⟨owner, (created.memberRow inv).mpr List.mem_cons_self, created.ownerRow.2⟩
  onlyOwner := by
    have owns : ∀ m, MemberRow t' group.conversationId m → m.role = .owner → m = owner := by
      intro m row role
      rcases List.mem_cons.mp ((created.memberRow inv).mp row) with rfl | inside
      · rfl
      · rw [(created.addedRows m inside).2] at role
        cases role
    intro m m' row row' role role'
    rw [owns m row role, owns m' row' role']
  size := by
    have none_ : t.members.rows.filter (fun m => m.conversationId = group.conversationId) = [] := by
      rw [List.filter_eq_nil_iff]
      intro m inside here
      have := inv.numbered m inside
      have := created.fresh
      simp only [decide_eq_true_eq] at here
      omega
    unfold memberCount
    rw [created.members, List.filter_append, none_, List.nil_append]
    exact (List.length_filter_le _ _).trans created.room
  oneRequest userId jr jr' row := by
    obtain ⟨inside, named, -⟩ := row
    rw [created.requests] at inside
    obtain ⟨other, there, id, -⟩ := inv.requested jr inside
    have bound : other.id ≤ t.conversations.lastId := (t.conversations.bounded other there).2
    have := created.fresh
    omega
  outsiders := by
    rintro userId ⟨jr, inside, named, -⟩
    rw [created.requests] at inside
    obtain ⟨other, there, id, -⟩ := inv.requested jr inside
    have bound : other.id ≤ t.conversations.lastId := (t.conversations.bounded other there).2
    have := created.fresh
    omega

end Creation

private theorem inv_created {userId : Int} {req : CreateGroupReq} {ids : List Int} {now : Bytes}
    (room : ids.length + 1 ≤ kMaxGroupMembers) (writes : applyAll (createWrites userId req ids now t) t = some t')
    (inv : GroupInv t) : GroupInv t' := by
  obtain ⟨conv, group, owner, added, created⟩ := created_of_writes room writes
  have fresh := created.fresh
  constructor
  · intro g inside
    rw [created.groups] at inside
    rcases List.mem_append.mp inside with old | new
    · exact consistent_elsewhere (created.untouched (inv.known old)) (inv.consistent g old)
    · rw [List.mem_singleton.mp new]
      exact created.consistent inv
  · intro g inside g' inside' same
    rw [created.groups] at inside inside'
    rcases List.mem_append.mp inside with old | new <;> rcases List.mem_append.mp inside' with old' | new'
    · exact inv.apart g old g' old' same
    · have := inv.known old
      rw [List.mem_singleton.mp new'] at same
      omega
    · have := inv.known old'
      rw [List.mem_singleton.mp new] at same
      omega
    · rw [List.mem_singleton.mp new, List.mem_singleton.mp new']
  · rintro conversationId ⟨⟨other, inside, id, type⟩, gone⟩ m row
    rw [created.groups] at gone
    rw [created.conversations] at inside
    rcases List.mem_append.mp inside with old | new
    · have bound : other.id ≤ t.conversations.lastId := (t.conversations.bounded other old).2
      refine inv.emptied conversationId ⟨⟨other, old, id, type⟩, fun g there => gone g (List.mem_append_left _ there)⟩ m ?_
      rw [memberRow_filter, ← (created.untouched (by omega)).members, ← memberRow_filter]
      exact row
    · refine gone group (List.mem_append_right _ (List.mem_singleton_self _)) ?_
      rw [← id, List.mem_singleton.mp new, created.copies.1]
  · intro m inside
    rw [created.lastId]
    rw [created.members] at inside
    rcases List.mem_append.mp inside with old | new
    · have := inv.numbered m old
      push_cast
      omega
    · have := created.newMember new
      push_cast
      omega
  · intro jr inside
    rw [created.requests] at inside
    obtain ⟨other, there, named⟩ := inv.requested jr inside
    refine ⟨other, ?_, named⟩
    rw [created.conversations]
    exact List.mem_append_left _ there

private theorem inv_dismissed {conversationId : Int} (inv : GroupInv t) :
    GroupInv ((t.deleteGroup conversationId).removeAllMembers conversationId) := by
  have kept : ∀ {g}, g ∈ ((t.deleteGroup conversationId).removeAllMembers conversationId).groups.rows →
      g ∈ t.groups.rows ∧ g.conversationId ≠ conversationId := fun inside => by
    simpa using Table.mem_delete.mp inside
  have member : ∀ {other m}, MemberRow ((t.deleteGroup conversationId).removeAllMembers conversationId) other m →
      MemberRow t other m ∧ m.conversationId ≠ conversationId := fun row => by
    obtain ⟨inside, not⟩ := Table.mem_delete.mp row.1
    exact ⟨⟨inside, row.2⟩, by simpa using not⟩
  constructor
  · intro g inside
    obtain ⟨there, other⟩ := kept inside
    refine consistent_elsewhere (t := t) ⟨fun conv known _ => known, ?_, fun userId jr row => row⟩
      (inv.consistent g there)
    refine filter_delete fun m chosen => ?_
    rw [decide_eq_true_eq] at chosen
    exact chosen ▸ other.symm
  · intro g inside g' inside'
    exact inv.apart g (kept inside).1 g' (kept inside').1
  · rintro id ⟨group, gone⟩ m row
    obtain ⟨before, other⟩ := member row
    refine inv.emptied id ⟨group, fun g there named => gone g (Table.mem_delete.mpr ⟨there, ?_⟩) named⟩ m before
    rw [decide_eq_false_iff_not, named, ← row.2]
    exact other
  · intro m inside
    exact inv.numbered m (member ⟨inside, rfl⟩).1.1
  · exact inv.requested

private theorem inv_asked {jr : GroupJoinRequest} (known : g ∈ t.groups.rows)
    (named : g.conversationId = jr.conversationId) (outsider : ¬Joined t jr.conversationId jr.userId)
    (unasked : ¬AsksToJoin t jr.conversationId jr.userId) (inv : GroupInv t) : GroupInv (t.insertJoinRequest jr) := by
  have rows : ∀ {conversationId userId old}, PendingRow (t.insertJoinRequest jr) conversationId userId old →
      PendingRow t conversationId userId old ∨
        old = t.groupJoinRequests.fresh jr ∧ conversationId = jr.conversationId ∧ userId = jr.userId := by
    rintro conversationId userId old ⟨inside, conv, user, status⟩
    rcases Table.mem_insert.mp inside with there | ⟨-, rfl⟩
    · exact .inl ⟨there, conv, user, status⟩
    · exact .inr ⟨rfl, conv.symm, user.symm⟩
  refine { inv with consistent := fun other inside => ?_, requested := fun old inside => ?_ }
  · have before := inv.consistent other inside
    refine { before with oneRequest := fun userId old old' row row' => ?_, outsiders := fun userId asks => ?_ }
    · rcases rows row with there | ⟨rfl, conv, rfl⟩ <;> rcases rows row' with there' | ⟨rfl, conv', user⟩
      · exact before.oneRequest userId old old' there there'
      · exact absurd ⟨old, conv' ▸ user ▸ there⟩ unasked
      · exact absurd ⟨old', conv ▸ there'⟩ unasked
      · rfl
    · obtain ⟨old, row⟩ := asks
      rcases rows row with there | ⟨-, conv, rfl⟩
      · exact before.outsiders userId ⟨old, there⟩
      · rw [conv]
        exact outsider
  · rcases Table.mem_insert.mp inside with there | ⟨-, rfl⟩
    · exact inv.requested old there
    · obtain ⟨conv, there, id, type, -⟩ := (inv.consistent g known).conversation
      exact ⟨conv, there, id.trans named, type⟩

private theorem pendingRow_settled {id : Int} {status : JoinRequestStatus} {now : Bytes} (settled : status ≠ .pending)
    {conversationId userId : Int} {jr : GroupJoinRequest}
    (row : PendingRow (t.setJoinRequestStatus id status now) conversationId userId jr) :
    PendingRow t conversationId userId jr ∧ jr.id ≠ id := by
  obtain ⟨inside, conv, user, pending⟩ := row
  obtain ⟨old, there, rfl⟩ := Table.mem_update.mp inside
  split at pending
  · exact absurd pending settled
  · rename_i other
    rw [if_neg other] at conv user ⊢
    exact ⟨⟨there, conv, user, pending⟩, by simpa using other⟩

private theorem inv_settled {id : Int} {status : JoinRequestStatus} {now : Bytes} (settled : status ≠ .pending)
    (inv : GroupInv t) : GroupInv (t.setJoinRequestStatus id status now) := by
  refine { inv with consistent := fun g inside => ?_, requested := fun jr inside => ?_ }
  · exact consistent_elsewhere (t := t)
      ⟨fun conv known _ => known, rfl, fun userId jr row => (pendingRow_settled settled row).1⟩ (inv.consistent g inside)
  · obtain ⟨old, there, rfl⟩ := Table.mem_update.mp inside
    split
    · exact inv.requested old there
    · exact inv.requested old there

/-- A member that is admitted has no request and finds room. -/
private theorem inv_admitted {m : ConversationMember} (role : m.role ≠ .owner) (free : t.members.taken m = false)
    (lives : ∃ other, MemberRow t m.conversationId other) (unasked : ¬AsksToJoin t m.conversationId m.userId)
    (room : memberCount t m.conversationId < kMaxGroupMembers) (inv : GroupInv t) : GroupInv (t.addMember m) := by
  have rows : (t.addMember m).members.rows = t.members.rows ++ [t.members.fresh m] := Table.rows_insert_free free
  have row : ∀ {conversationId other}, MemberRow (t.addMember m) conversationId other →
      MemberRow t conversationId other ∨ other = t.members.fresh m ∧ conversationId = m.conversationId := by
    rintro conversationId other ⟨inside, conv⟩
    rcases Table.mem_insert.mp inside with there | ⟨-, rfl⟩
    · exact .inl ⟨there, conv⟩
    · exact .inr ⟨rfl, conv.symm⟩
  have kept : ∀ {conversationId other}, MemberRow t conversationId other → MemberRow (t.addMember m) conversationId other :=
    fun there => ⟨Table.mem_insert.mpr (.inl there.1), there.2⟩
  obtain ⟨resident, resides⟩ := lives
  refine { inv with consistent := fun g inside => ?_, emptied := fun id dismissed other inside => ?_, numbered := ?_ }
  · have before := inv.consistent g inside
    refine { before with owner := ?_, onlyOwner := ?_, size := ?_, outsiders := ?_ }
    · obtain ⟨owner, there, owns⟩ := before.owner
      exact ⟨owner, kept there, owns⟩
    · intro first second inside inside' owns owns'
      rcases row inside with there | ⟨rfl, -⟩
      · rcases row inside' with there' | ⟨rfl, -⟩
        · exact before.onlyOwner first second there there' owns owns'
        · exact absurd owns' role
      · exact absurd owns role
    · unfold memberCount
      rw [rows, List.filter_append, List.length_append]
      by_cases here : m.conversationId = g.conversationId
      · have one : ([t.members.fresh m].filter fun r => decide (r.conversationId = g.conversationId)).length ≤ 1 :=
          List.length_filter_le _ _
        unfold memberCount at room
        rw [here] at room
        omega
      · rw [List.filter_singleton, decide_eq_false (show (t.members.fresh m).conversationId ≠ g.conversationId from here)]
        exact before.size
    · intro userId asks joined
      obtain ⟨other, there, rfl⟩ := joined_iff.mp joined
      rcases row there with there | ⟨rfl, conv⟩
      · exact before.outsiders _ asks (joined_iff.mpr ⟨other, there, rfl⟩)
      · rw [conv] at asks
        exact unasked asks
  · rcases row inside with there | ⟨-, rfl⟩
    · exact inv.emptied id dismissed other there
    · exact inv.emptied _ dismissed resident resides
  · intro other inside
    rcases row ⟨inside, rfl⟩ with there | ⟨-, conv⟩
    · exact inv.numbered other there.1
    · have := inv.numbered resident resides.1
      rw [resides.2] at this
      rwa [conv]

/-- A member that goes is not an owner. -/
private theorem inv_removed {conversationId : Int} {gone : ConversationMember} (row : MemberRow t conversationId gone)
    (role : gone.role ≠ .owner) (inv : GroupInv t) : GroupInv (t.removeMember conversationId gone.userId) := by
  have kept : ∀ {id m}, MemberRow (t.removeMember conversationId gone.userId) id m ↔
      MemberRow t id m ∧ m ≠ gone := by
    intro id m
    rw [MemberRow, Tables.removeMember, Table.mem_delete]
    simp only [Bool.and_eq_false_iff, decide_eq_false_iff_not]
    constructor
    · rintro ⟨⟨there, other⟩, named⟩
      refine ⟨⟨there, named⟩, ?_⟩
      rintro rfl
      exact other.elim (fun other => other row.2) fun other => other rfl
    · rintro ⟨⟨there, named⟩, other⟩
      refine ⟨⟨there, ?_⟩, named⟩
      by_contra same
      simp only [not_or, not_not] at same
      exact other (member_unique ⟨there, same.1⟩ row same.2)
  refine { inv with consistent := fun g inside => ?_, emptied := fun id dismissed m there => ?_, numbered := fun m there => ?_ }
  · have before := inv.consistent g inside
    refine { before with owner := ?_, onlyOwner := ?_, size := ?_, outsiders := ?_ }
    · obtain ⟨owner, there, owns, user⟩ := before.owner
      refine ⟨owner, kept.mpr ⟨there, ?_⟩, owns, user⟩
      rintro rfl
      exact role owns
    · intro m m' first second
      exact before.onlyOwner m m' (kept.mp first).1 (kept.mp second).1
    · exact (((List.filter_sublist).filter _).length_le).trans before.size
    · intro userId asks joined
      obtain ⟨m, there, user⟩ := joined_iff.mp joined
      exact before.outsiders userId asks (joined_iff.mpr ⟨m, (kept.mp there).1, user⟩)
  · exact inv.emptied id dismissed m (kept.mp there).1
  · exact inv.numbered m (kept.mp ⟨there, rfl⟩).1.1

/-- Nobody but the owner of a group sets a role, and it is not the role of the owner. -/
private theorem inv_roleSet {conversationId targetUserId : Int} {role : MemberRole} {operator : ConversationMember}
    (row : MemberRow t conversationId operator) (owner : operator.role = .owner) (other : targetUserId ≠ operator.userId)
    (below : role ≠ .owner) (inv : GroupInv t) :
    GroupInv (t.updateMember conversationId targetUserId (fun _ => true)
      ⟨fun r => { r with role := role }, fun _ => rfl, fun _ _ => rfl⟩) := by
  generalize changed : t.updateMember conversationId targetUserId (fun _ => true)
    ⟨fun r => { r with role := role }, fun _ => rfl, fun _ _ => rfl⟩ = t'
  have old : ∀ {id m'}, MemberRow t' id m' → ∃ m, MemberRow t id m ∧ m.userId = m'.userId ∧ (m'.role = .owner → m = m') := by
    rintro id m' ⟨inside, named⟩
    rw [← changed] at inside
    obtain ⟨m, there, rfl⟩ := Table.mem_update.mp inside
    split
    · rename_i selected
      rw [if_pos selected] at named
      exact ⟨m, ⟨there, named⟩, rfl, fun owns => absurd owns below⟩
    · rename_i selected
      rw [if_neg selected] at named
      exact ⟨m, ⟨there, named⟩, rfl, fun _ => rfl⟩
  have kept : ∀ {id m}, MemberRow t id m → ¬(id = conversationId ∧ m.userId = targetUserId) → MemberRow t' id m := by
    rintro id m ⟨inside, named⟩ apart
    rw [← changed]
    refine ⟨Table.mem_update.mpr ⟨m, inside, ?_⟩, named⟩
    rw [if_neg]
    simpa [named] using apart
  have size : ∀ id, memberCount t' id = memberCount t id := by
    intro id
    rw [← changed]
    unfold memberCount Tables.updateMember
    rw [Table.rows_update, List.filter_map, List.length_map]
    refine congrArg List.length (List.filter_congr fun r _ => ?_)
    show decide ((if _ then _ else r : ConversationMember).conversationId = id) = _
    split <;> rfl
  have same : t' = { t with members := t'.members } := by
    rw [← changed]
    rfl
  rw [same]
  refine { inv with consistent := fun g inside => ?_, emptied := fun id dismissed m there => ?_, numbered := fun m there => ?_ }
  · have before := inv.consistent g inside
    refine { before with owner := ?_, onlyOwner := ?_, size := ?_, outsiders := ?_ }
    · obtain ⟨m, there, owns, user⟩ := before.owner
      refine ⟨m, kept there ?_, owns, user⟩
      rintro ⟨here, target⟩
      rw [before.onlyOwner m operator there (here ▸ row) owns owner] at target
      exact other target.symm
    · intro m m' first second owns owns'
      obtain ⟨old₁, there, -, same₁⟩ := old first
      obtain ⟨old₂, there', -, same₂⟩ := old second
      cases same₁ owns
      cases same₂ owns'
      exact before.onlyOwner _ _ there there' owns owns'
    · exact (size g.conversationId).trans_le before.size
    · intro userId asks joined
      obtain ⟨m, there, user⟩ := joined_iff.mp joined
      obtain ⟨m, there, same', -⟩ := old there
      exact before.outsiders userId asks (joined_iff.mpr ⟨m, there, same'.trans user⟩)
  · obtain ⟨m, there, -⟩ := old there
    exact inv.emptied id dismissed m there
  · obtain ⟨m', before, -⟩ := old ⟨there, rfl⟩
    have := inv.numbered m' before.1
    rwa [before.2] at this

/-- The rows after one of them has become another. -/
theorem mem_replaced {ρ : Type} [Row ρ] {rows : Table ρ} {change : RowUpdate ρ} {a b r : ρ}
    (inside : a ∈ rows.rows) (becomes : change.apply a = b) :
    r ∈ (rows.update (fun r => Row.id r = Row.id a) change).rows ↔ r = b ∨ r ∈ rows.rows ∧ r ≠ a := by
  rw [Table.mem_update]
  constructor
  · rintro ⟨old, there, rfl⟩
    split
    · rename_i selected
      rw [decide_eq_true_eq] at selected
      rw [Table.eq_of_id there inside selected]
      exact .inl becomes
    · rename_i selected
      refine .inr ⟨there, ?_⟩
      rintro rfl
      exact selected (decide_eq_true rfl)
  · rintro (rfl | ⟨there, other⟩)
    · exact ⟨a, inside, by rw [if_pos (decide_eq_true rfl), becomes]⟩
    · refine ⟨r, there, if_neg fun selected => other ?_⟩
      rw [decide_eq_true_eq] at selected
      exact Table.eq_of_id there inside selected

/-- An update keeps what the group and its conversation repeat. -/
private theorem inv_updated {req : UpdateGroupReq} (inside : g ∈ t.groups.rows)
    (named : g.conversationId = req.conversationId)
    (writes : applyAll (updateWrites req (updated g req) t) t = some t') (inv : GroupInv t) : GroupInv t' := by
  obtain ⟨conv, there, id, type, owner, name, avatar⟩ := (inv.consistent g inside).conversation
  have found : conversationOf req.conversationId t = some conv :=
    Table.find_eq there (by simp [id, named]) fun other inside' chosen => by
      refine Table.eq_of_id inside' there ?_
      rw [decide_eq_true_eq] at chosen
      exact chosen.trans (named.symm.trans id.symm)
  rw [updateWrites, found] at writes
  cases writes
  have groups : ∀ {h}, h ∈ (t.updateGroup (updated g req)).groups.rows ↔
      h = updated g req ∨ h ∈ t.groups.rows ∧ h ≠ g := mem_replaced inside (if_pos rfl)
  have conversations : ∀ {other}, other ∈ (t.updateConversation (rewritten req (updated g req) conv)).conversations.rows ↔
      other = rewritten req (updated g req) conv ∨ other ∈ t.conversations.rows ∧ other ≠ conv :=
    mem_replaced there (if_pos rfl)
  have group : ∀ {c}, GroupConversation (t.updateConversation (rewritten req (updated g req) conv)) c ↔ GroupConversation t c := by
    intro c
    constructor
    · rintro ⟨other, known, named, kind⟩
      rcases conversations.mp known with rfl | ⟨old, -⟩
      · exact ⟨conv, there, named, kind⟩
      · exact ⟨other, old, named, kind⟩
    · rintro ⟨other, known, named, kind⟩
      by_cases same : other = conv
      · exact ⟨_, conversations.mpr (.inl rfl), same ▸ named, same ▸ kind⟩
      · exact ⟨other, conversations.mpr (.inr ⟨known, same⟩), named, kind⟩
  have before := inv.consistent g inside
  constructor
  · intro h known
    rcases groups.mp known with rfl | ⟨old, other⟩
    · have name' : (rewritten req (updated g req) conv).name = (updated g req).name := by
        by_cases empty : req.name = [] <;> simp [rewritten, updated, empty, name]
      have avatar' : (rewritten req (updated g req) conv).avatar = (updated g req).avatar := by
        by_cases empty : req.avatar = [] <;> simp [rewritten, updated, empty, avatar]
      exact { before with conversation := ⟨_, conversations.mpr (.inl rfl), id, type, owner, name', avatar'⟩ }
    · have apart : h.conversationId ≠ g.conversationId := fun same => other (inv.apart h old g inside same)
      have before := inv.consistent h old
      obtain ⟨mine, known', id', copies⟩ := before.conversation
      refine { before with conversation := ⟨mine, conversations.mpr (.inr ⟨known', ?_⟩), id', copies⟩ }
      rintro rfl
      exact apart (id'.symm.trans id)
  · intro h known h' known' same
    rcases groups.mp known with rfl | ⟨old, other⟩ <;> rcases groups.mp known' with rfl | ⟨old', other'⟩
    · rfl
    · exact absurd (inv.apart h' old' g inside same.symm) other'
    · exact absurd (inv.apart h old g inside same) other
    · exact inv.apart h old h' old' same
  · rintro c ⟨conversation, gone⟩ m row
    refine inv.emptied c ⟨group.mp conversation, fun h known same => ?_⟩ m row
    by_cases this : h = g
    · exact gone _ (groups.mpr (.inl rfl)) (this ▸ same)
    · exact gone h (groups.mpr (.inr ⟨known, this⟩)) same
  · exact inv.numbered
  · intro jr known
    exact group.mpr (inv.requested jr known)

/-- A step that no failure disturbs keeps the invariant. -/
theorem inv_step {me : Connection} {now : Bytes} {request : GroupService.Request}
    (step : GroupStep me [] now t request t') (inv : GroupInv t) : GroupInv t' := by
  have sound : ∀ n, ¬StatementFails [] n := fun n => by simp [StatementFails]
  cases step with
  | created conn seq req room _ writes => exact inv_created room writes inv
  | dismissed conn seq req group known named owner _ writes =>
    cases writes
    exact inv_dismissed inv
  | asked conn seq req group known named outsider unasked =>
    exact inv_asked known named (fun joined => sound _ (outsider joined)) (fun asks => sound _ (unasked asks)) inv
  | rejected conn seq req jr known named pending manager action => exact inv_settled (by decide) inv
  | left conn seq req member known mine role =>
    have gone := inv_removed ⟨known, mine.1⟩ role inv
    rwa [mine.2] at gone
  | kicked conn seq req manager target known named role =>
    have gone := inv_removed ⟨known, named.1⟩ role inv
    rwa [named.2] at gone
  | updated conn seq req manager group known named _ writes => exact inv_updated known named writes inv
  | halfUpdated conn seq req manager group known named skipped => exact absurd skipped (sound _)
  | roleSet conn seq req operator known mine owner other role below =>
    exact inv_roleSet ⟨known, mine.1⟩ owner (mine.2.symm ▸ other) below inv
  | approved conn seq req jr known named pending manager action room _ writes =>
    obtain ⟨m, resident, conv, -⟩ := manager
    rw [approveWrites, Tables.memberWrite, applyAll_guarded, applyAll_plain] at writes
    obtain ⟨free, writes⟩ := writes
    cases writes
    show GroupInv ((t.setJoinRequestStatus jr.id .accepted now).addMember (memberOf jr.conversationId jr.userId .member now))
    have role : (memberOf jr.conversationId jr.userId .member now).role ≠ .owner := by
      show MemberRole.member ≠ .owner
      decide
    refine inv_admitted role free ⟨m, resident, conv⟩ ?_ (room (sound _)) (inv_settled (by decide) inv)
    -- the request that is accepted was the only pending one of the user
    rintro ⟨other, row⟩
    obtain ⟨before, different⟩ := pendingRow_settled (by decide) row
    have lives : ∃ g ∈ t.groups.rows, g.conversationId = jr.conversationId := by
      by_contra gone
      simp only [not_exists, not_and] at gone
      exact inv.emptied _ ⟨inv.requested jr known, gone⟩ m ⟨resident, conv⟩
    obtain ⟨g, inside, here⟩ := lives
    refine different (congrArg GroupJoinRequest.id ?_)
    refine (inv.consistent g inside).oneRequest jr.userId other jr ?_ ⟨known, here.symm, rfl, pending⟩
    rw [here]
    exact before

end Steps

/-- Every call of the run is served without a database failure. -/
def Unfailing (_ : World) (call : Call GroupService.Request) : Prop := call.faults = []

/-- In every serial run of group requests without failures, from tables without groups:
    the tables agree about every group, and a dismissed one has no members. -/
theorem groups_consistent (w : World) (closed : w.saved = none) (groups : w.tables.groups.rows = [])
    (requests : w.tables.groupJoinRequests.rows = [])
    (conversations : ∀ conv ∈ w.tables.conversations.rows, conv.type ≠ .group)
    (members : ∀ m ∈ w.tables.members.rows, m.conversationId ≤ w.tables.conversations.lastId)
    (calls : List (Call GroupService.Request))
    (sound : Along (perform GroupService.handle) Unfailing w calls) :
    (∀ g ∈ (after (perform GroupService.handle) w calls).tables.groups.rows,
      Consistent (after (perform GroupService.handle) w calls).tables g) ∧
    ∀ conversationId, Dismissed (after (perform GroupService.handle) w calls).tables conversationId →
      ∀ userId, ¬Joined (after (perform GroupService.handle) w calls).tables conversationId userId := by
  have initially : GroupInv w.tables := by
    refine ⟨by simp [groups], by simp [groups], ?_, members, by simp [requests]⟩
    rintro conversationId ⟨⟨conv, there, -, type⟩, -⟩
    exact absurd type (conversations conv there)
  have keeps : ∀ (w : World) (call : Call GroupService.Request), Unfailing w call →
      w.saved = none ∧ GroupInv w.tables →
        (perform GroupService.handle w call).saved = none ∧ GroupInv (perform GroupService.handle w call).tables := by
    intro w call sound ⟨closed, inv⟩
    have rolledBack : (perform GroupService.handle w call).saved = none :=
      GroupService.handle_closes call.request (call.enter w) sound (by simp [closed])
    refine ⟨rolledBack, ?_⟩
    rcases GroupService.handle_steps call.request rolledBack with same | step
    · exact (same : (perform GroupService.handle w call).tables = w.tables) ▸ inv
    · rw [Surroundings.enter_faults, sound] at step
      exact inv_step step inv
  obtain ⟨-, inv⟩ := after_invariant keeps ⟨closed, initially⟩ sound
  refine ⟨inv.consistent, fun conversationId dismissed userId joined => ?_⟩
  obtain ⟨m, row, -⟩ := joined_iff.mp joined
  exact inv.emptied conversationId dismissed m row

/-! ### A group of three users -/

/-- A server on which the users 1, 2 and 3 are registered. -/
def threeUsers : World where
  tables :=
    { users := ((((∅ : Table User).insert { uid := [1], email := [1] }).insert
        { uid := [2], email := [2] }).insert { uid := [3], email := [3] }) }
  mem := {}

/-- User 1 creates a group with the other two, and user 2 leaves it. -/
private def founding : List (Call GroupService.Request) :=
  [{ connections := fun conn => { userId := conn },
     request := .createGroup 1 0 (some { name := [103], avatar := [], memberIds := [2, 3] }) },
   { connections := fun conn => { userId := conn }, request := .leaveGroup 2 0 (some { conversationId := 1 }) }]

/-- The group is there with two members, and consistent. -/
theorem groups_consistent_founding :
    ((after (perform GroupService.handle) threeUsers founding).tables.groups.rows.length = 1 ∧
      memberCount (after (perform GroupService.handle) threeUsers founding).tables 1 = 2) ∧
    (∀ g ∈ (after (perform GroupService.handle) threeUsers founding).tables.groups.rows,
      Consistent (after (perform GroupService.handle) threeUsers founding).tables g) ∧
    ∀ conversationId, Dismissed (after (perform GroupService.handle) threeUsers founding).tables conversationId →
      ∀ userId, ¬Joined (after (perform GroupService.handle) threeUsers founding).tables conversationId userId :=
  ⟨by decide, groups_consistent threeUsers rfl rfl rfl (fun _ inside => nomatch inside) (fun _ inside => nomatch inside)
    founding ⟨rfl, rfl, trivial⟩⟩

end NovaIIM
