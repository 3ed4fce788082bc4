import NovaIIM.Consent

/-!
Who changes the standing of a member.

A member of a conversation has a role there. Nobody gets one but as the founder of a group, by
getting in as a plain member, or from the owner (`GainsRank`), and nobody ceases to be a member but
by leaving, by being put out by a member of a higher role, by the dismissal of the group by its
owner, or because one of two friends ends the friendship (`GetsOut`). `standing_authorised` says so
of every run.
-/
namespace NovaIIM
open Store FriendService GroupService

/-- A user is a member of a conversation with a role. -/
def Ranks (t : Tables) (c userId : Int) (role : MemberRole) : Prop :=
  ∃ m ∈ t.members.rows, m.conversationId = c ∧ m.userId = userId ∧ m.role = role

instance (t : Tables) (c userId : Int) (role : MemberRole) : Decidable (Ranks t c userId role) :=
  inferInstanceAs (Decidable (∃ m ∈ t.members.rows, _))

/-- How an arrival gives a user a role in a conversation. -/
inductive GainsRank (v : World) (arrival : Arrival) (c userId : Int) : MemberRole → Prop where
  | founded (conn : ConnId) (seq : UInt32) (req : CreateGroupReq)
      (packet : arrival.input = .packet (.group (.createGroup conn seq (some req))))
      (new : c = v.tables.conversations.lastId + 1) (mine : userId = (v.mem.connections conn).userId) :
      GainsRank v arrival c userId .owner
  | entered (getsIn : GetsIn v arrival c userId) : GainsRank v arrival c userId .member
  | set (conn : ConnId) (seq : UInt32) (req : SetMemberRoleReq)
      (packet : arrival.input = .packet (.group (.setMemberRole conn seq (some req))))
      (named : req.conversationId = c ∧ req.targetUserId = userId) (joined : GroupService.Joined v.tables c userId)
      (owner : Ranks v.tables c (v.mem.connections conn).userId .owner) (other : userId ≠ (v.mem.connections conn).userId)
      (role : MemberRole) (below : role ≠ .owner) : GainsRank v arrival c userId role

/-- A packet of a member puts a member of a lower role out. -/
structure PutsOut (v : World) (arrival : Arrival) (c userId : Int) : Prop where
  packet : ∃ conn seq req role role', arrival.input = .packet (.group (.kickMember conn seq (some req))) ∧
    req.conversationId = c ∧ req.targetUserId = userId ∧ Ranks v.tables c (v.mem.connections conn).userId role ∧
    Ranks v.tables c userId role' ∧ role ≠ .member ∧ role'.code < role.code

/-- How an arrival ends the membership of a user in a conversation. -/
inductive GetsOut (v : World) (arrival : Arrival) (c userId : Int) : Prop where
  | left (conn : ConnId) (seq : UInt32) (req : ConversationReq)
      (packet : arrival.input = .packet (.group (.leaveGroup conn seq (some req))))
      (named : req.conversationId = c) (mine : userId = (v.mem.connections conn).userId) (free : ¬Ranks v.tables c userId .owner)
  | putOut (puts : PutsOut v arrival c userId)
  | dismissed (conn : ConnId) (seq : UInt32) (req : ConversationReq) (group : Group)
      (packet : arrival.input = .packet (.group (.dismissGroup conn seq (some req))))
      (known : group ∈ v.tables.groups.rows) (named : group.conversationId = c) (owner : group.ownerId = (v.mem.connections conn).userId)
  | unfriended (conn : ConnId) (seq : UInt32) (req : TargetReq) (row : Friendship)
      (packet : arrival.input = .packet (.friend (.deleteFriend conn seq (some req))))
      (there : row ∈ v.tables.friendships.rows) (chat : row.conversationId = c) (normal : row.status = .normal)
      (mine : row.userId = (v.mem.connections conn).userId) (one : userId = row.userId ∨ userId = row.friendId)

section Tables
variable {t t' : Tables} {c userId : Int} {role : MemberRole} {me : Connection} {now : Bytes}

theorem Ranks.joined (ranks : Ranks t c userId role) : GroupService.Joined t c userId := by
  obtain ⟨m, inside, conv, user, -⟩ := ranks
  exact ⟨m, inside, conv, user⟩

/-- A member has one role. -/
theorem Ranks.unique {other : MemberRole} (ranks : Ranks t c userId role) (again : Ranks t c userId other) : role = other := by
  obtain ⟨m, inside, conv, user, rfl⟩ := ranks
  obtain ⟨m', inside', conv', user', rfl⟩ := again
  have same : m = m' := member_unique ⟨inside, conv⟩ ⟨inside', conv'⟩ (user.trans user'.symm)
  rw [same]

/-- The same members with the same roles. -/
def SameRanks (t t' : Tables) : Prop := ∀ c userId role, Ranks t' c userId role ↔ Ranks t c userId role

theorem sameRanks_of_eq (members : t'.members = t.members) : SameRanks t t' := by
  intro c userId role
  rw [Ranks, Ranks, members]

/-- A change of the settings of members. -/
theorem sameRanks_settings {conversationId user : Int} {selected : ConversationMember → Bool} {change : RowUpdate ConversationMember}
    (settled : KeepsRole change) : SameRanks t (t.updateMember conversationId user selected change) := by
  intro c userId role
  constructor
  · rintro ⟨m', inside, rfl, rfl, rfl⟩
    obtain ⟨m, there, rfl⟩ := Table.mem_update.mp inside
    refine ⟨m, there, ?_⟩
    split
    · exact ⟨(named_update change m).1.symm, (named_update change m).2.symm, (settled m).symm⟩
    · exact ⟨rfl, rfl, rfl⟩
  · rintro ⟨m, there, rfl, rfl, rfl⟩
    refine ⟨_, Table.mem_update.mpr ⟨m, there, rfl⟩, ?_⟩
    split
    · exact ⟨(named_update change m).1, (named_update change m).2, settled m⟩
    · exact ⟨rfl, rfl, rfl⟩

/-- Neither the message nor the conversation service changes the standing of anybody. -/
theorem chatting_sameRanks : Chatting SameRanks where
  refl _ _ _ _ := Iff.rfl
  trans first second c userId role := (second c userId role).trans (first c userId role)
  numbered _ _ := sameRanks_of_eq rfl
  stored _ _ := sameRanks_of_eq rfl
  status _ _ _ := sameRanks_of_eq rfl
  settings _ _ _ _ _ settled := sameRanks_settings settled

/-- Members are put out of a conversation at most. -/
theorem removed_ranks {selected : ConversationMember → Bool} (ranks : Ranks { t with members := t.members.delete selected } c userId role) :
    Ranks t c userId role := by
  obtain ⟨m, inside, rest⟩ := ranks
  exact ⟨m, (Table.mem_delete.mp inside).1, rest⟩

/-- Whoever is not put out stays. -/
theorem kept_joined {selected : ConversationMember → Bool} (joined : GroupService.Joined t c userId)
    (kept : ∀ m ∈ t.members.rows, m.conversationId = c → m.userId = userId → selected m = false) :
    GroupService.Joined { t with members := t.members.delete selected } c userId := by
  obtain ⟨m, inside, conv, user⟩ := joined
  exact ⟨m, Table.mem_delete.mpr ⟨inside, kept m inside conv user⟩, conv, user⟩

/-- What the writes of a new group do to the members. -/
structure Founds (c userId : Int) (users : List Int) (t t' : Tables) : Prop where
  grows : ∀ m ∈ t.members.rows, m ∈ t'.members.rows
  new : ∀ m ∈ t'.members.rows, m ∈ t.members.rows ∨ m.conversationId = c ∧ (m.userId = userId ∧ m.role = .owner ∨ m.userId ∈ users ∧ m.role = .member)

theorem founds_same {users : List Int} (members : t'.members = t.members) : Founds c userId users t t' :=
  ⟨fun _ inside => members ▸ inside, fun _ inside => .inl (members ▸ inside)⟩

theorem created_founds {req : CreateGroupReq} {ids : List Int} (writes : applyAll (createWrites userId req ids now t) t = some t') :
    Founds (t.conversations.lastId + 1) userId ids t t' := by
  refine applyAll_relates (fun s => founds_same rfl) (fun a b c first second => ⟨fun m inside => second.grows m (first.grows m inside),
    fun m inside => ?_⟩) ?_ writes
  · rcases second.new m inside with there | new
    · exact first.new m there
    · exact .inr new
  · have member : ∀ {id : Int} {role : MemberRole} {s s' : Tables}, id = userId ∧ role = .owner ∨ id ∈ ids ∧ role = .member →
        Tables.memberWrite (memberOf (t.conversations.lastId + 1) id role now) s = some s' →
        Founds (t.conversations.lastId + 1) userId ids s s' := by
      intro id role s s' listed written
      rw [Tables.memberWrite, guarded] at written
      split at written
      · cases written
      · cases written
        refine ⟨fun m inside => Table.mem_insert.mpr (.inl inside), fun m inside => ?_⟩
        rcases Table.mem_insert.mp inside with there | ⟨-, rfl⟩
        · exact .inl there
        · exact .inr ⟨rfl, listed⟩
    intro write inside s s' written
    rcases List.mem_append.mp inside with first | later
    · simp only [List.mem_cons, List.not_mem_nil, or_false] at first
      rcases first with rfl | rfl | rfl
      · cases written
        exact founds_same rfl
      · cases written
        exact founds_same rfl
      · exact member (.inl ⟨rfl, rfl⟩) written
    · obtain ⟨id, listed, rfl⟩ := List.mem_map.mp later
      exact member (.inr ⟨listed, rfl⟩) written

/-- The new members of a private chat are plain ones. -/
theorem accepted_plain {fr : FriendRequest} (accepted : Accepted fr now t t') {m : ConversationMember} (inside : m ∈ t'.members.rows) :
    m ∈ t.members.rows ∨ m.role = .member := by
  rw [accepted.tables] at inside
  rcases Table.mem_insert.mp inside with inside | ⟨-, rfl⟩
  · rcases Table.mem_insert.mp inside with inside | ⟨-, rfl⟩
    · exact .inl inside
    · exact .inr rfl
  · exact .inr rfl

theorem accepted_grows {fr : FriendRequest} (accepted : Accepted fr now t t') {m : ConversationMember} (inside : m ∈ t.members.rows) :
    m ∈ t'.members.rows := by
  rw [accepted.tables]
  exact Table.mem_insert.mpr (.inl (Table.mem_insert.mpr (.inl inside)))

end Tables

/-! ### What one arrival does -/

/-- A request to put a member out is refused, or its sender has a higher role. -/
theorem handleKickMember_outranks (conn : ConnId) (seq : UInt32) (body : Option KickMemberReq) (w : World) :
    (handleKickMember conn seq body).Ensures w fun o => o.state.tables = w.tables ∨ ∃ req role role', body = some req ∧
      Ranks w.tables req.conversationId (w.mem.connections conn).userId role ∧ Ranks w.tables req.conversationId req.targetUserId role' ∧
      role ≠ .member ∧ role'.code < role.code := by
  have stop : ∀ {e : Error} {P : Prop} {s : World}, s.tables = w.tables →
      (sendRsp conn .kickMemberAck seq e).Ensures s fun o => o.state.tables = w.tables ∨ P := by
    intro e P s same
    exact .inl ((silent_sendRsp s).tables.trans same)
  have found : ∀ {c userId : Int} {m : ConversationMember},
      w.tables.members.rows.find? (fun r => r.conversationId = c && r.userId = userId) = some m → Ranks w.tables c userId m.role := by
    intro c userId m found
    have selected := List.find?_some found
    simp only [Bool.and_eq_true, decide_eq_true_eq] at selected
    exact ⟨m, List.mem_of_find?_eq_some found, selected.1, selected.2, rfl⟩
  refine ensures_peek (Prog.ensures_ite (fun _ => stop rfl) fun _ => ?_)
  cases body with
  | none => exact stop rfl
  | some req =>
    refine Prog.ensures_ite (fun _ => stop rfl) fun _ => Prog.ensures_ite (fun _ => stop rfl) fun _ => ?_
    refine ensures_lookup (stop rfl) fun operator foundOperator => Prog.ensures_ite (fun _ => stop rfl) fun manager => ?_
    refine ensures_lookup (stop rfl) fun target foundTarget => Prog.ensures_ite (fun _ => stop rfl) fun lower => ?_
    refine .inr ⟨req, operator.role, target.role, rfl, found foundOperator, found foundTarget, ?_, by omega⟩
    rintro plain
    simp [mayManage, plain] at manager

section Received
variable {v : World} {arrival : Arrival} {c userId : Int} {role : MemberRole}

/-- A role after an arrival was there before or is given by it. -/
theorem gainsRank_received (closed : v.saved = none) (sound : arrival.faults = [])
    (ranks : Ranks (receive sqliteDaoFactory v arrival).tables c userId role) :
    Ranks v.tables c userId role ∨ GainsRank v arrival c userId role := by
  have step := received_tables closed sound
  generalize is : arrival.input = input, (receive sqliteDaoFactory v arrival).tables = t' at step ranks
  cases step with
  | aside input t' same =>
    simp only [Tables.social, Tables.kept, Prod.mk.injEq] at same
    exact .inl ((sameRanks_of_eq same.1.2.2.2.1 c userId role).mp ranks)
  | chatted input t' writes => exact .inl ((writes chatting_sameRanks c userId role).mp ranks)
  | befriended request t' step =>
    cases step with
    | accepted conn seq req fr known named mine pending action _ writes =>
      obtain ⟨m, inside, rfl, rfl, rfl⟩ := ranks
      have accepted := accepted_of_writes writes
      rcases accepted_member accepted inside with there | ⟨new, one⟩
      · exact .inl ⟨m, there, rfl, rfl, rfl⟩
      rcases accepted_plain accepted inside with there | plain
      · exact .inl ⟨m, there, rfl, rfl, rfl⟩
      · rw [plain]
        exact .inr (.entered (.befriended fr known pending new one ⟨conn, seq, req, is, named.symm, mine⟩))
    | deleted conn seq req target known named row there pair normal _ writes =>
      left
      unfold deleteWrites at writes
      split at writes <;> cases writes
      · exact removed_ranks (removed_ranks ranks)
      · exact ranks
    | requested | rejected | blocked | unblocked | blockedStranger => exact .inl ranks
  | grouped request t' step =>
    cases step with
    | created conn seq req room _ writes =>
      obtain ⟨m, inside, rfl, rfl, rfl⟩ := ranks
      rcases (created_founds writes).new m inside with there | ⟨new, ⟨mine, owner⟩ | ⟨listed, plain⟩⟩
      · exact .inl ⟨m, there, rfl, rfl, rfl⟩
      · rw [owner]
        exact .inr (.founded conn seq req is new mine)
      · rw [plain]
        exact .inr (.entered (.founded conn seq req is new (.inr (mem_initialMembers listed))))
    | approved conn seq req jr known named pending manager action room _ writes =>
      obtain ⟨m, inside, rfl, rfl, rfl⟩ := ranks
      rw [approveWrites, Tables.memberWrite, applyAll_guarded, applyAll_plain] at writes
      obtain ⟨-, writes⟩ := writes
      cases writes
      rcases Table.mem_insert.mp inside with there | ⟨-, rfl⟩
      · exact .inl ⟨m, there, rfl, rfl, rfl⟩
      · exact .inr (.entered (.approved jr known pending rfl ⟨conn, seq, req, is, named.symm, manager⟩))
    | dismissed conn seq req group known named owner _ writes =>
      cases writes
      exact .inl (removed_ranks ranks)
    | updated conn seq req manager group known named _ writes =>
      left
      unfold updateWrites at writes
      cases found : conversationOf req.conversationId _ <;> rw [found] at writes <;> cases writes <;> exact ranks
    | left | kicked => exact .inl (removed_ranks ranks)
    | roleSet conn seq req operator known mine owner other role below =>
      obtain ⟨m', inside, rfl, rfl, rfl⟩ := ranks
      obtain ⟨m, there, rfl⟩ := Table.mem_update.mp inside
      by_cases selected : (m.conversationId = req.conversationId && m.userId = req.targetUserId && true) = true
      · rw [if_pos selected]
        simp only [Bool.and_true, Bool.and_eq_true, decide_eq_true_eq] at selected
        obtain ⟨conv, user⟩ := selected
        have owns : Ranks v.tables m.conversationId (v.mem.connections conn).userId .owner :=
          ⟨operator, known, mine.1.trans conv.symm, mine.2, owner⟩
        show _ ∨ GainsRank v arrival m.conversationId m.userId role
        have apart : m.userId ≠ (v.mem.connections conn).userId := fun mine => other (user.symm.trans mine)
        have joined : GroupService.Joined v.tables m.conversationId m.userId := ⟨m, there, rfl, rfl⟩
        exact .inr (.set conn seq req is ⟨conv.symm, user.symm⟩ joined owns apart role below)
      · rw [if_neg selected]
        exact .inl ⟨m, there, rfl, rfl, rfl⟩
    | asked | rejected | halfUpdated => exact .inl ranks

/-- A member stays one over an arrival or is let go by it. -/
theorem getsOut_received (closed : v.saved = none) (sound : arrival.faults = []) (joined : GroupService.Joined v.tables c userId) :
    GroupService.Joined (receive sqliteDaoFactory v arrival).tables c userId ∨ GetsOut v arrival c userId := by
  have same : ∀ {t' : Tables}, SameRanks v.tables t' → GroupService.Joined t' c userId := by
    intro t' same
    obtain ⟨m, inside, conv, user⟩ := joined
    exact ((same c userId m.role).mpr ⟨m, inside, conv, user, rfl⟩).joined
  have step := received_tables closed sound
  generalize is : arrival.input = input, after_ : (receive sqliteDaoFactory v arrival).tables = t' at step ⊢
  cases step with
  | aside input t' kept =>
    simp only [Tables.social, Tables.kept, Prod.mk.injEq] at kept
    exact .inl (same (sameRanks_of_eq kept.1.2.2.2.1))
  | chatted input t' writes => exact .inl (same (writes chatting_sameRanks))
  | befriended request t' step =>
    cases step with
    | accepted conn seq req fr known named mine pending action _ writes =>
      obtain ⟨m, inside, conv, user⟩ := joined
      exact .inl ⟨m, accepted_grows (accepted_of_writes writes) inside, conv, user⟩
    | deleted conn seq req target known named row there pair normal _ writes =>
      by_cases ends : row.conversationId = c ∧ (userId = row.userId ∨ userId = row.friendId)
      · exact .inr (.unfriended conn seq req row is there ends.1 normal pair.1 ends.2)
      left
      obtain ⟨m, inside, rfl, rfl⟩ := joined
      unfold deleteWrites at writes
      split at writes <;> cases writes
      · refine ⟨m, Table.mem_delete.mpr ⟨Table.mem_delete.mpr ⟨inside, ?_⟩, ?_⟩, rfl, rfl⟩
        · simp only [Bool.and_eq_false_imp, decide_eq_true_eq, decide_eq_false_iff_not]
          exact fun conv mine => ends ⟨conv.symm, .inl (mine.trans pair.1.symm)⟩
        · simp only [Bool.and_eq_false_imp, decide_eq_true_eq, decide_eq_false_iff_not]
          exact fun conv theirs => ends ⟨conv.symm, .inr (theirs.trans pair.2.symm)⟩
      · exact ⟨m, inside, rfl, rfl⟩
    | requested | rejected | blocked | unblocked | blockedStranger => exact .inl joined
  | grouped request t' step =>
    cases step with
    | created conn seq req room _ writes =>
      obtain ⟨m, inside, conv, user⟩ := joined
      exact .inl ⟨m, (created_founds writes).grows m inside, conv, user⟩
    | approved conn seq req jr known named pending manager action room _ writes =>
      rw [approveWrites, Tables.memberWrite, applyAll_guarded, applyAll_plain] at writes
      obtain ⟨-, writes⟩ := writes
      cases writes
      obtain ⟨m, inside, conv, user⟩ := joined
      exact .inl ⟨m, Table.mem_insert.mpr (.inl inside), conv, user⟩
    | dismissed conn seq req group known named owner _ writes =>
      cases writes
      by_cases here : c = req.conversationId
      · exact .inr (.dismissed conn seq req group is known (named.trans here.symm) owner)
      · exact .inl (kept_joined joined fun m _ conv _ => decide_eq_false fun back => here (conv.symm.trans back))
    | updated conn seq req manager group known named _ writes =>
      left
      unfold updateWrites at writes
      cases found : conversationOf req.conversationId _ <;> rw [found] at writes <;> cases writes <;> exact joined
    | left conn seq req member known mine role =>
      by_cases leaves : c = req.conversationId ∧ userId = (v.mem.connections conn).userId
      · obtain ⟨rfl, rfl⟩ := leaves
        exact .inr (.left conn seq req is rfl rfl fun owner => role (Ranks.unique ⟨member, known, mine.1, mine.2, rfl⟩ owner))
      · refine .inl (kept_joined joined fun m _ conv user => ?_)
        simp only [Bool.and_eq_false_imp, decide_eq_true_eq, decide_eq_false_iff_not]
        exact fun here back => leaves ⟨conv.symm.trans here, user.symm.trans back⟩
    | kicked conn seq req manager target known named role =>
      by_cases aimed : c = req.conversationId ∧ userId = req.targetUserId
      · obtain ⟨rfl, rfl⟩ := aimed
        have handled : receive sqliteDaoFactory v arrival = ((handleKickMember conn seq (some req)).run ((arrival.call v).enter v)).state := by
          show ((serve sqliteDaoFactory arrival.input).run ((arrival.call v).enter v)).state = _
          rw [is, serve, Router.dispatch, GroupService.handleWith_sqlite]
          rfl
        obtain unchanged | ⟨req', role, role', body, above, below, manages, lower⟩ :=
          handleKickMember_outranks conn seq (some req) ((arrival.call v).enter v)
        · rw [← handled, after_] at unchanged
          rw [unchanged]
          exact .inl joined
        · cases body
          exact .inr (.putOut ⟨⟨conn, seq, req, role, role', is, rfl, rfl, above, below, manages, lower⟩⟩)
      · refine .inl (kept_joined joined fun m _ conv user => ?_)
        simp only [Bool.and_eq_false_imp, decide_eq_true_eq, decide_eq_false_iff_not]
        exact fun here back => aimed ⟨conv.symm.trans here, user.symm.trans back⟩
    | roleSet conn seq req operator known mine owner other role below =>
      obtain ⟨m, there, conv, user⟩ := joined
      refine .inl ⟨_, Table.mem_update.mpr ⟨m, there, rfl⟩, ?_⟩
      split
      · exact ⟨conv, user⟩
      · exact ⟨conv, user⟩
    | asked | rejected | halfUpdated => exact .inl joined

end Received

/-! ### Along a run -/

section Runs
variable {w : World} {arrivals : List Arrival}

theorem shut_run (closed : w.saved = none) (sound : Along (receive sqliteDaoFactory) Faultless w arrivals) :
    (after (receive sqliteDaoFactory) w arrivals).saved = none :=
  @after_invariant _ _ (receive sqliteDaoFactory) Faultless (fun v => v.saved = none)
    (fun _ _ sound closed => closed_received closed sound) w closed arrivals sound

/-- Whoever has come to a role in a conversation founded it, got in or was given the role by the owner, and whoever is no
    longer a member left, was put out by somebody of a higher role, or lost the group or the friend. -/
theorem standing_authorised (closed : w.saved = none) (sound : Along (receive sqliteDaoFactory) Faultless w arrivals) (c userId : Int) :
    (∀ role, Ranks (after (receive sqliteDaoFactory) w arrivals).tables c userId role → ¬Ranks w.tables c userId role →
      ∃ sofar arrival rest, arrivals = sofar ++ arrival :: rest ∧
        GainsRank (after (receive sqliteDaoFactory) w sofar) arrival c userId role ∧
        ∀ more, more <+: rest → Ranks (after (receive sqliteDaoFactory) w (sofar ++ arrival :: more)).tables c userId role) ∧
    (GroupService.Joined w.tables c userId → ¬GroupService.Joined (after (receive sqliteDaoFactory) w arrivals).tables c userId →
      ∃ sofar arrival rest, arrivals = sofar ++ arrival :: rest ∧ GetsOut (after (receive sqliteDaoFactory) w sofar) arrival c userId ∧
        ∀ more, more <+: rest → ¬GroupService.Joined (after (receive sqliteDaoFactory) w (sofar ++ arrival :: more)).tables c userId) := by
  constructor
  · intro role ranks notYet
    obtain ⟨sofar, arrival, rest, rfl, before, since⟩ := @arises _ _ (receive sqliteDaoFactory)
      (fun v => Ranks v.tables c userId role) w arrivals notYet ranks
    obtain ⟨early, now, -⟩ := along_append.mp sound
    refine ⟨sofar, arrival, rest, rfl, ?_, fun more short => ?_⟩
    · exact (gainsRank_received (shut_run closed early) now (since [] List.nil_prefix)).resolve_left before
    · rw [after_append, after_cons]
      exact since more short
  · intro joined gone
    obtain ⟨sofar, arrival, rest, rfl, before, since⟩ := @arises _ _ (receive sqliteDaoFactory)
      (fun v => ¬GroupService.Joined v.tables c userId) w arrivals (fun away => away joined) gone
    obtain ⟨early, now, -⟩ := along_append.mp sound
    refine ⟨sofar, arrival, rest, rfl, ?_, fun more short => ?_⟩
    · exact (getsOut_received (shut_run closed early) now (not_not.mp before)).resolve_left (since [] List.nil_prefix)
    · rw [after_append, after_cons]
      exact since more short

end Runs

/-- In a group of the three, user 1 makes user 2 an administrator, who puts user 3 out. -/
def rising : List Arrival :=
  [{ input := .packet (.group (.setMemberRole 1 0 (some { conversationId := 1, targetUserId := 2, role := 1 }))) },
    { input := .packet (.group (.kickMember 2 0 (some { conversationId := 1, targetUserId := 3 }))) }]

/-- User 1 founds the group. -/
def foundingTwo : List Arrival :=
  [{ input := .packet (.group (.createGroup 1 0 (some { name := [103], avatar := [], memberIds := [2, 3] }))) }]

theorem standing_authorised_rising :
    (∃ sofar arrival rest, rising = sofar ++ arrival :: rest ∧
      GainsRank (after (receive sqliteDaoFactory) (after (receive sqliteDaoFactory) threeOnline foundingTwo) sofar) arrival 1 2 .admin ∧
      ∀ more, more <+: rest → Ranks (after (receive sqliteDaoFactory) (after (receive sqliteDaoFactory) threeOnline foundingTwo)
        (sofar ++ arrival :: more)).tables 1 2 .admin) ∧
    ∃ sofar arrival rest, rising = sofar ++ arrival :: rest ∧
      GetsOut (after (receive sqliteDaoFactory) (after (receive sqliteDaoFactory) threeOnline foundingTwo) sofar) arrival 1 3 ∧
      ∀ more, more <+: rest → ¬GroupService.Joined (after (receive sqliteDaoFactory) (after (receive sqliteDaoFactory) threeOnline foundingTwo)
        (sofar ++ arrival :: more)).tables 1 3 := by
  have sound : Along (receive sqliteDaoFactory) Faultless (after (receive sqliteDaoFactory) threeOnline foundingTwo) rising := ⟨rfl, rfl, trivial⟩
  constructor
  · exact (standing_authorised (by decide +kernel) sound 1 2).1 .admin (by decide +kernel) (by decide +kernel)
  · exact (standing_authorised (by decide +kernel) sound 1 3).2 (by decide +kernel) (by decide +kernel)

end NovaIIM
