import NovaIIM.Decisions
import NovaIIM.GroupLife

/-!
Requests, and who gets into a conversation.

A friend request is made by its sender and answered by its receiver, a request to join a group is
made by the user and answered by who manages the group (`friends_deciding`, `joins_deciding`), and
no other service touches either. A user becomes a member of a conversation in one of three ways
(`GetsIn`): by being listed when the group is created, by a request of the user's own that a manager
approves, or by a friend request that one of the two made and the other accepted.
-/
namespace NovaIIM
open Store FriendService GroupService

/-- Writes that each keep to a relation keep to it all together. -/
theorem Store.applyAll_relates {τ : Type} {R : τ → τ → Prop} (refl : ∀ t, R t t) (trans : ∀ a b c, R a b → R b c → R a c)
    {ws : List (Write τ)} (each : ∀ write ∈ ws, ∀ t t', write t = some t' → R t t') {t t' : τ}
    (writes : applyAll ws t = some t') : R t t' := by
  induction ws generalizing t with
  | nil =>
    cases writes
    exact refl _
  | cons write rest ih =>
    obtain ⟨next, first, others⟩ := Option.bind_eq_some_iff.mp writes
    refine trans _ _ _ (each write List.mem_cons_self _ next first) (ih (fun other inside => ?_) others)
    exact each other (List.mem_cons_of_mem _ inside)

/-! ### Who asks and who answers -/

/-- A packet asks a user to be a friend. -/
def AsksFriend (v : World) (arrival : Arrival) (fr : FriendRequest) : Prop :=
  ∃ conn seq req, arrival.input = .packet (.friend (.addFriend conn seq (some req))) ∧
    fr.fromId = (v.mem.connections conn).userId ∧ ∃ target ∈ v.tables.users.rows, target.uid = req.targetUid ∧ fr.toId = target.id

/-- A packet of the receiver answers a friend request. -/
def AnswersFriend (v : World) (arrival : Arrival) (fr : FriendRequest) : Prop :=
  ∃ conn seq req, arrival.input = .packet (.friend (.handleRequest conn seq (some req))) ∧ req.requestId = fr.id ∧
    fr.toId = (v.mem.connections conn).userId

/-- A packet asks to join a group. -/
def AsksGroup (v : World) (arrival : Arrival) (jr : GroupJoinRequest) : Prop :=
  ∃ conn seq req, arrival.input = .packet (.group (.joinGroup conn seq (some req))) ∧
    jr.userId = (v.mem.connections conn).userId ∧ jr.conversationId = req.conversationId ∧
    ∃ g ∈ v.tables.groups.rows, g.conversationId = jr.conversationId

/-- A packet of a manager answers a request to join. -/
def AnswersGroup (v : World) (arrival : Arrival) (jr : GroupJoinRequest) : Prop :=
  ∃ conn seq req, arrival.input = .packet (.group (.handleJoinReq conn seq (some req))) ∧ req.requestId = jr.id ∧
    Manages v.tables jr.conversationId (v.mem.connections conn).userId

/-- An arrival that meets no failure, with no transaction open. -/
def Untroubled (v : World) (arrival : Arrival) : Prop := v.saved = none ∧ arrival.faults = []

theorem untroubled_run {w : World} (closed : w.saved = none) {arrivals : List Arrival}
    (sound : Along (receive sqliteDaoFactory) Faultless w arrivals) : Along (receive sqliteDaoFactory) Untroubled w arrivals := by
  induction arrivals generalizing w with
  | nil => trivial
  | cons arrival rest ih => exact ⟨⟨closed, sound.1⟩, ih (closed_received closed sound.1) sound.2⟩

/-- What a friend request is about. -/
def FriendRequest.about (fr : FriendRequest) : Int × Int := (fr.fromId, fr.toId)

/-- What a request to join is about. -/
def GroupJoinRequest.about (jr : GroupJoinRequest) : Int × Int := (jr.conversationId, jr.userId)

section Tables
variable {t t' : Tables} {me : Connection} {now : Bytes}

/-- The message and the conversation service leave both kinds of requests alone. -/
theorem chatting_requests :
    Chatting fun t t' => t'.friendRequests = t.friendRequests ∧ t'.groupJoinRequests = t.groupJoinRequests where
  refl _ := ⟨rfl, rfl⟩
  trans first second := ⟨second.1.trans first.1, second.2.trans first.2⟩
  numbered _ _ := ⟨rfl, rfl⟩
  stored _ _ := ⟨rfl, rfl⟩
  status _ _ _ := ⟨rfl, rfl⟩
  settings _ _ _ _ _ _ := ⟨rfl, rfl⟩

/-- A request of the friend service makes a friend request, answers one, or leaves them alone. -/
theorem friendStep_decides {request : FriendService.Request} {asks decides : FriendRequest → Prop}
    (step : FriendStep me [] now t request t')
    (asked : ∀ conn seq req target fr, request = .addFriend conn seq (some req) → target ∈ t.users.rows →
      target.uid = req.targetUid → fr.fromId = me.userId → fr.toId = target.id → asks fr)
    (answered : ∀ conn seq req fr, request = .handleRequest conn seq (some req) → fr.id = req.requestId →
      fr.toId = me.userId → decides fr) :
    Decides (·.status = .pending) FriendRequest.about asks decides t.friendRequests t'.friendRequests := by
  have only : ∀ {fr}, fr ∈ t.friendRequests.rows → ∀ other ∈ t.friendRequests.rows,
      decide (other.id = fr.id) = true → other = fr := fun known other there same =>
    Table.eq_of_id there known (of_decide_eq_true same)
  cases step with
  | requested conn seq req target unhindered =>
    exact decides_insert rfl (asked conn seq req target _ rfl unhindered.known unhindered.named rfl rfl)
  | accepted conn seq req fr known named mine pending action _ writes =>
    rw [(accepted_of_writes writes).tables]
    refine decides_update known pending (only known) rfl (fun same => ?_) (answered conn seq req fr rfl named mine)
    cases same
  | rejected conn seq req fr known named mine pending action =>
    refine decides_update known pending (only known) rfl (fun same => ?_) (answered conn seq req fr rfl named mine)
    cases same
  | deleted conn seq req target known named row there pair normal _ writes =>
    have same : t'.friendRequests = t.friendRequests := by
      unfold deleteWrites at writes
      split at writes <;> cases writes <;> rfl
    rw [same]
    exact decides_same _
  | blocked | blockedStranger | unblocked => exact decides_same _

theorem friendStep_joins {faults : List Bool} {request : FriendService.Request} (step : FriendStep me faults now t request t') :
    t'.groupJoinRequests = t.groupJoinRequests := by
  cases step with
  | accepted conn seq req fr known named mine pending action _ writes =>
    rw [(accepted_of_writes writes).tables]
    rfl
  | deleted conn seq req target known named row there pair normal _ writes =>
    unfold deleteWrites at writes
    split at writes <;> cases writes <;> rfl
  | _ => rfl

/-- The friend requests are as they were, and a new member of a conversation is one of some users. -/
structure Enrols (conversationId : Int) (users : List Int) (t t' : Tables) : Prop where
  friends : t'.friendRequests = t.friendRequests
  members : ∀ m ∈ t'.members.rows, m ∈ t.members.rows ∨ m.conversationId = conversationId ∧ m.userId ∈ users

/-- The members that the creation of a group makes, and that it makes no friend request. -/
theorem createWrites_members {userId : Int} {req : CreateGroupReq} {ids : List Int}
    (writes : applyAll (createWrites userId req ids now t) t = some t') :
    Enrols (t.conversations.lastId + 1) (userId :: ids) t t' := by
  refine applyAll_relates (fun s => ⟨rfl, fun m there => .inl there⟩) (fun a b c first second => ?_) ?_ writes
  · refine ⟨second.friends.trans first.friends, fun m inside => ?_⟩
    rcases second.members m inside with there | new
    · exact first.members m there
    · exact .inr new
  · have member : ∀ {id : Int} {role : MemberRole} {s s' : Tables}, id ∈ userId :: ids →
        Tables.memberWrite (memberOf (t.conversations.lastId + 1) id role now) s = some s' →
        Enrols (t.conversations.lastId + 1) (userId :: ids) s s' := by
      intro id role s s' listed written
      rw [Tables.memberWrite, guarded] at written
      split at written
      · cases written
      · cases written
        refine ⟨rfl, fun m inside => ?_⟩
        rcases Table.mem_insert.mp inside with there | ⟨-, rfl⟩
        · exact .inl there
        · exact .inr ⟨rfl, listed⟩
    intro write inside s s' written
    rcases List.mem_append.mp inside with first | later
    · simp only [List.mem_cons, List.not_mem_nil, or_false] at first
      rcases first with rfl | rfl | rfl
      · cases written
        exact ⟨rfl, fun m there => .inl there⟩
      · cases written
        exact ⟨rfl, fun m there => .inl there⟩
      · exact member List.mem_cons_self written
    · obtain ⟨id, listed, rfl⟩ := List.mem_map.mp later
      exact member (List.mem_cons_of_mem _ listed) written

/-- The group service leaves the friend requests alone. -/
theorem groupStep_friends {faults : List Bool} {request : GroupService.Request} (step : GroupStep me faults now t request t') :
    t'.friendRequests = t.friendRequests := by
  cases step with
  | created conn seq req room _ writes => exact (createWrites_members writes).friends
  | dismissed conn seq req group known named owner _ writes =>
    cases writes
    rfl
  | approved conn seq req jr known named pending manager action room _ writes =>
    rw [approveWrites, Tables.memberWrite, applyAll_guarded, applyAll_plain] at writes
    obtain ⟨-, writes⟩ := writes
    cases writes
    rfl
  | updated conn seq req manager group known named _ writes =>
    unfold updateWrites at writes
    cases found : conversationOf req.conversationId t <;> rw [found] at writes <;> cases writes <;> rfl
  | _ => rfl

/-- A request of the group service makes a request to join, answers one, or leaves them alone. -/
theorem groupStep_decides {faults : List Bool} {request : GroupService.Request} {asks decides : GroupJoinRequest → Prop}
    (step : GroupStep me faults now t request t')
    (asked : ∀ conn seq req group jr, request = .joinGroup conn seq (some req) → group ∈ t.groups.rows →
      group.conversationId = jr.conversationId → jr.conversationId = req.conversationId → jr.userId = me.userId → asks jr)
    (answered : ∀ conn seq req jr, request = .handleJoinReq conn seq (some req) → jr.id = req.requestId →
      Manages t jr.conversationId me.userId → decides jr) :
    Decides (·.status = .pending) GroupJoinRequest.about asks decides t.groupJoinRequests t'.groupJoinRequests := by
  have only : ∀ {jr}, jr ∈ t.groupJoinRequests.rows → ∀ other ∈ t.groupJoinRequests.rows,
      decide (other.id = jr.id) = true → other = jr := fun known other there same =>
    Table.eq_of_id there known (of_decide_eq_true same)
  cases step with
  | created conn seq req room _ writes =>
    obtain ⟨conv, group, owner, added, created⟩ := created_of_writes room writes
    rw [created.requests]
    exact decides_same _
  | dismissed conn seq req group known named owner _ writes =>
    cases writes
    exact decides_same _
  | asked conn seq req group known named outsider unasked =>
    exact decides_insert rfl (asked conn seq req group _ rfl known named rfl rfl)
  | approved conn seq req jr known named pending manager action room _ writes =>
    rw [approveWrites, Tables.memberWrite, applyAll_guarded, applyAll_plain] at writes
    obtain ⟨-, writes⟩ := writes
    cases writes
    refine decides_update known pending (only known) rfl (fun same => ?_) (answered conn seq req jr rfl named manager)
    cases same
  | rejected conn seq req jr known named pending manager action =>
    refine decides_update known pending (only known) rfl (fun same => ?_) (answered conn seq req jr rfl named manager)
    cases same
  | updated conn seq req manager group known named _ writes =>
    have same : t'.groupJoinRequests = t.groupJoinRequests := by
      unfold updateWrites at writes
      cases found : conversationOf req.conversationId t <;> rw [found] at writes <;> cases writes <;> rfl
    rw [same]
    exact decides_same _
  | left | kicked | halfUpdated | roleSet => exact decides_same _

end Tables

/-- Friend requests are made by their senders and answered by their receivers. -/
theorem friends_deciding : Deciding (receive sqliteDaoFactory) Untroubled (fun fr : FriendRequest => fr.status = .pending)
    FriendRequest.about (fun v : World => v.tables.friendRequests) AsksFriend AnswersFriend := by
  intro v arrival ⟨closed, sound⟩
  show Decides _ _ _ _ ((arrival.call v).enter v).tables.friendRequests (receive sqliteDaoFactory v arrival).tables.friendRequests
  have step := received_tables closed sound
  have unfailing : ((arrival.call v).enter v).faults = [] := sound
  generalize is : arrival.input = input, (receive sqliteDaoFactory v arrival).tables = t' at step ⊢
  cases step with
  | aside input t' same =>
    simp only [Tables.social, Prod.mk.injEq] at same
    rw [same.2.1]
    exact decides_same _
  | chatted input t' writes =>
    rw [(writes chatting_requests).1]
    exact decides_same _
  | befriended request t' step =>
    rw [unfailing] at step
    refine friendStep_decides step ?_ ?_
    · rintro conn seq req target fr rfl known named sender receiver
      exact ⟨conn, seq, req, is, sender, target, known, named, receiver⟩
    · rintro conn seq req fr rfl named mine
      exact ⟨conn, seq, req, is, named.symm, mine⟩
  | grouped request t' step =>
    rw [groupStep_friends step]
    exact decides_same _

/-- Requests to join are made by the users and answered by who manages the group. -/
theorem joins_deciding : Deciding (receive sqliteDaoFactory) Untroubled (fun jr : GroupJoinRequest => jr.status = .pending)
    GroupJoinRequest.about (fun v : World => v.tables.groupJoinRequests) AsksGroup AnswersGroup := by
  intro v arrival ⟨closed, sound⟩
  show Decides _ _ _ _ ((arrival.call v).enter v).tables.groupJoinRequests
    (receive sqliteDaoFactory v arrival).tables.groupJoinRequests
  have step := received_tables closed sound
  generalize is : arrival.input = input, (receive sqliteDaoFactory v arrival).tables = t' at step ⊢
  cases step with
  | aside input t' same =>
    simp only [Tables.social, Prod.mk.injEq] at same
    rw [same.2.2]
    exact decides_same _
  | chatted input t' writes =>
    rw [(writes chatting_requests).2]
    exact decides_same _
  | befriended request t' step =>
    rw [friendStep_joins step]
    exact decides_same _
  | grouped request t' step =>
    refine groupStep_decides step ?_ ?_
    · rintro conn seq req group jr rfl known named same mine
      exact ⟨conn, seq, req, is, mine, same, group, known, named⟩
    · rintro conn seq req jr rfl named manager
      exact ⟨conn, seq, req, is, named.symm, manager⟩

/-! ### Along a run -/

section Runs
variable {w : World} {arrivals : List Arrival}

/-- A friend request was there at the start of a run, or its sender has made it. -/
abbrev FriendAskedFor : World → List Arrival → FriendRequest → Prop :=
  AskedFor (receive sqliteDaoFactory) FriendRequest.about (fun v : World => v.tables.friendRequests) AsksFriend

/-- A request to join was there at the start of a run, or the user has made it. -/
abbrev GroupAskedFor : World → List Arrival → GroupJoinRequest → Prop :=
  AskedFor (receive sqliteDaoFactory) GroupJoinRequest.about (fun v : World => v.tables.groupJoinRequests) AsksGroup

/-- A friend request was made by its sender and a request to join by the user. The receiver answers the one and who manages
    the group the other, once, and both stay as they were answered. -/
theorem requests_decided (closed : w.saved = none) (sound : Along (receive sqliteDaoFactory) Faultless w arrivals) :
    (∀ fr ∈ (after (receive sqliteDaoFactory) w arrivals).tables.friendRequests.rows, FriendAskedFor w arrivals fr ∧
      (fr.status ≠ .pending → DecidedIn (receive sqliteDaoFactory) (fun fr : FriendRequest => fr.status = .pending)
        FriendRequest.about (fun v : World => v.tables.friendRequests) AnswersFriend w arrivals fr)) ∧
    ∀ jr ∈ (after (receive sqliteDaoFactory) w arrivals).tables.groupJoinRequests.rows, GroupAskedFor w arrivals jr ∧
      (jr.status ≠ .pending → DecidedIn (receive sqliteDaoFactory) (fun jr : GroupJoinRequest => jr.status = .pending)
        GroupJoinRequest.about (fun v : World => v.tables.groupJoinRequests) AnswersGroup w arrivals jr) := by
  have untroubled := untroubled_run closed sound
  constructor
  · intro fr inside
    exact ⟨row_asked friends_deciding untroubled inside, row_decided friends_deciding untroubled inside⟩
  · intro jr inside
    exact ⟨row_asked joins_deciding untroubled inside, row_decided joins_deciding untroubled inside⟩

/-- User 2 asks user 3 to be a friend, who accepts; user 1 creates a group with the two, which user 3 leaves. -/
def gathering : List Arrival :=
  [{ input := .packet (.friend (.addFriend 2 0 (some { targetUid := [3], remark := [] }))) },
    { input := .packet (.friend (.handleRequest 3 0 (some { requestId := 1, action := 1 }))) },
    { input := .packet (.group (.createGroup 1 0 (some { name := [103], avatar := [], memberIds := [2, 3] }))) },
    { input := .packet (.group (.leaveGroup 3 0 (some { conversationId := 2 }))) }]

/-- User 3 asks to join the group again, and user 1 approves. -/
def returning : List Arrival :=
  [{ input := .packet (.group (.joinGroup 3 0 (some { conversationId := 2, remark := [] }))) },
    { input := .packet (.group (.handleJoinReq 1 0 (some { requestId := 1, action := 1 }))) }]

/-- Both kinds of requests are made and answered. -/
theorem requests_decided_friends :
    ((after (receive sqliteDaoFactory) threeOnline (gathering ++ returning)).tables.friendRequests.rows.length = 1 ∧
      (after (receive sqliteDaoFactory) threeOnline (gathering ++ returning)).tables.groupJoinRequests.rows.length = 1) ∧
    (∀ fr ∈ (after (receive sqliteDaoFactory) threeOnline (gathering ++ returning)).tables.friendRequests.rows,
      FriendAskedFor threeOnline (gathering ++ returning) fr ∧
        (fr.status ≠ .pending → DecidedIn (receive sqliteDaoFactory) (fun fr : FriendRequest => fr.status = .pending)
          FriendRequest.about (fun v : World => v.tables.friendRequests) AnswersFriend threeOnline (gathering ++ returning) fr)) ∧
    ∀ jr ∈ (after (receive sqliteDaoFactory) threeOnline (gathering ++ returning)).tables.groupJoinRequests.rows,
      GroupAskedFor threeOnline (gathering ++ returning) jr ∧
        (jr.status ≠ .pending → DecidedIn (receive sqliteDaoFactory) (fun jr : GroupJoinRequest => jr.status = .pending)
          GroupJoinRequest.about (fun v : World => v.tables.groupJoinRequests) AnswersGroup threeOnline (gathering ++ returning) jr) :=
  ⟨by decide +kernel, requests_decided rfl ⟨rfl, rfl, rfl, rfl, rfl, rfl, trivial⟩⟩

/-! ### Who gets into a conversation -/

/-- How an arrival makes a user a member of a conversation. -/
inductive GetsIn (v : World) (arrival : Arrival) (c userId : Int) : Prop where
  | founded (conn : ConnId) (seq : UInt32) (req : CreateGroupReq) (packet : arrival.input = .packet (.group (.createGroup conn seq (some req))))
      (new : c = v.tables.conversations.lastId + 1) (listed : userId = (v.mem.connections conn).userId ∨ userId ∈ req.memberIds)
  | approved (jr : GroupJoinRequest) (known : jr ∈ v.tables.groupJoinRequests.rows) (open_ : jr.status = .pending)
      (about : jr.about = (c, userId)) (answers : AnswersGroup v arrival jr)
  | befriended (fr : FriendRequest) (known : fr ∈ v.tables.friendRequests.rows) (open_ : fr.status = .pending)
      (new : c = v.tables.conversations.lastId + 1) (one : userId = fr.fromId ∨ userId = fr.toId) (answers : AnswersFriend v arrival fr)

/-- Neither the message nor the conversation service makes a member. -/
theorem chatting_joined : Chatting fun t t' => ∀ c userId, Joined t' c userId → Joined t c userId where
  refl _ _ _ joined := joined
  trans first second c userId joined := first c userId (second c userId joined)
  numbered _ _ _ _ joined := joined
  stored _ _ _ _ joined := joined
  status _ _ _ _ _ joined := joined
  settings t conversationId userId selected _ _ := by
    rintro c user ⟨m', inside, rfl, rfl⟩
    exact joined_updated inside

theorem mem_initialMembers {memberIds : List Int} {userId id : Int} (inside : id ∈ initialMembers memberIds userId) : id ∈ memberIds := by
  have listed := (List.mem_filter.mp inside).1
  rw [List.mem_dedup] at listed
  exact (List.perm_insertionSort _ _).mem_iff.mp listed

/-- Whoever is a member after an arrival was one before or gets in by it. -/
theorem getsIn_received {v : World} (closed : v.saved = none) {arrival : Arrival} (sound : arrival.faults = []) {c userId : Int}
    (joined : Joined (receive sqliteDaoFactory v arrival).tables c userId) :
    Joined v.tables c userId ∨ GetsIn v arrival c userId := by
  have step := received_tables closed sound
  generalize is : arrival.input = input, (receive sqliteDaoFactory v arrival).tables = t' at step joined
  cases step with
  | aside input t' same =>
    simp only [Tables.social, Tables.kept, Prod.mk.injEq] at same
    obtain ⟨⟨-, -, -, members, -⟩, -, -⟩ := same
    rw [GroupService.Joined, members] at joined
    exact .inl joined
  | chatted input t' writes => exact .inl (writes chatting_joined c userId joined)
  | befriended request t' step =>
    obtain ⟨m, inside, rfl, rfl⟩ := joined
    cases step with
    | accepted conn seq req fr known named mine pending action _ writes =>
      rcases accepted_member (accepted_of_writes writes) inside with there | ⟨new, one⟩
      · exact .inl ⟨m, there, rfl, rfl⟩
      · exact .inr (.befriended fr known pending new one ⟨conn, seq, req, is, named.symm, mine⟩)
    | deleted conn seq req target known named row there pair normal _ writes =>
      refine .inl ⟨m, ?_, rfl, rfl⟩
      unfold deleteWrites at writes
      split at writes <;> cases writes
      · exact (Table.mem_delete.mp (Table.mem_delete.mp inside).1).1
      · exact inside
    | requested | rejected | blocked | unblocked | blockedStranger => exact .inl ⟨m, inside, rfl, rfl⟩
  | grouped request t' step =>
    obtain ⟨m, inside, rfl, rfl⟩ := joined
    cases step with
    | created conn seq req room _ writes =>
      rcases (createWrites_members writes).members m inside with there | ⟨new, listed⟩
      · exact .inl ⟨m, there, rfl, rfl⟩
      · refine .inr (.founded conn seq req is new ?_)
        rcases List.mem_cons.mp listed with own | other
        · exact .inl own
        · exact .inr (mem_initialMembers other)
    | approved conn seq req jr known named pending manager action room _ writes =>
      rw [approveWrites, Tables.memberWrite, applyAll_guarded, applyAll_plain] at writes
      obtain ⟨-, writes⟩ := writes
      cases writes
      rcases Table.mem_insert.mp inside with there | ⟨-, rfl⟩
      · exact .inl ⟨m, there, rfl, rfl⟩
      · exact .inr (.approved jr known pending rfl ⟨conn, seq, req, is, named.symm, manager⟩)
    | dismissed conn seq req group known named owner _ writes =>
      cases writes
      exact .inl ⟨m, (Table.mem_delete.mp inside).1, rfl, rfl⟩
    | updated conn seq req manager group known named _ writes =>
      refine .inl ⟨m, ?_, rfl, rfl⟩
      unfold updateWrites at writes
      cases found : conversationOf req.conversationId _ <;> rw [found] at writes <;> cases writes <;> exact inside
    | left | kicked => exact .inl ⟨m, (Table.mem_delete.mp inside).1, rfl, rfl⟩
    | roleSet => exact .inl (joined_updated inside)
    | asked | rejected | halfUpdated => exact .inl ⟨m, inside, rfl, rfl⟩

/-- Nobody is made a member of a conversation unasked: a new member was listed by the creator of a new group, had asked
    to join and was approved by a manager, or is one of two users of whom one asked and the other accepted. -/
theorem membership_consented (closed : w.saved = none) (sound : Along (receive sqliteDaoFactory) Faultless w arrivals) {c userId : Int}
    (joined : Joined (after (receive sqliteDaoFactory) w arrivals).tables c userId) (outside : ¬Joined w.tables c userId) :
    ∃ sofar arrival rest, arrivals = sofar ++ arrival :: rest ∧
      (∀ more, more <+: rest → Joined (after (receive sqliteDaoFactory) w (sofar ++ arrival :: more)).tables c userId) ∧
      ∃ v, v = after (receive sqliteDaoFactory) w sofar ∧ GetsIn v arrival c userId ∧
        (∀ jr ∈ v.tables.groupJoinRequests.rows, GroupAskedFor w sofar jr) ∧
        ∀ fr ∈ v.tables.friendRequests.rows, FriendAskedFor w sofar fr := by
  obtain ⟨sofar, arrival, rest, rfl, before, since⟩ := @arises _ _ (receive sqliteDaoFactory)
    (fun v => Joined v.tables c userId) w arrivals outside joined
  obtain ⟨early, now, -⟩ := along_append.mp sound
  refine ⟨sofar, arrival, rest, rfl, fun more short => ?_, _, rfl, ?_, ?_, ?_⟩
  · rw [after_append, after_cons]
    exact since more short
  · have shut : (after (receive sqliteDaoFactory) w sofar).saved = none :=
      @after_invariant _ _ (receive sqliteDaoFactory) Faultless (fun v => v.saved = none)
        (fun _ _ sound closed => closed_received closed sound) w closed sofar early
    exact (getsIn_received shut now (since [] List.nil_prefix)).resolve_left before
  · exact fun jr inside => row_asked joins_deciding (untroubled_run closed early) inside
  · exact fun fr inside => row_asked friends_deciding (untroubled_run closed early) inside

end Runs

theorem membership_consented_returning :
    ∃ sofar arrival rest, returning = sofar ++ arrival :: rest ∧
      (∀ more, more <+: rest → Joined (after (receive sqliteDaoFactory) (after (receive sqliteDaoFactory) threeOnline gathering)
        (sofar ++ arrival :: more)).tables 2 3) ∧
      ∃ v, v = after (receive sqliteDaoFactory) (after (receive sqliteDaoFactory) threeOnline gathering) sofar ∧ GetsIn v arrival 2 3 ∧
        (∀ jr ∈ v.tables.groupJoinRequests.rows, GroupAskedFor (after (receive sqliteDaoFactory) threeOnline gathering) sofar jr) ∧
        ∀ fr ∈ v.tables.friendRequests.rows, FriendAskedFor (after (receive sqliteDaoFactory) threeOnline gathering) sofar fr := by
  have sound : Along (receive sqliteDaoFactory) Faultless (after (receive sqliteDaoFactory) threeOnline gathering) returning :=
    ⟨rfl, rfl, trivial⟩
  exact membership_consented (by decide +kernel) sound (by decide +kernel) (by decide +kernel)

end NovaIIM
