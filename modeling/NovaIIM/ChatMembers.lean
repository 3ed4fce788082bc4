import NovaIIM.Closed
import NovaIIM.PrivateChats

/-!
Who joins a private conversation.

Only an acceptance makes members of a private conversation, the two users of the request, and
it makes them when the conversation is new (`NoThird`). So no arrival adds a third one.
-/
namespace NovaIIM
open Store FriendService GroupService

/-- Nobody joins a private conversation that there was, and a new one has two members at most. -/
structure NoThird (t t' : Tables) : Prop where
  grows : t.conversations.lastId ≤ t'.conversations.lastId
  members : ∀ c, OfKind t' .private_ c →
    (OfKind t .private_ c ∧ ∀ user, Joined t' c user → Joined t c user) ∨
      (t.conversations.lastId < c ∧ ∃ a b, ∀ user, Joined t' c user → user = a ∨ user = b)

section Steps
variable {t t' : Tables} {now : Bytes} {me : Connection} {faults : List Bool}

/-- The conversations are as they were, and nobody has joined. -/
structure NobodyJoins (t t' : Tables) : Prop where
  lastId : t'.conversations.lastId = t.conversations.lastId
  kinds : ∀ c, OfKind t' .private_ c → OfKind t .private_ c
  joined : ∀ c user, OfKind t' .private_ c → Joined t' c user → Joined t c user

theorem NobodyJoins.noThird (nobody : NobodyJoins t t') : NoThird t t' where
  grows := nobody.lastId.ge
  members c kind := .inl ⟨nobody.kinds c kind, fun user => nobody.joined c user kind⟩

theorem nobodyJoins_of_eq (conversations : t'.conversations = t.conversations)
    (joined : ∀ m' ∈ t'.members.rows, Joined t m'.conversationId m'.userId) : NobodyJoins t t' where
  lastId := by rw [conversations]
  kinds c kind := by rwa [OfKind, conversations] at kind
  joined c user _ := by
    rintro ⟨m', inside, rfl, rfl⟩
    exact joined m' inside

theorem nobodyJoins_same (conversations : t'.conversations = t.conversations) (members : t'.members = t.members) :
    NobodyJoins t t' := by
  refine nobodyJoins_of_eq conversations fun m inside => ?_
  rw [members] at inside
  exact ⟨m, inside, rfl, rfl⟩

theorem joined_updated {conversationId userId : Int} {selected : ConversationMember → Bool} {change : RowUpdate ConversationMember}
    {m' : ConversationMember} (inside : m' ∈ (t.updateMember conversationId userId selected change).members.rows) :
    Joined t m'.conversationId m'.userId := by
  obtain ⟨m, there, rfl⟩ := Table.mem_update.mp inside
  refine ⟨m, there, ?_⟩
  split
  · exact ⟨(named_update change m).1.symm, (named_update change m).2.symm⟩
  · exact ⟨rfl, rfl⟩

/-- Neither the message nor the conversation service lets anybody join. -/
theorem chatting_nobodyJoins : Chatting NobodyJoins where
  refl _ := nobodyJoins_same rfl rfl
  trans first second :=
    { lastId := second.lastId.trans first.lastId
      kinds := fun c kind => first.kinds c (second.kinds c kind)
      joined := fun c user kind joined => first.joined c user (second.kinds c kind) (second.joined c user kind joined) }
  numbered t conversationId :=
    { lastId := rfl
      kinds := fun c => ((sameChats_incrMaxSeq t conversationId).kinds _ c).mp
      joined := fun _ _ _ joined => joined }
  stored _ _ := nobodyJoins_same rfl rfl
  status _ _ _ := nobodyJoins_same rfl rfl
  settings _ _ _ _ {_} _ := nobodyJoins_of_eq rfl fun _ => joined_updated

theorem friendStep_noThird {request : FriendService.Request} (step : FriendStep me faults now t request t') (inv : ChatInv t) :
    NoThird t t' := by
  cases step with
  | requested | rejected | blocked | unblocked | blockedStranger =>
    refine NobodyJoins.noThird (nobodyJoins_same ?_ ?_) <;> rfl
  | deleted conn seq req target known named row there pair normal _ writes =>
    refine NobodyJoins.noThird (nobodyJoins_of_eq ?_ fun m inside => ?_) <;> unfold deleteWrites at writes <;>
      split at writes <;> cases writes
    · rfl
    · rfl
    · exact ⟨m, (Table.mem_delete.mp (Table.mem_delete.mp inside).1).1, rfl, rfl⟩
    · exact ⟨m, inside, rfl, rfl⟩
  | accepted conn seq req fr known named mine pending action _ writes =>
    have accepted := accepted_of_writes writes
    have last := (accepted_conversations accepted).2
    refine ⟨by omega, fun c kind => ?_⟩
    rcases (accepted_kinds accepted).mp kind with old | ⟨new, -⟩
    · left
      refine ⟨old, ?_⟩
      rintro user ⟨m, inside, rfl, rfl⟩
      rcases accepted_member accepted inside with there | ⟨new, -⟩
      · exact ⟨m, there, rfl, rfl⟩
      · have := (ofKind_bounded old).2
        omega
    · right
      refine ⟨by omega, fr.fromId, fr.toId, ?_⟩
      rintro user ⟨m, inside, rfl, rfl⟩
      rcases accepted_member accepted inside with there | ⟨-, users⟩
      · have := inv.numbered m there
        omega
      · exact users

theorem groupStep_noThird {request : GroupService.Request} (step : GroupStep me faults now t request t') (inv : ChatInv t) :
    NoThird t t' := by
  cases step with
  | created conn seq req room _ writes =>
    obtain ⟨conv, group, owner, added, created⟩ := created_of_writes room writes
    have fresh := created.fresh
    have last := created.lastId
    refine ⟨by omega, fun c kind => .inl ?_⟩
    rcases (created_kinds created).mp kind with old | ⟨-, other⟩
    · refine ⟨old, ?_⟩
      rintro user ⟨m, inside, rfl, rfl⟩
      rw [created.members] at inside
      rcases List.mem_append.mp inside with there | new
      · exact ⟨m, there, rfl, rfl⟩
      · have := created.newMember new
        have := (ofKind_bounded old).2
        omega
    · cases other
  | dismissed conn seq req group known named owner _ writes =>
    cases writes
    exact NobodyJoins.noThird (nobodyJoins_of_eq rfl fun m inside => ⟨m, (Table.mem_delete.mp inside).1, rfl, rfl⟩)
  | asked | rejected | halfUpdated => refine NobodyJoins.noThird (nobodyJoins_same ?_ ?_) <;> rfl
  | approved conn seq req jr known named pending manager action room _ writes =>
    rw [approveWrites, Tables.memberWrite, applyAll_guarded, applyAll_plain] at writes
    obtain ⟨-, writes⟩ := writes
    cases writes
    refine NobodyJoins.noThird ⟨rfl, fun c kind => kind, ?_⟩
    rintro c user kind ⟨m, inside, rfl, rfl⟩
    rcases Table.mem_insert.mp inside with there | ⟨-, rfl⟩
    · exact ⟨m, there, rfl, rfl⟩
    · have group : ¬OfKind t .private_ jr.conversationId := managed_group manager inv
      exact absurd kind group
  | left | kicked =>
    exact NobodyJoins.noThird (nobodyJoins_of_eq rfl fun m inside => ⟨m, (Table.mem_delete.mp inside).1, rfl, rfl⟩)
  | updated conn seq req manager group known named _ writes =>
    unfold updateWrites at writes
    cases found : conversationOf req.conversationId t with
    | none =>
      rw [found] at writes
      cases writes
      refine NobodyJoins.noThird (nobodyJoins_same ?_ ?_) <;> rfl
    | some conv =>
      rw [found] at writes
      cases writes
      have there : conv ∈ (t.updateGroup (updated group req)).conversations.rows := List.mem_of_find?_eq_some found
      exact NobodyJoins.noThird ⟨rfl, fun c => (updated_kinds there).mp, fun _ _ _ joined => joined⟩
  | roleSet => exact NobodyJoins.noThird (nobodyJoins_of_eq rfl fun _ => joined_updated)

end Steps

/-! ### Arrivals -/

section Arrivals
variable {t t' : Tables} {w : World}

/-- The chats are kept, and no private one gets a third member. -/
def KeepsChats (t t' : Tables) : Prop := (ChatInv t → ChatInv t') ∧ NoThird t t'

theorem keepsChats_of (same : SameChats t t') (nobody : NobodyJoins t t') : KeepsChats t t' := ⟨same.inv, nobody.noThird⟩

/-- Tables that differ in nothing that the chats are about. -/
theorem keepsChats_kept (kept : t'.kept = t.kept) : KeepsChats t t' := by
  simp only [Tables.kept, Prod.mk.injEq] at kept
  obtain ⟨-, friendships, conversations, members, groups⟩ := kept
  exact keepsChats_of (sameChats_of_eq friendships groups conversations members) (nobodyJoins_same conversations members)

theorem keepsChats_plain {α μ : Type} {p : Action α} {trans : Prop} {view : Server → μ} (closed : w.saved = none)
    (plain : Plain trans Tables.masked Tables.social view p) : KeepsChats w.tables (p.run w).state.tables :=
  keepsChats_kept (plain.kept.run_part (fun _ _ => false) closed)

theorem keepsChats_silent {p : Handler} (silent : Silent p) : KeepsChats w.tables (p.run w).state.tables := by
  rw [(silent w).tables]
  exact keepsChats_of (.refl _) (nobodyJoins_same rfl rfl)

theorem keepsChats_handle {request : Request} (service : (∃ r, request = .msg r) ∨ ∃ r, request = .conv r) :
    KeepsChats w.tables ((handle request).run w).state.tables :=
  keepsChats_of (chatting_handle chatting_sameChats service w) (chatting_handle chatting_nobodyJoins service w)

theorem FriendService.keepsChats (request : FriendService.Request) (inv : ChatInv w.tables)
    (rolledBack : ((FriendService.handle request).run w).state.saved = none) :
    KeepsChats w.tables ((FriendService.handle request).run w).state.tables := by
  rcases FriendService.handle_steps request rolledBack with same | step
  · rw [same]
    exact keepsChats_of (.refl _) (nobodyJoins_same rfl rfl)
  · exact ⟨fun _ => (@friendStep_chat _ _ 0 0 _ _ _ _ step inv).1, friendStep_noThird step inv⟩

theorem GroupService.keepsChats (request : GroupService.Request) (inv : ChatInv w.tables)
    (rolledBack : ((GroupService.handle request).run w).state.saved = none) :
    KeepsChats w.tables ((GroupService.handle request).run w).state.tables := by
  rcases GroupService.handle_steps request rolledBack with same | step
  · rw [same]
    exact keepsChats_of (.refl _) (nobodyJoins_same rfl rfl)
  · refine ⟨fun _ => ?_, groupStep_noThird step inv⟩
    -- the invariant says nothing of the pair
    have other : (w.mem.connections request.conn).userId ≠ (w.mem.connections request.conn).userId + 1 := by omega
    exact (groupStep_chat step (fun _ _ _ _ who => absurd who (not_or.mpr ⟨other, other⟩)) inv).1

/-- The recall of an administrator sets a status. -/
theorem AdminServer.keepsChats (closed : w.saved = none) (request : AdminServer.Request) :
    KeepsChats w.tables ((AdminServer.handle request).run w).state.tables := by
  cases request with
  | banUser permitted uid | unbanUser permitted uid | deleteUser permitted uid => exact keepsChats_plain closed (plain_setStatus ..)
  | kickUser permitted uid => exact keepsChats_plain closed (plain_handleKickUser ..).social
  | recallMessage permitted id =>
    have recalled : Twins (Beside (fun _ _ => false) (fun t => SameChats w.tables t ∧ NobodyJoins w.tables t) (sessions w.mem))
        Eq Eq (handleRecallMessage permitted id) (handleRecallMessage permitted id) := by
      refine twins_handleRecallMessage (fun _ => rfl) (fun t id kept => ?_) permitted id
      exact ⟨kept.1.trans (chatting_sameChats.status t id _), chatting_nobodyJoins.trans kept.2 (chatting_nobodyJoins.status t id _)⟩
    have start : Beside (fun _ _ => false) (fun t => SameChats w.tables t ∧ NobodyJoins w.tables t) (sessions w.mem) w w :=
      ⟨rfl, ⟨.refl _, nobodyJoins_same rfl rfl⟩, by simp [closed], rfl⟩
    obtain ⟨-, done, -⟩ := recalled w w start
    exact keepsChats_of done.kept.1 done.kept.2

/-- Whatever arrives, the chats are kept and no private one gets a third member. -/
theorem keepsChats_received (closed : w.saved = none) (inv : ChatInv w.tables) {arrival : Arrival} (sound : arrival.faults = []) :
    KeepsChats w.tables (receive sqliteDaoFactory w arrival).tables := by
  have rolledBack : ((serve sqliteDaoFactory arrival.input).run ((arrival.call w).enter w)).state.saved = none :=
    closed_received closed sound
  suffices keeps : KeepsChats ((arrival.call w).enter w).tables
      ((serve sqliteDaoFactory arrival.input).run ((arrival.call w).enter w)).state.tables from keeps
  have entered : ((arrival.call w).enter w).saved = none := closed
  cases input : arrival.input with
  | packet request =>
    rw [input] at rolledBack
    cases request with
    | user request =>
      rw [serve, Router.dispatch, UserService.handleWith_sqlite]
      exact keepsChats_plain entered (UserService.social_handle request)
    | msg request => exact keepsChats_handle (.inl ⟨request, rfl⟩)
    | sync request =>
      cases request with
      | syncMsg conn seq body => exact keepsChats_silent (SyncService.silent_handleSyncMsg conn seq body)
      | syncUnread conn seq => exact keepsChats_silent (SyncService.silent_handleSyncUnread conn seq)
    | friend request =>
      rw [serve, Router.dispatch, FriendService.handleWith_sqlite] at *
      exact FriendService.keepsChats request inv rolledBack
    | conv request => exact keepsChats_handle (.inr ⟨request, rfl⟩)
    | group request =>
      rw [serve, Router.dispatch, GroupService.handleWith_sqlite] at *
      exact GroupService.keepsChats request inv rolledBack
    | file request => exact keepsChats_plain entered (FileService.plain_handle request).social
  | disconnected conn => exact keepsChats_plain entered Gateway.plain_onDisconnected.social
  | admin request =>
    have kept := AdminServer.keepsChats entered request
    rwa [serve, Prog.run_bind]
  | bus => exact keepsChats_plain entered Application.plain_dispatchMessage.social

/-! ### Runs -/

/-- The members of a private conversation are two users at most. -/
def OfTwo (conversationId a b : Int) (t : Tables) : Prop :=
  OfKind t .private_ conversationId → ∀ user, Joined t conversationId user → user = a ∨ user = b

/-- What holds of the server between arrivals. -/
structure Chats (w : World) : Prop where
  closed : w.saved = none
  inv : ChatInv w.tables

theorem chats_received (chats : Chats w) {arrival : Arrival} (sound : arrival.faults = []) :
    Chats (receive sqliteDaoFactory w arrival) :=
  ⟨closed_received chats.closed sound, (keepsChats_received chats.closed chats.inv sound).1 chats.inv⟩

/-- Once there, a private conversation stays with its two users. -/
theorem ofTwo_received {conversationId a b : Int} (chats : Chats w) {arrival : Arrival} (sound : arrival.faults = [])
    (old : conversationId ≤ w.tables.conversations.lastId) (two : OfTwo conversationId a b w.tables) :
    OfTwo conversationId a b (receive sqliteDaoFactory w arrival).tables := by
  intro kind user joined
  have noThird := (keepsChats_received chats.closed chats.inv sound).2
  rcases noThird.members conversationId kind with ⟨before, nobody⟩ | ⟨new, -⟩
  · exact two before user (nobody user joined)
  · omega

theorem ofTwo_run {conversationId a b : Int} (chats : Chats w) {arrivals : List Arrival}
    (sound : ∀ arrival ∈ arrivals, arrival.faults = []) (old : conversationId ≤ w.tables.conversations.lastId)
    (two : OfTwo conversationId a b w.tables) : OfTwo conversationId a b (after (receive sqliteDaoFactory) w arrivals).tables := by
  induction arrivals generalizing w with
  | nil => exact two
  | cons arrival rest ih =>
    have here := sound arrival List.mem_cons_self
    have grows := (keepsChats_received chats.closed chats.inv here).2.grows
    refine ih (chats_received chats here) (fun later inside => sound later (List.mem_cons_of_mem _ inside)) ?_
      (ofTwo_received chats here old two)
    omega

theorem ofTwo_before {conversationId : Int} (new : t.conversations.lastId < conversationId) (a b : Int) :
    OfTwo conversationId a b t := by
  intro kind
  have := (ofKind_bounded kind).2
  omega

/-- In a run a private conversation has the same two users, from when it is there. -/
theorem same_two {conversationId : Int} (chats : Chats w) {arrivals : List Arrival}
    (sound : ∀ arrival ∈ arrivals, arrival.faults = [])
    (two : conversationId ≤ w.tables.conversations.lastId → ∃ a b, OfTwo conversationId a b w.tables) :
    ∃ a b, ∀ sofar, sofar <+: arrivals → OfTwo conversationId a b (after (receive sqliteDaoFactory) w sofar).tables := by
  induction arrivals generalizing w with
  | nil =>
    have now : ∃ a b, OfTwo conversationId a b w.tables := by
      by_cases old : conversationId ≤ w.tables.conversations.lastId
      · exact two old
      · exact ⟨0, 0, ofTwo_before (not_le.mp old) 0 0⟩
    obtain ⟨a, b, now⟩ := now
    refine ⟨a, b, fun sofar short => ?_⟩
    rw [List.prefix_nil.mp short]
    exact now
  | cons arrival rest ih =>
    have here := sound arrival List.mem_cons_self
    have later : ∀ other ∈ rest, other.faults = [] := fun other inside => sound other (List.mem_cons_of_mem _ inside)
    by_cases old : conversationId ≤ w.tables.conversations.lastId
    · obtain ⟨a, b, now⟩ := two old
      refine ⟨a, b, fun sofar short => ofTwo_run chats (fun other inside => sound other ?_) old now⟩
      exact short.subset inside
    · have next : ∃ a b, OfTwo conversationId a b (receive sqliteDaoFactory w arrival).tables := by
        by_cases kind : OfKind (receive sqliteDaoFactory w arrival).tables .private_ conversationId
        · rcases (keepsChats_received chats.closed chats.inv here).2.members conversationId kind with ⟨before, -⟩ | ⟨-, a, b, both⟩
          · exact absurd (ofKind_bounded before).2 old
          · exact ⟨a, b, fun _ => both⟩
        · exact ⟨0, 0, fun there => absurd there kind⟩
      obtain ⟨a, b, always⟩ := ih (chats_received chats here) later fun _ => next
      refine ⟨a, b, fun sofar short => ?_⟩
      cases sofar with
      | nil => exact ofTwo_before (not_le.mp old) a b
      | cons first more =>
        obtain ⟨rfl, inside⟩ := List.cons_prefix_cons.mp short
        exact always more inside

end Arrivals
end NovaIIM
