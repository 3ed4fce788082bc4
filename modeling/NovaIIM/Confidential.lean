import NovaIIM.ChatMembers
import NovaIIM.Sessions

/-!
Conversations are confidential.

Two runs of the server that differ in nothing but the contents of messages to one
conversation stay alike behind the mask of these contents, and a user who is not a member of
the conversation receives the same in both (`conversation_confidential`).
-/
namespace NovaIIM
open Store

/-! ### Alike worlds -/

/-- Two worlds are the same but for hidden contents. -/
def Alike (hidden : Int → Int → Bool) (w w' : World) : Prop :=
  w.mapTables (Tables.masked hidden) = w'.mapTables (Tables.masked hidden)

/-- The same has been said, except on connections that do not carry the user, before and behind. -/
def Unheard (userId : Int) (before behind : ConnId → Connection) (e e' : Event) : Prop :=
  e = e' ∨ ∃ conn packet packet', e = .sent conn packet ∧ e' = .sent conn packet' ∧
    (before conn).userId ≠ userId ∧ (behind conn).userId ≠ userId

/-- Two programs take two worlds to worlds that are alike, and the user does not hear a difference. -/
def Likewise (hidden : Int → Int → Bool) (userId : Int) (p q : Handler) (w w' : World) : Prop :=
  Alike hidden (p.run w).state (q.run w').state ∧
    List.Forall₂ (Unheard userId w.mem.connections (p.run w).state.mem.connections) (p.run w).events (q.run w').events

section Alike
variable {hidden : Int → Int → Bool} {fits : Tables → Prop} {userId : Int} {p q : Handler} {w w' : World}

theorem Alike.beside (alike : Alike hidden w w') (closed : w.saved = none) (kept : fits w.tables) :
    Beside hidden fits (sessions w.mem) w w' :=
  ⟨alike, kept, by simp [closed], rfl⟩

theorem Alike.mem (alike : Alike hidden w w') : w.mem = w'.mem := by
  have := congrArg Store.mem alike
  exact this

/-- The circumstances of two arrivals leave alike worlds alike. -/
theorem Alike.enter (alike : Alike hidden w w') {arrival arrival' : Arrival} (faults : arrival.faults = arrival'.faults)
    (elapsed : arrival.elapsed = arrival'.elapsed) (systemMs : arrival.systemMs = arrival'.systemMs) :
    Alike hidden ((arrival.call w).enter w) ((arrival'.call w').enter w') := by
  have same : Beside hidden (fun _ => True) (sessions w.mem) w w' := ⟨alike, trivial, fun _ _ => trivial, rfl⟩
  have mem : ((arrival.call w).enter w).mem = ((arrival'.call w').enter w').mem := by
    simp only [Surroundings.enter, Arrival.call, same.mem, elapsed, systemMs]
  have entered : Beside hidden (fun _ => True) (sessions ((arrival.call w).enter w).mem) ((arrival.call w).enter w)
      ((arrival'.call w').enter w') := twin_of same.tables same.back faults mem trivial (fun _ _ => trivial) rfl
  exact entered.alike

/-- A program that does not look at contents, beside itself. -/
theorem likewise_plain {trans : Prop} {ρ μ : Type} {part : Tables → ρ} {view : Server → μ}
    (plain : Plain trans Tables.masked part view p) (alike : Alike hidden w w') : Likewise hidden userId p p w w' := by
  have same : Twin (Tables.masked hidden) part (fun _ => True) view (view w.mem) w w' :=
    ⟨alike, trivial, fun _ _ => trivial, rfl⟩
  obtain ⟨-, done, events⟩ := plain.twins (R := Eq) (fun _ => rfl) hidden w w' same
  exact ⟨done.alike, events.imp fun _ _ same => .inl same⟩

/-- Programs that run alike from two worlds, and keep the sessions. -/
theorem likewise_twins {R : Event → Event → Prop} (alike : Alike hidden w w') (closed : w.saved = none)
    (kept : fits w.tables) (twins : Twins (Beside hidden fits (sessions w.mem)) (fun _ _ => True) R p q)
    (heard : ∀ e e', R e e' → Unheard userId w.mem.connections w.mem.connections e e') : Likewise hidden userId p q w w' := by
  obtain ⟨-, done, events⟩ := twins w w' (alike.beside closed kept)
  refine ⟨done.alike, ?_⟩
  have still : (p.run w).state.mem.connections = w.mem.connections := congrArg Sessions.connections done.view
  rw [still]
  exact events.imp heard

end Alike

/-! ### Inputs that look at messages -/

/-- The same has been said, or replies with related bodies. -/
def Said (related : ConnId → Body → Body → Prop) (e e' : Event) : Prop :=
  e = e' ∨ ∃ conn, AnsweredBy (related conn) conn e e'

/-- What the readers build of messages that are the same behind the mask is related. -/
structure ServesAlike (hidden : Int → Int → Bool) (fits : Tables → Prop) (seen : Sessions)
    (related : ConnId → Body → Body → Prop) (input : Input) : Prop where
  refl : ∀ conn body, related conn body body
  page : ∀ conn seq req, input = .packet (.sync (.syncMsg conn seq (some req))) →
    Belongs fits req.conversationId (seen.connections conn).userId → ∀ limit users ms ms',
    SameMessages hidden fits (· = req.conversationId) ms ms' →
    related conn (.syncMsgResp (SyncService.pageOf limit ms users)) (.syncMsgResp (SyncService.pageOf limit ms' users))
  unread : ∀ conn seq, input = .packet (.sync (.syncUnread conn seq)) → ∀ code total items convs users ms ms',
    (∀ c ∈ convs.map Prod.fst, Belongs fits c (seen.connections conn).userId) →
    PickedAlike hidden (LatestIn fits 3 convs) ms ms' →
    related conn (.syncUnreadResp ⟨code, SyncService.unreadPreviews items ms users, total⟩)
      (.syncUnreadResp ⟨code, SyncService.unreadPreviews items ms' users, total⟩)
  list : ∀ conn seq, input = .packet (.conv (.getConvList conn seq)) →
    ∀ (code : Int) (msg : String) (listed : List (ConversationMember × Conversation)) (otherOf : Int → Option Int)
      (convs : List (Int × Int)) (users : List User) (ms ms' : List Message),
    (∀ c ∈ convs.map Prod.fst, Belongs fits c (seen.connections conn).userId) →
    PickedAlike hidden (LatestIn fits 1 convs) ms ms' →
    related conn
      (.getConvListAck ⟨code, msg, listed.map fun x =>
        ConvService.convItem x.2 x.1 (otherOf x.2.id) users (ConvService.latestOf ms x.2.id)⟩)
      (.getConvListAck ⟨code, msg, listed.map fun x =>
        ConvService.convItem x.2 x.1 (otherOf x.2.id) users (ConvService.latestOf ms' x.2.id)⟩)

theorem twins_looks {hidden : Int → Int → Bool} {fits : Tables → Prop} {seen : Sessions}
    {related : ConnId → Body → Body → Prop} {input : Input} (looks : input.Looks)
    (alike : ServesAlike hidden fits seen related input) (sendable : ∀ req, Sendable hidden fits fits req req.content)
    (recalled : ∀ t id, fits t → fits (t.setMessageStatus id .recalled)) :
    Twins (Beside hidden fits seen) (fun _ _ => True) (Said related) (serve sqliteDaoFactory input)
      (serve sqliteDaoFactory input) := by
  have said : ∀ e, Said related e e := fun _ => .inl rfl
  have answered : ∀ conn e e', AnsweredBy (related conn) conn e e' → Said related e e' := fun conn _ _ answered => .inr ⟨conn, answered⟩
  cases looks with
  | sendMsg conn seq body => exact MsgService.twins_handleSendMsg said body fun req _ => sendable req
  | recallMsg conn seq body => exact MsgService.twins_handleRecallMsg said recalled body
  | syncMsg conn seq body =>
    exact twins_mono (SyncService.twins_pages (alike.refl conn) conn seq body fun req given =>
      alike.page conn seq req (given ▸ rfl)) (fun _ _ v => v) (answered conn)
  | syncUnread conn seq =>
    exact twins_mono (SyncService.twins_snapshots (alike.refl conn) conn seq (alike.unread conn seq rfl))
      (fun _ _ v => v) (answered conn)
  | getConvList conn seq =>
    exact twins_mono (ConvService.twins_lists (alike.refl conn) conn seq (alike.list conn seq rfl)) (fun _ _ v => v) (answered conn)
  | recallMessage permitted id =>
    have twins : Twins (Beside hidden fits seen) Eq (Said related) (AdminServer.handleRecallMessage permitted id)
        (AdminServer.handleRecallMessage permitted id) := AdminServer.twins_handleRecallMessage said recalled permitted id
    exact twins_bind twins fun _ _ _ => twins_ret trivial

/-! ### A conversation and a user outside of it -/

section Stranger
variable {conversationId userId : Int} {w w' : World}

/-- The messages of a conversation. -/
def messagesOf (conversationId : Int) : Int → Int → Bool := fun c _ => c = conversationId

/-- The user is not a member. -/
def Outsider (conversationId userId : Int) (t : Tables) : Prop := ¬GroupService.Joined t conversationId userId

instance (conversationId userId : Int) (t : Tables) : Decidable (Outsider conversationId userId t) :=
  inferInstanceAs (Decidable (¬_))

theorem not_belongs : ¬Belongs (Outsider conversationId userId) conversationId userId := by
  rintro ⟨t, outside, m, there, named⟩
  exact outside ⟨m, there, named⟩

/-- What is served to a user is free of the messages of conversations that the user does not belong to. -/
theorem Served.eq {body body' : Body}
    (served : Served (messagesOf conversationId) (Outsider conversationId userId) userId body body') : body = body' := by
  have equal : ∀ {ms ms' : List Message}, SameMessages (messagesOf conversationId) (Outsider conversationId userId)
      (Belongs (Outsider conversationId userId) · userId) ms ms' → ms = ms' := by
    intro ms ms' same
    refine same.1.eq fun m inside => decide_eq_false fun here => ?_
    exact not_belongs (here ▸ (same.2 m inside).2)
  cases served with
  | same body => rfl
  | page limit users ms ms' messages | unread code total items users ms ms' messages
  | list code msg listed otherOf users ms ms' messages => rw [equal messages]

theorem unheard_answered {conn : ConnId} {connections : ConnId → Connection} {e e' : Event}
    (answered : Answered (messagesOf conversationId) (Outsider conversationId userId) (connections conn).userId conn e e') :
    Unheard userId connections connections e e' := by
  obtain ⟨packet, body', rfl, rfl, served⟩ := answered
  by_cases mine : (connections conn).userId = userId
  · left
    rw [mine] at served
    rw [← served.eq]
  · exact .inr ⟨conn, _, _, rfl, rfl, mine, mine⟩

/-- No connection that a member is reached on carries the user. -/
theorem unheard_members (listed : Listed (sessions w.mem)) (packet packet' : Packet) :
    ReachesMembers (Outsider conversationId userId) (sessions w.mem)
      (Unheard userId w.mem.connections w.mem.connections) conversationId packet packet' := by
  intro member belongs conn reached
  have carries : (w.mem.connections conn).userId = member := (listed member conn reached).2
  have other : (w.mem.connections conn).userId ≠ userId := by
    rintro rfl
    exact not_belongs (carries ▸ belongs)
  exact .inr ⟨conn, packet, packet', rfl, rfl, other, other⟩

theorem sendable_outsider {req : SendMsgReq} {content : Bytes} (same : content = req.content ∨ req.conversationId = conversationId) :
    Sendable (messagesOf conversationId) (Outsider conversationId userId) (Outsider conversationId userId) req content where
  numbered := fun _ outside => outside
  stored := fun _ _ outside => outside
  weaker := fun _ outside => outside
  unhidden := by
    rintro t user outside ⟨m', inside, named⟩
    obtain ⟨m, there, rfl⟩ := Table.mem_update.mp inside
    refine outside ⟨m, there, ?_⟩
    split at named <;> exact named
  hides := fun _ _ => same.imp id fun here => decide_eq_true here

/-- A send to the conversation, or to another one with the same content. -/
theorem likewise_sent (alike : Alike (messagesOf conversationId) w w') (closed : w.saved = none)
    (outside : Outsider conversationId userId w.tables) (listed : Listed (sessions w.mem)) {conn : ConnId} {seq : UInt32}
    {req : SendMsgReq} {content : Bytes} (same : content = req.content ∨ req.conversationId = conversationId)
    (checked : MsgService.validate w.mem.config.maxContentSize { req with content := content } =
      MsgService.validate w.mem.config.maxContentSize req) :
    Likewise (messagesOf conversationId) userId (MsgService.handleSendMsg conn seq (some req))
      (MsgService.handleSendMsg conn seq (some { req with content := content })) w w' := by
  have reaches : DeliversAlike (Outsider conversationId userId) (sessions w.mem)
      (Unheard userId w.mem.connections w.mem.connections) req content := by
    refine same.imp id fun here packet packet' => ?_
    rw [here]
    exact unheard_members listed packet packet'
  obtain ⟨done, events⟩ := MsgService.handleSendMsg_leads (fun _ => .inl rfl) (sendable_outsider same) reaches
    (alike.beside closed outside) checked
  have still : ((MsgService.handleSendMsg conn seq (some req)).run w).state.mem.connections = w.mem.connections :=
    congrArg Sessions.connections done.view
  refine ⟨done.alike, ?_⟩
  rwa [still]

/-- Whatever is served, in two alike worlds, it leaves them alike. -/
theorem likewise_served (alike : Alike (messagesOf conversationId) w w') (closed : w.saved = none)
    (outside : Outsider conversationId userId w.tables) (input : Input) :
    Likewise (messagesOf conversationId) userId (serve sqliteDaoFactory input) (serve sqliteDaoFactory input) w w' := by
  rcases serve_plain input with looks | plain
  · have answers : ServesAlike (messagesOf conversationId) (Outsider conversationId userId) (sessions w.mem)
        (fun conn => Served (messagesOf conversationId) (Outsider conversationId userId) (w.mem.connections conn).userId) input :=
      { refl := fun _ => .same
        page := fun _ _ _ _ here _ _ _ _ messages => .page _ _ _ _ (messages.weaken fun _ same => same ▸ here)
        unread := fun _ _ _ _ _ _ _ _ _ _ belong messages =>
          .unread _ _ _ _ _ _ (messages.same fun _ latest => ⟨latest.stored.1, belong _ latest.stored.2⟩)
        list := fun _ _ _ _ _ _ _ _ _ _ _ belong messages =>
          .list _ _ _ _ _ _ _ (messages.same fun _ latest => ⟨latest.stored.1, belong _ latest.stored.2⟩) }
    have twins := twins_looks looks answers (fun _ => sendable_outsider (.inl rfl)) fun _ _ outside => outside
    exact likewise_twins alike closed outside twins fun _ _ said => said.elim .inl fun answers => answers.elim fun _ => unheard_answered
  · exact likewise_plain plain alike

end Stranger

/-! ### Runs -/

/-- Two arrivals that are the same but for the content of a message to the conversation; both
    contents have a length that is admitted. -/
inductive ContentApart (config : ServerConfig) (conversationId : Int) : Arrival → Arrival → Prop where
  | same (arrival : Arrival) : ContentApart config conversationId arrival arrival
  | content (arrival : Arrival) (conn : ConnId) (seq : UInt32) (req : SendMsgReq) (content : Bytes)
      (asked : arrival.input = .packet (.msg (.sendMsg conn seq (some req)))) (to_ : req.conversationId = conversationId)
      (admitted : MsgService.Admitted config req.content) (admitted' : MsgService.Admitted config content) :
      ContentApart config conversationId arrival
        { arrival with input := .packet (.msg (.sendMsg conn seq (some { req with content := content }))) }

/-- Whether an event is a packet to a user, whom the connection carries before or behind. -/
def hears (userId : Int) (before behind : ConnId → Connection) : Event → Bool
  | .sent conn _ => (before conn).userId = userId || (behind conn).userId = userId
  | _ => false

/-- What a user receives of the service of an arrival. -/
def heard (userId : Int) (w : World) (arrival : Arrival) : List Event :=
  (received sqliteDaoFactory w arrival).events.filter
    (hears userId w.mem.connections (receive sqliteDaoFactory w arrival).mem.connections)

/-- What a user receives in a run, arrival by arrival. -/
def heardAlong (userId : Int) : World → List Arrival → List (List Event)
  | _, [] => []
  | w, arrival :: rest => heard userId w arrival :: heardAlong userId (receive sqliteDaoFactory w arrival) rest

section Runs
variable {conversationId userId : Int} {w w' : World}

theorem hears_same {before behind : ConnId → Connection} {events events' : List Event}
    (unheard : List.Forall₂ (Unheard userId before behind) events events') :
    events.filter (hears userId before behind) = events'.filter (hears userId before behind) := by
  induction unheard with
  | nil => rfl
  | cons first rest ih =>
    rcases first with rfl | ⟨conn, packet, packet', rfl, rfl, other, other'⟩
    · simp only [List.filter_cons, ih]
    · have deaf : ∀ packet, hears userId before behind (.sent conn packet) = false := fun _ => by simp [hears, other, other']
      rw [List.filter_cons_of_neg (by simp [deaf]), List.filter_cons_of_neg (by simp [deaf]), ih]

/-- What holds of the first of two runs, and of both, between arrivals. -/
structure InStep (conversationId : Int) (w w' : World) : Prop where
  alike : Alike (messagesOf conversationId) w w'
  closed : w.saved = none
  listed : Listed (sessions w.mem)

/-- Two arrivals that differ in a content leave the runs in step, and the user hears no difference. -/
theorem inStep_received (inStep : InStep conversationId w w') {arrival arrival' : Arrival} (sound : arrival.faults = [])
    (outside : Outsider conversationId userId w.tables) (apart : ContentApart w.mem.config conversationId arrival arrival') :
    InStep conversationId (receive sqliteDaoFactory w arrival) (receive sqliteDaoFactory w' arrival') ∧
      heard userId w arrival = heard userId w' arrival' := by
  obtain ⟨alike, closed, listed⟩ := inStep
  have likewise : Likewise (messagesOf conversationId) userId (serve sqliteDaoFactory arrival.input)
      (serve sqliteDaoFactory arrival'.input) ((arrival.call w).enter w) ((arrival'.call w').enter w') := by
    cases apart with
    | same => exact likewise_served (alike.enter rfl rfl rfl) closed outside _
    | content conn seq req content asked to_ admitted admitted' =>
      rw [asked]
      refine likewise_sent (alike.enter rfl rfl rfl) closed outside listed (.inr to_) ?_
      exact MsgService.validate_admitted admitted admitted'
  obtain ⟨done, events⟩ := likewise
  refine ⟨⟨done, closed_received closed sound, listed_received w arrival listed⟩, ?_⟩
  have before : w'.mem.connections = w.mem.connections := by rw [alike.mem]
  have behind : (receive sqliteDaoFactory w' arrival').mem.connections = (receive sqliteDaoFactory w arrival).mem.connections := by
    have := done.mem
    exact congrArg Server.connections this.symm
  unfold heard
  rw [before, behind]
  exact hears_same events

theorem heard_inStep {arrivals arrivals' : List Arrival} (inStep : InStep conversationId w w')
    (sound : ∀ arrival ∈ arrivals, arrival.faults = [])
    (outside : Along (receive sqliteDaoFactory) (fun w _ => Outsider conversationId userId w.tables) w arrivals)
    (apart : List.Forall₂ (ContentApart w.mem.config conversationId) arrivals arrivals') :
    heardAlong userId w arrivals = heardAlong userId w' arrivals' := by
  generalize given : w.mem.config = config at apart
  induction apart generalizing w w' with
  | nil => rfl
  | cons first rest ih =>
    obtain ⟨here, later⟩ := outside
    obtain ⟨next, same⟩ := inStep_received inStep (sound _ List.mem_cons_self) here (given ▸ first)
    rw [heardAlong, heardAlong, same, ih next (fun other inside => sound other (List.mem_cons_of_mem _ inside)) later]
    rw [config_received, given]

/-- In two runs without failures that differ in nothing but the contents of messages to a
    conversation, a user who is never a member of it receives the same; and in no run from a
    database without friendships, members and groups has a private conversation any members
    but the same two. -/
theorem conversation_confidential :
    (∀ (conversationId userId : Int) (w : World), w.mem.connManager = {} → w.saved = none →
      ∀ arrivals arrivals' : List Arrival, (∀ arrival ∈ arrivals, arrival.faults = []) →
      List.Forall₂ (ContentApart w.mem.config conversationId) arrivals arrivals' →
      Along (receive sqliteDaoFactory) (fun w _ => Outsider conversationId userId w.tables) w arrivals →
      heardAlong userId w arrivals = heardAlong userId w arrivals') ∧
    ∀ (conversationId : Int) (w : World), w.saved = none → w.tables.friendships.rows = [] →
      w.tables.members.rows = [] → w.tables.groups.rows = [] →
      ∀ arrivals : List Arrival, (∀ arrival ∈ arrivals, arrival.faults = []) →
      ∃ a b, ∀ sofar, sofar <+: arrivals → OfTwo conversationId a b (after (receive sqliteDaoFactory) w sofar).tables := by
  constructor
  · intro conversationId userId w empty closed arrivals arrivals' sound apart outside
    have listed : Listed (sessions w.mem) := listed_empty empty
    exact heard_inStep ⟨rfl, closed, listed⟩ sound outside apart
  · intro conversationId w closed friendships members groups arrivals sound
    have inv : ChatInv w.tables := ⟨by simp [members], by simp [members], by simp [groups], by simp [friendships],
      by simp [friendships], by simp [friendships], by simp [friendships]⟩
    refine same_two ⟨closed, inv⟩ sound fun _ => ⟨0, 0, fun _ user joined => ?_⟩
    obtain ⟨m, there, -⟩ := joined
    simp [members] at there

/-- User 1 writes to user 2 what user 3 does not hear, whatever it is. -/
theorem conversation_confidential_friends :
    let w : World := { (after (perform handle) twoUsers befriending) with
      mem := { connections := fun c => if c = 3 then { userId := 3, uid := [3] } else bothOnline.connections c } }
    let send (content : Bytes) : Arrival :=
      { input := .packet (.msg (.sendMsg 1 0 (some { conversationId := 1, content := content, clientMsgId := [] }))) }
    heardAlong 3 w [send [1], { input := .packet (.sync (.syncUnread 3 0)) }] =
      heardAlong 3 w [send [2], { input := .packet (.sync (.syncUnread 3 0)) }] := by
  refine conversation_confidential.1 1 3 _ rfl rfl _ _ (by simp) (.cons ?_ (.cons (.same _) .nil)) ?_
  · exact .content _ 1 0 { conversationId := 1, content := [1], clientMsgId := [] } [2] rfl rfl ⟨by decide, by decide⟩ ⟨by decide, by decide⟩
  · decide

end Runs
end NovaIIM
