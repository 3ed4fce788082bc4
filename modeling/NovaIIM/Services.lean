import NovaIIM.Calls
import NovaIIM.FriendWrites
import NovaIIM.GroupWrites
import NovaIIM.SendPhases

/-!
The message, friend, group and conversation services as one system.

A request to one of them is a `Request`; a serial run of the system is a list of
calls of such requests.
-/
namespace NovaIIM
open Store
open Relation (ReflTransGen)

/-- A request to one of the services. -/
inductive Request where
  | msg (request : MsgService.Request)
  | friend (request : FriendService.Request)
  | group (request : GroupService.Request)
  | conv (request : ConvService.Request)

def handle : Request → Handler
  | .msg request => MsgService.handle request
  | .friend request => FriendService.handle request
  | .group request => GroupService.handle request
  | .conv request => ConvService.handle request

def Request.conn : Request → ConnId
  | msg request => request.conn
  | friend request => request.conn
  | group request => request.conn
  | conv request => request.conn

/-- The fields of the connection that a call comes on. -/
def Call.me (call : Call Request) : Connection := call.connections call.request.conn

/-- What a request other than a send does to the tables. -/
inductive Effect (me : Connection) (t t' : Tables) : Request → Prop where
  | msg (request : MsgService.Request) (effect : MsgEffect request me t t') :
      Effect me t t' (.msg request)
  | friend (request : FriendService.Request) (effect : FriendEffect request me t t') :
      Effect me t t' (.friend request)
  | group (request : GroupService.Request) (writes : ReflTransGen GroupWrite t t') :
      Effect me t t' (.group request)
  | conv (request : ConvService.Request) (effect : ConvEffect me t t') : Effect me t t' (.conv request)

/-- A send as a request. -/
def SendCall.request (send : SendCall) : Request := .msg (.sendMsg send.conn send.seq send.body)

/-- A request sends a message, or has one of the other effects on the tables alone. -/
theorem handle_cases (request : Request) (w : World) :
    (∃ send : SendCall, request = send.request) ∨
      Does (Effect (w.mem.connections request.conn) · · request) (handle request) w := by
  cases request with
  | friend request =>
    obtain ⟨effect, mem⟩ := FriendService.handle_does request w
    exact .inr ⟨.friend _ effect, mem⟩
  | group request =>
    obtain ⟨writes, mem⟩ := GroupService.handle_does request w
    exact .inr ⟨.group _ writes, mem⟩
  | conv request =>
    obtain ⟨effect, mem⟩ := ConvService.handle_does request w
    exact .inr ⟨.conv _ effect, mem⟩
  | msg request =>
    cases request with
    | sendMsg conn seq body => exact .inl ⟨⟨conn, seq, body⟩, rfl⟩
    | recallMsg conn seq body =>
      obtain ⟨effect, mem⟩ := MsgService.handleRecallMsg_does conn seq body
      exact .inr ⟨.msg _ effect, mem⟩
    | deliverAck conn body =>
      obtain ⟨effect, mem⟩ := MsgService.handleDeliverAck_does conn body
      exact .inr ⟨.msg _ effect, mem⟩
    | readAck conn seq body =>
      obtain ⟨effect, mem⟩ := MsgService.handleReadAck_does conn seq body
      exact .inr ⟨.msg _ effect, mem⟩

theorem served_send {call : Call Request} {send : SendCall} (asked : call.request = send.request) (w : World) :
    served handle w call = send.program.run (call.enter w) := by
  rw [served, asked]
  rfl

/-- The same for a call: a send, or an effect on the tables that keeps the memory. -/
theorem perform_cases (w : World) (call : Call Request) :
    (∃ send : SendCall, call.request = send.request ∧ served handle w call = send.program.run (call.enter w)) ∨
      Effect call.me w.tables (perform handle w call).tables call.request ∧
        (perform handle w call).mem = (call.enter w).mem := by
  obtain ⟨send, asked⟩ | done := handle_cases call.request (call.enter w)
  · exact .inl ⟨send, asked, served_send asked w⟩
  · exact .inr done

private theorem messages_path {W : Tables → Tables → Prop} (each : ∀ t t', W t t' → t'.messages = t.messages)
    {t t' : Tables} (writes : ReflTransGen W t t') : t'.messages = t.messages := by
  induction writes with
  | refl => rfl
  | tail _ last ih => exact (each _ _ last).trans ih

/-- Only a recall touches the messages, and only a status. -/
theorem messages_effect {me : Connection} {t t' : Tables} {request : Request} (effect : Effect me t t' request) :
    t'.messages = t.messages ∨ ∃ id status, t'.messages = (t.setMessageStatus id status).messages := by
  cases effect with
  | group request writes => exact .inl (messages_path (fun _ _ write => by cases write <;> rfl) writes)
  | conv request effect => cases effect <;> exact .inl rfl
  | msg request effect =>
    cases effect with
    | recalled msg known mine => exact .inr ⟨_, _, rfl⟩
    | _ => exact .inl rfl
  | friend request effect =>
    cases effect with
    | accepted fr known pending mine writes =>
      exact .inl (messages_path (fun _ _ write => by cases write <;> rfl) writes)
    | deleted row known normal mine target asked named writes =>
      exact .inl (messages_path (fun _ _ write => by cases write <;> rfl) writes)
    | _ => exact .inl rfl

/-! ### What the message and the conversation service write -/

/-- A relation of tables that comprises the writes of the message and the conversation service. -/
structure Chatting (P : Tables → Tables → Prop) : Prop where
  refl : ∀ t, P t t
  trans : ∀ {t t' t''}, P t t' → P t' t'' → P t t''
  numbered : ∀ t conversationId, P t (t.incrMaxSeq conversationId)
  stored : ∀ t m, P t (t.insertMessage m)
  status : ∀ t id status, P t (t.setMessageStatus id status)
  settings : ∀ t conversationId userId selected {change : RowUpdate ConversationMember}, KeepsRole change →
    P t (t.updateMember conversationId userId selected change)

section Chatting
variable {P : Tables → Tables → Prop}

theorem chatting_sent (chatting : Chatting P) (send : SendCall) (w : World) :
    P w.tables (send.program.run w).state.tables := by
  have carried : ∀ (phase next : MsgService.Phase send) (w₁ w₂ : World) (sofar events : List Event),
      P w.tables w₁.tables → MsgService.SendStep w₁ phase next w₂ events → P w.tables w₂.tables := by
    intro phase next w₁ w₂ _ _ same step
    refine chatting.trans same ?_
    cases step with
    | unallocated s _ mem tables =>
      rcases tables with unchanged | incremented
      · exact unchanged ▸ chatting.refl _
      · exact incremented ▸ chatting.numbered _ _
    | allocated s conv _ mem tables => exact tables ▸ chatting.numbered _ _
    | insert s serverSeq epochMs => exact chatting.stored _ _
    | deliver d d' _ _ saved mem tables =>
      rcases tables with unchanged | ⟨conversationId, userId, selected, change, settled, -, written⟩
      · exact unchanged ▸ chatting.refl _
      · exact written ▸ chatting.settings _ _ _ _ settled
    | _ => exact chatting.refl _
  obtain ⟨-, -, same⟩ := @MsgService.send_invariant send (fun _ w' _ => P w.tables w'.tables) carried w (chatting.refl _)
  exact same

theorem chatting_effect (chatting : Chatting P) {me : Connection} {t t' : Tables} {request : Request}
    (effect : Effect me t t' request) (service : (∃ r, request = .msg r) ∨ ∃ r, request = .conv r) : P t t' := by
  cases effect with
  | friend request effect => rcases service with ⟨_, other⟩ | ⟨_, other⟩ <;> cases other
  | group request writes => rcases service with ⟨_, other⟩ | ⟨_, other⟩ <;> cases other
  | conv request effect =>
    cases effect with
    | unchanged => exact chatting.refl _
    | settings conversationId selected change settled _ => exact chatting.settings _ _ _ _ settled
  | msg request effect =>
    cases effect with
    | unchanged => exact chatting.refl _
    | recalled msg known mine => exact chatting.status _ _ _
    | delivered conversationId selected change settled _ => exact chatting.settings _ _ _ _ settled
    | read conn seq req asked selected change settled => exact chatting.settings _ _ _ _ settled

/-- Whatever the two services are asked for. -/
theorem chatting_handle (chatting : Chatting P) {request : Request}
    (service : (∃ r, request = .msg r) ∨ ∃ r, request = .conv r) (w : World) :
    P w.tables ((handle request).run w).state.tables := by
  obtain ⟨send, rfl⟩ | ⟨effect, -⟩ := handle_cases request w
  · exact chatting_sent chatting send w
  · exact chatting_effect chatting effect service

end Chatting

/-! ### Two users -/

/-- A server on which the users 1 and 2 are registered and nothing has happened yet. -/
def twoUsers : World where
  tables :=
    { users := ((∅ : Table User).insert { uid := [1], email := [1] }).insert { uid := [2], email := [2] } }
  mem := {}

/-- Each of the two users is logged in on the connection of the same number. -/
def bothOnline : Surroundings where
  connections
    | 1 => { userId := 1, uid := [1] }
    | 2 => { userId := 2, uid := [2] }
    | _ => {}

/-- A packet that one of them sends. -/
def fromUser (request : Request) : Call Request := { bothOnline with request := request }

/-- User 1 asks user 2 to be friends, and user 2 accepts. -/
def befriending : List (Call Request) :=
  [fromUser (.friend (.addFriend 1 0 (some { targetUid := [2], remark := [] }))),
    fromUser (.friend (.handleRequest 2 0 (some { requestId := 1, action := 1 })))]

end NovaIIM
