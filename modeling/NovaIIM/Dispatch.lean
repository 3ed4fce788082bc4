import NovaIIM.Answers
import NovaIIM.PacketCodec

/-!
The way of a packet to its handler (`net/gateway.cpp`, `core/application.cpp`, `service/router.cpp`).

A frame is decoded, its packet goes to the worker pool, and the router looks the command up. What
cannot be served is refused in place, with the command and the seq it came with: the pool is full,
the connection carries nobody, or the command has no handler. So every packet has one reply, but for
the ack of a delivery (`packet_answered`), and a run of the server from its frames goes through the
states of a run of the handlers in which only logins and registrations are anonymous (`wire_refines`).
-/
namespace NovaIIM
open Store

/-! ### Commands and bodies -/

/-- The number of a command that the server sends. -/
def Cmd.code : Cmd → UInt16
  | registerAck => 0x0005
  | loginAck => 0x0002
  | logout => 0x0003
  | kickNotify => 0x0006
  | heartbeatAck => 0x0011
  | getUserProfileAck => 0x0303
  | searchUserAck => 0x0401
  | updateProfileAck => 0x0403
  | addFriendAck => 0x0031
  | handleFriendReqAck => 0x0033
  | deleteFriendAck => 0x0035
  | blockFriendAck => 0x0037
  | unblockFriendAck => 0x0039
  | getFriendListAck => 0x003B
  | getFriendRequestsAck => 0x003D
  | friendNotify => 0x003E
  | sendMsgAck => 0x0101
  | pushMsg => 0x0102
  | readAck => 0x0104
  | recallMsgAck => 0x0106
  | recallNotify => 0x0107
  | getConvListAck => 0x0113
  | deleteConvAck => 0x0115
  | muteConvAck => 0x0117
  | pinConvAck => 0x0119
  | convUpdate => 0x011A
  | syncMsgResp => 0x0201
  | syncUnreadResp => 0x0203
  | createGroupAck => 0x0501
  | dismissGroupAck => 0x0503
  | joinGroupAck => 0x0505
  | handleJoinReqAck => 0x0507
  | leaveGroupAck => 0x0509
  | kickMemberAck => 0x050B
  | getGroupInfoAck => 0x050D
  | updateGroupAck => 0x050F
  | getGroupMembersAck => 0x0511
  | getMyGroupsAck => 0x0513
  | setMemberRoleAck => 0x0515
  | groupNotify => 0x0516
  | uploadAck => 0x0601
  | uploadCompleteAck => 0x0603
  | downloadAck => 0x0605

/-- `proto::Deserialize`, for each type of body. -/
structure Deserializers where
  loginReq : Bytes → Option LoginReq
  registerReq : Bytes → Option RegisterReq
  searchUserReq : Bytes → Option SearchUserReq
  getUserProfileReq : Bytes → Option GetUserProfileReq
  updateProfileReq : Bytes → Option UpdateProfileReq
  sendMsgReq : Bytes → Option SendMsgReq
  recallMsgReq : Bytes → Option RecallMsgReq
  deliverAckReq : Bytes → Option DeliverAckReq
  readAckReq : Bytes → Option ReadAckReq
  syncMsgReq : Bytes → Option SyncMsgReq
  addFriendReq : Bytes → Option AddFriendReq
  handleFriendReqReq : Bytes → Option HandleFriendReqReq
  targetReq : Bytes → Option TargetReq
  getFriendRequestsReq : Bytes → Option GetFriendRequestsReq
  conversationReq : Bytes → Option ConversationReq
  muteConvReq : Bytes → Option MuteConvReq
  pinConvReq : Bytes → Option PinConvReq
  createGroupReq : Bytes → Option CreateGroupReq
  joinGroupReq : Bytes → Option JoinGroupReq
  handleJoinReqReq : Bytes → Option HandleJoinReqReq
  kickMemberReq : Bytes → Option KickMemberReq
  updateGroupReq : Bytes → Option UpdateGroupReq
  setMemberRoleReq : Bytes → Option SetMemberRoleReq
  uploadReq : Bytes → Option UploadReq
  fileReq : Bytes → Option FileReq

namespace Router

/-- `RegisterRoutes`. -/
def registerRoutes (d : Deserializers) : List (UInt16 × (ConnId → RawPacket → Request)) :=
  [ (0x0001, fun c p => .user (.login c p.seq (d.loginReq p.body))),
    (0x0004, fun c p => .user (.register c p.seq (d.registerReq p.body))),
    (0x0003, fun c p => .user (.logout c p.seq)),
    (0x0010, fun c p => .user (.heartbeat c p.seq)),
    (0x0400, fun c p => .user (.searchUser c p.seq (d.searchUserReq p.body))),
    (0x0302, fun c p => .user (.getProfile c p.seq (d.getUserProfileReq p.body))),
    (0x0402, fun c p => .user (.updateProfile c p.seq (d.updateProfileReq p.body))),
    (0x0100, fun c p => .msg (.sendMsg c p.seq (d.sendMsgReq p.body))),
    (0x0105, fun c p => .msg (.recallMsg c p.seq (d.recallMsgReq p.body))),
    (0x0103, fun c p => .msg (.deliverAck c (d.deliverAckReq p.body))),
    (0x0104, fun c p => .msg (.readAck c p.seq (d.readAckReq p.body))),
    (0x0200, fun c p => .sync (.syncMsg c p.seq (d.syncMsgReq p.body))),
    (0x0202, fun c p => .sync (.syncUnread c p.seq)),
    (0x0030, fun c p => .friend (.addFriend c p.seq (d.addFriendReq p.body))),
    (0x0032, fun c p => .friend (.handleRequest c p.seq (d.handleFriendReqReq p.body))),
    (0x0034, fun c p => .friend (.deleteFriend c p.seq (d.targetReq p.body))),
    (0x0036, fun c p => .friend (.block c p.seq (d.targetReq p.body))),
    (0x0038, fun c p => .friend (.unblock c p.seq (d.targetReq p.body))),
    (0x003A, fun c p => .friend (.getFriendList c p.seq)),
    (0x003C, fun c p => .friend (.getRequests c p.seq (d.getFriendRequestsReq p.body))),
    (0x0112, fun c p => .conv (.getConvList c p.seq)),
    (0x0114, fun c p => .conv (.deleteConv c p.seq (d.conversationReq p.body))),
    (0x0116, fun c p => .conv (.muteConv c p.seq (d.muteConvReq p.body))),
    (0x0118, fun c p => .conv (.pinConv c p.seq (d.pinConvReq p.body))),
    (0x0500, fun c p => .group (.createGroup c p.seq (d.createGroupReq p.body))),
    (0x0502, fun c p => .group (.dismissGroup c p.seq (d.conversationReq p.body))),
    (0x0504, fun c p => .group (.joinGroup c p.seq (d.joinGroupReq p.body))),
    (0x0506, fun c p => .group (.handleJoinReq c p.seq (d.handleJoinReqReq p.body))),
    (0x0508, fun c p => .group (.leaveGroup c p.seq (d.conversationReq p.body))),
    (0x050A, fun c p => .group (.kickMember c p.seq (d.kickMemberReq p.body))),
    (0x050C, fun c p => .group (.getGroupInfo c p.seq (d.conversationReq p.body))),
    (0x050E, fun c p => .group (.updateGroup c p.seq (d.updateGroupReq p.body))),
    (0x0510, fun c p => .group (.getGroupMembers c p.seq (d.conversationReq p.body))),
    (0x0512, fun c p => .group (.getMyGroups c p.seq)),
    (0x0514, fun c p => .group (.setMemberRole c p.seq (d.setMemberRoleReq p.body))),
    (0x0600, fun c p => .file (.upload c p.seq (d.uploadReq p.body))),
    (0x0602, fun c p => .file (.uploadComplete c p.seq (d.fileReq p.body))),
    (0x0604, fun c p => .file (.download c p.seq (d.fileReq p.body))) ]

/-- `handlers_.find(cmd)`. -/
def find (d : Deserializers) (cmd : UInt16) : Option (ConnId → RawPacket → Request) :=
  ((registerRoutes d).find? fun route => route.1 = cmd).map Prod.snd

end Router

/-! ### The way of a packet -/

/-- What goes out: what a handler sends, or a refusal with the fields of the packet it answers. -/
inductive WireEvent where
  | served (event : Event)
  | refused (conn : ConnId) (cmd : UInt16) (seq : UInt32) (uid : UInt64) (rsp : RspBase)

/-- A program whose events go out on the wire. -/
abbrev WireHandler := Prog World WireEvent Unit

/-- The reply to a packet that no handler sees. -/
def refusePacket (conn : ConnId) (pkt : RawPacket) (e : Error) : WireHandler :=
  .emits fun _ => [.refused conn pkt.cmd pkt.seq pkt.uid ⟨e.code, e.msg⟩]

/-- The commands that the router lets through without a session: `kLogin` and `kRegister`. -/
def Router.isOpen (cmd : UInt16) : Bool := cmd = 0x0001 || cmd = 0x0004

/-- `Router::Dispatch` from the table of the handlers. -/
def Router.dispatchPacket (dao : DaoFactory) (d : Deserializers) (conn : ConnId) (pkt : RawPacket) : WireHandler := do
  let me ← peek fun m => m.connections conn
  if !isOpen pkt.cmd ∧ me.userId = 0 then refusePacket conn pkt errc.kNotAuthenticated
  else match find d pkt.cmd with
    | some handler => (dispatch dao (handler conn pkt)).relabel .served
    | none => refusePacket conn pkt ⟨errc.kInvalidBody.code, "unknown command"⟩

/-- `MakePacketHandler`, by whether the pool takes the task. -/
def Application.packetHandler (dao : DaoFactory) (d : Deserializers) (conn : ConnId) (pkt : RawPacket) (submitted : Bool) : WireHandler :=
  if !submitted then refusePacket conn pkt errc.kServerBusy else Router.dispatchPacket dao d conn pkt

/-- `Gateway::OnMessage`; a connection whose frame is no packet is closed. -/
def Gateway.onMessage (dao : DaoFactory) (d : Deserializers) (conn : ConnId) (frame : Bytes) (submitted : Bool) : WireHandler :=
  match RawPacket.decode frame with
  | none => .emits fun _ => [.served (.closed conn)]
  | some pkt => Application.packetHandler dao d conn pkt submitted

/-! ### What the table holds -/

/-- What a route makes of a packet: a request on its connection, which is answered under its seq by
    the same command or the next one. -/
structure Router.Fits (cmd : UInt16) (handler : ConnId → RawPacket → Request) : Prop where
  conn : ∀ c p, (handler c p).conn = c
  reply : ∀ c p, (handler c p).reply.1.code = cmd ∨ (handler c p).reply.1.code = cmd + 1
  seq : cmd ≠ 0x0103 → ∀ c p, (handler c p).reply.2 = p.seq
  replies : ∀ c p, (handler c p).replies = if cmd = 0x0103 then 0 else 1
  opens : ∀ c p, (handler c p).Open ↔ isOpen cmd = true

namespace Router
variable {d : Deserializers} {cmd : UInt16} {handler : ConnId → RawPacket → Request}

theorem open_iff (request : Request) :
    request.Open ↔ (∃ conn seq body, request = .user (.register conn seq body)) ∨ ∃ conn seq body, request = .user (.login conn seq body) := by
  constructor
  · rintro (⟨conn, seq, body⟩ | ⟨conn, seq, body⟩)
    · exact .inl ⟨conn, seq, body, rfl⟩
    · exact .inr ⟨conn, seq, body, rfl⟩
  · rintro (⟨conn, seq, body, rfl⟩ | ⟨conn, seq, body, rfl⟩)
    · exact .register conn seq body
    · exact .login conn seq body

theorem routes_fit (d : Deserializers) : ∀ route ∈ registerRoutes d, Fits route.1 route.2 := by
  simp only [registerRoutes, List.forall_mem_cons]
  repeat' first
    | refine And.intro ⟨fun _ _ => rfl, fun _ _ => ?_, fun _ _ _ => ?_, fun _ _ => ?_, fun _ _ => ?_⟩ ?_
    | rfl
    | exact .inl rfl
    | exact .inr rfl
    | contradiction
    | simp [open_iff, isOpen]

theorem find_fits (found : find d cmd = some handler) : Fits cmd handler := by
  obtain ⟨route, there, rfl⟩ := Option.map_eq_some_iff.mp found
  have same : route.1 = cmd := by simpa using List.find?_some there
  exact same ▸ routes_fit d route (List.mem_of_find?_eq_some there)

end Router

/-! ### Every packet has one reply -/

/-- The replies that go out: the connection, the command and the seq of each. -/
def repliesOnWire (events : List WireEvent) : List (ConnId × UInt16 × UInt32) :=
  events.filterMap fun
    | .served (.sent conn packet) => if packet.cmd.isPush then none else some (conn, packet.cmd.code, packet.seq)
    | .refused conn cmd seq _ _ => some (conn, cmd, seq)
    | _ => none

theorem repliesOnWire_served (events : List Event) :
    repliesOnWire (events.map .served) = (repliesOf events).map fun reply => (reply.1, reply.2.cmd.code, reply.2.seq) := by
  rw [repliesOnWire, List.filterMap_map, repliesOf, List.map_filterMap]
  refine congrArg (List.filterMap · events) (funext fun event => ?_)
  cases event with
  | sent conn packet => by_cases push : packet.cmd.isPush = true <;> simp [push]
  | closed conn | dedup key => rfl

/-- What goes out for a packet on a connection: so many replies under its seq, and pushes without one. -/
structure RepliedTo (conn : ConnId) (pkt : RawPacket) (number : Nat) (events : List WireEvent) : Prop where
  replies : ∃ cmd, (cmd = pkt.cmd ∨ cmd = pkt.cmd + 1) ∧ repliesOnWire events = List.replicate number (conn, cmd, pkt.seq)
  pushes : ∀ other packet, .served (.sent other packet) ∈ events → packet.cmd.isPush = true → packet.seq = 0 ∧ packet.uid = 0

section Answered
variable {dao : DaoFactory} {d : Deserializers} {conn : ConnId} {pkt : RawPacket} {w : World}

theorem repliedTo_refused (e : Error) : RepliedTo conn pkt 1 ((refusePacket conn pkt e).run w).events := by
  have events : ((refusePacket conn pkt e).run w).events = [.refused conn pkt.cmd pkt.seq pkt.uid ⟨e.code, e.msg⟩] := by
    simp [refusePacket]
  rw [events]
  exact ⟨⟨pkt.cmd, .inl rfl, rfl⟩, fun _ _ inside => by simp at inside⟩

/-- A handler from the table replies as the packet asks. -/
theorem repliedTo_served {handler : ConnId → RawPacket → Router.Request} (hooks : WordlessHooks dao) (fits : Router.Fits pkt.cmd handler)
    (known : Router.isOpen pkt.cmd = true ∨ (w.mem.connections conn).userId ≠ 0) :
    RepliedTo conn pkt (if pkt.cmd = 0x0103 then 0 else 1)
      (((Router.dispatch dao (handler conn pkt)).relabel .served).run w).events := by
  have answered := dispatch_answers hooks (handler conn pkt) (w := w) (by rwa [fits.conn, fits.opens])
  rw [Prog.run_relabel]
  constructor
  · obtain ⟨bodies, length, replies⟩ := answered.replies
    refine ⟨(handler conn pkt).reply.1.code, fits.reply conn pkt, ?_⟩
    rw [repliesOnWire_served, replies, ← fits.replies conn pkt, ← length, List.map_map]
    by_cases delivery : pkt.cmd = 0x0103
    · have none_ : bodies = [] := List.length_eq_zero_iff.mp (by rw [length, fits.replies, if_pos delivery])
      rw [none_]
      rfl
    · rw [fits.conn, fits.seq delivery]
      simp only [Function.comp_def, List.map_const']
  · intro other packet inside push
    obtain ⟨event, there, same⟩ := List.mem_map.mp inside
    cases same
    exact answered.pushes other packet there push

/-- What goes out for a packet that a worker takes up. -/
theorem repliedTo_dispatched (hooks : WordlessHooks dao) (d : Deserializers) (conn : ConnId) (pkt : RawPacket) (w : World) :
    RepliedTo conn pkt (if (w.mem.connections conn).userId ≠ 0 ∧ pkt.cmd = 0x0103 then 0 else 1)
      ((Router.dispatchPacket dao d conn pkt).run w).events := by
  rw [Router.dispatchPacket, Prog.run_bind, run_peek, List.nil_append]
  by_cases away : (!Router.isOpen pkt.cmd) = true ∧ (w.mem.connections conn).userId = 0
  · rw [if_pos away, if_neg fun acks => acks.1 away.2]
    exact repliedTo_refused _
  · rw [if_neg away]
    have known : Router.isOpen pkt.cmd = true ∨ (w.mem.connections conn).userId ≠ 0 := by
      by_cases opened : Router.isOpen pkt.cmd = true
      · exact .inl opened
      · exact .inr fun anonymous => away ⟨by simpa using opened, anonymous⟩
    cases found : Router.find d pkt.cmd with
    | none =>
      have other : pkt.cmd ≠ 0x0103 := by
        intro delivery
        rw [delivery] at found
        cases found
      rw [if_neg fun acks => other acks.2]
      exact repliedTo_refused _
    | some handler =>
      have same : ((w.mem.connections conn).userId ≠ 0 ∧ pkt.cmd = 0x0103) ↔ pkt.cmd = 0x0103 := by
        refine ⟨And.right, fun delivery => ⟨known.resolve_left ?_, delivery⟩⟩
        rw [delivery]
        decide
      simp only [same]
      exact repliedTo_served hooks (Router.find_fits found) known

end Answered

/-- The ack of a delivery from a user, which a handler takes without a word. -/
def AcksDelivery (w : World) (conn : ConnId) (pkt : RawPacket) (submitted : Bool) : Prop :=
  submitted = true ∧ (w.mem.connections conn).userId ≠ 0 ∧ pkt.cmd = 0x0103

instance (w : World) (conn : ConnId) (pkt : RawPacket) (submitted : Bool) : Decidable (AcksDelivery w conn pkt submitted) :=
  inferInstanceAs (Decidable (_ ∧ _ ∧ _))

/-- Deserializers that know no body. -/
def noBodies : Deserializers where
  loginReq _ := none
  registerReq _ := none
  searchUserReq _ := none
  getUserProfileReq _ := none
  updateProfileReq _ := none
  sendMsgReq _ := none
  recallMsgReq _ := none
  deliverAckReq _ := none
  readAckReq _ := none
  syncMsgReq _ := none
  addFriendReq _ := none
  handleFriendReqReq _ := none
  targetReq _ := none
  getFriendRequestsReq _ := none
  conversationReq _ := none
  muteConvReq _ := none
  pinConvReq _ := none
  createGroupReq _ := none
  joinGroupReq _ := none
  handleJoinReqReq _ := none
  kickMemberReq _ := none
  updateGroupReq _ := none
  setMemberRoleReq _ := none
  uploadReq _ := none
  fileReq _ := none

/-- What the server has to serve, with packets as the frames that come in. -/
inductive WireInput where
  | frame (conn : ConnId) (data : Bytes) (submitted : Bool)
  | disconnected (conn : ConnId)
  | admin (request : AdminServer.Request)
  | bus

/-- An input of this kind and the circumstances in which it is served. -/
structure WireArrival where
  faults : List Bool := []
  elapsed : Nat := 0
  systemMs : Int := 0
  input : WireInput

def serveWire (dao : DaoFactory) (d : Deserializers) : WireInput → WireHandler
  | .frame conn data submitted => Gateway.onMessage dao d conn data submitted
  | .disconnected conn => (serve dao (.disconnected conn)).relabel .served
  | .admin request => (serve dao (.admin request)).relabel .served
  | .bus => (serve dao .bus).relabel .served

/-- The arrival with an input for the handlers in place of its own. -/
def WireArrival.bringing (arrival : WireArrival) (input : Input) : Arrival :=
  { faults := arrival.faults, elapsed := arrival.elapsed, systemMs := arrival.systemMs, input := input }

/-- The world in which an arrival is served. -/
def WireArrival.enter (arrival : WireArrival) (w : World) : World :=
  ((arrival.bringing .bus).call w).enter w

def receivedWire (dao : DaoFactory) (d : Deserializers) (w : World) (arrival : WireArrival) : Outcome World WireEvent Unit :=
  (serveWire dao d arrival.input).run (arrival.enter w)

/-- The world after an arrival. -/
def receiveWire (dao : DaoFactory) (d : Deserializers) (w : World) (arrival : WireArrival) : World :=
  (receivedWire dao d w arrival).state

/-- The request that reaches a handler, if one does. -/
def accepted (d : Deserializers) (w : World) (conn : ConnId) (data : Bytes) (submitted : Bool) : Option Router.Request := do
  let pkt ← RawPacket.decode data
  if !submitted ∨ !Router.isOpen pkt.cmd ∧ (w.mem.connections conn).userId = 0 then none
  else (Router.find d pkt.cmd).map fun handler => handler conn pkt

/-- What the handlers are given for an input; a packet that none of them sees does as much as a heartbeat. -/
def WireInput.lower (d : Deserializers) (w : World) : WireInput → Input
  | .frame conn data submitted => .packet ((accepted d w conn data submitted).getD (.user (.heartbeat conn 0)))
  | .disconnected conn => .disconnected conn
  | .admin request => .admin request
  | .bus => .bus

def WireArrival.lower (d : Deserializers) (w : World) (arrival : WireArrival) : Arrival :=
  arrival.bringing (arrival.input.lower d w)

/-- An arrival whose packet came past the router: a heartbeat, a login, a registration, or a packet of a user. -/
def LetThrough (w : World) (arrival : Arrival) : Prop :=
  ∀ request, arrival.input = .packet request →
    (∃ conn seq, request = .user (.heartbeat conn seq)) ∨ request.Open ∨ (w.mem.connections request.conn).userId ≠ 0

/-- What goes out for an arrival is what the handlers send, or it turns to the connection of the frame alone. -/
def SentAlike (dao : DaoFactory) (d : Deserializers) (w : World) (arrival : WireArrival) : Prop :=
  (receivedWire dao d w arrival).events = (received dao w (arrival.lower d w)).events.map .served ∨
    ∃ conn data submitted, arrival.input = .frame conn data submitted ∧
      ((receivedWire dao d w arrival).events = [.served (.closed conn)] ∨
        ∃ cmd seq uid rsp, (receivedWire dao d w arrival).events = [.refused conn cmd seq uid rsp])

section Refinement
variable {dao : DaoFactory} {d : Deserializers} {w : World} {conn : ConnId} {data : Bytes} {submitted : Bool}

/-- A frame is served by the handler of an accepted request, or it changes nothing and is refused. -/
theorem onMessage_cases (dao : DaoFactory) (d : Deserializers) (conn : ConnId) (data : Bytes) (submitted : Bool) (w : World) :
    (∃ request, accepted d w conn data submitted = some request ∧
      (Gateway.onMessage dao d conn data submitted).run w = ((Router.dispatch dao request).relabel .served).run w) ∨
    accepted d w conn data submitted = none ∧ ((Gateway.onMessage dao d conn data submitted).run w).state = w ∧
      (((Gateway.onMessage dao d conn data submitted).run w).events = [.served (.closed conn)] ∨
        ∃ cmd seq uid rsp, ((Gateway.onMessage dao d conn data submitted).run w).events = [.refused conn cmd seq uid rsp]) := by
  have refused : ∀ pkt e, ((refusePacket conn pkt e).run w).state = w ∧
      ∃ cmd seq uid rsp, ((refusePacket conn pkt e).run w).events = [.refused conn cmd seq uid rsp] := by
    intro pkt e
    simp [refusePacket]
  unfold Gateway.onMessage accepted
  cases RawPacket.decode data with
  | none => exact .inr ⟨rfl, by simp, .inl (by simp)⟩
  | some pkt =>
    simp only [Option.bind_eq_bind, Option.bind_some]
    by_cases away : (!submitted) = true ∨ (!Router.isOpen pkt.cmd) = true ∧ (w.mem.connections conn).userId = 0
    · rw [if_pos away]
      refine .inr ⟨rfl, ?_⟩
      rw [Application.packetHandler]
      by_cases full : (!submitted) = true
      · rw [if_pos full]
        exact ⟨(refused ..).1, .inr (refused ..).2⟩
      · have anonymous := away.resolve_left full
        rw [if_neg full, Router.dispatchPacket, Prog.run_bind, run_peek, List.nil_append, if_pos anonymous]
        exact ⟨(refused ..).1, .inr (refused ..).2⟩
    · rw [if_neg away, Application.packetHandler, if_neg fun full => away (.inl full), Router.dispatchPacket, Prog.run_bind,
        run_peek, List.nil_append, if_neg fun anonymous => away (.inr anonymous)]
      cases Router.find d pkt.cmd with
      | none => exact .inr ⟨rfl, (refused ..).1, .inr (refused ..).2⟩
      | some handler => exact .inl ⟨_, rfl, rfl⟩

/-- A heartbeat changes nothing. -/
theorem idle_heartbeat (seq : UInt32) : ((Router.dispatch dao (.user (.heartbeat conn seq))).run w).state = w := by
  show ((UserService.handleHeartbeat conn seq).run w).state = w
  rw [UserService.handleHeartbeat, Prog.run_bind, connection, run_peek]
  split <;> simp [sendRsp, sendPacket, send]

theorem accepted_enter (arrival : WireArrival) : accepted d (arrival.enter w) conn data submitted = accepted d w conn data submitted := rfl

theorem receiveWire_lower (dao : DaoFactory) (d : Deserializers) (w : World) (arrival : WireArrival) :
    receiveWire dao d w arrival = receive dao w (arrival.lower d w) := by
  show ((serveWire dao d arrival.input).run (arrival.enter w)).state = ((serve dao (arrival.input.lower d w)).run (arrival.enter w)).state
  cases arrival.input with
  | frame conn data submitted =>
    rw [WireInput.lower, ← accepted_enter arrival]
    obtain ⟨request, taken, same⟩ | ⟨away, still, -⟩ := onMessage_cases dao d conn data submitted (arrival.enter w)
    · rw [taken, serveWire, same, Prog.run_relabel]
      rfl
    · rw [away, serveWire, still]
      exact (@idle_heartbeat dao _ conn 0).symm
  | disconnected conn | admin request | bus => rw [serveWire, Prog.run_relabel, WireInput.lower]

theorem sentAlike (dao : DaoFactory) (d : Deserializers) (w : World) (arrival : WireArrival) : SentAlike dao d w arrival := by
  show ((serveWire dao d arrival.input).run (arrival.enter w)).events =
      ((serve dao (arrival.input.lower d w)).run (arrival.enter w)).events.map .served ∨ _
  rw [receivedWire]
  cases arrival.input with
  | frame conn data submitted =>
    rw [WireInput.lower, ← accepted_enter arrival]
    obtain ⟨request, taken, same⟩ | ⟨away, -, turned⟩ := onMessage_cases dao d conn data submitted (arrival.enter w)
    · rw [taken, serveWire, same, Prog.run_relabel]
      exact .inl rfl
    · exact .inr ⟨conn, data, submitted, rfl, turned⟩
  | disconnected conn | admin request | bus =>
    rw [serveWire, Prog.run_relabel, WireInput.lower]
    exact .inl rfl

/-- An accepted request is open or of a user. -/
theorem accepted_letThrough {request : Router.Request} (taken : accepted d w conn data submitted = some request) :
    request.Open ∨ (w.mem.connections request.conn).userId ≠ 0 := by
  unfold accepted at taken
  obtain ⟨pkt, decoded, passed⟩ := Option.bind_eq_some_iff.mp taken
  split at passed
  · cases passed
  · rename_i stays
    obtain ⟨handler, found, rfl⟩ := Option.map_eq_some_iff.mp passed
    have fits := Router.find_fits found
    rw [fits.conn, fits.opens]
    by_cases opened : Router.isOpen pkt.cmd = true
    · exact .inl opened
    · exact .inr fun anonymous => stays (.inr ⟨by simpa using opened, anonymous⟩)

theorem lower_letThrough (d : Deserializers) (w : World) (arrival : WireArrival) : LetThrough w (arrival.lower d w) := by
  intro request packet
  have packet : arrival.input.lower d w = .packet request := packet
  cases input : arrival.input with
  | frame conn data submitted =>
    rw [input, WireInput.lower] at packet
    cases taken : accepted d w conn data submitted with
    | none =>
      rw [taken] at packet
      cases packet
      exact .inl ⟨_, _, rfl⟩
    | some other =>
      rw [taken] at packet
      cases packet
      exact .inr (accepted_letThrough taken)
  | disconnected conn | admin other | bus =>
    rw [input] at packet
    cases packet

end Refinement

/-- A run of the server from its frames goes through the states of a run of the handlers, in which nobody anonymous
    comes through but to register, to log in or for a heartbeat, and sends what that one sends, but for refusals. -/
theorem wire_refines (dao : DaoFactory) (d : Deserializers) (w : World) (arrivals : List WireArrival) :
    (∀ sofar, sofar <+: arrivals → after (receiveWire dao d) w sofar =
        after (receive dao) w (translate (receiveWire dao d) (fun w arrival => arrival.lower d w) w sofar)) ∧
      Along (receive dao) LetThrough w (translate (receiveWire dao d) (fun w arrival => arrival.lower d w) w arrivals) ∧
      Along (receiveWire dao d) (SentAlike dao d) w arrivals := by
  refine ⟨fun sofar _ => (after_translate (receiveWire_lower dao d) w sofar).symm, ?_, along_of_forall (sentAlike dao d) w arrivals⟩
  rw [along_translate (receiveWire_lower dao d)]
  exact along_of_forall (lower_letThrough d) w arrivals

end NovaIIM
