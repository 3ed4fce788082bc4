import Mathlib.Data.List.Nodup
import Mathlib.Data.List.Perm.Basic
import Mathlib.Data.List.TakeWhile
import NovaIIM.ClientRequests
import NovaIIM.Dispatch

/-!
A client and the server on one connection (`client_context.cpp`, `request_manager.cpp` and
`service_helpers.h` of the SDK; `gateway.cpp` and `tcp_connection.h` of the server).

The threads of the client draw seqs, register requests under them and send packets, the workers of
the server take the frames up in any order, others use the server meanwhile, and what it writes on
the connection reaches the client in that order. As long as the seqs do not come round, a response
is the one reply to the packet of the request it completes, no request is completed twice, and what
is published as a push is one (`round_trips`).
-/
namespace NovaIIM
open Store Client

/-! ### What is written on a connection -/

/-- The packet that an event writes on a connection. -/
def WireEvent.packetOn (serialize : Body → Bytes) (conn : ConnId) : WireEvent → Option RawPacket
  | .served (.sent c p) =>
    if c = conn then some { cmd := p.cmd.code, seq := p.seq, uid := p.uid, body := serialize p.body } else none
  | .refused c cmd seq uid rsp => if c = conn then some { cmd := cmd, seq := seq, uid := uid, body := serialize (.rspBase rsp) } else none
  | _ => none

def WireEvent.closes (conn : ConnId) : WireEvent → Bool
  | .served (.closed c) => c = conn
  | _ => false

/-- The packets that are written on a connection until it is closed. -/
def writtenOn (serialize : Body → Bytes) (conn : ConnId) (events : List WireEvent) : List RawPacket :=
  (events.takeWhile fun event => !event.closes conn).filterMap (WireEvent.packetOn serialize conn)

/-- The frames of packets; one that is too large has none. -/
def framesOf (packets : List RawPacket) : List Bytes := (packets.map RawPacket.encode).filter fun frame => !frame.isEmpty

/-! ### The two ends -/

/-- What both ends rest on. -/
structure Ends where
  dao : DaoFactory
  bodies : Deserializers
  serialize : Body → Bytes
  timeoutMs : Nat

/-- A frame that a worker has taken up, and what was written for it on the connection. -/
structure TakenUp where
  frame : Bytes
  packets : List RawPacket

/-- The two ends of a connection and the frames between them, and below them what has happened: the
    packets of the client that went out, those of the server, and what came of them. -/
structure Link where
  client : ClientRequests := .init
  server : World
  conn : ConnId
  isOpen : Bool := true
  unsent : List SeqCall := []
  up : List Bytes := []
  down : List Bytes := []
  transmitted : List (SeqCall × RawPacket) := []
  taken : List TakenUp := []
  written : List RawPacket := []
  received : List RawPacket := []
  answered : List (PendingRequest × RawPacket) := []
  published : List RawPacket := []

/-- What happens at either end. -/
inductive LinkEvent where
  | nextSeq
  | addPending (drawn : SeqCall) (now : Nat)
  | sendPacket (drawn : SeqCall) (cmd : UInt16) (body : Bytes) (connected : Bool)
  | checkTimeouts (now : Nat)
  | cancel (seq : UInt32)
  | cancelAll
  | receive (deserializes : Bool)
  | takeUp (place : Nat) (submitted : Bool) (faults : List Bool) (elapsed : Nat) (systemMs : Int)
  | elsewhere (arrival : WireArrival)

def LinkEvent.draws : LinkEvent → Bool
  | .nextSeq => true
  | _ => false

/-- The request that a packet has completed. -/
def Client.Dispatch.completed : Dispatch → Option PendingRequest
  | .consumed r => some r
  | _ => none

def Client.Dispatch.isPublished : Dispatch → Bool
  | .published _ => true
  | _ => false

namespace Link

/-- The packet of `MakePacket`. -/
def makePacket (cmd : UInt16) (seq : UInt32) (body : Bytes) : RawPacket := { cmd := cmd, seq := seq, body := body }

/-- `ClientContext::SendPacket`, once for a seq and with a command that the server has a route for. -/
def sendPacket (e : Ends) (s : Link) (drawn : SeqCall) (cmd : UInt16) (body : Bytes) (connected : Bool) : Link :=
  let data := (makePacket cmd drawn.seq body).encode
  if drawn ∉ s.unsent ∨ (Router.find e.bodies cmd).isNone then s
  else if data.isEmpty ∨ !connected then { s with unsent := s.unsent.erase drawn }
  else
    { s with
      unsent := s.unsent.erase drawn
      up := s.up ++ [data]
      transmitted := s.transmitted ++ [(drawn, makePacket cmd drawn.seq body)] }

/-- The callback of `SetupPacketDispatch` for the next frame. -/
def receive (s : Link) (deserializes : Bool) : Link :=
  match s.down with
  | [] => s
  | frame :: rest =>
    match RawPacket.decode frame with
    | none => { s with down := rest }
    | some pkt =>
      let (outcome, client) := Client.dispatch s.client pkt deserializes
      { s with
        client := client
        down := rest
        received := s.received ++ [pkt]
        answered := s.answered ++ outcome.completed.toList.map fun r => (r, pkt)
        published := if outcome.isPublished then s.published ++ [pkt] else s.published }

/-- The packets that an arrival writes on the connection, if it is open. -/
def packetsFor (e : Ends) (s : Link) (arrival : WireArrival) : List RawPacket :=
  if s.isOpen then writtenOn e.serialize s.conn (receivedWire e.dao e.bodies s.server arrival).events else []

/-- The server after an arrival, and what it has written on the connection. -/
def serve (e : Ends) (s : Link) (arrival : WireArrival) : Link :=
  { s with
    server := receiveWire e.dao e.bodies s.server arrival
    isOpen := s.isOpen && !(receivedWire e.dao e.bodies s.server arrival).events.any (WireEvent.closes s.conn)
    down := s.down ++ framesOf (s.packetsFor e arrival)
    written := s.written ++ s.packetsFor e arrival }

/-- A worker takes a frame up. -/
def takeUp (e : Ends) (s : Link) (place : Nat) (submitted : Bool) (faults : List Bool) (elapsed : Nat) (systemMs : Int) : Link :=
  match s.up[place]? with
  | none => s
  | some frame =>
    let arrival : WireArrival := { faults := faults, elapsed := elapsed, systemMs := systemMs, input := .frame s.conn frame submitted }
    { s.serve e arrival with
      up := s.up.eraseIdx place
      taken := s.taken ++ [⟨frame, s.packetsFor e arrival⟩] }

/-- An arrival that is no frame of the client; after its own close the connection is not written on. -/
def elsewhere (e : Ends) (s : Link) (arrival : WireArrival) : Link :=
  match arrival.input with
  | .frame c _ _ => if c = s.conn then s else s.serve e arrival
  | .disconnected c => if c = s.conn then { s.serve e arrival with isOpen := false } else s.serve e arrival
  | _ => s.serve e arrival

def step (e : Ends) (s : Link) : LinkEvent → Link
  | .nextSeq =>
    { s with client := s.client.step e.timeoutMs .nextSeq, unsent := ⟨s.client.calls + 1, s.client.seqCounter⟩ :: s.unsent }
  | .addPending drawn now => { s with client := s.client.step e.timeoutMs (.addPending drawn now) }
  | .sendPacket drawn cmd body connected => s.sendPacket e drawn cmd body connected
  | .checkTimeouts now => { s with client := s.client.step e.timeoutMs (.checkTimeouts now) }
  | .cancel seq => { s with client := s.client.step e.timeoutMs (.cancel seq) }
  | .cancelAll => { s with client := s.client.step e.timeoutMs .cancelAll }
  | .receive deserializes => s.receive deserializes
  | .takeUp place submitted faults elapsed systemMs => s.takeUp e place submitted faults elapsed systemMs
  | .elsewhere arrival => s.elsewhere e arrival

end Link

/-! ### The promises -/

/-- A packet that fits in a frame. -/
def RawPacket.Fits (p : RawPacket) : Prop := p.body.length ≤ kMaxBodySize

instance (p : RawPacket) : Decidable p.Fits := inferInstanceAs (Decidable (_ ≤ _))

/-- The replies among packets. -/
def repliesIn (packets : List RawPacket) : List RawPacket := packets.filter fun p => p.seq ≠ 0

/-- A connection that has just been opened, on which nothing has been sent. -/
structure Link.Opened (s : Link) : Prop where
  counted : Client.Counted s.client
  unsent : ∀ d ∈ s.unsent, Client.Numbered s.client.calls d
  single : s.unsent.Nodup
  quiet : s.up = [] ∧ s.down = [] ∧ s.transmitted = [] ∧ s.taken = [] ∧ s.written = [] ∧ s.received = [] ∧ s.answered = [] ∧ s.published = []

/-- What holds at any time on a connection. -/
structure Link.RoundTrips (s : Link) : Prop where
  /-- a response is the only reply that was written for the packet of its request -/
  own : ∀ r resp, (r, resp) ∈ s.answered → ∃ pkt u, (r.drawn, pkt) ∈ s.transmitted ∧ u ∈ s.taken ∧ u.frame = pkt.encode ∧
    repliesIn u.packets = [resp] ∧ (resp.cmd = pkt.cmd ∨ resp.cmd = pkt.cmd + 1) ∧ resp.seq = pkt.seq
  once : (s.answered.map fun a => a.1.drawn).Nodup
  pushed : ∀ pkt ∈ s.published, pkt.seq = 0
  /-- every frame of the client is taken up once or is on its way -/
  carried : (s.up ++ s.taken.map TakenUp.frame).Perm (s.transmitted.map fun t => t.2.encode)
  /-- the client sees what is written in its order -/
  inOrder : s.received ++ s.down.filterMap RawPacket.decode = s.written.filter fun p => p.Fits
  /-- while the connection is open, a packet that was taken up has its reply, unless it is the ack of a delivery -/
  replied : s.isOpen = true → ∀ u ∈ s.taken, ∃ t ∈ s.transmitted, u.frame = t.2.encode ∧
    (t.2.cmd ≠ 0x0103 → ∃ resp ∈ s.written, repliesIn u.packets = [resp] ∧ resp.seq = t.2.seq)

/-! ### What a frame of the client is answered with -/

/-- The replies of a handler on a connection, as what is told of them on the wire. -/
theorem repliesIn_packetOn {serialize : Body → Bytes} {conn : ConnId} {events : List WireEvent}
    (pushes : ∀ other packet, .served (.sent other packet) ∈ events → packet.cmd.isPush = true → packet.seq = 0 ∧ packet.uid = 0) :
    (repliesIn (events.filterMap (WireEvent.packetOn serialize conn))).map (fun p => (conn, p.cmd, p.seq)) =
      (repliesOnWire events).filter fun reply => reply.1 = conn ∧ reply.2.2 ≠ 0 := by
  rw [repliesIn, repliesOnWire, List.filter_filterMap, List.map_filterMap, List.filter_filterMap]
  refine List.filterMap_congr fun event inside => ?_
  cases event with
  | served event =>
    cases event with
    | sent c packet =>
      by_cases push : packet.cmd.isPush = true
      · have zero : packet.seq = 0 := (pushes c packet inside push).1
        by_cases here : c = conn <;> simp [WireEvent.packetOn, here, push, zero]
      · by_cases here : c = conn <;> by_cases zero : packet.seq = 0 <;> simp [WireEvent.packetOn, Option.filter, here, push, zero]
    | closed c | dedup key => rfl
  | refused c cmd seq uid rsp => by_cases here : c = conn <;> by_cases zero : seq = 0 <;> simp [WireEvent.packetOn, Option.filter, here, zero]

/-- Whether a packet has been replied to: by no packet, or by one that is its own. -/
structure OwnReplies (pkt : RawPacket) (packets : List RawPacket) : Prop where
  few : (repliesIn packets).length ≤ 1
  own : ∀ resp ∈ repliesIn packets, (resp.cmd = pkt.cmd ∨ resp.cmd = pkt.cmd + 1) ∧ resp.seq = pkt.seq

/-- The replies up to the close of a connection are some of those that go out. -/
theorem repliesIn_writtenOn {serialize : Body → Bytes} {conn : ConnId} {events : List WireEvent}
    (pushes : ∀ other packet, .served (.sent other packet) ∈ events → packet.cmd.isPush = true → packet.seq = 0 ∧ packet.uid = 0) :
    ((repliesIn (writtenOn serialize conn events)).map fun p => (conn, p.cmd, p.seq)).Sublist (repliesOnWire events) := by
  have part : (events.takeWhile fun event => !event.closes conn).Sublist events := List.takeWhile_sublist _
  rw [writtenOn, repliesIn_packetOn fun other packet inside => pushes other packet (part.subset inside)]
  exact List.filter_sublist.trans (part.filterMap _)

theorem ownReplies_of_repliedTo {serialize : Body → Bytes} {conn : ConnId} {pkt : RawPacket} {number : Nat} {events : List WireEvent}
    (replied : RepliedTo conn pkt number events) (few : number ≤ 1) : OwnReplies pkt (writtenOn serialize conn events) := by
  obtain ⟨cmd, known, replies⟩ := replied.replies
  have part := @repliesIn_writtenOn serialize conn events replied.pushes
  rw [replies, List.sublist_replicate_iff] at part
  obtain ⟨count, most, same⟩ := part
  constructor
  · rw [← List.length_map (fun p : RawPacket => (conn, p.cmd, p.seq)), same, List.length_replicate]
    omega
  · intro resp inside
    have told : (conn, resp.cmd, resp.seq) ∈ (repliesIn (writtenOn serialize conn events)).map fun p => (conn, p.cmd, p.seq) :=
      List.mem_map_of_mem inside
    rw [same] at told
    have fields := List.eq_of_mem_replicate told
    simp only [Prod.mk.injEq, true_and] at fields
    exact ⟨fields.1 ▸ known, fields.2⟩

/-- While the connection stays open, all replies on it are written. -/
theorem repliesIn_open {serialize : Body → Bytes} {conn : ConnId} {pkt : RawPacket} {number : Nat} {events : List WireEvent}
    (replied : RepliedTo conn pkt number events) (numbered : pkt.seq ≠ 0) (stays : events.any (WireEvent.closes conn) = false) :
    (repliesIn (writtenOn serialize conn events)).length = number := by
  obtain ⟨cmd, -, replies⟩ := replied.replies
  have whole : (events.takeWhile fun event => !event.closes conn) = events := by
    rw [List.takeWhile_eq_self_iff]
    intro event inside
    simpa using List.any_eq_false.mp stays event inside
  rw [writtenOn, whole, ← List.length_map (fun p : RawPacket => (conn, p.cmd, p.seq)), repliesIn_packetOn replied.pushes, replies,
    List.filter_eq_self.mpr fun reply inside => ?_, List.length_replicate]
  rw [List.eq_of_mem_replicate inside]
  simp [numbered]

/-- A frame that is a packet is replied to once at most, and once if it is no ack of a delivery. -/
theorem repliedTo_onMessage {dao : DaoFactory} (hooks : WordlessHooks dao) (d : Deserializers) (conn : ConnId) {frame : Bytes}
    (submitted : Bool) (w : World) {pkt : RawPacket} (decoded : RawPacket.decode frame = some pkt) :
    ∃ number, number ≤ 1 ∧ (pkt.cmd ≠ 0x0103 → number = 1) ∧
      RepliedTo conn pkt number ((Gateway.onMessage dao d conn frame submitted).run w).events := by
  rw [Gateway.onMessage, decoded]
  cases submitted with
  | false => exact ⟨1, Nat.le_refl 1, fun _ => rfl, repliedTo_refused _⟩
  | true =>
    refine ⟨_, ?_, fun other => ?_, repliedTo_dispatched hooks d conn pkt w⟩
    · split <;> omega
    · rw [if_neg fun both => other both.2]

/-! ### What others write on the connection -/

/-- Nothing but pushes are written on a connection. -/
structure PushesOnly (conn : ConnId) (events : List WireEvent) : Prop where
  elsewhere : ∀ reply ∈ repliesOnWire events, reply.1 ≠ conn
  pushes : ∀ other packet, .served (.sent other packet) ∈ events → packet.cmd.isPush = true → packet.seq = 0 ∧ packet.uid = 0

theorem PushesOnly.replies {serialize : Body → Bytes} {conn : ConnId} {events : List WireEvent} (only : PushesOnly conn events) :
    repliesIn (writtenOn serialize conn events) = [] := by
  have part : (events.takeWhile fun event => !event.closes conn).Sublist events := List.takeWhile_sublist _
  rw [← List.map_eq_nil_iff (f := fun p : RawPacket => (conn, p.cmd, p.seq)), writtenOn,
    repliesIn_packetOn fun other packet inside => only.pushes other packet (part.subset inside), List.filter_eq_nil_iff]
  intro reply inside both
  simp only [decide_eq_true_eq] at both
  exact only.elsewhere reply ((part.filterMap _).subset inside) both.1

/-- A program of the server that answers nobody. -/
theorem pushesOnly_served {conn : ConnId} {cmd : Cmd} {seq : UInt32} {events : List Event} (answered : AnsweredOn conn cmd seq 0 events) :
    PushesOnly conn (events.map .served) := by
  obtain ⟨bodies, length, replies⟩ := answered.replies
  constructor
  · intro reply inside
    rw [repliesOnWire_served, replies, List.length_eq_zero_iff.mp length] at inside
    cases inside
  · intro other packet inside push
    obtain ⟨event, there, same⟩ := List.mem_map.mp inside
    cases same
    exact answered.pushes other packet there push

/-- Whatever arrives but the frames of a connection writes pushes on it. -/
theorem pushesOnly_received {dao : DaoFactory} (hooks : WordlessHooks dao) (d : Deserializers) (w : World) {conn : ConnId}
    {arrival : WireArrival} (other : ∀ data submitted, arrival.input ≠ .frame conn data submitted) :
    PushesOnly conn (receivedWire dao d w arrival).events := by
  have quiet : ∀ input v, (∀ request, input ≠ .packet request) →
      PushesOnly conn (((serve dao input).relabel WireEvent.served).run v).events := by
    intro input v nopacket
    rw [Prog.run_relabel]
    exact pushesOnly_served (@serve_answers dao input nopacket conn .kickNotify 0 v)
  rw [receivedWire]
  cases input : arrival.input with
  | frame c data submitted =>
    have apart : c ≠ conn := fun same => other data submitted (same ▸ input)
    rw [serveWire]
    cases decoded : RawPacket.decode data with
    | none =>
      rw [Gateway.onMessage, decoded]
      exact ⟨by simp [repliesOnWire], by simp⟩
    | some pkt =>
      obtain ⟨number, -, -, replied⟩ := repliedTo_onMessage hooks d c submitted (arrival.enter w) decoded
      obtain ⟨cmd, -, replies⟩ := replied.replies
      refine ⟨fun reply inside => ?_, replied.pushes⟩
      rw [replies] at inside
      rw [List.eq_of_mem_replicate inside]
      exact apart
  | disconnected c => exact quiet (.disconnected c) _ fun _ same => by cases same
  | admin request => exact quiet (.admin request) _ fun _ same => by cases same
  | bus => exact quiet .bus _ fun _ same => by cases same

/-! ### The commands of the client -/

/-- The commands of the client and their replies are no pushes. -/
theorem pushTopic_routed {d : Deserializers} {cmd : UInt16} (routed : (Router.find d cmd).isSome = true) :
    pushTopic cmd = none ∧ pushTopic (cmd + 1) = none := by
  have table : ∀ route ∈ Router.registerRoutes d, pushTopic route.1 = none ∧ pushTopic (route.1 + 1) = none := by
    simp [Router.registerRoutes, pushTopic]
  obtain ⟨handler, found⟩ := Option.isSome_iff_exists.mp routed
  obtain ⟨route, there, -⟩ := Option.map_eq_some_iff.mp found
  have same : route.1 = cmd := by simpa using List.find?_some there
  exact same ▸ table route (List.mem_of_find?_eq_some there)

namespace Client

/-- A packet completes the request that is pending under its seq. -/
theorem dispatch_completed {s : ClientRequests} {pkt : RawPacket} {deserializes : Bool} {r : PendingRequest}
    (completed : (dispatch s pkt deserializes).1.completed = some r) : r ∈ s.pending ∧ r.drawn.seq = pkt.seq := by
  unfold dispatch ClientRequests.handleResponse at completed
  cases found : s.pending.find? fun r => r.drawn.seq = pkt.seq with
  | none =>
    rw [found] at completed
    dsimp only at completed
    split at completed
    · cases deserializes <;> cases completed
    · cases completed
  | some r' =>
    rw [found] at completed
    cases completed
    exact ⟨List.mem_of_find?_eq_some found, by simpa using List.find?_some found⟩

theorem dispatch_published {s : ClientRequests} {pkt : RawPacket} {deserializes : Bool}
    (published : (dispatch s pkt deserializes).1.isPublished = true) : (pushTopic pkt.cmd).isSome = true := by
  unfold dispatch ClientRequests.handleResponse at published
  cases found : s.pending.find? fun r => r.drawn.seq = pkt.seq with
  | none =>
    rw [found] at published
    dsimp only at published
    split at published
    · next topic known =>
      rw [known]
      rfl
    · cases published
  | some r' =>
    rw [found] at published
    cases published

theorem dispatch_calls {s : ClientRequests} {pkt : RawPacket} {deserializes : Bool} :
    (dispatch s pkt deserializes).2.calls = s.calls := by
  unfold dispatch ClientRequests.handleResponse
  split <;> rename_i found
  · split at found <;> cases found
    rfl
  · split at found <;> cases found
    split <;> rfl

/-- Before the counter comes round, no call collides. -/
theorem lawful {s : ClientRequests} (counted : Client.Counted s) (few : s.calls + 1 < 2 ^ 32) : SeqLaw s .nextSeq := by
  rw [seqLaw_iff counted]
  have small : ∀ n, 0 < n → n < 2 ^ 32 → ¬2 ^ 32 ∣ n := fun n positive below divides =>
    Nat.not_le.mpr below (Nat.le_of_dvd positive divides)
  rintro (start | ⟨r, inside, again⟩)
  · exact small _ (Nat.succ_pos _) few start
  · obtain ⟨one, below⟩ := (counted.pending r inside).earlier
    exact small _ (by omega) (by omega) again

/-- Before the counter comes round, seqs tell the calls apart. -/
theorem Numbered.eq {calls : Nat} {a b : SeqCall} (first : Client.Numbered calls a) (second : Client.Numbered calls b) (few : calls < 2 ^ 32)
    (same : a.seq = b.seq) : a = b := by
  have words : UInt32.ofNat a.call = UInt32.ofNat b.call := by rw [← first.word, ← second.word, same]
  have equal : a.call = b.call := by
    have toNats := congrArg UInt32.toNat words
    obtain ⟨-, below⟩ := first.earlier
    obtain ⟨-, below'⟩ := second.earlier
    rwa [UInt32.toNat_ofNat_of_lt' (Nat.lt_of_le_of_lt below few), UInt32.toNat_ofNat_of_lt' (Nat.lt_of_le_of_lt below' few)] at toNats
  cases a
  cases b
  exact (SeqCall.mk.injEq ..).mpr ⟨equal, same⟩

end Client

/-! ### The invariant -/

/-- What a connection keeps while the seqs of its client do not come round. -/
structure Link.Flows (e : Ends) (s : Link) : Prop where
  counted : Client.Counted s.client
  unsent : ∀ d ∈ s.unsent, Client.Numbered s.client.calls d
  sent : ∀ t ∈ s.transmitted, Client.Numbered s.client.calls t.1 ∧ t.2.seq = t.1.seq ∧ t.2.Fits ∧ (Router.find e.bodies t.2.cmd).isSome = true
  single : (s.unsent ++ s.transmitted.map Prod.fst).Nodup
  carried : (s.up ++ s.taken.map TakenUp.frame).Perm (s.transmitted.map fun t => t.2.encode)
  replies : ∀ u ∈ s.taken, ∃ t ∈ s.transmitted, u.frame = t.2.encode ∧ OwnReplies t.2 u.packets ∧
    (s.isOpen = true → t.2.cmd ≠ 0x0103 → (repliesIn u.packets).length = 1)
  written : repliesIn s.written = s.taken.flatMap fun u => repliesIn u.packets
  inOrder : s.received ++ s.down.filterMap RawPacket.decode = s.written.filter fun p => p.Fits
  answered : ∀ a ∈ s.answered, Client.Numbered s.client.calls a.1.drawn ∧ a.2.seq = a.1.drawn.seq
  responses : (s.answered.map Prod.snd).Sublist s.received
  pushed : ∀ pkt ∈ s.published, pkt.seq = 0

theorem decode_framesOf (packets : List RawPacket) :
    (framesOf packets).filterMap RawPacket.decode = packets.filter fun p => p.Fits := by
  rw [framesOf, List.filter_map, List.filterMap_map]
  induction packets with
  | nil => rfl
  | cons p rest ih =>
    by_cases fits : p.Fits
    · have some_ : p.encode ≠ [] := fun empty => Nat.not_lt.mpr fits (RawPacket.encode_eq_nil.mp empty)
      have decoded : RawPacket.decode p.encode = some p := by simpa using RawPacket.decode_encode fits []
      simp [some_, decoded, fits, ← ih]
    · have none_ : p.encode = [] := RawPacket.encode_eq_nil.mpr (Nat.lt_of_not_le fits)
      simp [none_, fits, ← ih]

namespace Link
variable {e : Ends} {s : Link}

theorem flows_opened (opened : s.Opened) : s.Flows e := by
  obtain ⟨up, down, transmitted, taken, written, received, answered, published⟩ := opened.quiet
  constructor
  · exact opened.counted
  · exact opened.unsent
  · simp [transmitted]
  · simpa [transmitted] using opened.single
  · simp [up, taken, transmitted]
  · simp [taken]
  · simp [written, taken, repliesIn]
  · simp [received, down, written]
  · simp [answered]
  · simp [answered, received]
  · simp [published]

/-- A step of the client that draws no seq and neither sends nor receives. -/
theorem Flows.client (flows : s.Flows e) {client : ClientRequests} (counted : Client.Counted client) (calls : client.calls = s.client.calls) :
    ({ s with client := client } : Link).Flows e := by
  obtain ⟨-, unsent, sent, single, carried, replies, written, inOrder, answered, responses, pushed⟩ := flows
  rw [← calls] at unsent sent answered
  exact ⟨counted, unsent, sent, single, carried, replies, written, inOrder, answered, responses, pushed⟩

theorem flows_nextSeq (flows : s.Flows e) (few : s.client.calls + 1 < 2 ^ 32) : (s.step e .nextSeq).Flows e := by
  have law := lawful flows.counted few
  have counted : Client.Counted (s.client.step e.timeoutMs .nextSeq) := counted_step flows.counted law
  have later : s.client.calls ≤ s.client.calls + 1 := Nat.le_succ _
  have new : Client.Numbered (s.client.calls + 1) ⟨s.client.calls + 1, s.client.seqCounter⟩ :=
    ⟨flows.counted.counter, ⟨Nat.succ_pos _, Nat.le_refl _⟩, law.1⟩
  have fresh : ∀ d, Client.Numbered s.client.calls d → d ≠ ⟨s.client.calls + 1, s.client.seqCounter⟩ := by
    rintro d numbered rfl
    have earlier := numbered.earlier.2
    dsimp only at earlier
    omega
  refine ⟨counted, ?_, fun t inside => ?_, ?_, flows.carried, flows.replies, flows.written, flows.inOrder, fun a inside => ?_,
    flows.responses, flows.pushed⟩
  · exact List.forall_mem_cons.mpr ⟨new, fun d inside => (flows.unsent d inside).mono later⟩
  · exact ⟨(flows.sent t inside).1.mono later, (flows.sent t inside).2⟩
  · rw [step, List.cons_append, List.nodup_cons]
    refine ⟨fun there => ?_, flows.single⟩
    rcases List.mem_append.mp there with waiting | gone
    · exact fresh _ (flows.unsent _ waiting) rfl
    · obtain ⟨t, inside, same⟩ := List.mem_map.mp gone
      exact fresh _ (flows.sent t inside).1 same
  · exact ⟨(flows.answered a inside).1.mono later, (flows.answered a inside).2⟩

theorem flows_sendPacket (flows : s.Flows e) (drawn : SeqCall) (cmd : UInt16) (body : Bytes) (connected : Bool) :
    (s.sendPacket e drawn cmd body connected).Flows e := by
  rw [sendPacket]
  by_cases unknown : drawn ∉ s.unsent ∨ (Router.find e.bodies cmd).isNone = true
  · rw [if_pos unknown]
    exact flows
  rw [if_neg unknown]
  have waiting : drawn ∈ s.unsent := by
    by_contra away
    exact unknown (.inl away)
  have routed : (Router.find e.bodies cmd).isSome = true := by
    cases found : Router.find e.bodies cmd with
    | none => exact absurd (.inr (by rw [found]; rfl)) unknown
    | some handler => rfl
  have fewer : ∀ d ∈ s.unsent.erase drawn, Client.Numbered s.client.calls d := fun d inside => flows.unsent d (List.mem_of_mem_erase inside)
  have part : (s.unsent.erase drawn ++ s.transmitted.map Prod.fst).Sublist (s.unsent ++ s.transmitted.map Prod.fst) :=
    List.erase_sublist.append_right _
  by_cases stays : (makePacket cmd drawn.seq body).encode.isEmpty = true ∨ (!connected) = true
  · rw [if_pos stays]
    exact ⟨flows.counted, fewer, flows.sent, part.nodup flows.single, flows.carried, flows.replies, flows.written, flows.inOrder,
      flows.answered, flows.responses, flows.pushed⟩
  rw [if_neg stays]
  have fits : (makePacket cmd drawn.seq body).Fits := by
    by_contra large
    exact stays (.inl (by rw [RawPacket.encode_eq_nil.mpr (Nat.lt_of_not_le large)]; rfl))
  refine ⟨flows.counted, fewer, ?_, ?_, ?_, fun u inside => ?_, flows.written, flows.inOrder, flows.answered, flows.responses,
    flows.pushed⟩
  · intro t inside
    rcases List.mem_append.mp inside with old | new
    · exact flows.sent t old
    · cases List.mem_singleton.mp new
      exact ⟨flows.unsent drawn waiting, rfl, fits, routed⟩
  · rw [List.map_append, ← List.append_assoc]
    have moved : (s.unsent.erase drawn ++ s.transmitted.map Prod.fst ++ [drawn]).Perm (s.unsent ++ s.transmitted.map Prod.fst) :=
      (List.perm_append_comm).trans ((List.perm_cons_erase waiting).symm.append_right _)
    exact moved.nodup_iff.mpr flows.single
  · have swapped : (s.up ++ [(makePacket cmd drawn.seq body).encode] ++ s.taken.map TakenUp.frame).Perm
        (s.up ++ s.taken.map TakenUp.frame ++ [(makePacket cmd drawn.seq body).encode]) := by
      rw [List.append_assoc, List.append_assoc]
      exact List.perm_append_comm.append_left s.up
    rw [List.map_append]
    exact swapped.trans (flows.carried.append_right _)
  · obtain ⟨t, there, rest⟩ := flows.replies u inside
    exact ⟨t, List.mem_append_left _ there, rest⟩

/-- A packet that the client receives was written on the connection. -/
theorem Flows.head_written (flows : s.Flows e) {frame : Bytes} {rest : List Bytes} {pkt : RawPacket} (next : s.down = frame :: rest)
    (decoded : RawPacket.decode frame = some pkt) : pkt ∈ s.written := by
  have inside : pkt ∈ s.received ++ s.down.filterMap RawPacket.decode := by
    rw [next, List.filterMap_cons_some decoded]
    exact List.mem_append_right _ List.mem_cons_self
  rw [flows.inOrder] at inside
  exact (List.mem_filter.mp inside).1

/-- A reply that was written answers a packet of the client. -/
theorem Flows.of_reply (flows : s.Flows e) {resp : RawPacket} (written : resp ∈ s.written) (reply : resp.seq ≠ 0) :
    ∃ t u, t ∈ s.transmitted ∧ u ∈ s.taken ∧ u.frame = t.2.encode ∧ repliesIn u.packets = [resp] ∧
      (resp.cmd = t.2.cmd ∨ resp.cmd = t.2.cmd + 1) ∧ resp.seq = t.2.seq := by
  have inside : resp ∈ repliesIn s.written := List.mem_filter.mpr ⟨written, by simpa using reply⟩
  rw [flows.written] at inside
  obtain ⟨u, there, inside⟩ := List.mem_flatMap.mp inside
  obtain ⟨t, out, frame, own, -⟩ := flows.replies u there
  refine ⟨t, u, out, there, frame, ?_, own.own resp inside⟩
  have one : (repliesIn u.packets).length = 1 := by
    have some_ := List.length_pos_of_mem inside
    have few := own.few
    omega
  obtain ⟨only, same⟩ := List.length_eq_one_iff.mp one
  rw [same, List.mem_singleton] at inside
  rw [same, inside]

theorem flows_receive (flows : s.Flows e) (deserializes : Bool) : (s.receive deserializes).Flows e := by
  unfold receive
  split
  · exact flows
  next frame rest next =>
  have order := flows.inOrder
  rw [next] at order
  cases decoded : RawPacket.decode frame with
  | none =>
    rw [List.filterMap_cons_none decoded] at order
    exact ⟨flows.counted, flows.unsent, flows.sent, flows.single, flows.carried, flows.replies, flows.written, order, flows.answered,
      flows.responses, flows.pushed⟩
  | some pkt =>
    rw [List.filterMap_cons_some decoded] at order
    have counted : Client.Counted (Client.dispatch s.client pkt deserializes).2 :=
      @counted_step s.client e.timeoutMs flows.counted (.receive pkt deserializes) ((seqLaw_iff flows.counted _).mpr id)
    refine ⟨counted, ?_, ?_, flows.single, flows.carried, flows.replies, flows.written, ?_, ?_, ?_, ?_⟩
    · intro d inside
      rw [dispatch_calls]
      exact flows.unsent d inside
    · intro t inside
      rw [dispatch_calls]
      exact flows.sent t inside
    · dsimp only
      rw [List.append_assoc]
      exact order
    · intro a inside
      rw [dispatch_calls]
      rcases List.mem_append.mp inside with old | new
      · exact flows.answered a old
      · obtain ⟨r, completed, rfl⟩ := List.mem_map.mp new
        obtain ⟨pends, same⟩ := dispatch_completed (Option.mem_toList.mp completed)
        exact ⟨flows.counted.pending r pends, same.symm⟩
    · dsimp only
      rw [List.map_append, List.map_map]
      refine flows.responses.append ?_
      cases (Client.dispatch s.client pkt deserializes).1.completed with
      | none => exact List.nil_sublist _
      | some r => exact List.Sublist.refl _
    · dsimp only
      split
      · next out =>
        intro other inside
        rcases List.mem_append.mp inside with old | new
        · exact flows.pushed other old
        · rw [List.mem_singleton.mp new]
          by_contra reply
          obtain ⟨t, u, sent, -, -, -, cmd, -⟩ := flows.of_reply (flows.head_written next decoded) reply
          obtain ⟨same, ack⟩ := pushTopic_routed (flows.sent t sent).2.2.2
          have topic := dispatch_published out
          rcases cmd with echo | reply
          · rw [echo, same] at topic
            cases topic
          · rw [reply, ack] at topic
            cases topic
      · exact flows.pushed

/-- What an arrival writes on the connection. -/
theorem packetsFor_pushes (hooks : WordlessHooks e.dao) {arrival : WireArrival}
    (other : ∀ data submitted, arrival.input ≠ .frame s.conn data submitted) : repliesIn (s.packetsFor e arrival) = [] := by
  rw [packetsFor]
  split
  · exact (pushesOnly_received hooks e.bodies s.server other).replies
  · rfl

/-- An arrival that writes pushes on the connection. -/
theorem flows_serve (flows : s.Flows e) (hooks : WordlessHooks e.dao) {arrival : WireArrival}
    (other : ∀ data submitted, arrival.input ≠ .frame s.conn data submitted) : (s.serve e arrival).Flows e := by
  refine ⟨flows.counted, flows.unsent, flows.sent, flows.single, flows.carried, fun u inside => ?_, ?_, ?_, flows.answered,
    flows.responses, flows.pushed⟩
  · obtain ⟨t, there, frame, own, open_⟩ := flows.replies u inside
    exact ⟨t, there, frame, own, fun stays => open_ (Bool.and_eq_true_iff.mp stays).1⟩
  · rw [serve, repliesIn, List.filter_append]
    exact (congrArg (_ ++ ·) (packetsFor_pushes hooks other)).trans ((List.append_nil _).trans flows.written)
  · rw [serve, List.filterMap_append, List.filter_append, ← List.append_assoc, flows.inOrder, decode_framesOf]

theorem Flows.closed (flows : s.Flows e) : ({ s with isOpen := false } : Link).Flows e := by
  refine ⟨flows.counted, flows.unsent, flows.sent, flows.single, flows.carried, fun u inside => ?_, flows.written, flows.inOrder,
    flows.answered, flows.responses, flows.pushed⟩
  obtain ⟨t, there, frame, own, -⟩ := flows.replies u inside
  exact ⟨t, there, frame, own, fun stays => Bool.noConfusion stays⟩

theorem flows_elsewhere (flows : s.Flows e) (hooks : WordlessHooks e.dao) (arrival : WireArrival) : (s.elsewhere e arrival).Flows e := by
  unfold elsewhere
  split
  · next c data submitted input =>
    split
    · exact flows
    · next apart =>
      refine flows_serve flows hooks fun _ _ same => apart ?_
      rw [input] at same
      cases same
      rfl
  · next c input =>
    have served : (s.serve e arrival).Flows e := flows_serve flows hooks fun _ _ same => by
      rw [input] at same
      cases same
    split
    · exact served.closed
    · exact served
  · next frames disconnects =>
    exact flows_serve flows hooks fun data submitted same => frames _ _ _ same

theorem flows_takeUp (flows : s.Flows e) (hooks : WordlessHooks e.dao) (place : Nat) (submitted : Bool) (faults : List Bool)
    (elapsed : Nat) (systemMs : Int) : (s.takeUp e place submitted faults elapsed systemMs).Flows e := by
  unfold takeUp
  split
  · exact flows
  next frame found =>
  dsimp only
  generalize is : ({ faults := faults, elapsed := elapsed, systemMs := systemMs, input := .frame s.conn frame submitted } :
    WireArrival) = arrival
  obtain ⟨bound, rfl⟩ := List.getElem?_eq_some_iff.mp found
  obtain ⟨t, there, frame⟩ : ∃ t ∈ s.transmitted, t.2.encode = s.up[place] := by
    have inside : s.up[place] ∈ s.transmitted.map fun t => t.2.encode :=
      flows.carried.subset (List.mem_append_left _ (List.getElem_mem bound))
    exact List.mem_map.mp inside
  obtain ⟨numbered, seq, fits, -⟩ := flows.sent t there
  have decoded : RawPacket.decode s.up[place] = some t.2 := by
    rw [← frame]
    simpa using RawPacket.decode_encode fits []
  obtain ⟨number, few, one, replied⟩ := repliedTo_onMessage hooks e.bodies s.conn submitted (arrival.enter s.server) decoded
  have events : (receivedWire e.dao e.bodies s.server arrival).events =
      ((Gateway.onMessage e.dao e.bodies s.conn s.up[place] submitted).run (arrival.enter s.server)).events := by
    rw [← is]
    rfl
  rw [← events] at replied
  have own : OwnReplies t.2 (s.packetsFor e arrival) := by
    rw [packetsFor]
    split
    · exact ownReplies_of_repliedTo replied few
    · exact ⟨Nat.zero_le 1, fun resp inside => absurd inside List.not_mem_nil⟩
  refine ⟨flows.counted, flows.unsent, flows.sent, flows.single, ?_, fun u inside => ?_, ?_, ?_, flows.answered, flows.responses,
    flows.pushed⟩
  · have moved : (s.up.eraseIdx place ++ (s.taken.map TakenUp.frame ++ [s.up[place]])).Perm (s.up ++ s.taken.map TakenUp.frame) := by
      rw [← List.append_assoc]
      exact List.perm_append_comm.trans ((List.getElem_cons_eraseIdx_perm bound).append_right _)
    dsimp only
    rw [List.map_append]
    exact moved.trans flows.carried
  · rcases List.mem_append.mp inside with old | new
    · obtain ⟨t, there, frame, own, open_⟩ := flows.replies u old
      exact ⟨t, there, frame, own, fun stays => open_ (Bool.and_eq_true_iff.mp stays).1⟩
    · rw [List.mem_singleton.mp new]
      refine ⟨t, there, frame.symm, own, fun stays other => ?_⟩
      obtain ⟨opened, stays⟩ := Bool.and_eq_true_iff.mp stays
      rw [packetsFor, if_pos opened, ← one other]
      exact repliesIn_open replied (seq ▸ numbered.nonzero) (by simpa using stays)
  · dsimp only [serve]
    rw [repliesIn, List.filter_append, List.flatMap_append, List.flatMap_singleton]
    exact congrArg (· ++ _) flows.written
  · dsimp only [serve]
    rw [List.filterMap_append, List.filter_append, ← List.append_assoc, flows.inOrder, decode_framesOf]

theorem flows_step (flows : s.Flows e) (hooks : WordlessHooks e.dao) (event : LinkEvent)
    (few : event.draws = true → s.client.calls + 1 < 2 ^ 32) : (s.step e event).Flows e := by
  have kept : ∀ request, SeqLaw s.client request → (s.client.step e.timeoutMs request).calls = s.client.calls →
      ({ s with client := s.client.step e.timeoutMs request } : Link).Flows e :=
    fun request law calls => flows.client (counted_step flows.counted law) calls
  cases event with
  | nextSeq => exact flows_nextSeq flows (few rfl)
  | addPending drawn now =>
    refine kept (.addPending drawn now) trivial ?_
    rw [ClientRequests.step]
    split <;> rfl
  | sendPacket drawn cmd body connected => exact flows_sendPacket flows drawn cmd body connected
  | checkTimeouts now => exact kept (.checkTimeouts now) trivial rfl
  | cancel seq => exact kept (.cancel seq) trivial rfl
  | cancelAll => exact kept .cancelAll trivial rfl
  | receive deserializes => exact flows_receive flows deserializes
  | takeUp place submitted faults elapsed systemMs => exact flows_takeUp flows hooks place submitted faults elapsed systemMs
  | elsewhere arrival => exact flows_elsewhere flows hooks arrival

/-- The calls of `NextSeq` are counted. -/
theorem calls_step (event : LinkEvent) : (s.step e event).client.calls = s.client.calls + event.draws.toNat := by
  cases event with
  | nextSeq => rfl
  | addPending drawn now =>
    show (s.client.step e.timeoutMs (.addPending drawn now)).calls = s.client.calls
    rw [ClientRequests.step]
    split <;> rfl
  | sendPacket drawn cmd body connected =>
    rw [step, sendPacket]
    split
    · rfl
    · split <;> rfl
  | checkTimeouts now | cancel seq | cancelAll => rfl
  | receive deserializes =>
    rw [step, receive]
    split
    · rfl
    · split
      · rfl
      · exact dispatch_calls
  | takeUp place submitted faults elapsed systemMs =>
    rw [step, takeUp]
    split <;> rfl
  | elsewhere arrival =>
    rw [step, elsewhere]
    split
    · split <;> rfl
    · split <;> rfl
    · rfl

/-- The invariant holds along a run. -/
theorem flows_after (hooks : WordlessHooks e.dao) {events : List LinkEvent} (flows : s.Flows e)
    (few : s.client.calls + events.countP LinkEvent.draws < 2 ^ 32) :
    (after (Link.step e) s events).Flows e ∧ (after (Link.step e) s events).client.calls < 2 ^ 32 := by
  induction events generalizing s with
  | nil => exact ⟨flows, few⟩
  | cons event rest ih =>
    rw [List.countP_cons] at few
    refine ih (flows_step flows hooks event fun draws => ?_) ?_
    · rw [if_pos draws] at few
      omega
    · rw [calls_step]
      cases draws : event.draws
      · simpa [draws] using few
      · simp [draws] at few ⊢
        omega

/-- The seqs of the packets that went out, by the frames that were taken up. -/
theorem Flows.taken_seqs (flows : s.Flows e) (few : s.client.calls < 2 ^ 32) : ((repliesIn s.written).map RawPacket.seq).Nodup := by
  have seqs : (s.transmitted.map fun t => t.2.seq).Nodup := by
    have single := (List.nodup_append.mp flows.single).2.1
    rw [List.nodup_map_iff_inj_on (List.Nodup.of_map _ single)]
    intro t inside t' inside' same
    obtain ⟨numbered, seq, -⟩ := flows.sent t inside
    obtain ⟨numbered', seq', -⟩ := flows.sent t' inside'
    have calls : t.1 = t'.1 := numbered.eq numbered' few (by rw [← seq, ← seq', same])
    exact List.inj_on_of_nodup_map single inside inside' calls
  have decoded : (s.transmitted.map fun t => t.2.encode).filterMap (fun frame => (RawPacket.decode frame).map RawPacket.seq) =
      s.transmitted.map fun t => t.2.seq := by
    rw [List.filterMap_map, ← List.filterMap_eq_map]
    refine List.filterMap_congr fun t inside => ?_
    have whole : RawPacket.decode t.2.encode = some t.2 := by simpa using RawPacket.decode_encode (flows.sent t inside).2.2.1 []
    simp [whole]
  have frames := ((flows.carried.filterMap fun frame => (RawPacket.decode frame).map RawPacket.seq).nodup_iff.mpr (decoded ▸ seqs))
  rw [List.filterMap_append] at frames
  have taken := (List.nodup_append.mp frames).2.1
  rw [flows.written, List.map_flatMap]
  refine List.Sublist.nodup ?_ taken
  rw [List.filterMap_map]
  have each := flows.replies
  generalize s.taken = all at each
  induction all with
  | nil => exact List.Sublist.refl _
  | cons u rest ih =>
    obtain ⟨t, there, frame, own, -⟩ := each u List.mem_cons_self
    have whole : RawPacket.decode t.2.encode = some t.2 := by simpa using RawPacket.decode_encode (flows.sent t there).2.2.1 []
    have ih := ih fun u inside => each u (List.mem_cons_of_mem _ inside)
    rw [List.flatMap_cons, List.filterMap_cons_some (b := t.2.seq) (by simp [frame, whole])]
    have few := own.few
    have seqs := own.own
    generalize repliesIn u.packets = replies at few seqs
    cases replies with
    | nil => exact ih.cons _
    | cons resp more =>
      have none_ : more = [] := List.length_eq_zero_iff.mp (by rw [List.length_cons] at few; omega)
      subst none_
      rw [List.map_singleton, (seqs resp List.mem_cons_self).2]
      exact ih.cons_cons _

end Link

theorem Link.Flows.roundTrips {e : Ends} {s : Link} (flows : s.Flows e) (few : s.client.calls < 2 ^ 32) : s.RoundTrips := by
  have written : ∀ a ∈ s.answered, a.2 ∈ s.written ∧ a.2.seq ≠ 0 := by
    intro a inside
    have there : a.2 ∈ s.received ++ s.down.filterMap RawPacket.decode :=
      List.mem_append_left _ (flows.responses.subset (List.mem_map_of_mem inside))
    rw [flows.inOrder] at there
    obtain ⟨numbered, seq⟩ := flows.answered a inside
    exact ⟨(List.mem_filter.mp there).1, seq ▸ numbered.nonzero⟩
  constructor
  · intro r resp inside
    obtain ⟨numbered, seq⟩ := flows.answered _ inside
    obtain ⟨there, reply⟩ := written _ inside
    obtain ⟨t, u, sent, taken, frame, only, cmd, same⟩ := flows.of_reply there reply
    obtain ⟨numbered', seq', -⟩ := flows.sent t sent
    have mine : t.1 = r.drawn := numbered'.eq numbered few (by rw [← seq', ← same, seq])
    exact ⟨t.2, u, mine ▸ sent, taken, frame, only, cmd, same⟩
  · have order : s.received.Sublist (s.written.filter fun p => p.Fits) := flows.inOrder ▸ List.sublist_append_left ..
    have responses : (s.answered.map Prod.snd).Sublist s.written := flows.responses.trans (order.trans List.filter_sublist)
    have replies : repliesIn (s.answered.map Prod.snd) = s.answered.map Prod.snd := by
      refine List.filter_eq_self.mpr fun resp inside => ?_
      obtain ⟨a, there, rfl⟩ := List.mem_map.mp inside
      simpa using (written a there).2
    have part : (s.answered.map Prod.snd).Sublist (repliesIn s.written) := replies ▸ responses.filter _
    have seqs := (part.map RawPacket.seq).nodup (flows.taken_seqs few)
    have same : (s.answered.map Prod.snd).map RawPacket.seq = (s.answered.map fun a => a.1.drawn).map SeqCall.seq := by
      rw [List.map_map, List.map_map]
      exact List.map_congr_left fun a inside => (flows.answered a inside).2
    exact List.Nodup.of_map _ (same ▸ seqs)
  · exact flows.pushed
  · exact flows.carried
  · exact flows.inOrder
  · intro stays u taken
    obtain ⟨t, sent, frame, own, one⟩ := flows.replies u taken
    refine ⟨t, sent, frame, fun other => ?_⟩
    obtain ⟨resp, only⟩ := List.length_eq_one_iff.mp (one stays other)
    have reply : resp ∈ repliesIn u.packets := only ▸ List.mem_singleton_self resp
    have there : resp ∈ repliesIn s.written := flows.written ▸ List.mem_flatMap.mpr ⟨u, taken, reply⟩
    exact ⟨resp, (List.mem_filter.mp there).1, only, (own.own resp reply).2⟩

/-- Ends that know no body. -/
def plainEnds : Ends := { dao := mysqlDaoFactory, bodies := noBodies, serialize := fun _ => [], timeoutMs := 10000 }

/-- A heartbeat and the ack of a delivery behind it, which is taken up first. -/
def talking : List LinkEvent :=
  [.nextSeq, .addPending ⟨1, 1⟩ 0, .sendPacket ⟨1, 1⟩ 0x0010 [] true, .nextSeq, .sendPacket ⟨2, 2⟩ 0x0103 [] true,
    .takeUp 1 true [] 0 0, .takeUp 0 true [] 0 0, .receive true, .receive true]

end NovaIIM
