import NovaIIM.Calendar
import NovaIIM.ConnManager
import NovaIIM.DedupCache
import NovaIIM.RateLimiter
import NovaIIM.Store

/-!
The state of a running server and the actions its handlers take outside of the
database: `Connection`, `ServerContext` and `ServiceBase::SendPacket`.

A `World` is the database with the memory of the server process. The memory
holds both clocks; they only move when the environment moves them. A handler is
a program over worlds whose events are what it sends, the connections it closes
and the keys it uses in the dedup cache.
-/
namespace NovaIIM

/-- `net/connection.h`: who is logged in on a connection. -/
structure Connection where
  userId : Int := 0
  uid : Bytes := []
  deviceId : Bytes := []
  deviceType : Bytes := []
deriving DecidableEq, Repr

/-- The fields of `ServerConfig` that the services read, converted to the types
    they are stored in, and the functions of `PasswordUtils`. -/
structure ServerConfig where
  maxContentSize : Nat := 4096
  dedupCacheSize : Nat := 10000
  recallTimeoutSecs : Int := 120
  syncDefault : Int := 20
  syncMax : Int := 100
  passwordVerify : Bytes → Bytes → Bool := fun _ _ => false
  passwordHash : Bytes → Bytes := fun _ => []

/-- What the admin server tells the rest of the server over the message bus (`core/events.h`). -/
inductive BusEvent where
  | adminKickUser (userId : Int)
  | adminRecallMsg (messageId conversationId serverSeq : Int)
deriving DecidableEq, Repr

/-- The memory of the server process. -/
structure Server where
  config : ServerConfig := {}
  connections : ConnId → Connection := fun _ => {}
  connManager : ConnManager := {}
  dedup : DedupCache := ∅
  inFlight : AList (fun _ : Bytes => Nat) := ∅
  loginLimiter : RateLimiter := { maxAttempts := 5, window := 60000000000 }
  registerLimiter : RateLimiter := { maxAttempts := 5, window := 60000000000 }
  /-- the ids that the snowflake generator hands out, and how many it has -/
  snowflake : Nat → Bytes := fun _ => []
  issued : Nat := 0
  /-- the events that the bus has not handed to their subscriber -/
  bus : List BusEvent := []
  /-- `steady_clock::now()`, in nanoseconds. -/
  steady : Nat := 0
  /-- `system_clock::now()`, in milliseconds. -/
  systemMs : Int := 0

abbrev World := Store Tables Server

inductive Event where
  | sent (conn : ConnId) (packet : Packet)
  | closed (conn : ConnId)
  /-- a lookup or an insertion of a key in the dedup cache -/
  | dedup (key : Bytes)
deriving DecidableEq, Repr

abbrev Action := Prog World Event
abbrev Handler := Action Unit

open Store

/-- The fields of the connection, as they are now. -/
def connection (conn : ConnId) : Action Connection := peek fun m => m.connections conn

/-- `c->Send(pkt)`. -/
def send (conn : ConnId) (packet : Packet) : Handler := .emits fun _ => [.sent conn packet]

/-- `conn->Close()`. -/
def close (conn : ConnId) : Handler := .emits fun _ => [.closed conn]

/-- `ServiceBase::SendPacket`. -/
def sendPacket (conn : ConnId) (cmd : Cmd) (seq : UInt32) (body : Body) : Handler :=
  send conn { cmd := cmd, seq := seq, uid := 0, body := body }

/-- A reply that carries nothing but a code and a text. -/
def sendRsp (conn : ConnId) (cmd : Cmd) (seq : UInt32) (e : Error) : Handler :=
  sendPacket conn cmd seq (.rspBase ⟨e.code, e.msg⟩)

/-- `ctx_.conn_manager().GetConns(userId)`. -/
def getConns (userId : Int) : Action (List ConnId) := peek fun m => m.connManager.getConns userId

/-- Send a packet to every connection of a user. -/
def sendToUser (userId : Int) (packet : Packet) : Handler := do
  let conns ← getConns userId
  .forEach conns fun c => send c packet

/-- `NowUtcStr()`. -/
def nowUtcStr : Action Bytes := peek fun m => Calendar.formatUtc (m.systemMs / 1000)

/-- The transaction hooks of `DaoFactory`, with the bodies they have in the base class. -/
structure DaoFactory where
  beginTransaction : Action Bool := return false
  commit : Action Bool := return false
  rollback : Handler := return ()

/-- `SqliteDaoFactory` overrides the three hooks. -/
@[reducible] def sqliteDaoFactory : DaoFactory where
  beginTransaction := Store.beginTransaction
  commit := Store.commit
  rollback := Store.rollback

/-- `MysqlDaoFactory` overrides none of them. -/
def mysqlDaoFactory : DaoFactory := {}

/-- The way out of an open transaction: the error reply, then the deferred rollback. -/
def abort (reply : Handler) (dao : DaoFactory := sqliteDaoFactory) : Handler := do
  reply
  dao.rollback

/-! ### None of these touches the data -/

theorem silent_send {conn : ConnId} {packet : Packet} : Silent (send conn packet) := silent_emits _

theorem silent_close {conn : ConnId} : Silent (close conn) := silent_emits _

theorem silent_sendPacket {conn : ConnId} {cmd : Cmd} {seq : UInt32} {body : Body} :
    Silent (sendPacket conn cmd seq body) := silent_emits _

theorem silent_sendRsp {conn : ConnId} {cmd : Cmd} {seq : UInt32} {e : Error} :
    Silent (sendRsp conn cmd seq e) := silent_emits _

theorem silent_sendToUser {userId : Int} {packet : Packet} : Silent (sendToUser userId packet) :=
  silent_bind (silent_peek _) fun _ => silent_forEach fun _ => silent_send

end NovaIIM
