import NovaIIM.AdminServer
import NovaIIM.Calls
import NovaIIM.ConvService
import NovaIIM.FileService
import NovaIIM.FriendService
import NovaIIM.GroupService
import NovaIIM.SyncService

/-!
The server as one system: the routes (`core/application.cpp`), a connection that closes
(`net/gateway.cpp`), the admin server and the dispatcher of the bus.

An `Arrival` is an input with the circumstances in which it is served. It is served in
the world as it is, with the sessions that earlier inputs have made, so a serial run of
the server is a list of arrivals.
-/
namespace NovaIIM
open Store

/-! ### The handlers over a database backend -/

def UserService.handleWith (dao : DaoFactory) : UserService.Request → Handler
  | .updateProfile conn seq body => handleUpdateProfile conn seq body dao
  | request => handle request

def FriendService.handleWith (dao : DaoFactory) : FriendService.Request → Handler
  | .handleRequest conn seq body => FriendService.handleRequest conn seq body dao
  | .deleteFriend conn seq body => handleDeleteFriend conn seq body dao
  | request => handle request

def GroupService.handleWith (dao : DaoFactory) : GroupService.Request → Handler
  | .createGroup conn seq body => handleCreateGroup conn seq body dao
  | .dismissGroup conn seq body => handleDismissGroup conn seq body dao
  | .handleJoinReq conn seq body => GroupService.handleJoinReq conn seq body dao
  | .updateGroup conn seq body => handleUpdateGroup conn seq body dao
  | request => handle request

namespace Router

/-- A packet that `RegisterRoutes` has a handler for. -/
inductive Request where
  | user (request : UserService.Request)
  | msg (request : MsgService.Request)
  | sync (request : SyncService.Request)
  | friend (request : FriendService.Request)
  | conv (request : ConvService.Request)
  | group (request : GroupService.Request)
  | file (request : FileService.Request)

def Request.conn : Request → ConnId
  | user request => request.conn
  | msg request => request.conn
  | sync request => request.conn
  | friend request => request.conn
  | conv request => request.conn
  | group request => request.conn
  | file request => request.conn

/-- `Router::Dispatch`. -/
def dispatch (dao : DaoFactory) : Request → Handler
  | .user request => UserService.handleWith dao request
  | .msg request => MsgService.handle request
  | .sync request => SyncService.handle request
  | .friend request => FriendService.handleWith dao request
  | .conv request => ConvService.handle request
  | .group request => GroupService.handleWith dao request
  | .file request => FileService.handle request

end Router

@[simp] theorem UserService.handleWith_sqlite (request : UserService.Request) :
    handleWith sqliteDaoFactory request = handle request := by
  cases request <;> rfl

@[simp] theorem FriendService.handleWith_sqlite (request : FriendService.Request) :
    handleWith sqliteDaoFactory request = handle request := by
  cases request <;> rfl

@[simp] theorem GroupService.handleWith_sqlite (request : GroupService.Request) :
    handleWith sqliteDaoFactory request = handle request := by
  cases request <;> rfl

/-! ### The system -/

/-- `Gateway::OnConnection` for a connection that has closed. -/
def Gateway.onDisconnected (conn : ConnId) : Handler := do
  let me ← connection conn
  if me.userId = 0 then return () else UserService.removeConn me.userId conn

/-- What the server has to serve. -/
inductive Input where
  | packet (request : Router.Request)
  | disconnected (conn : ConnId)
  | admin (request : AdminServer.Request)
  /-- the bus hands over its next event -/
  | bus

def serve (dao : DaoFactory) : Input → Handler
  | .packet request => Router.dispatch dao request
  | .disconnected conn => Gateway.onDisconnected conn
  | .admin request => do
    let _ ← AdminServer.handle request
    return ()
  | .bus => Application.dispatchMessage

/-- An input and the circumstances in which it is served. -/
structure Arrival where
  faults : List Bool := []
  elapsed : Nat := 0
  systemMs : Int := 0
  input : Input

/-- The arrival as a call; who is logged in is as the world has it. -/
def Arrival.call (arrival : Arrival) (w : World) : Call Input where
  faults := arrival.faults
  elapsed := arrival.elapsed
  systemMs := arrival.systemMs
  connections := w.mem.connections
  connManager := w.mem.connManager
  request := arrival.input

/-- What the service of an arrival leads to. -/
def received (dao : DaoFactory) (w : World) (arrival : Arrival) : Outcome World Event Unit :=
  served (serve dao) w (arrival.call w)

/-- The world after an arrival. -/
def receive (dao : DaoFactory) (w : World) (arrival : Arrival) : World := (received dao w arrival).state

/-- What a run sends, arrival by arrival. -/
def sentAlong (dao : DaoFactory) : World → List Arrival → List Event
  | _, [] => []
  | w, arrival :: rest => (received dao w arrival).events ++ sentAlong dao (receive dao w arrival) rest

section Entered
variable (arrival : Arrival) (w : World)

@[simp] theorem entered_tables : ((arrival.call w).enter w).tables = w.tables := rfl
@[simp] theorem entered_saved : ((arrival.call w).enter w).saved = w.saved := rfl
@[simp] theorem entered_connections : ((arrival.call w).enter w).mem.connections = w.mem.connections := rfl
@[simp] theorem entered_connManager : ((arrival.call w).enter w).mem.connManager = w.mem.connManager := rfl
@[simp] theorem entered_config : ((arrival.call w).enter w).mem.config = w.mem.config := rfl

end Entered
end NovaIIM
