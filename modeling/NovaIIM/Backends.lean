import NovaIIM.AllOrNothing
import NovaIIM.Router

/-!
The two database backends.

The factories differ in their transaction hooks alone: `SqliteDaoFactory` overrides them,
`MysqlDaoFactory` has the bodies of the base class, whose BEGIN is refused. So a request that
does not get as far as the BEGIN of its handler is served alike over both, and one that does
is answered with a database error over MySQL (`Parts`).
-/
namespace NovaIIM
open Store

/-! ### Two runs of a handler -/

/-- A handler over any backend runs as over SQLite unless it begins a transaction; and if it does,
    the one reply over MySQL is a database error, and nothing is written. -/
structure Parts (begins : Prop) (conn : ConnId) (cmd : Cmd) (p : DaoFactory → Handler) (w : World) : Prop where
  alike : ¬begins → ∀ dao, (p dao).run w = (p sqliteDaoFactory).run w
  refused : begins → replies conn cmd ((p mysqlDaoFactory).run w).events = [errc.kDatabaseError.code] ∧
    ((p mysqlDaoFactory).run w).state.tables = w.tables

section Rules
variable {begins : Prop} {conn : ConnId} {cmd : Cmd} {w : World} {α : Type}

theorem parts_same {p : Handler} (not_ : ¬begins) : Parts begins conn cmd (fun _ => p) w :=
  ⟨fun _ _ => rfl, fun begun => absurd begun not_⟩

theorem parts_peek {look : Server → α} {f : DaoFactory → α → Handler}
    (rest : Parts begins conn cmd (fun dao => f dao (look w.mem)) w) :
    Parts begins conn cmd (fun dao => peek look >>= f dao) w := by
  constructor <;> simp only [Prog.run_bind, run_peek, List.nil_append]
  · exact rest.alike
  · exact rest.refused

theorem parts_query {failed : α} {answer : Tables → α} {f : DaoFactory → α → Handler} (sound : w.faults = [])
    (rest : Parts begins conn cmd (fun dao => f dao (answer w.tables)) w.spend) :
    Parts begins conn cmd (fun dao => query failed answer >>= f dao) w := by
  constructor <;> simp only [Prog.run_bind, run_query, fails_sound sound, Bool.false_eq_true, if_false, List.nil_append]
  · exact rest.alike
  · exact rest.refused

/-- A lookup by what it finds. -/
theorem parts_lookup {answer : Tables → Option α} {f : DaoFactory → Option α → Handler} (sound : w.faults = [])
    (missed : answer w.tables = none → Parts begins conn cmd (fun dao => f dao none) w.spend)
    (found : ∀ a, answer w.tables = some a → Parts begins conn cmd (fun dao => f dao (some a)) w.spend) :
    Parts begins conn cmd (fun dao => query none answer >>= f dao) w := by
  refine parts_query sound ?_
  cases there : answer w.tables with
  | none => exact missed there
  | some a => exact found a there

theorem parts_ite {c : Prop} [Decidable c] {p q : DaoFactory → Handler} (yes : c → Parts begins conn cmd p w)
    (no : ¬c → Parts begins conn cmd q w) : Parts begins conn cmd (fun dao => if c then p dao else q dao) w := by
  by_cases holds : c
  · simpa only [if_pos holds] using yes holds
  · simpa only [if_neg holds] using no holds

/-- The BEGIN, whose refusal is reported. -/
theorem parts_begin {seq : UInt32} {body : Body} {rest : DaoFactory → Handler} (begun : begins)
    (code : body.code = errc.kDatabaseError.code) :
    Parts begins conn cmd (fun dao => dao.beginTransaction >>= fun begun =>
      if !begun then sendPacket conn cmd seq body else rest dao) w := by
  refine ⟨fun not_ => absurd begun not_, fun _ => ?_⟩
  constructor
  · rw [← code, ← @replies_sendPacket conn cmd seq body w]
    rfl
  · rfl

end Rules

/-! ### The requests that begin a transaction -/

/-- The user with an id who is neither deleted nor banned. -/
def Usable (id : Int) (t : Tables) : Prop :=
  ∃ user, (t.users.rows.find? fun r => r.id = id && r.status ≠ .deleted) = some user ∧ user.status ≠ .banned

/-- The new group passes the checks of its name, its avatar and its members. -/
structure GroupAdmitted (userId : Int) (t : Tables) (req : CreateGroupReq) : Prop where
  named : ¬req.name.isEmpty
  short : ¬100 < req.name.length
  printable : ¬GroupService.containsControlChars req.name
  pictured : ¬512 < req.avatar.length
  several : ¬(GroupService.initialMembers req.memberIds userId).length < 2
  room : ¬GroupService.kMaxGroupMembers < (GroupService.initialMembers req.memberIds userId).length + 1
  known : (t.users.rows.filter fun r => r.id ∈ GroupService.initialMembers req.memberIds userId && r.status ≠ .deleted).length =
    (GroupService.initialMembers req.memberIds userId).length
  unbanned : ¬(t.users.rows.filter fun r => r.id ∈ GroupService.initialMembers req.memberIds userId && r.status ≠ .deleted).any
    fun u => u.status = .banned

namespace Transactional

def handleWith (dao : DaoFactory) : Transactional → Handler
  | createGroup conn seq body => GroupService.handleCreateGroup conn seq body dao
  | dismissGroup conn seq body => GroupService.handleDismissGroup conn seq body dao
  | handleJoinReq conn seq body => GroupService.handleJoinReq conn seq body dao
  | updateGroup conn seq body => GroupService.handleUpdateGroup conn seq body dao
  | handleRequest conn seq body => FriendService.handleRequest conn seq body dao
  | deleteFriend conn seq body => FriendService.handleDeleteFriend conn seq body dao
  | updateProfile conn seq body => UserService.handleUpdateProfile conn seq body dao

/-- The tables let the request of a user get as far as the BEGIN. -/
def Admits (me : Connection) (t : Tables) : Transactional → Prop
  | createGroup _ _ (some req) => GroupAdmitted me.userId t req
  | dismissGroup _ _ (some req) => ¬req.conversationId ≤ 0 ∧
    ∃ group, GroupService.groupOf req.conversationId t = some group ∧ group.ownerId = me.userId
  | handleJoinReq _ _ (some req) => ¬req.requestId ≤ 0 ∧ req.action = 1 ∧
    ∃ jr, (t.groupJoinRequests.rows.find? fun r => r.id = req.requestId) = some jr ∧ jr.status = .pending ∧
      GroupService.mayManage (t.members.rows.find? fun r => r.conversationId = jr.conversationId && r.userId = me.userId) ∧
      Usable jr.userId t
  | updateGroup _ _ (some req) => ¬req.conversationId ≤ 0 ∧
    GroupService.mayManage (t.members.rows.find? fun r => r.conversationId = req.conversationId && r.userId = me.userId) ∧
    (∃ group, GroupService.groupOf req.conversationId t = some group) ∧ GroupService.updateError req = none
  | handleRequest _ _ (some req) => ¬req.requestId ≤ 0 ∧ req.action = 1 ∧
    ∃ fr, (t.friendRequests.rows.find? fun r => r.id = req.requestId) = some fr ∧ fr.toId = me.userId ∧
      fr.status = .pending ∧ Usable fr.fromId t
  | deleteFriend _ _ (some req) => ¬req.targetUid.isEmpty ∧
    ∃ target, UserService.userOf req.targetUid t = some target ∧
      ∃ fs, (t.friendships.rows.find? fun r => r.userId = me.userId && r.friendId = target.id) = some fs ∧ fs.status = .normal
  | updateProfile _ _ (some req) => UserService.profileError (UserService.trim req.nickname) (UserService.trim req.avatar) = none ∧
    ∃ user, UserService.userOf me.uid t = some user
  | _ => False

/-- The request gets as far as the BEGIN of its handler. -/
def Begins (w : World) (request : Transactional) : Prop :=
  (w.mem.connections request.conn).userId ≠ 0 ∧ request.Admits (w.mem.connections request.conn) w.tables

end Transactional

section Handlers
variable {w : World} {conn : ConnId} {seq : UInt32}

private theorem passes_iff {check : Bool} : ¬(!check) = true ↔ check = true := by
  cases check <;> simp

theorem parts_createGroup (sound : w.faults = []) (body : Option CreateGroupReq) :
    Parts (Transactional.Begins w (.createGroup conn seq body)) conn .createGroupAck
      (fun dao => GroupService.handleCreateGroup conn seq body dao) w := by
  refine parts_peek (parts_ite (fun away => parts_same fun begins => begins.1 away) fun known => ?_)
  cases body with
  | none => exact parts_same fun begins => begins.2
  | some req =>
    refine parts_ite (fun no => parts_same fun begins => begins.2.named no) fun named => ?_
    refine parts_ite (fun no => parts_same fun begins => begins.2.short no) fun short => ?_
    refine parts_ite (fun no => parts_same fun begins => begins.2.printable no) fun printable => ?_
    refine parts_ite (fun no => parts_same fun begins => begins.2.pictured no) fun pictured => ?_
    refine parts_ite (fun no => parts_same fun begins => begins.2.several no) fun several => ?_
    refine parts_ite (fun no => parts_same fun begins => begins.2.room no) fun room => ?_
    have asked : (GroupService.initialMembers req.memberIds (w.mem.connections conn).userId).isEmpty = false := by
      cases empty : GroupService.initialMembers req.memberIds (w.mem.connections conn).userId with
      | nil => simp [empty] at several
      | cons id rest => rfl
    simp only [UserDao.findByIds, asked, Bool.false_eq_true, if_false]
    refine parts_query sound (parts_ite (fun no => parts_same fun begins => no begins.2.known) fun found => ?_)
    refine parts_ite (fun no => parts_same fun begins => begins.2.unbanned no) fun unbanned => parts_peek ?_
    exact parts_begin ⟨known, named, short, printable, pictured, several, room, not_not.mp found, unbanned⟩ rfl

theorem parts_dismissGroup (sound : w.faults = []) (body : Option ConversationReq) :
    Parts (Transactional.Begins w (.dismissGroup conn seq body)) conn .dismissGroupAck
      (fun dao => GroupService.handleDismissGroup conn seq body dao) w := by
  refine parts_peek (parts_ite (fun away => parts_same fun begins => begins.1 away) fun known => ?_)
  cases body with
  | none => exact parts_same fun begins => begins.2
  | some req =>
    refine parts_ite (fun no => parts_same fun begins => begins.2.1 no) fun named => parts_lookup sound ?_ ?_
    · intro missing
      refine parts_same fun begins => ?_
      obtain ⟨group, there, -⟩ := begins.2.2
      cases there.symm.trans missing
    · intro group there
      refine parts_ite (fun other => parts_same fun begins => ?_) fun owner => parts_query (spend_sound sound) ?_
      · obtain ⟨group', there', owner⟩ := begins.2.2
        cases there.symm.trans there'
        exact other owner
      · exact parts_begin ⟨known, named, group, there, not_not.mp owner⟩ rfl

theorem parts_handleJoinReq (sound : w.faults = []) (body : Option HandleJoinReqReq) :
    Parts (Transactional.Begins w (.handleJoinReq conn seq body)) conn .handleJoinReqAck
      (fun dao => GroupService.handleJoinReq conn seq body dao) w := by
  refine parts_peek (parts_ite (fun away => parts_same fun begins => begins.1 away) fun known => ?_)
  cases body with
  | none => exact parts_same fun begins => begins.2
  | some req =>
    refine parts_ite (fun no => parts_same fun begins => ?_) fun valid => parts_lookup sound ?_ ?_
    · have numbered := begins.2.1
      have action := begins.2.2.1
      simp [action, numbered] at no
    · intro missing
      refine parts_same fun begins => ?_
      obtain ⟨jr, there, -⟩ := begins.2.2.2
      cases there.symm.trans missing
    · intro jr there
      have same : ∀ begins : Transactional.Begins w (.handleJoinReq conn seq (some req)), jr.status = .pending ∧
          GroupService.mayManage (w.tables.members.rows.find? fun r =>
            r.conversationId = jr.conversationId && r.userId = (w.mem.connections conn).userId) ∧ Usable jr.userId w.tables := by
        intro begins
        obtain ⟨jr', there', rest⟩ := begins.2.2.2
        cases there.symm.trans there'
        exact rest
      refine parts_ite (fun no => parts_same fun begins => no (same begins).1) fun pending => parts_query (spend_sound sound) ?_
      refine parts_ite (fun no => parts_same fun begins => ?_) fun manager => ?_
      · exact passes_iff.mpr (same begins).2.1 no
      refine parts_ite (fun action => parts_lookup (spend_sound (spend_sound sound)) ?_ ?_) fun action => ?_
      · intro missing
        refine parts_same fun begins => ?_
        obtain ⟨user, there, -⟩ := (same begins).2.2
        cases there.symm.trans missing
      · intro user usable
        refine parts_ite (fun no => parts_same fun begins => ?_) fun unbanned => ?_
        · obtain ⟨user', there', unbanned⟩ := (same begins).2.2
          cases usable.symm.trans there'
          simp [unbanned] at no
        · have numbered : ¬req.requestId ≤ 0 := fun no => valid (.inl no)
          have manager := passes_iff.mp manager
          refine parts_begin ⟨known, numbered, action, jr, there, not_not.mp pending, manager, user, usable, ?_⟩ rfl
          simpa using unbanned
      · exact parts_same fun begins => action begins.2.2.1

theorem parts_updateGroup (sound : w.faults = []) (body : Option UpdateGroupReq) :
    Parts (Transactional.Begins w (.updateGroup conn seq body)) conn .updateGroupAck
      (fun dao => GroupService.handleUpdateGroup conn seq body dao) w := by
  refine parts_peek (parts_ite (fun away => parts_same fun begins => begins.1 away) fun known => ?_)
  cases body with
  | none => exact parts_same fun begins => begins.2
  | some req =>
    refine parts_ite (fun no => parts_same fun begins => begins.2.1 no) fun named => parts_query sound ?_
    refine parts_ite (fun no => parts_same fun begins => ?_) fun manager => parts_lookup (spend_sound sound) ?_ ?_
    · have manager := begins.2.2.1
      exact passes_iff.mpr manager no
    · intro missing
      refine parts_same fun begins => ?_
      obtain ⟨group, there⟩ := begins.2.2.2.1
      cases there.symm.trans missing
    · intro group there
      dsimp only
      cases valid : GroupService.updateError req with
      | some e =>
        refine parts_same fun begins => ?_
        cases valid.symm.trans begins.2.2.2.2
      | none =>
        have manager := passes_iff.mp manager
        exact parts_begin ⟨known, named, manager, ⟨group, there⟩, valid⟩ rfl

theorem parts_handleRequest (sound : w.faults = []) (body : Option HandleFriendReqReq) :
    Parts (Transactional.Begins w (.handleRequest conn seq body)) conn .handleFriendReqAck
      (fun dao => FriendService.handleRequest conn seq body dao) w := by
  refine parts_peek (parts_ite (fun away => parts_same fun begins => begins.1 away) fun known => ?_)
  cases body with
  | none => exact parts_same fun begins => begins.2
  | some req =>
    refine parts_ite (fun no => parts_same fun begins => begins.2.1 no) fun numbered => ?_
    refine parts_ite (fun no => parts_same fun begins => no.1 begins.2.2.1) fun _ => parts_lookup sound ?_ ?_
    · intro missing
      refine parts_same fun begins => ?_
      obtain ⟨fr, there, -⟩ := begins.2.2.2
      cases there.symm.trans missing
    · intro fr there
      have same : ∀ begins : Transactional.Begins w (.handleRequest conn seq (some req)),
          fr.toId = (w.mem.connections conn).userId ∧ fr.status = .pending ∧ Usable fr.fromId w.tables := by
        intro begins
        obtain ⟨fr', there', rest⟩ := begins.2.2.2
        cases there.symm.trans there'
        exact rest
      refine parts_ite (fun no => parts_same fun begins => no (same begins).1) fun mine => ?_
      refine parts_ite (fun no => parts_same fun begins => no (same begins).2.1) fun pending => ?_
      refine parts_ite (fun action => parts_lookup (spend_sound sound) ?_ ?_) fun action => ?_
      · intro missing
        refine parts_same fun begins => ?_
        obtain ⟨user, there, -⟩ := (same begins).2.2
        cases there.symm.trans missing
      · intro user usable
        refine parts_ite (fun no => parts_same fun begins => ?_) fun unbanned => ?_
        · obtain ⟨user', there', unbanned⟩ := (same begins).2.2
          cases usable.symm.trans there'
          simp [unbanned] at no
        · refine parts_begin ⟨known, numbered, action, fr, there, not_not.mp mine, not_not.mp pending, user, usable, ?_⟩ rfl
          simpa using unbanned
      · exact parts_same fun begins => action begins.2.2.1

theorem parts_deleteFriend (sound : w.faults = []) (body : Option TargetReq) :
    Parts (Transactional.Begins w (.deleteFriend conn seq body)) conn .deleteFriendAck
      (fun dao => FriendService.handleDeleteFriend conn seq body dao) w := by
  refine parts_peek (parts_ite (fun away => parts_same fun begins => begins.1 away) fun known => ?_)
  cases body with
  | none => exact parts_same fun begins => begins.2
  | some req =>
    refine parts_ite (fun no => parts_same fun begins => begins.2.1 no) fun named => parts_lookup sound ?_ ?_
    · intro missing
      refine parts_same fun begins => ?_
      obtain ⟨target, there, -⟩ := begins.2.2
      cases there.symm.trans missing
    · intro target there
      have same : ∀ begins : Transactional.Begins w (.deleteFriend conn seq (some req)),
          ∃ fs, (w.tables.friendships.rows.find? fun r =>
            r.userId = (w.mem.connections conn).userId && r.friendId = target.id) = some fs ∧ fs.status = .normal := by
        intro begins
        obtain ⟨target', there', rest⟩ := begins.2.2
        cases there.symm.trans there'
        exact rest
      refine parts_lookup (spend_sound sound) ?_ ?_
      · intro missing
        refine parts_same fun begins => ?_
        obtain ⟨fs, there, -⟩ := same begins
        cases there.symm.trans missing
      · intro fs friends
        refine parts_ite (fun no => parts_same fun begins => ?_) fun normal => ?_
        · obtain ⟨fs', friends', normal⟩ := same begins
          cases friends.symm.trans friends'
          exact no normal
        · exact parts_begin ⟨known, named, target, there, fs, friends, not_not.mp normal⟩ rfl

theorem parts_updateProfile (sound : w.faults = []) (body : Option UpdateProfileReq) :
    Parts (Transactional.Begins w (.updateProfile conn seq body)) conn .updateProfileAck
      (fun dao => UserService.handleUpdateProfile conn seq body dao) w := by
  refine parts_peek (parts_ite (fun away => parts_same fun begins => begins.1 away) fun known => ?_)
  cases body with
  | none => exact parts_same fun begins => begins.2
  | some req =>
    dsimp only
    cases valid : UserService.profileError (UserService.trim req.nickname) (UserService.trim req.avatar) with
    | some e =>
      refine parts_same fun begins => ?_
      cases valid.symm.trans begins.2.1
    | none =>
      refine parts_lookup sound ?_ ?_
      · intro missing
        refine parts_same fun begins => ?_
        obtain ⟨user, there⟩ := begins.2.2
        cases there.symm.trans missing
      · intro user there
        exact parts_begin ⟨known, valid, user, there⟩ rfl

theorem parts_handleWith (sound : w.faults = []) (request : Transactional) :
    Parts (request.Begins w) request.conn request.ack (fun dao => request.handleWith dao) w := by
  cases request with
  | createGroup conn seq body => exact parts_createGroup sound body
  | dismissGroup conn seq body => exact parts_dismissGroup sound body
  | handleJoinReq conn seq body => exact parts_handleJoinReq sound body
  | updateGroup conn seq body => exact parts_updateGroup sound body
  | handleRequest conn seq body => exact parts_handleRequest sound body
  | deleteFriend conn seq body => exact parts_deleteFriend sound body
  | updateProfile conn seq body => exact parts_updateProfile sound body

end Handlers

/-! ### The server over either backend -/

/-- The packet as a request that is served by a transaction. -/
def Router.Request.transactional : Router.Request → Option Transactional
  | .user (.updateProfile conn seq body) => some (.updateProfile conn seq body)
  | .friend (.handleRequest conn seq body) => some (.handleRequest conn seq body)
  | .friend (.deleteFriend conn seq body) => some (.deleteFriend conn seq body)
  | .group (.createGroup conn seq body) => some (.createGroup conn seq body)
  | .group (.dismissGroup conn seq body) => some (.dismissGroup conn seq body)
  | .group (.handleJoinReq conn seq body) => some (.handleJoinReq conn seq body)
  | .group (.updateGroup conn seq body) => some (.updateGroup conn seq body)
  | _ => none

/-- The input is a packet whose handler gets as far as its BEGIN. -/
def Input.Begins (w : World) : Input → Prop
  | .packet request => ∃ transactional, request.transactional = some transactional ∧ transactional.Begins w
  | _ => False

section Server
variable {w : World}

/-- A packet is served by its transactional handler, or in a way that does not depend on the backend. -/
theorem dispatch_eq (request : Router.Request) :
    (∃ transactional, request.transactional = some transactional ∧
        ∀ dao, Router.dispatch dao request = transactional.handleWith dao) ∨
      request.transactional = none ∧ ∀ dao, Router.dispatch dao request = Router.dispatch sqliteDaoFactory request := by
  cases request with
  | user request => cases request <;> first | exact .inl ⟨_, rfl, fun _ => rfl⟩ | exact .inr ⟨rfl, fun _ => rfl⟩
  | friend request => cases request <;> first | exact .inl ⟨_, rfl, fun _ => rfl⟩ | exact .inr ⟨rfl, fun _ => rfl⟩
  | group request => cases request <;> first | exact .inl ⟨_, rfl, fun _ => rfl⟩ | exact .inr ⟨rfl, fun _ => rfl⟩
  | msg request | sync request | conv request | file request => exact .inr ⟨rfl, fun _ => rfl⟩

/-- What does not begin a transaction is served alike over any backend. -/
theorem serve_alike (sound : w.faults = []) {input : Input} (not_ : ¬input.Begins w) (dao : DaoFactory) :
    (serve dao input).run w = (serve sqliteDaoFactory input).run w := by
  cases input with
  | packet request =>
    rcases dispatch_eq request with ⟨transactional, is_, dispatched⟩ | ⟨-, same⟩
    · have parts := parts_handleWith sound transactional
      rw [serve, serve, dispatched, dispatched]
      exact parts.alike (fun begins => not_ ⟨transactional, is_, begins⟩) dao
    · rw [serve, serve, same]
  | disconnected conn | admin request | bus => rfl

/-- What begins a transaction is answered over MySQL with a database error, and nothing is written. -/
theorem mysql_refuses (sound : w.faults = []) {request : Router.Request} {transactional : Transactional}
    (is_ : request.transactional = some transactional) (begins : transactional.Begins w) :
    replies transactional.conn transactional.ack ((serve mysqlDaoFactory (.packet request)).run w).events =
        [errc.kDatabaseError.code] ∧
      ((serve mysqlDaoFactory (.packet request)).run w).state.tables = w.tables := by
  rcases dispatch_eq request with ⟨transactional', is', dispatched⟩ | ⟨none_, -⟩
  · cases is_.symm.trans is'
    rw [serve, dispatched]
    exact (parts_handleWith sound transactional).refused begins
  · cases is_.symm.trans none_

/-- In a run without failures in which nothing that arrives begins a transaction, the server sends the
    same over MySQL as over SQLite, and all the way it has the same tables. -/
theorem backends_agree (w : World) (arrivals : List Arrival) (sound : ∀ arrival ∈ arrivals, arrival.faults = [])
    (plain : Along (receive sqliteDaoFactory) (fun w arrival => ¬arrival.input.Begins w) w arrivals) :
    sentAlong mysqlDaoFactory w arrivals = sentAlong sqliteDaoFactory w arrivals ∧
      ∀ sofar, sofar <+: arrivals →
        (after (receive mysqlDaoFactory) w sofar).tables = (after (receive sqliteDaoFactory) w sofar).tables := by
  suffices same : sentAlong mysqlDaoFactory w arrivals = sentAlong sqliteDaoFactory w arrivals ∧
      ∀ sofar, sofar <+: arrivals → after (receive mysqlDaoFactory) w sofar = after (receive sqliteDaoFactory) w sofar from
    ⟨same.1, fun sofar short => congrArg Store.tables (same.2 sofar short)⟩
  induction arrivals generalizing w with
  | nil => exact ⟨rfl, fun sofar short => by rw [List.prefix_nil.mp short, after_nil, after_nil]⟩
  | cons arrival rest ih =>
    obtain ⟨here, later⟩ := plain
    have outcome : received mysqlDaoFactory w arrival = received sqliteDaoFactory w arrival := by
      have entered : ((arrival.call w).enter w).faults = [] := sound arrival List.mem_cons_self
      refine serve_alike entered (fun begins => here ?_) _
      cases input : arrival.input <;> simp only [Arrival.call, input] at begins <;> exact begins
    have next : receive mysqlDaoFactory w arrival = receive sqliteDaoFactory w arrival := congrArg Outcome.state outcome
    obtain ⟨sent, states⟩ := ih _ (fun other inside => sound other (List.mem_cons_of_mem _ inside)) later
    refine ⟨?_, fun sofar short => ?_⟩
    · rw [sentAlong, sentAlong, outcome, next, sent]
    · cases sofar with
      | nil => rw [after_nil, after_nil]
      | cons first more =>
        obtain ⟨rfl, inside⟩ := List.cons_prefix_cons.mp short
        rw [after_cons, after_cons, next]
        exact states more inside

/-- Two users who are logged in, and a request for a new profile of the first one. -/
def profiled (nickname : Bytes) : World × Arrival :=
  ({ twoUsers with mem := { connections := bothOnline.connections } },
    { input := .packet (.user (.updateProfile 1 0 (some { nickname := nickname, avatar := [], fileHash := [] }))) })

/-- Two friends who are logged in; user 1 writes, and asks for a profile without any field. -/
private def chatting : World × List Arrival :=
  ({ (after (perform handle) twoUsers befriending) with mem := { connections := bothOnline.connections } },
    [{ input := .packet (.msg (.sendMsg 1 0 (some { conversationId := 1, content := [97], clientMsgId := [] }))) }, (profiled []).2])

/-- The message is stored and the update turned away over both. -/
theorem backends_agree_writing :
    sentAlong mysqlDaoFactory chatting.1 chatting.2 = sentAlong sqliteDaoFactory chatting.1 chatting.2 ∧
      (after (receive mysqlDaoFactory) chatting.1 chatting.2).tables = (after (receive sqliteDaoFactory) chatting.1 chatting.2).tables ∧
      (after (receive mysqlDaoFactory) chatting.1 chatting.2).tables.messages.rows.map Message.content = [[97]] := by
  have plain : Along (receive sqliteDaoFactory) (fun w arrival => ¬arrival.input.Begins w) chatting.1 chatting.2 := by
    refine ⟨?_, ?_, trivial⟩
    · rintro ⟨transactional, is_, -⟩
      cases is_
    · rintro ⟨transactional, is_, -, admits⟩
      cases is_
      have valid := admits.1
      revert valid
      decide
  obtain ⟨sent, tables⟩ := backends_agree chatting.1 chatting.2 (by simp [chatting, profiled]) plain
  exact ⟨sent, tables chatting.2 (List.prefix_refl _), by decide⟩

/-- User 1 takes the name `n`: SQLite stores it, MySQL answers with a database error. -/
theorem mysql_keeps_name :
    let (w, arrival) := profiled (ascii "n")
    replies 1 .updateProfileAck (sentAlong sqliteDaoFactory w [arrival]) = [0] ∧
      replies 1 .updateProfileAck (sentAlong mysqlDaoFactory w [arrival]) = [-100] ∧
      (receive sqliteDaoFactory w arrival).tables.users.rows.map User.nickname = [ascii "n", []] ∧
      (receive mysqlDaoFactory w arrival).tables.users.rows.map User.nickname = [[], []] := by
  decide

end Server

end NovaIIM
