import NovaIIM.Dao
import NovaIIM.Transactions

/-!
Replies: the codes with which a request is answered.

A handler answers on the connection the request came on, with a command of its
own; what it sends to others has other commands (`Mute`).
-/
namespace NovaIIM
open Store

/-- The code in a body; pushes carry none. -/
def Body.code : Body → Int
  | rspBase body => body.code
  | registerAck body => body.code
  | loginAck body => body.code
  | getUserProfileAck body => body.code
  | searchUserAck body => body.code
  | sendMsgAck body => body.code
  | syncMsgResp body => body.code
  | syncUnreadResp body => body.code
  | addFriendAck body => body.code
  | handleFriendReqAck body => body.code
  | getFriendListAck body => body.code
  | getFriendRequestsAck body => body.code
  | getConvListAck body => body.code
  | createGroupAck body => body.code
  | getGroupInfoAck body => body.code
  | getGroupMembersAck body => body.code
  | getMyGroupsAck body => body.code
  | uploadAck body => body.code
  | uploadCompleteAck body => body.code
  | downloadAck body => body.code
  | pushMsg _ | recallNotify _ | friendNotify _ | convUpdate _ | groupNotify _ => 0

/-- The code that an event answers a request on a connection with. -/
def replyCode (conn : ConnId) (cmd : Cmd) : Event → Option Int
  | .sent c packet => if c = conn ∧ packet.cmd = cmd then some packet.body.code else none
  | _ => none

/-- The codes of all replies to a request on a connection. -/
def replies (conn : ConnId) (cmd : Cmd) (events : List Event) : List Int := events.filterMap (replyCode conn cmd)

/-- The one reply is an error. -/
def Refused (conn : ConnId) (cmd : Cmd) (events : List Event) : Prop := ∃ code ≠ 0, replies conn cmd events = [code]

/-- The one reply is OK, and the tables have a property. -/
def Granted (conn : ConnId) (cmd : Cmd) (intended : Tables → Prop) (events : List Event) (t : Tables) : Prop :=
  replies conn cmd events = [0] ∧ intended t

/-- The one reply is an error, and the request is not one that misses a write. -/
def RefusedUnless (conn : ConnId) (cmd : Cmd) (misses : Prop) (events : List Event) : Prop :=
  Refused conn cmd events ∧ ¬misses

/-- The one reply is OK, and the tables are as they are to be unless the request misses a write. -/
def GrantedEither (conn : ConnId) (cmd : Cmd) (misses : Prop) (intended missed : Tables → Prop) (events : List Event)
    (t : Tables) : Prop :=
  replies conn cmd events = [0] ∧ (misses ∧ missed t ∨ ¬misses ∧ intended t)

section Replies
variable {conn : ConnId} {cmd : Cmd}

@[simp] theorem replies_nil : replies conn cmd [] = [] := rfl

theorem replies_append (first second : List Event) :
    replies conn cmd (first ++ second) = replies conn cmd first ++ replies conn cmd second := by
  simp [replies]

@[simp] theorem replies_sendPacket (seq : UInt32) (body : Body) (w : World) :
    replies conn cmd ((sendPacket conn cmd seq body).run w).events = [body.code] := by
  simp [sendPacket, send, replies, replyCode]

@[simp] theorem replies_sendRsp (seq : UInt32) (e : Error) (w : World) :
    replies conn cmd ((sendRsp conn cmd seq e).run w).events = [e.code] := replies_sendPacket _ _ _

theorem refused_sendRsp {seq : UInt32} {e : Error} (bad : e.code ≠ 0) (w : World) :
    Refused conn cmd ((sendRsp conn cmd seq e).run w).events := ⟨_, bad, replies_sendRsp _ _ _⟩

/-! ### Programs that answer nothing -/

/-- The program sends no packet of the command. -/
def Mute {α : Type} (conn : ConnId) (cmd : Cmd) (p : Action α) : Prop := ∀ w, replies conn cmd (p.run w).events = []

variable {α β : Type}

theorem mute_ret (value : α) : Mute conn cmd (.ret value : Action α) := fun _ => rfl

theorem mute_bind {p : Action α} {f : α → Action β} (first : Mute conn cmd p) (rest : ∀ a, Mute conn cmd (f a)) :
    Mute conn cmd (p >>= f) := by
  intro w
  rw [Prog.run_bind, replies_append, first, rest]
  rfl

theorem mute_query (failed : α) (answer : Tables → α) : Mute conn cmd (query failed answer : Action α) := by
  intro w
  rw [run_query]
  rfl

theorem mute_peek (look : Server → α) : Mute conn cmd (peek look : Action α) := by
  intro w
  rw [run_peek]
  rfl

theorem mute_send {c : ConnId} {packet : Packet} (other : packet.cmd ≠ cmd) : Mute conn cmd (send c packet) := by
  intro w
  simp [send, replies, replyCode, other]

theorem mute_forEach {items : List β} {body : β → Handler} (each : ∀ item, Mute conn cmd (body item)) :
    Mute conn cmd (.forEach items body) := by
  induction items with
  | nil => exact mute_ret ()
  | cons item rest ih => exact mute_bind (each item) fun _ => ih

theorem mute_sendToUser {userId : Int} {packet : Packet} (other : packet.cmd ≠ cmd) :
    Mute conn cmd (sendToUser userId packet) :=
  mute_bind (mute_peek _) fun _ => mute_forEach fun _ => mute_send other

/-- The reply behind a part that answers nothing. -/
theorem replies_after {p : Action α} {f : α → Action β} (mute : Mute conn cmd p) (w : World) :
    replies conn cmd ((p >>= f).run w).events =
      replies conn cmd ((f (p.run w).value).run (p.run w).state).events := by
  rw [Prog.run_bind, replies_append, mute, List.nil_append]

/-- The reply before one. -/
theorem replies_before {p : Action α} {f : α → Action β} (mute : ∀ a, Mute conn cmd (f a)) (w : World) :
    replies conn cmd ((p >>= f).run w).events = replies conn cmd (p.run w).events := by
  rw [Prog.run_bind, replies_append, mute, List.append_nil]

end Replies
end NovaIIM
