import NovaIIM.Calendar
import NovaIIM.Rows

/-!
The rows of the database and its tables, as `model/types.h` and the schema of
`SqliteDbManager::InitSchema` have them.

Text that users choose is a list of bytes, as a `std::string` is. Ids and
sequence numbers are integers. The columns that only ever hold the values of an
enumeration have that enumeration as their type.
-/
namespace NovaIIM

/-- A `std::string`. -/
abbrev Bytes := List UInt8

instance : LawfulBEq Bytes := inferInstance

/-- The bytes of an ASCII literal. -/
def ascii (s : String) : Bytes := s.toList.map fun c => UInt8.ofNat c.toNat

/-- `std::to_string`. -/
def decimalText (n : Int) : Bytes :=
  if n < 0 then 45 :: Calendar.decimal 0 (-n) else Calendar.decimal 0 n

inductive AccountStatus where
  | normal | banned | deleted
deriving DecidableEq, Repr

inductive MemberRole where
  | member | admin | owner
deriving DecidableEq, Repr

/-- The number behind a role: roles are compared by it. -/
def MemberRole.code : MemberRole → Int
  | member => 0
  | admin => 1
  | owner => 2

inductive MsgStatus where
  | normal | recalled | deleted
deriving DecidableEq, Repr

inductive ConvType where
  | unset | private_ | group
deriving DecidableEq, Repr

def ConvType.code : ConvType → Int
  | unset => 0
  | private_ => 1
  | group => 2

inductive FriendRequestStatus where
  | pending | accepted | rejected
deriving DecidableEq, Repr

def FriendRequestStatus.code : FriendRequestStatus → Int
  | pending => 0
  | accepted => 1
  | rejected => 2

inductive FriendshipStatus where
  | normal | blocked | deleted
deriving DecidableEq, Repr

inductive JoinRequestStatus where
  | pending | accepted | rejected
deriving DecidableEq, Repr

inductive FileStatus where
  | active | deleted
deriving DecidableEq, Repr

/-- `IsValidMsgType`. -/
def isValidMsgType (v : Int) : Bool := (1 ≤ v && v ≤ 10) || 100 ≤ v

structure User where
  id : Int := 0
  uid : Bytes := []
  email : Bytes := []
  passwordHash : Bytes := []
  nickname : Bytes := []
  avatar : Bytes := []
  status : AccountStatus := .normal
  createdAt : Bytes := []
  updatedAt : Bytes := []
deriving DecidableEq, Repr

structure UserDevice where
  id : Int := 0
  uid : Bytes := []
  deviceId : Bytes := []
  deviceType : Bytes := []
  lastActiveAt : Bytes := []
  createdAt : Bytes := []
deriving DecidableEq, Repr

structure Message where
  id : Int := 0
  conversationId : Int := 0
  senderId : Int := 0
  seq : Int := 0
  msgType : Int := 0
  content : Bytes := []
  encryptedContent : Bytes := []
  status : MsgStatus := .normal
  clientMsgId : Bytes := []
  createdAt : Bytes := []
deriving DecidableEq, Repr

structure Conversation where
  id : Int := 0
  type : ConvType := .unset
  name : Bytes := []
  avatar : Bytes := []
  ownerId : Int := 0
  maxSeq : Int := 0
  createdAt : Bytes := []
  updatedAt : Bytes := []
deriving DecidableEq, Repr

structure ConversationMember where
  id : Int := 0
  conversationId : Int := 0
  userId : Int := 0
  role : MemberRole := .member
  lastReadSeq : Int := 0
  lastAckSeq : Int := 0
  mute : Int := 0
  pinned : Int := 0
  hidden : Int := 0
  joinedAt : Bytes := []
deriving DecidableEq, Repr

structure FriendRequest where
  id : Int := 0
  fromId : Int := 0
  toId : Int := 0
  message : Bytes := []
  status : FriendRequestStatus := .pending
  createdAt : Bytes := []
  updatedAt : Bytes := []
deriving DecidableEq, Repr

structure Friendship where
  id : Int := 0
  userId : Int := 0
  friendId : Int := 0
  conversationId : Int := 0
  status : FriendshipStatus := .normal
  createdAt : Bytes := []
  updatedAt : Bytes := []
deriving DecidableEq, Repr

structure Group where
  id : Int := 0
  conversationId : Int := 0
  name : Bytes := []
  avatar : Bytes := []
  ownerId : Int := 0
  notice : Bytes := []
  createdAt : Bytes := []
deriving DecidableEq, Repr

structure GroupJoinRequest where
  id : Int := 0
  conversationId : Int := 0
  userId : Int := 0
  remark : Bytes := []
  status : JoinRequestStatus := .pending
  createdAt : Bytes := []
  updatedAt : Bytes := []
deriving DecidableEq, Repr

structure UserFile where
  id : Int := 0
  userId : Int := 0
  fileType : Bytes := []
  filePath : Bytes := []
  fileName : Bytes := []
  fileSize : Int := 0
  mimeType : Bytes := []
  hash : Bytes := []
  status : FileStatus := .active
  createdAt : Bytes := []
  updatedAt : Bytes := []
deriving DecidableEq, Repr

/-! ### Ids and unique constraints -/

/-- `ormpp_unique{{"uid"}}, ormpp_unique{{"email"}}`. -/
instance : Row User where
  id := User.id
  withId n r := { r with id := n }
  clash a b := a.uid = b.uid || a.email = b.email
  id_withId _ _ := rfl
  clash_comm a b := by simp [eq_comm]
  clash_withId _ _ _ := rfl

/-- `ormpp_unique{{"uid", "device_id"}}`. -/
instance : Row UserDevice where
  id := UserDevice.id
  withId n r := { r with id := n }
  clash a b := a.uid = b.uid && a.deviceId = b.deviceId
  id_withId _ _ := rfl
  clash_comm a b := by simp [eq_comm]
  clash_withId _ _ _ := rfl

instance : Row Message where
  id := Message.id
  withId n r := { r with id := n }
  clash _ _ := false
  id_withId _ _ := rfl
  clash_comm _ _ := rfl
  clash_withId _ _ _ := rfl

instance : Row Conversation where
  id := Conversation.id
  withId n r := { r with id := n }
  clash _ _ := false
  id_withId _ _ := rfl
  clash_comm _ _ := rfl
  clash_withId _ _ _ := rfl

/-- `ormpp_unique{{"conversation_id", "user_id"}}`. -/
instance : Row ConversationMember where
  id := ConversationMember.id
  withId n r := { r with id := n }
  clash a b := a.conversationId = b.conversationId && a.userId = b.userId
  id_withId _ _ := rfl
  clash_comm a b := by simp [eq_comm]
  clash_withId _ _ _ := rfl

instance : Row FriendRequest where
  id := FriendRequest.id
  withId n r := { r with id := n }
  clash _ _ := false
  id_withId _ _ := rfl
  clash_comm _ _ := rfl
  clash_withId _ _ _ := rfl

/-- `ormpp_unique{{"user_id", "friend_id"}}`. -/
instance : Row Friendship where
  id := Friendship.id
  withId n r := { r with id := n }
  clash a b := a.userId = b.userId && a.friendId = b.friendId
  id_withId _ _ := rfl
  clash_comm a b := by simp [eq_comm]
  clash_withId _ _ _ := rfl

instance : Row Group where
  id := Group.id
  withId n r := { r with id := n }
  clash _ _ := false
  id_withId _ _ := rfl
  clash_comm _ _ := rfl
  clash_withId _ _ _ := rfl

instance : Row GroupJoinRequest where
  id := GroupJoinRequest.id
  withId n r := { r with id := n }
  clash _ _ := false
  id_withId _ _ := rfl
  clash_comm _ _ := rfl
  clash_withId _ _ _ := rfl

instance : Row UserFile where
  id := UserFile.id
  withId n r := { r with id := n }
  clash _ _ := false
  id_withId _ _ := rfl
  clash_comm _ _ := rfl
  clash_withId _ _ _ := rfl

/-- The tables of the database. -/
structure Tables where
  users : Table User := ∅
  userDevices : Table UserDevice := ∅
  messages : Table Message := ∅
  conversations : Table Conversation := ∅
  members : Table ConversationMember := ∅
  friendRequests : Table FriendRequest := ∅
  friendships : Table Friendship := ∅
  groups : Table Group := ∅
  groupJoinRequests : Table GroupJoinRequest := ∅
  userFiles : Table UserFile := ∅

end NovaIIM
