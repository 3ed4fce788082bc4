import NovaIIM.Types

/-!
The messages between client and server, as `nova/protocol.h`, `nova/packet.h`
and `nova/errors.h` have them.

A packet carries its body decoded: `Body` has one case for each type of reply or
push. A request arrives as an `Option`, which is `none` where `Deserialize`
fails.
-/
namespace NovaIIM

/-- An error code and its text. -/
structure Error where
  code : Int
  msg : String
deriving DecidableEq, Repr

namespace errc
def kOk : Error := ⟨0, "ok"⟩
def kInvalidBody : Error := ⟨-1, "invalid body"⟩
def kNotAuthenticated : Error := ⟨-2, "not authenticated"⟩
def kDatabaseError : Error := ⟨-100, "database error"⟩
def kServerBusy : Error := ⟨-503, "server busy"⟩

namespace user
def kEmailRequired : Error := ⟨1001, "email is required"⟩
def kInvalidCredentials : Error := ⟨1002, "invalid credentials"⟩
def kPasswordRequired : Error := ⟨1003, "password is required"⟩
def kRateLimited : Error := ⟨1005, "too many attempts, try later"⟩
def kEmailInvalid : Error := ⟨1006, "invalid email format"⟩
def kEmailTooLong : Error := ⟨1007, "email must be at most 255 characters"⟩
def kEmailAlreadyExists : Error := ⟨1008, "email already registered"⟩
def kNicknameRequired : Error := ⟨1010, "nickname is required"⟩
def kNicknameTooLong : Error := ⟨1011, "nickname must be at most 100 characters"⟩
def kNicknameInvalid : Error := ⟨1012, "nickname contains invalid characters"⟩
def kPasswordTooShort : Error := ⟨1013, "password must be at least 6 characters"⟩
def kPasswordTooLong : Error := ⟨1014, "password must be at most 128 characters"⟩
def kRegisterFailed : Error := ⟨1016, "registration failed"⟩
def kSearchKeywordEmpty : Error := ⟨1017, "search keyword is required"⟩
def kSearchKeywordTooLong : Error := ⟨1018, "search keyword too long"⟩
def kUserNotFound : Error := ⟨1019, "user not found"⟩
def kNothingToUpdate : Error := ⟨1020, "nothing to update"⟩
def kUpdateProfileFailed : Error := ⟨1021, "failed to update profile"⟩
def kAvatarPathTooLong : Error := ⟨1022, "avatar path exceeds 512 characters"⟩
def kAlreadyLoggedIn : Error := ⟨1023, "already logged in on this device"⟩
end user

namespace kick
def kSameDeviceTypeRelogin : Error :=
  ⟨1101, "your account logged in on another device of the same type"⟩
def kAdminKick : Error := ⟨1102, "you have been kicked by the administrator"⟩
end kick

namespace msg
def kContentEmpty : Error := ⟨2001, "content is empty"⟩
def kContentTooLarge : Error := ⟨2002, "content too large"⟩
def kInvalidConversation : Error := ⟨2003, "invalid conversation_id"⟩
def kConversationNotFound : Error := ⟨2004, "conversation not found"⟩
def kNotMember : Error := ⟨2005, "not a member of this conversation"⟩
def kMsgNotFound : Error := ⟨2006, "message not found"⟩
def kRecallTimeout : Error := ⟨2007, "recall time limit exceeded"⟩
def kRecallNoPermission : Error := ⟨2008, "no permission to recall this message"⟩
def kRecallAlready : Error := ⟨2009, "message already recalled"⟩
def kInvalidMsgType : Error := ⟨2010, "invalid message type"⟩
end msg

namespace file
def kFileNameRequired : Error := ⟨3001, "file_name is required"⟩
def kFileSizeInvalid : Error := ⟨3002, "invalid file_size"⟩
def kFileSizeTooLarge : Error := ⟨3003, "file too large"⟩
def kMimeTypeRequired : Error := ⟨3004, "mime_type is required"⟩
def kFileNotFound : Error := ⟨3005, "file not found"⟩
def kUploadFailed : Error := ⟨3006, "upload failed"⟩
def kInvalidFileType : Error := ⟨3007, "invalid file_type"⟩
end file

namespace sync
def kNotMember : Error := ⟨4001, "not a member of this conversation"⟩
end sync

namespace friend
def kCannotAddSelf : Error := ⟨5001, "cannot add yourself"⟩
def kAlreadyFriends : Error := ⟨5002, "already friends"⟩
def kRequestPending : Error := ⟨5003, "friend request already pending"⟩
def kRequestNotFound : Error := ⟨5004, "friend request not found"⟩
def kNotFriends : Error := ⟨5005, "not friends"⟩
def kAlreadyBlocked : Error := ⟨5006, "user already blocked"⟩
def kNotBlocked : Error := ⟨5007, "user not blocked"⟩
def kBlockedByTarget : Error := ⟨5008, "blocked by target user"⟩
def kTargetUidRequired : Error := ⟨5009, "target_uid is required"⟩
def kRequestIdRequired : Error := ⟨5010, "request_id is required"⟩
def kInvalidAction : Error := ⟨5011, "action must be accept or reject"⟩
end friend

namespace conv
def kNotMember : Error := ⟨6001, "not a member of this conversation"⟩
end conv

namespace group
def kNameRequired : Error := ⟨7001, "group name is required"⟩
def kNameTooLong : Error := ⟨7002, "group name must be at most 100 characters"⟩
def kNoticeTooLong : Error := ⟨7003, "notice must be at most 1000 characters"⟩
def kNotEnoughMembers : Error := ⟨7004, "need at least 2 initial members"⟩
def kNotMember : Error := ⟨7005, "not a member of this group"⟩
def kNotOwner : Error := ⟨7006, "only group owner can do this"⟩
def kNotAdminOrOwner : Error := ⟨7007, "only admin or owner can do this"⟩
def kCannotKickSelf : Error := ⟨7008, "cannot kick yourself"⟩
def kCannotKickHigherRole : Error := ⟨7009, "cannot kick higher role member"⟩
def kOwnerCannotLeave : Error := ⟨7010, "owner cannot leave, dismiss or transfer first"⟩
def kAlreadyMember : Error := ⟨7011, "already a member"⟩
def kGroupNotFound : Error := ⟨7012, "group not found"⟩
def kRequestPending : Error := ⟨7013, "join request already pending"⟩
def kRequestNotFound : Error := ⟨7014, "join request not found"⟩
def kInvalidRole : Error := ⟨7015, "invalid role value"⟩
def kNothingToUpdate : Error := ⟨7017, "nothing to update"⟩
end group
end errc

/-! ### Requests -/

structure RegisterReq where
  email : Bytes
  nickname : Bytes
  password : Bytes
deriving DecidableEq, Repr

structure LoginReq where
  email : Bytes
  password : Bytes
  deviceId : Bytes
  deviceType : Bytes
deriving DecidableEq, Repr

structure GetUserProfileReq where
  targetUid : Bytes
deriving DecidableEq, Repr

structure SearchUserReq where
  keyword : Bytes
deriving DecidableEq, Repr

structure UpdateProfileReq where
  nickname : Bytes
  avatar : Bytes
  fileHash : Bytes
deriving DecidableEq, Repr

structure SendMsgReq where
  conversationId : Int := 0
  content : Bytes
  msgType : Int := 1
  clientMsgId : Bytes
deriving DecidableEq, Repr

structure RecallMsgReq where
  conversationId : Int := 0
  serverSeq : Int := 0
deriving DecidableEq, Repr

structure DeliverAckReq where
  conversationId : Int := 0
  serverSeq : Int := 0
deriving DecidableEq, Repr

structure ReadAckReq where
  conversationId : Int := 0
  readUpToSeq : Int := 0
deriving DecidableEq, Repr

structure SyncMsgReq where
  conversationId : Int := 0
  lastSeq : Int := 0
  limit : Int := 20
deriving DecidableEq, Repr

structure AddFriendReq where
  targetUid : Bytes
  remark : Bytes
deriving DecidableEq, Repr

structure HandleFriendReqReq where
  requestId : Int := 0
  action : Int := 0
deriving DecidableEq, Repr

/-- `DeleteFriendReq`, `BlockFriendReq` and `UnblockFriendReq`. -/
structure TargetReq where
  targetUid : Bytes
deriving DecidableEq, Repr

structure GetFriendRequestsReq where
  page : Int := 1
  pageSize : Int := 20
deriving DecidableEq, Repr

/-- `DeleteConvReq`, `DismissGroupReq`, `LeaveGroupReq`, `GetGroupInfoReq` and
    `GetGroupMembersReq`. -/
structure ConversationReq where
  conversationId : Int := 0
deriving DecidableEq, Repr

structure MuteConvReq where
  conversationId : Int := 0
  mute : Int := 0
deriving DecidableEq, Repr

structure PinConvReq where
  conversationId : Int := 0
  pinned : Int := 0
deriving DecidableEq, Repr

structure CreateGroupReq where
  name : Bytes
  avatar : Bytes
  memberIds : List Int
deriving DecidableEq, Repr

structure JoinGroupReq where
  conversationId : Int := 0
  remark : Bytes
deriving DecidableEq, Repr

structure HandleJoinReqReq where
  requestId : Int := 0
  action : Int := 0
deriving DecidableEq, Repr

structure KickMemberReq where
  conversationId : Int := 0
  targetUserId : Int := 0
deriving DecidableEq, Repr

structure UpdateGroupReq where
  conversationId : Int := 0
  name : Bytes
  avatar : Bytes
  notice : Bytes
deriving DecidableEq, Repr

structure SetMemberRoleReq where
  conversationId : Int := 0
  targetUserId : Int := 0
  role : Int := 0
deriving DecidableEq, Repr

structure UploadReq where
  fileName : Bytes
  fileSize : Int := 0
  mimeType : Bytes
  fileHash : Bytes
  fileType : Bytes
deriving DecidableEq, Repr

/-- `UploadCompleteReq` and `DownloadReq`, whose `thumb` nothing reads. -/
structure FileReq where
  fileId : Int := 0
deriving DecidableEq, Repr

/-! ### Replies and pushes -/

structure RspBase where
  code : Int := 0
  msg : String := ""
deriving DecidableEq, Repr

structure RegisterAck where
  code : Int := 0
  msg : String := ""
  uid : Bytes := []
deriving DecidableEq, Repr

structure LoginAck where
  code : Int := 0
  msg : String := ""
  uid : Bytes := []
  nickname : Bytes := []
  avatar : Bytes := []
deriving DecidableEq, Repr

structure SendMsgAck where
  code : Int := 0
  msg : String := ""
  serverSeq : Int := 0
  serverTime : Int := 0
deriving DecidableEq, Repr

structure PushMsg where
  conversationId : Int := 0
  senderUid : Bytes
  content : Bytes
  serverSeq : Int := 0
  serverTime : Int := 0
  msgType : Int := 1
deriving DecidableEq, Repr

structure RecallNotify where
  conversationId : Int := 0
  serverSeq : Int := 0
  operatorUid : Bytes
deriving DecidableEq, Repr

structure SyncMsgItem where
  serverSeq : Int := 0
  senderUid : Bytes
  content : Bytes
  msgType : Int := 1
  serverTime : Bytes
  status : MsgStatus := .normal
deriving DecidableEq, Repr

structure SyncMsgResp where
  code : Int := 0
  messages : List SyncMsgItem := []
  hasMore : Bool := false
deriving DecidableEq, Repr

structure UnreadItem where
  conversationId : Int := 0
  count : Int := 0
  latestMessages : List SyncMsgItem := []
deriving DecidableEq, Repr

structure SyncUnreadResp where
  code : Int := 0
  items : List UnreadItem := []
  totalUnread : Int := 0
deriving DecidableEq, Repr

structure GetUserProfileAck where
  code : Int := 0
  msg : String := ""
  uid : Bytes := []
  nickname : Bytes := []
  avatar : Bytes := []
  email : Bytes := []
deriving DecidableEq, Repr

structure SearchUserItem where
  uid : Bytes
  nickname : Bytes
  avatar : Bytes
deriving DecidableEq, Repr

structure SearchUserAck where
  code : Int := 0
  msg : String := ""
  users : List SearchUserItem := []
deriving DecidableEq, Repr

structure AddFriendAck where
  code : Int := 0
  msg : String := ""
  requestId : Int := 0
deriving DecidableEq, Repr

structure HandleFriendReqAck where
  code : Int := 0
  msg : String := ""
  conversationId : Int := 0
deriving DecidableEq, Repr

structure FriendItem where
  uid : Bytes
  nickname : Bytes
  avatar : Bytes
  conversationId : Int := 0
deriving DecidableEq, Repr

structure GetFriendListAck where
  code : Int := 0
  msg : String := ""
  friends : List FriendItem := []
deriving DecidableEq, Repr

structure FriendRequestItem where
  requestId : Int := 0
  fromUid : Bytes
  fromNickname : Bytes
  fromAvatar : Bytes
  remark : Bytes
  createdAt : Bytes
  status : Int := 0
deriving DecidableEq, Repr

structure GetFriendRequestsAck where
  code : Int := 0
  msg : String := ""
  requests : List FriendRequestItem := []
  total : Int := 0
deriving DecidableEq, Repr

structure FriendNotifyMsg where
  notifyType : Int := 0
  fromUid : Bytes
  fromNickname : Bytes
  fromAvatar : Bytes
  remark : Bytes
  requestId : Int := 0
  conversationId : Int := 0
deriving DecidableEq, Repr

structure LastMsgBrief where
  senderUid : Bytes := []
  senderNickname : Bytes := []
  content : Bytes := []
  msgType : Int := 1
  serverTime : Int := 0
deriving DecidableEq, Repr

structure ConvItem where
  conversationId : Int := 0
  type : Int := 0
  name : Bytes := []
  avatar : Bytes := []
  unreadCount : Int := 0
  lastMsg : LastMsgBrief := {}
  mute : Int := 0
  pinned : Int := 0
  updatedAt : Bytes := []
deriving DecidableEq, Repr

structure GetConvListAck where
  code : Int := 0
  msg : String := ""
  conversations : List ConvItem := []
deriving DecidableEq, Repr

structure ConvUpdateMsg where
  conversationId : Int := 0
  updateType : Int := 0
  data : Bytes := []
deriving DecidableEq, Repr

structure CreateGroupAck where
  code : Int := 0
  msg : String := ""
  conversationId : Int := 0
  groupId : Int := 0
deriving DecidableEq, Repr

structure GetGroupInfoAck where
  code : Int := 0
  msg : String := ""
  conversationId : Int := 0
  name : Bytes := []
  avatar : Bytes := []
  ownerId : Int := 0
  notice : Bytes := []
  memberCount : Int := 0
  createdAt : Bytes := []
deriving DecidableEq, Repr

structure GroupMemberItem where
  userId : Int := 0
  uid : Bytes := []
  nickname : Bytes := []
  avatar : Bytes := []
  role : Int := 0
  joinedAt : Bytes := []
deriving DecidableEq, Repr

structure GetGroupMembersAck where
  code : Int := 0
  msg : String := ""
  members : List GroupMemberItem := []
deriving DecidableEq, Repr

structure MyGroupItem where
  conversationId : Int := 0
  name : Bytes := []
  avatar : Bytes := []
  memberCount : Int := 0
  myRole : Int := 0
deriving DecidableEq, Repr

structure GetMyGroupsAck where
  code : Int := 0
  msg : String := ""
  groups : List MyGroupItem := []
deriving DecidableEq, Repr

structure GroupNotifyMsg where
  conversationId : Int := 0
  notifyType : Int := 0
  operatorId : Int := 0
  targetIds : List Int := []
  data : Bytes := []
deriving DecidableEq, Repr

structure UploadAck where
  code : Int := 0
  msg : String := ""
  fileId : Int := 0
  uploadUrl : Bytes := []
  alreadyExists : Int := 0
deriving DecidableEq, Repr

structure UploadCompleteAck where
  code : Int := 0
  msg : String := ""
  filePath : Bytes := []
deriving DecidableEq, Repr

structure DownloadAck where
  code : Int := 0
  msg : String := ""
  downloadUrl : Bytes := []
  fileName : Bytes := []
  fileSize : Int := 0
deriving DecidableEq, Repr

/-- The body of a packet the server sends. -/
inductive Body where
  | rspBase (body : RspBase)
  | registerAck (body : RegisterAck)
  | loginAck (body : LoginAck)
  | sendMsgAck (body : SendMsgAck)
  | pushMsg (body : PushMsg)
  | recallNotify (body : RecallNotify)
  | syncMsgResp (body : SyncMsgResp)
  | syncUnreadResp (body : SyncUnreadResp)
  | getUserProfileAck (body : GetUserProfileAck)
  | searchUserAck (body : SearchUserAck)
  | addFriendAck (body : AddFriendAck)
  | handleFriendReqAck (body : HandleFriendReqAck)
  | getFriendListAck (body : GetFriendListAck)
  | getFriendRequestsAck (body : GetFriendRequestsAck)
  | friendNotify (body : FriendNotifyMsg)
  | getConvListAck (body : GetConvListAck)
  | convUpdate (body : ConvUpdateMsg)
  | createGroupAck (body : CreateGroupAck)
  | getGroupInfoAck (body : GetGroupInfoAck)
  | getGroupMembersAck (body : GetGroupMembersAck)
  | getMyGroupsAck (body : GetMyGroupsAck)
  | groupNotify (body : GroupNotifyMsg)
  | uploadAck (body : UploadAck)
  | uploadCompleteAck (body : UploadCompleteAck)
  | downloadAck (body : DownloadAck)
deriving DecidableEq, Repr

/-- The commands the modelled handlers send. -/
inductive Cmd where
  | registerAck | loginAck | logout | kickNotify | heartbeatAck
  | getUserProfileAck | searchUserAck | updateProfileAck
  | addFriendAck | handleFriendReqAck | deleteFriendAck | blockFriendAck | unblockFriendAck
  | getFriendListAck | getFriendRequestsAck | friendNotify
  | sendMsgAck | pushMsg | readAck | recallMsgAck | recallNotify
  | getConvListAck | deleteConvAck | muteConvAck | pinConvAck | convUpdate
  | syncMsgResp | syncUnreadResp
  | createGroupAck | dismissGroupAck | joinGroupAck | handleJoinReqAck | leaveGroupAck
  | kickMemberAck | getGroupInfoAck | updateGroupAck | getGroupMembersAck | getMyGroupsAck
  | setMemberRoleAck | groupNotify
  | uploadAck | uploadCompleteAck | downloadAck
deriving DecidableEq, Repr

structure Packet where
  cmd : Cmd
  seq : UInt32 := 0
  uid : UInt64 := 0
  body : Body
deriving DecidableEq, Repr

end NovaIIM
