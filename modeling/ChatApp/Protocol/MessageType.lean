/-
  `MessageType` of the TCP protocol, which the server (`enum class MessageType : uint8_t`) and
  the client (`enum MessageType` with a `value`) both list, each with its own numbers. A type on
  the server is a byte cast to the enumeration and may be none of them; the client looks the
  number up and takes `error` when it is not there.
-/
import Mathlib.Data.List.Basic

namespace ChatApp.Protocol

inductive MessageType
  | register | registerResponse | login | loginResponse | logout | logoutResponse
  | userInfo | userInfoResponse | userSearch | userSearchResponse | userUpdate
  | userUpdateResponse | passwordUpdate | passwordUpdateResponse
  | friendAdd | friendAddResponse | friendAccept | friendAcceptResponse | friendReject
  | friendRejectResponse | friendRemove | friendRemoveResponse | friendList | friendListResponse
  | friendRequests | friendRequestsResponse | friendRemark | friendRemarkResponse
  | privateMessage | privateMessageResponse | privateMessageAck | privateHistory
  | privateHistoryResponse
  | groupCreate | groupCreateResponse | groupJoin | groupJoinResponse | groupLeave
  | groupLeaveResponse | groupDismiss | groupDismissResponse | groupInfo | groupInfoResponse
  | groupList | groupListResponse | groupMembers | groupMembersResponse | groupAddMember
  | groupAddMemberResponse | groupRemoveMember | groupRemoveMemberResponse | groupSetAdmin
  | groupSetAdminResponse | groupTransferOwner | groupTransferOwnerResponse
  | groupMessage | groupMessageResponse | groupMessageAck | groupHistory | groupHistoryResponse
  | mediaUpload | mediaUploadResponse | mediaDownload | mediaDownloadResponse
  | onlineStatus | onlineStatusResponse
  | heartbeat | heartbeatResponse
  | keyUpload | keyUploadResponse | keyRequest | keyResponse | encryptedMessage
  | encryptedMessageResponse
  | messageRecall | messageRecallResponse
  | fcmTokenRegister | fcmTokenRegisterResponse
  | favoriteAdd | favoriteAddResponse | favoriteRemove | favoriteRemoveResponse | favoriteList
  | favoriteListResponse
  | error
  deriving DecidableEq, Repr

namespace MessageType

/-- The byte of a type on the server. -/
def code : MessageType → UInt8
  | register => 1 | registerResponse => 2 | login => 3 | loginResponse => 4 | logout => 5
  | logoutResponse => 6
  | userInfo => 10 | userInfoResponse => 11 | userSearch => 12 | userSearchResponse => 13
  | userUpdate => 14 | userUpdateResponse => 15 | passwordUpdate => 16
  | passwordUpdateResponse => 17
  | friendAdd => 20 | friendAddResponse => 21 | friendAccept => 22 | friendAcceptResponse => 23
  | friendReject => 24 | friendRejectResponse => 25 | friendRemove => 26
  | friendRemoveResponse => 27 | friendList => 28 | friendListResponse => 29
  | friendRequests => 30 | friendRequestsResponse => 31 | friendRemark => 32
  | friendRemarkResponse => 33
  | privateMessage => 40 | privateMessageResponse => 41 | privateMessageAck => 42
  | privateHistory => 43 | privateHistoryResponse => 44
  | groupCreate => 50 | groupCreateResponse => 51 | groupJoin => 52 | groupJoinResponse => 53
  | groupLeave => 54 | groupLeaveResponse => 55 | groupDismiss => 56 | groupDismissResponse => 57
  | groupInfo => 58 | groupInfoResponse => 59 | groupList => 60 | groupListResponse => 61
  | groupMembers => 62 | groupMembersResponse => 63 | groupAddMember => 64
  | groupAddMemberResponse => 65 | groupRemoveMember => 66 | groupRemoveMemberResponse => 67
  | groupSetAdmin => 68 | groupSetAdminResponse => 69 | groupTransferOwner => 70
  | groupTransferOwnerResponse => 71
  | groupMessage => 72 | groupMessageResponse => 73 | groupMessageAck => 74 | groupHistory => 75
  | groupHistoryResponse => 76
  | mediaUpload => 80 | mediaUploadResponse => 81 | mediaDownload => 82
  | mediaDownloadResponse => 83
  | onlineStatus => 90 | onlineStatusResponse => 91
  | heartbeat => 100 | heartbeatResponse => 101
  | keyUpload => 110 | keyUploadResponse => 111 | keyRequest => 112 | keyResponse => 113
  | encryptedMessage => 114 | encryptedMessageResponse => 115
  | messageRecall => 120 | messageRecallResponse => 121
  | fcmTokenRegister => 130 | fcmTokenRegisterResponse => 131
  | favoriteAdd => 140 | favoriteAddResponse => 141 | favoriteRemove => 142
  | favoriteRemoveResponse => 143 | favoriteList => 144 | favoriteListResponse => 145
  | error => 255

/-- `value` of a type on the client. -/
def value : MessageType → Nat
  | register => 1 | registerResponse => 2 | login => 3 | loginResponse => 4 | logout => 5
  | logoutResponse => 6
  | userInfo => 10 | userInfoResponse => 11 | userSearch => 12 | userSearchResponse => 13
  | userUpdate => 14 | userUpdateResponse => 15 | passwordUpdate => 16
  | passwordUpdateResponse => 17
  | friendAdd => 20 | friendAddResponse => 21 | friendAccept => 22 | friendAcceptResponse => 23
  | friendReject => 24 | friendRejectResponse => 25 | friendRemove => 26
  | friendRemoveResponse => 27 | friendList => 28 | friendListResponse => 29
  | friendRequests => 30 | friendRequestsResponse => 31 | friendRemark => 32
  | friendRemarkResponse => 33
  | privateMessage => 40 | privateMessageResponse => 41 | privateMessageAck => 42
  | privateHistory => 43 | privateHistoryResponse => 44
  | groupCreate => 50 | groupCreateResponse => 51 | groupJoin => 52 | groupJoinResponse => 53
  | groupLeave => 54 | groupLeaveResponse => 55 | groupDismiss => 56 | groupDismissResponse => 57
  | groupInfo => 58 | groupInfoResponse => 59 | groupList => 60 | groupListResponse => 61
  | groupMembers => 62 | groupMembersResponse => 63 | groupAddMember => 64
  | groupAddMemberResponse => 65 | groupRemoveMember => 66 | groupRemoveMemberResponse => 67
  | groupSetAdmin => 68 | groupSetAdminResponse => 69 | groupTransferOwner => 70
  | groupTransferOwnerResponse => 71
  | groupMessage => 72 | groupMessageResponse => 73 | groupMessageAck => 74 | groupHistory => 75
  | groupHistoryResponse => 76
  | mediaUpload => 80 | mediaUploadResponse => 81 | mediaDownload => 82
  | mediaDownloadResponse => 83
  | onlineStatus => 90 | onlineStatusResponse => 91
  | heartbeat => 100 | heartbeatResponse => 101
  | keyUpload => 110 | keyUploadResponse => 111 | keyRequest => 112 | keyResponse => 113
  | encryptedMessage => 114 | encryptedMessageResponse => 115
  | messageRecall => 120 | messageRecallResponse => 121
  | fcmTokenRegister => 130 | fcmTokenRegisterResponse => 131
  | favoriteAdd => 140 | favoriteAddResponse => 141 | favoriteRemove => 142
  | favoriteRemoveResponse => 143 | favoriteList => 144 | favoriteListResponse => 145
  | error => 255

/-- `MessageType.values` -/
def values : List MessageType := [
  .register, .registerResponse, .login, .loginResponse, .logout, .logoutResponse, .userInfo,
  .userInfoResponse, .userSearch, .userSearchResponse, .userUpdate, .userUpdateResponse,
  .passwordUpdate, .passwordUpdateResponse, .friendAdd, .friendAddResponse, .friendAccept,
  .friendAcceptResponse, .friendReject, .friendRejectResponse, .friendRemove,
  .friendRemoveResponse, .friendList, .friendListResponse, .friendRequests,
  .friendRequestsResponse, .friendRemark, .friendRemarkResponse, .privateMessage,
  .privateMessageResponse, .privateMessageAck, .privateHistory, .privateHistoryResponse,
  .groupCreate, .groupCreateResponse, .groupJoin, .groupJoinResponse, .groupLeave,
  .groupLeaveResponse, .groupDismiss, .groupDismissResponse, .groupInfo, .groupInfoResponse,
  .groupList, .groupListResponse, .groupMembers, .groupMembersResponse, .groupAddMember,
  .groupAddMemberResponse, .groupRemoveMember, .groupRemoveMemberResponse, .groupSetAdmin,
  .groupSetAdminResponse, .groupTransferOwner, .groupTransferOwnerResponse, .groupMessage,
  .groupMessageResponse, .groupMessageAck, .groupHistory, .groupHistoryResponse, .mediaUpload,
  .mediaUploadResponse, .mediaDownload, .mediaDownloadResponse, .onlineStatus,
  .onlineStatusResponse, .heartbeat, .heartbeatResponse, .keyUpload, .keyUploadResponse,
  .keyRequest, .keyResponse, .encryptedMessage, .encryptedMessageResponse, .messageRecall,
  .messageRecallResponse, .fcmTokenRegister, .fcmTokenRegisterResponse, .favoriteAdd,
  .favoriteAddResponse, .favoriteRemove, .favoriteRemoveResponse, .favoriteList,
  .favoriteListResponse, .error]

/-- `MessageType.fromValue` -/
def fromValue (value : Nat) : MessageType :=
  (values.find? fun e => decide (e.value = value)).getD .error

/-- The type that a `switch` over a byte finds. -/
def ofCode (code : UInt8) : Option MessageType := values.find? fun e => decide (e.code = code)

theorem value_eq_code (t : MessageType) : t.value = t.code.toNat := by
  cases t <;> rfl

@[simp] theorem fromValue_value (t : MessageType) : fromValue t.value = t := by
  cases t <;> rfl

@[simp] theorem ofCode_code (t : MessageType) : ofCode t.code = some t := by
  cases t <;> rfl

end MessageType

end ChatApp.Protocol
