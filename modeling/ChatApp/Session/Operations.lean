/-
  The operations of the managers before a response: each `Prepares` it, so that it sends nothing
  and ends early only after an answer that makes the handler stop.
-/
import ChatApp.Session.Ledger

namespace ChatApp.Session

open ChatApp.Lib ChatApp.Lib.Prog ChatApp.Database ChatApp.Protocol

variable {w : Watch}

section
variable (hw : w.finds = false)
include hw

theorem prepares_orFail {message : String} {q : DbProg Bool} (h : Steady q) :
    Prepares w (orFail message (db q)) :=
  prepares_bind (prepares_db hw h) fun _ => prepares_pure _

theorem prepares_getUserById (userId : Nat) : Prepares w (db (getUserById userId)) :=
  prepares_db hw (steady_ensured (paired_fetchFirst rfl))

theorem prepares_isMember (groupId userId : Nat) :
    Prepares w (GroupManager.isMember groupId userId) :=
  prepares_db hw (steady_locked (paired_fetchFirst rfl))

theorem prepares_isAdmin (groupId userId : Nat) :
    Prepares w (GroupManager.isAdmin groupId userId) :=
  prepares_db hw (steady_locked (paired_fetchFirst rfl))

theorem prepares_isOwner (groupId userId : Nat) :
    Prepares w (GroupManager.isOwner groupId userId) :=
  prepares_db hw (steady_locked (paired_fetchFirst rfl))

theorem prepares_getGroupById (groupId : Nat) : Prepares w (db (getGroupById groupId)) :=
  prepares_db hw (steady_locked (paired_groupWithMembers groupId))

theorem prepares_savePrivateMessage (message : Message) :
    Prepares w (db (savePrivateMessage message)) :=
  prepares_db hw (steady_locked (paired_stamped fun _ =>
    paired_insert rfl (paired_pure _) fun _ => paired_pure _))

theorem prepares_registerUser (hh : w.hashes = true) (username password nickname : String) :
    Prepares w (UserManager.registerUser username password nickname) := by
  refine prepares_bind (prepares_db hw (steady_locked (paired_fetchFirst rfl))) fun found => ?_
  refine prepares_ite (prepares_pure _) ?_
  refine prepares_bind (prepares_hashPassword hh _) fun hashedPassword => ?_
  refine prepares_bind (prepares_db hw (steady_ensured (paired_stamped fun _ =>
    paired_insert rfl (paired_pure _) fun _ => paired_pure _))) fun userId => ?_
  cases userId
  · exact prepares_pure _
  · exact prepares_pure _

theorem prepares_upgradeHash (hh : w.hashes = false) (userId : Nat) (password hash : String) :
    Prepares w (UserManager.upgradeHash userId password hash) := by
  refine prepares_ite (prepares_pure _) ?_
  have hcall : Prepares w (request (.hashPassword password)) :=
    prepares_request rfl (fun _ => by simp [Watch.halts, hh]) fun _ => rfl
  refine prepares_bind hcall fun newHash => ?_
  cases newHash
  · exact prepares_pure _
  · exact prepares_bind (prepares_db hw (steady_locked (paired_stamped fun _ =>
      paired_execute rfl))) fun _ => prepares_pure _

theorem prepares_login (hh : w.hashes = false) (username password : String) :
    Prepares w (UserManager.login username password) := by
  refine prepares_bind (prepares_db hw (steady_locked (paired_fetchFirst rfl))) fun found => ?_
  cases found with
  | none => exact prepares_pure _
  | some userInfo =>
  refine prepares_bind (prepares_db hw (steady_ensured (paired_fetchFirst rfl))) fun hash => ?_
  cases hash with
  | none => exact prepares_pure _
  | some storedHash =>
  refine prepares_bind (prepares_request rfl (fun _ => rfl) fun _ => rfl) fun verified => ?_
  refine prepares_ite (prepares_pure _) ?_
  exact prepares_bind (prepares_upgradeHash hw hh _ _ _) fun _ => prepares_pure _

theorem prepares_updatePassword (hh : w.hashes = true) (userId : Nat) (old new : String) :
    Prepares w (UserManager.updatePassword userId old new) := by
  refine prepares_bind (prepares_getUserById hw userId) fun found => ?_
  cases found with
  | none => exact prepares_pure _
  | some user =>
  refine prepares_bind (prepares_db hw (steady_ensured (paired_fetchFirst rfl))) fun hash => ?_
  cases hash with
  | none => exact prepares_pure _
  | some storedHash =>
  refine prepares_bind (prepares_request rfl (fun _ => rfl) fun _ => rfl) fun verified => ?_
  refine prepares_ite (prepares_pure _) ?_
  refine prepares_bind (prepares_hashPassword hh _) fun hashedNew => ?_
  exact prepares_orFail hw (steady_locked (paired_stamped fun _ => paired_execute rfl))

theorem prepares_createGroup (ownerId : Nat) (groupName description : String) :
    Prepares w (GroupManager.createGroup ownerId groupName description) := by
  refine prepares_ite (prepares_pure _) ?_
  refine prepares_bind (prepares_db hw (steady_locked (paired_stamped fun _ =>
    paired_insert rfl (paired_pure _) fun _ =>
      paired_bind (paired_execute rfl) fun _ => paired_pure _))) fun created => ?_
  match created with
  | some (groupId, true) => exact prepares_pure _
  | some (groupId, false) => exact prepares_pure _
  | none => exact prepares_pure _

theorem prepares_dismissGroup (ownerId groupId : Nat) :
    Prepares w (GroupManager.dismissGroup ownerId groupId) := by
  refine prepares_bind (prepares_isOwner hw _ _) fun isOwner => ?_
  exact prepares_ite (prepares_pure _) (prepares_orFail hw (steady_locked (paired_execute rfl)))

theorem prepares_joinGroup (groupId userId : Nat) :
    Prepares w (GroupManager.joinGroup groupId userId) := by
  refine prepares_bind (prepares_getGroupById hw _) fun group => ?_
  refine prepares_ite (prepares_pure _) ?_
  refine prepares_bind (prepares_isMember hw _ _) fun isMember => ?_
  exact prepares_ite (prepares_pure _)
    (prepares_orFail hw (steady_locked (paired_stamped fun _ => paired_execute rfl)))

theorem prepares_leaveGroup (groupId userId : Nat) :
    Prepares w (GroupManager.leaveGroup groupId userId) := by
  refine prepares_bind (prepares_isOwner hw _ _) fun isOwner => ?_
  exact prepares_ite (prepares_pure _) (prepares_orFail hw (steady_locked (paired_execute rfl)))

theorem prepares_removeMember (operatorId groupId userId : Nat) :
    Prepares w (GroupManager.removeMember operatorId groupId userId) := by
  have hremove : Prepares w (orFail "Failed to remove member"
      (db (removeGroupMember groupId userId))) :=
    prepares_orFail hw (steady_locked (paired_execute rfl))
  -- the two tests of the user to be removed
  have hrest : Prepares w (do
      if ← GroupManager.isOwner groupId userId then
        return Except.error "Cannot remove group owner"
      if ← GroupManager.isAdmin groupId userId then
        if !(← GroupManager.isOwner groupId operatorId) then
          return Except.error "No permission to remove admin"
      orFail "Failed to remove member" (db (removeGroupMember groupId userId))) := by
    refine prepares_bind (prepares_isOwner hw _ _) fun isOwner => ?_
    refine prepares_ite (prepares_pure _) ?_
    refine prepares_bind (prepares_isAdmin hw _ _) fun isAdmin => ?_
    refine prepares_ite ?_ hremove
    exact prepares_bind (prepares_isOwner hw _ _) fun _ => prepares_ite (prepares_pure _) hremove
  refine prepares_bind (prepares_isOwner hw _ _) fun isOwner => ?_
  refine prepares_ite ?_ hrest
  exact prepares_bind (prepares_isAdmin hw _ _) fun _ => prepares_ite (prepares_pure _) hrest

theorem prepares_setAdmin (operatorId groupId userId : Nat) (isAdmin : Bool) :
    Prepares w (GroupManager.setAdmin operatorId groupId userId isAdmin) := by
  refine prepares_bind (prepares_isOwner hw _ _) fun isOwner => ?_
  refine prepares_ite (prepares_pure _) ?_
  refine prepares_bind (prepares_isMember hw _ _) fun isMember => ?_
  exact prepares_ite (prepares_pure _) (prepares_orFail hw (steady_locked (paired_execute rfl)))

theorem prepares_transferOwner (ownerId groupId newOwnerId : Nat) :
    Prepares w (GroupManager.transferOwner ownerId groupId newOwnerId) := by
  refine prepares_bind (prepares_isOwner hw _ _) fun isOwner => ?_
  refine prepares_ite (prepares_pure _) (prepares_ite (prepares_pure _) ?_)
  refine prepares_bind (prepares_isMember hw _ _) fun isMember => ?_
  exact prepares_ite (prepares_pure _) (prepares_orFail hw (steady_locked
    (paired_bind (paired_mysqlQuery rfl) fun _ => paired_ite (paired_pure _)
      (paired_bind (paired_mysqlQuery rfl) fun _ => paired_execute rfl))))

theorem prepares_sendPrivateMessage (senderId receiverId : Nat) (content : String)
    (mediaType : MediaType) (mediaUrl extra : String) : Prepares w
      (MessageManager.sendPrivateMessage senderId receiverId content mediaType mediaUrl extra) := by
  refine prepares_bind (prepares_savePrivateMessage hw _) fun saved => ?_
  cases saved
  · exact prepares_pure _
  · exact prepares_pure _

theorem prepares_sendGroupMessage (senderId groupId : Nat) (content : String)
    (mediaType : MediaType) (mediaUrl extra : String) : Prepares w
      (MessageManager.sendGroupMessage senderId groupId content mediaType mediaUrl extra) := by
  refine prepares_bind (prepares_isMember hw _ _) fun isMember => ?_
  refine prepares_ite (prepares_pure _) ?_
  refine prepares_bind (prepares_db hw (steady_locked (paired_stamped fun _ =>
    paired_insert rfl (paired_pure _) fun _ => paired_pure _))) fun saved => ?_
  cases saved
  · exact prepares_pure _
  · exact prepares_pure _

theorem prepares_membersInfo (groupId : Nat) (memberIds : List Nat) :
    Prepares w (Session.membersInfo groupId memberIds) := by
  induction memberIds with
  | nil => exact prepares_pure _
  | cons memberId memberIds ih =>
    refine prepares_bind (prepares_getUserById hw _) fun found => ?_
    cases found with
    | none => exact ih
    | some user =>
      refine prepares_bind (prepares_isOwner hw _ _) fun isOwner => ?_
      refine prepares_bind (prepares_isAdmin hw _ _) fun isAdmin => ?_
      exact prepares_bind ih fun _ => prepares_pure _

end

/-! ## Friends -/

theorem steady_addFriendRequest (userId friendId : Nat) :
    Steady (Friends.FriendManager.addFriendRequest userId friendId) := by
  refine steady_ite (steady_pure _) ?_
  refine steady_bind (steady_ensured (paired_fetchFirst rfl)) fun targetUser => ?_
  refine steady_ite (steady_pure _) ?_
  refine steady_bind (steady_locked (paired_fetchFirst rfl)) fun isFriend => ?_
  refine steady_ite (steady_pure _) ?_
  refine steady_bind (steady_bind (steady_locked (paired_fetch rfl)) fun _ => steady_pure _)
    fun requests => ?_
  refine steady_ite (steady_pure _) ?_
  refine steady_bind (steady_locked (paired_stamped fun _ => paired_execute rfl)) fun ok => ?_
  exact steady_ite (steady_pure _) (steady_pure _)


theorem steady_acceptFriendRequest (userId friendId : Nat) :
    Steady (Friends.FriendManager.acceptFriendRequest userId friendId) := by
  refine steady_bind (steady_bind (steady_locked (paired_fetch rfl)) fun _ => steady_pure _)
    fun requests => ?_
  refine steady_ite (steady_pure _) ?_
  refine steady_bind (steady_locked (paired_stamped fun _ => paired_bind (paired_mysqlQuery rfl)
    fun _ => paired_ite (paired_pure _) (paired_execute rfl))) fun ok => ?_
  exact steady_ite (steady_pure _) (steady_pure _)

theorem steady_rejectFriendRequest (userId friendId : Nat) :
    Steady (Friends.FriendManager.rejectFriendRequest userId friendId) := by
  refine steady_bind (steady_locked (paired_stamped fun _ => paired_execute rfl)) fun ok => ?_
  exact steady_ite (steady_pure _) (steady_pure _)

theorem steady_removeFriend (userId friendId : Nat) :
    Steady (Friends.FriendManager.removeFriend userId friendId) := by
  refine steady_bind (steady_locked (paired_fetchFirst rfl)) fun isFriend => ?_
  refine steady_ite (steady_pure _) ?_
  refine steady_bind (steady_locked (paired_execute rfl)) fun ok => ?_
  exact steady_ite (steady_pure _) (steady_pure _)

theorem steady_setFriendRemark (userId friendId : Nat) (remark : String) :
    Steady (Friends.FriendManager.setFriendRemark userId friendId remark) := by
  refine steady_bind (steady_locked (paired_fetchFirst rfl)) fun isFriend => ?_
  refine steady_ite (steady_pure _) ?_
  refine steady_bind (steady_locked (paired_stamped fun _ => paired_execute rfl)) fun ok => ?_
  exact steady_ite (steady_pure _) (steady_pure _)

end ChatApp.Session
