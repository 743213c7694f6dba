/-
  `GroupManager` over single `Database` calls: an operation is a program whose calls are methods,
  each of them one step on the tables (`reply`). `expand` puts the statements of the methods
  back; the operations that a request handler calls expand to those of the handlers.

  The result of an operation is its error text or its value.
-/
import ChatApp.Groups.Store
import ChatApp.Session.Managers

namespace ChatApp.Groups

open ChatApp.Lib ChatApp.Database

/-- The methods of `Database` that `GroupManager` calls. -/
inductive Call
  | createGroup (groupName : String) (ownerId : Nat) (description : String)
  | getGroupById (groupId : Nat)
  | updateGroup (group : GroupInfo)
  | dismissGroup (groupId : Nat)
  | addGroupMember (groupId userId : Nat) (isAdmin : Bool)
  | removeGroupMember (groupId userId : Nat)
  | getUserGroups (userId : Nat)
  | getGroupMembers (groupId : Nat)
  | isGroupMember (groupId userId : Nat)
  | isGroupAdmin (groupId userId : Nat)
  | isGroupOwner (groupId userId : Nat)
  | setGroupAdmin (groupId userId : Nat) (isAdmin : Bool)
  | transferGroupOwner (groupId oldOwnerId newOwnerId : Nat)

abbrev Call.Answer : Call → Type
  | createGroup .. => Option (Nat × Bool)
  | getGroupById _ => Option GroupInfo
  | getUserGroups _ => Bool × List GroupInfo
  | getGroupMembers _ => Bool × List Nat
  | updateGroup _ | dismissGroup _ | addGroupMember .. | removeGroupMember .. | isGroupMember ..
  | isGroupAdmin .. | isGroupOwner .. | setGroupAdmin .. | transferGroupOwner .. => Bool

def Call.method : (c : Call) → DbProg c.Answer
  | createGroup groupName ownerId description => Database.createGroup groupName ownerId description
  | getGroupById groupId => Database.getGroupById groupId
  | updateGroup group => Database.updateGroup group
  | dismissGroup groupId => Database.dismissGroup groupId
  | addGroupMember groupId userId isAdmin => Database.addGroupMember groupId userId isAdmin
  | removeGroupMember groupId userId => Database.removeGroupMember groupId userId
  | getUserGroups userId => Database.getUserGroups userId
  | getGroupMembers groupId => Database.getGroupMembers groupId
  | isGroupMember groupId userId => Database.isGroupMember groupId userId
  | isGroupAdmin groupId userId => Database.isGroupAdmin groupId userId
  | isGroupOwner groupId userId => Database.isGroupOwner groupId userId
  | setGroupAdmin groupId userId isAdmin => Database.setGroupAdmin groupId userId isAdmin
  | transferGroupOwner groupId oldOwnerId newOwnerId =>
    Database.transferGroupOwner groupId oldOwnerId newOwnerId

-- the equations are made here, before the proofs that rewrite with them
attribute [local grind =] Call.method

abbrev interface : Interface := ⟨Call, Call.Answer⟩

abbrev GroupProg := Prog interface

def request (c : Call) : GroupProg c.Answer := Prog.perform (I := interface) c

/-- What a call answers at a moment, and the tables after it. -/
def reply (m : Moment) (db : GroupDb) (c : Call) : c.Answer × GroupDb :=
  atomically GroupDb.exec m c.method db

/-! ## The operations -/

namespace GroupManager

def isMember (groupId userId : Nat) : GroupProg Bool := request (.isGroupMember groupId userId)

def isAdmin (groupId userId : Nat) : GroupProg Bool := request (.isGroupAdmin groupId userId)

def isOwner (groupId userId : Nat) : GroupProg Bool := request (.isGroupOwner groupId userId)

/-- The result of a method that only reports success, under the manager's error text. -/
def orFail (message : String) (p : GroupProg Bool) : GroupProg (Except String Unit) := do
  return if ← p then .ok () else .error message

def createGroup (ownerId : Nat) (groupName description : String) :
    GroupProg (Except String Nat) := do
  if groupName.isEmpty then return .error "Group name is required"
  match ← request (.createGroup groupName ownerId description) with
  | some (groupId, true) => return .ok groupId
  | _ => return .error "Failed to create group"

def getGroupInfo (groupId : Nat) : GroupProg (Option GroupInfo) := request (.getGroupById groupId)

def updateGroupInfo (group : GroupInfo) : GroupProg Bool := request (.updateGroup group)

def dismissGroup (ownerId groupId : Nat) : GroupProg (Except String Unit) := do
  if !(← isOwner groupId ownerId) then return .error "Only group owner can dismiss the group"
  orFail "Failed to dismiss group" (request (.dismissGroup groupId))

def joinGroup (groupId userId : Nat) : GroupProg (Except String Unit) := do
  if (← request (.getGroupById groupId)).isNone then return .error "Group not found"
  if ← isMember groupId userId then return .error "Already a member"
  orFail "Failed to join group" (request (.addGroupMember groupId userId false))

def leaveGroup (groupId userId : Nat) : GroupProg (Except String Unit) := do
  if ← isOwner groupId userId then
    return .error "Group owner cannot leave, please dismiss the group instead"
  orFail "Failed to leave group" (request (.removeGroupMember groupId userId))

def removeMember (operatorId groupId userId : Nat) : GroupProg (Except String Unit) := do
  if !(← isOwner groupId operatorId) then
    if !(← isAdmin groupId operatorId) then return .error "No permission to remove member"
  if ← isOwner groupId userId then return .error "Cannot remove group owner"
  if ← isAdmin groupId userId then
    if !(← isOwner groupId operatorId) then return .error "No permission to remove admin"
  orFail "Failed to remove member" (request (.removeGroupMember groupId userId))

def getUserGroups (userId : Nat) : GroupProg (List GroupInfo) := do
  return (← request (.getUserGroups userId)).2

def getGroupMembers (groupId : Nat) : GroupProg (List Nat) := do
  return (← request (.getGroupMembers groupId)).2

def setAdmin (operatorId groupId userId : Nat) (isAdmin : Bool) :
    GroupProg (Except String Unit) := do
  if !(← isOwner groupId operatorId) then return .error "Only group owner can set admin"
  if !(← isMember groupId userId) then return .error "User is not a group member"
  orFail "Failed to set admin" (request (.setGroupAdmin groupId userId isAdmin))

def transferOwner (ownerId groupId newOwnerId : Nat) : GroupProg (Except String Unit) := do
  if !(← isOwner groupId ownerId) then return .error "Only group owner can transfer ownership"
  if ownerId = newOwnerId then return .error "Cannot transfer ownership to yourself"
  if !(← isMember groupId newOwnerId) then return .error "New owner must be a group member"
  orFail "Failed to transfer ownership"
    (request (.transferGroupOwner groupId ownerId newOwnerId))

end GroupManager

/-- An operation of `GroupManager` with its arguments. -/
inductive GroupOp
  | create (ownerId : Nat) (groupName description : String)
  | info (groupId : Nat)
  | updateInfo (group : GroupInfo)
  | dismiss (ownerId groupId : Nat)
  | join (groupId userId : Nat)
  | leave (groupId userId : Nat)
  | remove (operatorId groupId userId : Nat)
  | userGroups (userId : Nat)
  | members (groupId : Nat)
  | isMember (groupId userId : Nat)
  | isAdmin (groupId userId : Nat)
  | isOwner (groupId userId : Nat)
  | setAdmin (operatorId groupId userId : Nat) (isAdmin : Bool)
  | transfer (ownerId groupId newOwnerId : Nat)
  deriving DecidableEq

namespace GroupOp

abbrev Result : GroupOp → Type
  | create .. => Except String Nat
  | info _ => Option GroupInfo
  | userGroups _ => List GroupInfo
  | members _ => List Nat
  | updateInfo _ | isMember .. | isAdmin .. | isOwner .. => Bool
  | dismiss .. | join .. | leave .. | remove .. | setAdmin .. | transfer .. => Except String Unit

def prog : (op : GroupOp) → GroupProg op.Result
  | create ownerId groupName description =>
    GroupManager.createGroup ownerId groupName description
  | info groupId => GroupManager.getGroupInfo groupId
  | updateInfo group => GroupManager.updateGroupInfo group
  | dismiss ownerId groupId => GroupManager.dismissGroup ownerId groupId
  | join groupId userId => GroupManager.joinGroup groupId userId
  | leave groupId userId => GroupManager.leaveGroup groupId userId
  | remove operatorId groupId userId => GroupManager.removeMember operatorId groupId userId
  | userGroups userId => GroupManager.getUserGroups userId
  | members groupId => GroupManager.getGroupMembers groupId
  | isMember groupId userId => GroupManager.isMember groupId userId
  | isAdmin groupId userId => GroupManager.isAdmin groupId userId
  | isOwner groupId userId => GroupManager.isOwner groupId userId
  | setAdmin operatorId groupId userId admin =>
    GroupManager.setAdmin operatorId groupId userId admin
  | transfer ownerId groupId newOwnerId =>
    GroupManager.transferOwner ownerId groupId newOwnerId

/-- The user on whose behalf the operation is. -/
def actor : GroupOp → Option Nat
  | create u _ _ | dismiss u _ | join _ u | leave _ u | remove u _ _ | setAdmin u _ _ _
  | transfer u _ _ => some u
  | _ => none

/-- The group the operation is on; `next` is the number of the group that an INSERT makes. -/
def group (next : Nat) : GroupOp → Option Nat
  | create .. => some next
  | updateInfo details => some details.groupId
  | info g | dismiss _ g | join g _ | leave g _ | remove _ g _ | members g | isMember g _
  | isAdmin g _ | isOwner g _ | setAdmin _ g _ _ | transfer _ g _ => some g
  | userGroups _ => none

end GroupOp

/-! ## The operations as the handlers call them -/

def issue (c : Call) : Session.SessionM c.Answer := Session.db c.method

/-- The statements of the methods put back. -/
abbrev expand {α : Type} (p : GroupProg α) : Session.SessionM α := Prog.interpret issue p

theorem expand_request (c : Call) : expand (request c) = Session.db c.method :=
  Prog.interpret_perform (I := interface) issue c

namespace GroupManager

@[simp] theorem expand_orFail (message : String) (p : GroupProg Bool) :
    expand (orFail message p) = Session.orFail message (expand p) :=
  Prog.interpret_bind _ p _

@[simp] theorem expand_isMember (g u : Nat) :
    expand (isMember g u) = Session.GroupManager.isMember g u := expand_request _

@[simp] theorem expand_isAdmin (g u : Nat) :
    expand (isAdmin g u) = Session.GroupManager.isAdmin g u := expand_request _

@[simp] theorem expand_isOwner (g u : Nat) :
    expand (isOwner g u) = Session.GroupManager.isOwner g u := expand_request _

theorem expand_createGroup (o : Nat) (groupName description : String) :
    expand (createGroup o groupName description) =
      Session.GroupManager.createGroup o groupName description := by
  simp only [createGroup, Session.GroupManager.createGroup, Prog.pure_eq_ret, Prog.interpret_ite,
    Prog.interpret_bind, Prog.interpret_ret, expand_request (.createGroup groupName o description)]
  congr 2
  funext a
  rcases a with _ | ⟨g, _ | _⟩ <;> rfl

theorem expand_dismissGroup (o g : Nat) :
    expand (dismissGroup o g) = Session.GroupManager.dismissGroup o g := by
  simp [dismissGroup, Session.GroupManager.dismissGroup, expand_request (.dismissGroup g),
    Call.method]

theorem expand_joinGroup (g u : Nat) :
    expand (joinGroup g u) = Session.GroupManager.joinGroup g u := by
  simp [joinGroup, Session.GroupManager.joinGroup, expand_request (.getGroupById g),
    expand_request (.addGroupMember g u false), Call.method]

theorem expand_leaveGroup (g u : Nat) :
    expand (leaveGroup g u) = Session.GroupManager.leaveGroup g u := by
  simp [leaveGroup, Session.GroupManager.leaveGroup, expand_request (.removeGroupMember g u),
    Call.method]

theorem expand_removeMember (a g u : Nat) :
    expand (removeMember a g u) = Session.GroupManager.removeMember a g u := by
  simp [removeMember, Session.GroupManager.removeMember, expand_request (.removeGroupMember g u),
    Call.method]

theorem expand_setAdmin (a g u : Nat) (isAdmin : Bool) :
    expand (setAdmin a g u isAdmin) = Session.GroupManager.setAdmin a g u isAdmin := by
  simp [setAdmin, Session.GroupManager.setAdmin, expand_request (.setGroupAdmin g u isAdmin),
    Call.method]

theorem expand_transferOwner (o g n : Nat) :
    expand (transferOwner o g n) = Session.GroupManager.transferOwner o g n := by
  simp [transferOwner, Session.GroupManager.transferOwner,
    expand_request (.transferGroupOwner g o n),
    Call.method]

theorem expand_getUserGroups (u : Nat) :
    expand (getUserGroups u) = Session.GroupManager.getUserGroups u := by
  simp [getUserGroups, Session.GroupManager.getUserGroups, expand_request (.getUserGroups u),
    Call.method]

theorem expand_getGroupMembers (g : Nat) :
    expand (getGroupMembers g) = Session.GroupManager.getGroupMembers g := by
  simp [getGroupMembers, Session.GroupManager.getGroupMembers, expand_request (.getGroupMembers g),
    Call.method]

end GroupManager

end ChatApp.Groups
