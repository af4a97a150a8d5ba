import Mathlib.Data.Rat.Floor

/-! Staff assignments, what their scope says, and which assignment speaks for an action. -/

namespace MilkAndHenny.Staff

/-- A value of a `jsonb` column. -/
inductive Json where
  | null
  | bool (value : Bool)
  | number (value : Rat)
  | string (value : String)
  | array (items : List Json)
  | object (entries : List (String × Json))

namespace Json

/-- `=== true`. -/
def isTrue : Json → Bool
  | .bool value => value
  | _ => false

def asNumber : Json → Option Rat
  | .number value => some value
  | _ => none

def asString : Json → Option String
  | .string value => some value
  | _ => none

/-- `Array.isArray`. -/
def asArray : Json → Option (List Json)
  | .array items => some items
  | _ => none

/-- `items.includes(text)`: no value but the string itself is identical to it. -/
def includes (items : List Json) (text : String) : Bool :=
  items.any fun item => item.asString == some text

end Json

/-- `Math.trunc`. -/
def truncate (value : Rat) : Int :=
  if 0 ≤ value then ⌊value⌋ else ⌈value⌉

/-- `Math.round`. -/
def round (value : Rat) : Int := ⌊value + 1 / 2⌋

inductive StaffPermission where
  | admitTickets | scanCheckpoints | viewParticipantPoints | awardPoints | manageTeams | runActivities
  | transferPoints | reverseAwards | reviewHeldActions | manageActivities | manageDiscoveries
  | uploadActivityPhotos | manageGuestPhotos | manageStaffAndPools | resolveIdentity | finalizeLeaderboard
  | requestGuests | addGuests | approveRequests
deriving DecidableEq

inductive StaffAssignmentType where
  | personal | station
deriving DecidableEq

inductive StaffAssignmentStatus where
  | active | paused | revoked | expired
deriving DecidableEq

inductive InvitationState where
  | pending | active | declined | expired | revoked
deriving DecidableEq

/-- A row of `score_staff_assignments`. Identifiers are minted with a prefix, so none is empty. -/
structure StaffAssignment where
  id : String
  named : id ≠ "" := by decide
  eventSlug : String
  personId : Option String := none
  tokenHash : Option String := none
  label : String := ""
  assignmentType : StaffAssignmentType := .personal
  /-- The permissions whose entry is `true`. -/
  permissions : List StaffPermission
  scope : List (String × Json) := []
  status : StaffAssignmentStatus := .active
  expiresAt : Option Int := none
  invitationState : InvitationState := .active

/-- A row of `score_staff_devices`. -/
structure StaffDevice where
  assignmentId : String
  deviceId : String
  revokedAt : Option Int := none

namespace StaffAssignment
variable (assignment : StaffAssignment)

def expired (now : Int) : Bool :=
  assignment.expiresAt.any (· ≤ now)

/-- What `resolvePersonalStaffAssignments` writes before it reads. -/
def expire (now : Int) : StaffAssignment :=
  if assignment.expired now then { assignment with status := .expired, invitationState := .expired } else assignment

/-- What `resolveStaffAssignment` writes for a station before it reads. -/
def expireStation (now : Int) : StaffAssignment :=
  if assignment.expired now then { assignment with status := .expired } else assignment

def active (now : Int) : Bool :=
  assignment.status == .active && !assignment.expired now

def hasStaffPermission (permission : StaffPermission) : Bool :=
  assignment.permissions.contains permission

def scopeActivityIds : Option (List Json) :=
  ((assignment.scope.lookup "activityIds").bind Json.asArray).filter fun value =>
    value.all fun entry => entry.asString.isSome

def canUseActivity (activityId : String) : Bool :=
  match assignment.scopeActivityIds with
  | none => true
  | some ids => ids.isEmpty || Json.includes ids activityId

def canUseCheckpoint (checkpointId : String) : Bool :=
  match (assignment.scope.lookup "checkpointIds").bind Json.asArray with
  | none => true
  | some value => value.isEmpty || Json.includes value checkpointId

def scopeBoolean (key : String) : Bool :=
  (assignment.scope.lookup key).any Json.isTrue

def scopeNumber (key : String) (fallback : Rat) : Rat :=
  ((assignment.scope.lookup key).bind Json.asNumber).getD fallback

/-- How `reserveOfflineScoreBudget` reads the activities of an assignment. -/
def canScoreOffline (activityId : String) : Bool :=
  match (assignment.scope.lookup "activityIds").bind Json.asArray with
  | none => true
  | some activityIds => Json.includes activityIds activityId

end StaffAssignment

/-- `token`: the literal `personal`, or the secret of a station. -/
inductive StaffToken where
  | personal
  | station (tokenHash : String)

structure StaffRequest where
  eventSlug : String
  token : StaffToken
  personId : Option String
  deviceId : String
  now : Int

structure ResolvedStaffAccess where
  assignments : List StaffAssignment

def resolvePersonalStaffAssignments (rows : List StaffAssignment) (eventSlug personId : String) (now : Int) :
    List StaffAssignment :=
  ((rows.filter fun row => row.eventSlug == eventSlug && row.personId == some personId &&
      row.assignmentType == .personal && row.invitationState == .active).map (·.expire now)).filter
    (·.active now)

def resolveStaffAssignment (rows : List StaffAssignment) (eventSlug tokenHash : String) (now : Int) :
    Option StaffAssignment :=
  (((rows.filter fun row => row.eventSlug == eventSlug && row.assignmentType == .station &&
      row.tokenHash == some tokenHash && row.invitationState == .active).map (·.expireStation now)).head?).filter
    (·.active now)

def recordStaffDevice (devices : List StaffDevice) (assignmentId deviceId : String) : Bool :=
  !devices.any fun device =>
    device.assignmentId == assignmentId && device.deviceId == deviceId && device.revokedAt.isSome

def resolveStaffAccess (rows : List StaffAssignment) (devices : List StaffDevice) (request : StaffRequest) :
    Option ResolvedStaffAccess :=
  let assignments := match request.token with
    | .personal => match request.personId with
      | none => []
      | some personId => resolvePersonalStaffAssignments rows request.eventSlug personId request.now
    | .station tokenHash => (resolveStaffAssignment rows request.eventSlug tokenHash request.now).toList
  let active := if request.deviceId = "" then assignments
    else assignments.filter fun assignment => recordStaffDevice devices assignment.id request.deviceId
  if active.isEmpty then none else some { assignments := active }

def staffAssignmentForPermission (access : Option ResolvedStaffAccess) (permission : StaffPermission)
    (accepts : StaffAssignment → Bool) : Option StaffAssignment :=
  access.bind fun access =>
    access.assignments.find? fun assignment => assignment.hasStaffPermission permission && accepts assignment

def assignmentFor (access : Option ResolvedStaffAccess) (permission : StaffPermission) (activityId : Option String) :
    Option StaffAssignment :=
  staffAssignmentForPermission access permission fun assignment =>
    match activityId with
    | none => true
    | some activityId => activityId == "" || assignment.canUseActivity activityId

end MilkAndHenny.Staff
