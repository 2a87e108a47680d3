set_option autoImplicit false

namespace SoundDevices

/-- The place a channel plays to or records from. -/
inductive ChannelRole where
  | invalid
  | frontLeft | frontRight | frontCenter | lfe
  | backLeft | backRight | frontLeftCenter | frontRightCenter | backCenter
  | sideLeft | sideRight
  | topCenter | topFrontLeft | topFrontCenter | topFrontRight
  | topBackLeft | topBackCenter | topBackRight
  | backLeftCenter | backRightCenter
  | frontLeftWide | frontRightWide
  | frontLeftHigh | frontCenterHigh | frontRightHigh
  | topFrontLeftCenter | topFrontRightCenter | topSideLeft | topSideRight
  | leftLfe | rightLfe
  | bottomCenter | bottomLeftCenter | bottomRightCenter
  deriving DecidableEq, Repr, Inhabited

/-- The roles that one handle offers, in the order of its channels. -/
abbrev ChannelMap := List ChannelRole

namespace ChannelRole

def all : List ChannelRole :=
  [invalid, frontLeft, frontRight, frontCenter, lfe, backLeft, backRight, frontLeftCenter,
    frontRightCenter, backCenter, sideLeft, sideRight, topCenter, topFrontLeft, topFrontCenter,
    topFrontRight, topBackLeft, topBackCenter, topBackRight, backLeftCenter, backRightCenter,
    frontLeftWide, frontRightWide, frontLeftHigh, frontCenterHigh, frontRightHigh,
    topFrontLeftCenter, topFrontRightCenter, topSideLeft, topSideRight, leftLfe, rightLfe,
    bottomCenter, bottomLeftCenter, bottomRightCenter]

theorem mem_all (role : ChannelRole) : role ∈ all := by
  cases role <;> decide

def name : ChannelRole → String
  | invalid => "Invalid"
  | frontLeft => "FrontLeft"
  | frontRight => "FrontRight"
  | frontCenter => "FrontCenter"
  | lfe => "Lfe"
  | backLeft => "BackLeft"
  | backRight => "BackRight"
  | frontLeftCenter => "FrontLeftCenter"
  | frontRightCenter => "FrontRightCenter"
  | backCenter => "BackCenter"
  | sideLeft => "SideLeft"
  | sideRight => "SideRight"
  | topCenter => "TopCenter"
  | topFrontLeft => "TopFrontLeft"
  | topFrontCenter => "TopFrontCenter"
  | topFrontRight => "TopFrontRight"
  | topBackLeft => "TopBackLeft"
  | topBackCenter => "TopBackCenter"
  | topBackRight => "TopBackRight"
  | backLeftCenter => "BackLeftCenter"
  | backRightCenter => "BackRightCenter"
  | frontLeftWide => "FrontLeftWide"
  | frontRightWide => "FrontRightWide"
  | frontLeftHigh => "FrontLeftHigh"
  | frontCenterHigh => "FrontCenterHigh"
  | frontRightHigh => "FrontRightHigh"
  | topFrontLeftCenter => "TopFrontLeftCenter"
  | topFrontRightCenter => "TopFrontRightCenter"
  | topSideLeft => "TopSideLeft"
  | topSideRight => "TopSideRight"
  | leftLfe => "LeftLfe"
  | rightLfe => "RightLfe"
  | bottomCenter => "BottomCenter"
  | bottomLeftCenter => "BottomLeftCenter"
  | bottomRightCenter => "BottomRightCenter"

def ofName? (text : String) : Option ChannelRole :=
  all.find? (·.name == text)

/-- The roles of the channel-map positions from 2 on. Position 2 is the single channel of a mono
handle, which is heard in front. -/
def fromPositionTwo : List ChannelRole :=
  [frontCenter, frontLeft, frontRight, backLeft, backRight, frontCenter, lfe, sideLeft, sideRight,
    backCenter, frontLeftCenter, frontRightCenter, backLeftCenter, backRightCenter, frontLeftWide,
    frontRightWide, frontLeftHigh, frontCenterHigh, frontRightHigh, topCenter, topFrontLeft,
    topFrontRight, topFrontCenter, topBackLeft, topBackRight, topBackCenter, topFrontLeftCenter,
    topFrontRightCenter, topSideLeft, topSideRight, leftLfe, rightLfe, bottomCenter,
    bottomLeftCenter, bottomRightCenter]

/-- The role of a channel-map position. Positions 0 and 1 (unknown, not applicable) and those
past the table have none. -/
def ofPosition (position : UInt32) : ChannelRole :=
  if position < 2 then invalid else fromPositionTwo.getD (position.toNat - 2) invalid

theorem ofPosition_of_ge (position : UInt32) (high : 37 ≤ position.toNat) :
    ofPosition position = invalid := by
  unfold ofPosition
  split
  · rfl
  · have past : fromPositionTwo.length ≤ position.toNat - 2 := by
      have size : fromPositionTwo.length = 35 := rfl
      omega
    simp [List.getD, List.getElem?_eq_none past]

end ChannelRole

end SoundDevices
