import SoundDevices.Channel

set_option autoImplicit false

namespace SoundDevices

/-- No more channels than this are kept of one device. -/
def maxChannels : Nat := 24

/-- A well-known set of roles and what it is called. -/
structure BuiltinLayout where
  name : String
  roles : List ChannelRole
  deriving DecidableEq, Repr

/-- Equally many roles, and the same ones, in whatever order. -/
def sameRoles (first second : List ChannelRole) : Bool :=
  first.length == second.length && first.all (second.contains ·) && second.all (first.contains ·)

namespace BuiltinLayout

open ChannelRole in
def table : List BuiltinLayout :=
  [⟨"Mono", [frontCenter]⟩,
   ⟨"Stereo", [frontLeft, frontRight]⟩,
   ⟨"2.1", [frontLeft, frontRight, lfe]⟩,
   ⟨"3.0", [frontLeft, frontRight, frontCenter]⟩,
   ⟨"3.0 (back)", [frontLeft, frontRight, backCenter]⟩,
   ⟨"3.1", [frontLeft, frontRight, frontCenter, lfe]⟩,
   ⟨"4.0", [frontLeft, frontRight, frontCenter, backCenter]⟩,
   ⟨"Quad", [frontLeft, frontRight, backLeft, backRight]⟩,
   ⟨"Quad (side)", [frontLeft, frontRight, sideLeft, sideRight]⟩,
   ⟨"4.1", [frontLeft, frontRight, backLeft, backRight, lfe]⟩,
   ⟨"5.0 (back)", [frontLeft, frontRight, frontCenter, backLeft, backRight]⟩,
   ⟨"5.0 (side)", [frontLeft, frontRight, frontCenter, sideLeft, sideRight]⟩,
   ⟨"5.1", [frontLeft, frontRight, frontCenter, sideLeft, sideRight, lfe]⟩,
   ⟨"5.1 (back)", [frontLeft, frontRight, frontCenter, backLeft, backRight, lfe]⟩,
   ⟨"6.0 (side)", [frontLeft, frontRight, frontCenter, sideLeft, sideRight, backCenter]⟩,
   ⟨"6.0 (front)", [frontLeft, frontRight, sideLeft, sideRight, frontLeftCenter,
      frontRightCenter]⟩,
   ⟨"Hexagonal", [frontLeft, frontRight, frontCenter, backLeft, backRight, backCenter]⟩,
   ⟨"6.1", [frontLeft, frontRight, frontCenter, sideLeft, sideRight, backCenter, lfe]⟩,
   ⟨"6.1 (back)", [frontLeft, frontRight, frontCenter, backLeft, backRight, backCenter, lfe]⟩,
   ⟨"6.1 (front)", [frontLeft, frontRight, sideLeft, sideRight, frontLeftCenter,
      frontRightCenter, lfe]⟩,
   ⟨"7.0", [frontLeft, frontRight, frontCenter, sideLeft, sideRight, backLeft, backRight]⟩,
   ⟨"7.0 (front)", [frontLeft, frontRight, frontCenter, sideLeft, sideRight, frontLeftCenter,
      frontRightCenter]⟩,
   ⟨"7.1", [frontLeft, frontRight, frontCenter, sideLeft, sideRight, backLeft, backRight, lfe]⟩,
   ⟨"7.1 (wide)", [frontLeft, frontRight, frontCenter, sideLeft, sideRight, frontLeftCenter,
      frontRightCenter, lfe]⟩,
   ⟨"7.1 (wide back)", [frontLeft, frontRight, frontCenter, backLeft, backRight,
      frontLeftCenter, frontRightCenter, lfe]⟩,
   ⟨"Octagonal", [frontLeft, frontRight, frontCenter, sideLeft, sideRight, backLeft, backRight,
      backCenter]⟩]

def find? (roles : List ChannelRole) : Option BuiltinLayout :=
  table.find? (fun layout => sameRoles layout.roles roles)

/-- The name of the builtin layout that has exactly these roles, in whatever order. -/
def detect (roles : List ChannelRole) : Option String :=
  (find? roles).map (·.name)

end BuiltinLayout

structure ChannelLayout where
  channels : List ChannelRole
  length_le : channels.length ≤ maxChannels
  deriving DecidableEq, Repr

namespace ChannelLayout

/-- The layout with no channels: nothing is known of the device. -/
def empty : ChannelLayout := ⟨[], Nat.zero_le _⟩

instance : Inhabited ChannelLayout := ⟨empty⟩

/-- The layout with these roles; what lies past `maxChannels` is dropped. -/
def ofRoles (roles : List ChannelRole) : ChannelLayout :=
  ⟨roles.take maxChannels, List.length_take_le _ _⟩

@[simp] theorem channels_ofRoles (roles : List ChannelRole) :
    (ofRoles roles).channels = roles.take maxChannels := rfl

/-- What the layout is called, if it is a well-known one. -/
def name (layout : ChannelLayout) : Option String :=
  BuiltinLayout.detect layout.channels

def count (layout : ChannelLayout) : Nat := layout.channels.length

def isEmpty (layout : ChannelLayout) : Bool := layout.channels.isEmpty

theorem count_ofRoles (roles : List ChannelRole) :
    (ofRoles roles).count = min maxChannels roles.length := by
  simp [count]

end ChannelLayout

end SoundDevices
