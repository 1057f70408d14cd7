import Mathlib

/-!
# Object guids

An `ObjectGuid` is a 64-bit number; its upper 16 bits, the *high guid*, say what kind of object it
names.  The development only ever compares guids, prints them and asks whether one names a group,
so a guid is kept as the number it is.
-/

namespace Gundrak

/-- The raw value of a guid. -/
abbrev ObjectGuid := ℕ

namespace ObjectGuid

/-- `ObjectGuid::Empty`. -/
def Empty : ObjectGuid := 0

/-- `HighGuid::Group`. -/
def highGuidGroup : ℕ := 0x1F50

/-- `ObjectGuid::GetHigh`. -/
def getHigh (guid : ObjectGuid) : ℕ := guid / 2 ^ 48 % 2 ^ 16

/-- `ObjectGuid::IsGroup`. -/
def isGroup (guid : ObjectGuid) : Bool := guid.getHigh == highGuidGroup

end ObjectGuid

end Gundrak
