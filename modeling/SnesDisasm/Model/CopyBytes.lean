import Mathlib.Logic.Function.Basic
import SnesDisasm.Model.SNESROM

/-!
# Copying bytes
-/

namespace SnesDisasm
namespace SNESROM

/-- The loop from the counter `i` on, or `none` where the fuel is used up: a counter of 32 bits may
never reach a length of 64 bits. -/
def copyLoop (rom : SNESROM) (numberOfBytesToCopy : UInt64) : Nat → UInt32 → (Nat → UInt8) →
    ROMAddress → Except Fault (Option ((Nat → UInt8) × ROMAddress))
  | 0, _, _, _ => .ok none
  | fuel + 1, i, destination, rom_address =>
      if i.toUInt64 < numberOfBytesToCopy then do
        let imageAddress ← rom_address.toImageAddress
        let byte ← rom.headerless.deref imageAddress.toNat
        rom.copyLoop numberOfBytesToCopy fuel (i + 1)
          (Function.update destination i.toNat byte) rom_address
      else
        .ok (some (destination, rom_address))

def copyBytes (rom : SNESROM) (fuel : Nat) (destination : Nat → UInt8) (rom_address : ROMAddress)
    (numberOfBytesToCopy : UInt64) : Except Fault (Option ((Nat → UInt8) × ROMAddress)) :=
  rom.copyLoop numberOfBytesToCopy fuel 0 destination rom_address

end SNESROM

end SnesDisasm
