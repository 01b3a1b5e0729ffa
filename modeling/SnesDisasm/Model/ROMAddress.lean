import SnesDisasm.Framework.Words
import SnesDisasm.Model.Memory

/-!
# ROM addresses

A `ROMAddress *` is modelled by the object it points to, with the concrete class as a tag.
-/

namespace SnesDisasm
open FixedWidth

/-- `RomLayout`: its constructor is private, so only these five values exist. -/
inductive RomLayout where
  | LoROM
  | HiROM
  | ExLoROM
  | ExHiROM
  | Error
  deriving DecidableEq, Repr

def RomLayout.fromByteCode (code : UInt8) : RomLayout :=
  if code &&& 0x01 != 0x01 then .LoROM else .HiROM

abbrev ImageAddress := UInt32

/-- `ImageAddress(-1)`, returned for the system RAM banks. -/
def ramSentinel : ImageAddress := 0xFFFFFFFF

inductive AddressClass where
  | LoROMAddress
  | HiROMAddress
  deriving DecidableEq, Repr

structure ROMAddress where
  addressClass : AddressClass
  m_Address : UInt32
  deriving DecidableEq, Repr

namespace ROMAddress

def bank (address : ROMAddress) : UInt8 := ((address.m_Address &&& 0xFF0000) >>> 16).toUInt8

def bankAddress (address : ROMAddress) : UInt16 := (address.m_Address &&& 0x00FFFF).toUInt16

def page (address : ROMAddress) : UInt8 := ((address.m_Address &&& 0x00FF00) >>> 8).toUInt8

def pageAddress (address : ROMAddress) : UInt8 := (address.m_Address &&& 0x0000FF).toUInt8

/-- `ROMAddress(bankID, bankAddress)`. -/
def ofBank (addressClass : AddressClass) (bankID : UInt8) (bankAddress : UInt16) : ROMAddress :=
  ⟨addressClass, (bankID.toUInt32 <<< 16) ||| bankAddress.toUInt32⟩

/-- `operator+=`: the `int` is converted to the unsigned type of the field. -/
def addAssign (address : ROMAddress) (i : Int32) : ROMAddress :=
  { address with m_Address := address.m_Address + i.toUInt32 }

def advance (address : ROMAddress) (n : Nat) : ROMAddress := address.addAssign (Int32.ofNat n)

def setROMAddress (address : ROMAddress) (longAddress : UInt32) : Except Fault ROMAddress := do
  assert (longAddress < 0x1000000)
  return { address with m_Address := longAddress }

def setROMBank (address : ROMAddress) (ROMBank : UInt8) : ROMAddress :=
  { address with m_Address := (ROMBank.toUInt32 <<< 16) ||| (address.m_Address &&& 0x00FFFF) }

def setBankAddress (address : ROMAddress) (addressInBank : UInt16) : ROMAddress :=
  { address with m_Address := (address.m_Address &&& 0xFF0000) ||| addressInBank.toUInt32 }

def setPageID (address : ROMAddress) (pageID : UInt8) : ROMAddress :=
  { address with m_Address := (address.m_Address &&& (0xFF00FF : UInt32)) ||| (pageID.toUInt32 <<< 8) }

def setPageAddress (address : ROMAddress) (addressInPage : UInt8) : ROMAddress :=
  { address with m_Address := (address.m_Address &&& 0xFFFF00) ||| addressInPage.toUInt32 }

/-- The value of a call of `setROMAddress` that passes its assertion. -/
abbrev LongAddress := { longAddress : UInt32 // longAddress < 0x1000000 }

/-- The operations that change an address; a construction gives the object a new value. -/
inductive AddressCall where
  | construct (bankID : UInt8) (bankAddress : UInt16)
  | setROMAddress (longAddress : LongAddress)
  | setROMBank (ROMBank : UInt8)
  | setBankAddress (addressInBank : UInt16)
  | setPageID (pageID : UInt8)
  | setPageAddress (addressInPage : UInt8)
  | addAssign (i : Int32)
  deriving DecidableEq, Repr

def applyCall (address : ROMAddress) : AddressCall → Except Fault ROMAddress
  | .construct bankID bankAddress => .ok (.ofBank address.addressClass bankID bankAddress)
  | .setROMAddress longAddress => address.setROMAddress longAddress
  | .setROMBank ROMBank => .ok (address.setROMBank ROMBank)
  | .setBankAddress addressInBank => .ok (address.setBankAddress addressInBank)
  | .setPageID pageID => .ok (address.setPageID pageID)
  | .setPageAddress addressInPage => .ok (address.setPageAddress addressInPage)
  | .addAssign i => .ok (address.addAssign i)

def afterCalls (addressClass : AddressClass) (calls : List AddressCall) : Except Fault ROMAddress :=
  calls.foldlM applyCall ⟨addressClass, 0⟩

theorem bank_toNat (address : ROMAddress) :
    address.bank.toNat = address.m_Address.toNat / 0x10000 % 0x100 := by
  have hfield := toNat_field address.m_Address 0xFF0000 16 8 (by decide) (by decide)
  have hlt : address.m_Address.toNat / 0x10000 % 0x100 < 0x100 := Nat.mod_lt _ (by decide)
  rw [bank, UInt32.toNat_toUInt8, hfield]
  exact Nat.mod_eq_of_lt hlt

theorem bankAddress_toNat (address : ROMAddress) :
    address.bankAddress.toNat = address.m_Address.toNat % 0x10000 := by
  have hmask := toNat_and_mask address.m_Address 0x00FFFF 16 (by decide)
  have hlt : address.m_Address.toNat % 0x10000 < 0x10000 := Nat.mod_lt _ (by decide)
  rw [bankAddress, UInt32.toNat_toUInt16, hmask]
  exact Nat.mod_eq_of_lt hlt

theorem page_toNat (address : ROMAddress) :
    address.page.toNat = address.m_Address.toNat / 0x100 % 0x100 := by
  have hfield := toNat_field address.m_Address 0x00FF00 8 8 (by decide) (by decide)
  have hlt : address.m_Address.toNat / 0x100 % 0x100 < 0x100 := Nat.mod_lt _ (by decide)
  rw [page, UInt32.toNat_toUInt8, hfield]
  exact Nat.mod_eq_of_lt hlt

theorem pageAddress_toNat (address : ROMAddress) :
    address.pageAddress.toNat = address.m_Address.toNat % 0x100 := by
  have hmask := toNat_and_mask address.m_Address 0x0000FF 8 (by decide)
  have hlt : address.m_Address.toNat % 0x100 < 0x100 := Nat.mod_lt _ (by decide)
  rw [pageAddress, UInt32.toNat_toUInt8, hmask]
  exact Nat.mod_eq_of_lt hlt

theorem bank_eq_iff (address : ROMAddress) (bankID : UInt8) :
    address.bank = bankID ↔ address.m_Address.toNat / 0x10000 % 0x100 = bankID.toNat := by
  rw [← UInt8.toNat_inj, bank_toNat]

theorem ofBank_toNat (addressClass : AddressClass) (bankID : UInt8) (bankAddress : UInt16) :
    (ofBank addressClass bankID bankAddress).m_Address.toNat =
      bankID.toNat * 0x10000 + bankAddress.toNat := by
  have hbank := bankID.toNat_lt
  have haddress := bankAddress.toNat_lt
  have hconcat := toNat_concat bankID.toUInt32 bankAddress.toUInt32 16 (by decide)
    (by simpa using haddress) (by simp; omega)
  simpa [ofBank] using hconcat

@[simp] theorem advance_addressClass (address : ROMAddress) (n : Nat) :
    (address.advance n).addressClass = address.addressClass := rfl

theorem advance_toNat (address : ROMAddress) (n : Nat) :
    (address.advance n).m_Address.toNat = (address.m_Address.toNat + n) % 2^32 := by
  have hn : (Int32.ofNat n).toUInt32 = UInt32.ofNat n := rfl
  rw [advance, addAssign, hn, UInt32.toNat_add, UInt32.toNat_ofNat', Nat.add_mod_mod]

theorem advance_bankAddress_toNat (address : ROMAddress) (n : Nat) :
    (address.advance n).bankAddress.toNat = (address.bankAddress.toNat + n) % 0x10000 := by
  rw [bankAddress_toNat, bankAddress_toNat, advance_toNat]
  omega

theorem ext_toNat {x y : ROMAddress} (hclass : x.addressClass = y.addressClass)
    (hvalue : x.m_Address.toNat = y.m_Address.toNat) : x = y := by
  cases x
  cases y
  simp only [mk.injEq]
  exact ⟨hclass, UInt32.toNat_inj.mp hvalue⟩

@[simp] theorem advance_zero (address : ROMAddress) : address.advance 0 = address := by
  have hlt := address.m_Address.toNat_lt
  apply ext_toNat
  · rfl
  · rw [advance_toNat, Nat.add_zero, Nat.mod_eq_of_lt hlt]

@[simp] theorem advance_advance (address : ROMAddress) (m n : Nat) :
    (address.advance m).advance n = address.advance (m + n) := by
  apply ext_toNat
  · rfl
  · simp only [advance_toNat]
    omega

theorem advance_eq_self_iff (address : ROMAddress) (n : Nat) :
    address.advance n = address ↔ 2^32 ∣ n := by
  have hlt := address.m_Address.toNat_lt
  constructor
  · intro h
    have hvalue := congrArg (fun x => x.m_Address.toNat) h
    simp only [advance_toNat] at hvalue
    omega
  · intro h
    apply ext_toNat
    · rfl
    · rw [advance_toNat]
      omega

end ROMAddress

/-- The mirror that either class chooses for an image offset. -/
def mirroredAddress (imageAdress : ImageAddress) (bank : UInt8) (bankAddress : UInt16) : UInt32 :=
  let bank := if imageAdress > 0x3DFFFF then bank + 0x80 else bank
  (bank.toUInt32 <<< 16) ||| bankAddress.toUInt32

namespace LoROMAddress

def toImageAddress (address : ROMAddress) : ImageAddress :=
  let bank := address.bank
  if bank = 0x7E ∨ bank = 0x7F then
    ramSentinel
  else
    -- `+` binds tighter than `&`: the mask applies to the whole sum
    ((bank &&& 0x7F).toUInt32 * 0x10000 / 2 + address.bankAddress.toUInt32) &&& 0x7FFF

def fromImageAddress (imageAdress : ImageAddress) : Except Fault ROMAddress := do
  assert (imageAdress < 0x400000)
  let bank := (imageAdress / 0x8000).toUInt8
  let bankAddress := (0x8000 + (imageAdress &&& 0x7FFF)).toUInt16
  return ⟨.LoROMAddress, mirroredAddress imageAdress bank bankAddress⟩

end LoROMAddress

namespace HiROMAddress

def toImageAddress (address : ROMAddress) : Except Fault ImageAddress := do
  let bank := address.bank
  if bank = 0x7E ∨ bank = 0x7F then
    return ramSentinel
  else
    -- the value first assigned from `m_Address & 0x3FFFFF` is overwritten below
    if bank &&& 0x7F < 0x40 then
      assert (address.bankAddress > 0x7FFF)
    return ((bank &&& 0x3F).toUInt32 <<< 16) + address.bankAddress.toUInt32

def fromImageAddress (imageAdress : ImageAddress) : Except Fault ROMAddress := do
  assert (imageAdress < 0x400000)
  let bank := (imageAdress / 0x10000).toUInt8
  let bankAddress := (imageAdress % 0xFFFF).toUInt16
  return ⟨.HiROMAddress, mirroredAddress imageAdress bank bankAddress⟩

end HiROMAddress

def ROMAddress.toImageAddress (address : ROMAddress) : Except Fault ImageAddress :=
  match address.addressClass with
  | .LoROMAddress => .ok (LoROMAddress.toImageAddress address)
  | .HiROMAddress => HiROMAddress.toImageAddress address

/-- `LoROMAddress(imageAddress)` or `HiROMAddress(imageAddress)`. -/
def ROMAddress.ofImageAddress (addressClass : AddressClass) (imageAddress : ImageAddress) :
    Except Fault ROMAddress :=
  match addressClass with
  | .LoROMAddress => LoROMAddress.fromImageAddress imageAddress
  | .HiROMAddress => HiROMAddress.fromImageAddress imageAddress

/-- `getROMAddressObject`: for any other layout the function ends without a `return`. -/
def getROMAddressObject (layout : RomLayout) : Except Fault ROMAddress :=
  if layout = .LoROM then
    .ok ⟨.LoROMAddress, 0⟩
  else if layout = .HiROM then
    .ok ⟨.HiROMAddress, 0⟩
  else
    .error .missingReturn

end SnesDisasm
