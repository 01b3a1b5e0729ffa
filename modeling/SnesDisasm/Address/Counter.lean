import SnesDisasm.Framework.CallRuns
import SnesDisasm.Model.ROMAddress

/-!
# An address as a counter of three bytes

Every observer and every setter looks at the 32-bit field of an address modulo `2^24`.
-/

namespace SnesDisasm
open FixedWidth CallRuns ROMAddress

/-- The reference machine. -/
structure ByteCounter where
  bank : UInt8 := 0
  page : UInt8 := 0
  offset : UInt8 := 0
  deriving DecidableEq, Repr

namespace ByteCounter

def value (counter : ByteCounter) : Nat :=
  counter.bank.toNat * 0x10000 + counter.page.toNat * 0x100 + counter.offset.toNat

def ofNat (n : Nat) : ByteCounter := ⟨.ofNat (n / 0x10000), .ofNat (n / 0x100), .ofNat n⟩

def bankAddress (counter : ByteCounter) : UInt16 :=
  .ofNat (counter.page.toNat * 0x100 + counter.offset.toNat)

def applyCall (counter : ByteCounter) : AddressCall → ByteCounter
  | .construct bankID bankAddress =>
      ⟨bankID, .ofNat (bankAddress.toNat / 0x100), .ofNat bankAddress.toNat⟩
  | .setROMAddress longAddress => ofNat longAddress.val.toNat
  | .setROMBank ROMBank => { counter with bank := ROMBank }
  | .setBankAddress addressInBank =>
      { counter with
        page := .ofNat (addressInBank.toNat / 0x100)
        offset := .ofNat addressInBank.toNat }
  | .setPageID pageID => { counter with page := pageID }
  | .setPageAddress addressInPage => { counter with offset := addressInPage }
  | .addAssign i => ofNat (((counter.value : Int) + i.toInt) % 2^24).toNat

def afterCalls (calls : List AddressCall) : ByteCounter := calls.foldl applyCall {}

def address (counter : ByteCounter) (addressClass : AddressClass) : ROMAddress :=
  .ofBank addressClass counter.bank counter.bankAddress

theorem ofNat_value (n : Nat) : (ofNat n).value = n % 2^24 := by
  simp only [ofNat, value, UInt8.toNat_ofNat']
  omega

theorem bankAddress_toNat (counter : ByteCounter) :
    counter.bankAddress.toNat = counter.page.toNat * 0x100 + counter.offset.toNat := by
  have hpage := counter.page.toNat_lt
  have hoffset := counter.offset.toNat_lt
  rw [bankAddress, UInt16.toNat_ofNat']
  omega

theorem address_toNat (counter : ByteCounter) (addressClass : AddressClass) :
    (counter.address addressClass).m_Address.toNat = counter.value := by
  rw [address, ofBank_toNat, bankAddress_toNat, value, Nat.add_assoc]

end ByteCounter

/-- The stored value is that of the three bytes modulo `2^24`. -/
def Holds (x : ROMAddress) (counter : ByteCounter) : Prop :=
  x.m_Address.toNat % 2^24 = counter.value

structure ObservedAs (x : ROMAddress) (counter : ByteCounter) : Prop where
  bank : x.bank = counter.bank
  page : x.page = counter.page
  pageAddress : x.pageAddress = counter.offset
  bankAddress : x.bankAddress = counter.bankAddress
  loImage : LoROMAddress.toImageAddress x =
    LoROMAddress.toImageAddress (counter.address x.addressClass)
  hiImage : HiROMAddress.toImageAddress x =
    HiROMAddress.toImageAddress (counter.address x.addressClass)

theorem setROMBank_toNat (x : ROMAddress) (ROMBank : UInt8) :
    (x.setROMBank ROMBank).m_Address.toNat =
      ROMBank.toNat * 0x10000 + x.m_Address.toNat % 0x10000 := by
  have hbank := ROMBank.toNat_lt
  have hmask := toNat_and_mask x.m_Address 0x00FFFF 16 (by decide)
  have hconcat := toNat_concat ROMBank.toUInt32 (x.m_Address &&& 0x00FFFF) 16 (by decide)
    (by rw [hmask]; exact Nat.mod_lt _ (by decide)) (by simp; omega)
  rw [hmask, UInt8.toNat_toUInt32] at hconcat
  exact hconcat

theorem setBankAddress_toNat (x : ROMAddress) (addressInBank : UInt16) :
    (x.setBankAddress addressInBank).m_Address.toNat =
      x.m_Address.toNat / 0x10000 % 0x100 * 0x10000 + addressInBank.toNat := by
  have hlow : addressInBank.toUInt32.toNat < 2^16 := by
    rw [UInt16.toNat_toUInt32]
    exact addressInBank.toNat_lt
  have hfield := toNat_field_or x.m_Address 0xFF0000 addressInBank.toUInt32 16 8 (by decide)
    (by decide) hlow
  rw [UInt16.toNat_toUInt32] at hfield
  exact hfield

theorem setPageID_split (x : ROMAddress) (pageID : UInt8) :
    (x.setPageID pageID).m_Address = (x.m_Address &&& (0xFF0000 : UInt32)) |||
      ((pageID.toUInt32 <<< 8) ||| (x.m_Address &&& (0xFF : UInt32))) := by
  have hmasks : (0xFF00FF : UInt32) = 0xFF0000 ||| 0xFF := by decide
  unfold setPageID
  rw [hmasks]
  apply UInt32.toNat_inj.mp
  simp only [UInt32.toNat_or, UInt32.toNat_and]
  rw [Nat.and_or_distrib_left, Nat.or_assoc, Nat.or_comm (pageID.toUInt32 <<< 8).toNat]

theorem setPageID_toNat (x : ROMAddress) (pageID : UInt8) :
    (x.setPageID pageID).m_Address.toNat =
      x.m_Address.toNat / 0x10000 % 0x100 * 0x10000 + pageID.toNat * 0x100 +
        x.m_Address.toNat % 0x100 := by
  have hpage := pageID.toNat_lt
  have hmask := toNat_and_mask x.m_Address 0xFF 8 (by decide)
  have hconcat := toNat_concat pageID.toUInt32 (x.m_Address &&& 0xFF) 8 (by decide)
    (by rw [hmask]; exact Nat.mod_lt _ (by decide)) (by simp; omega)
  rw [hmask, UInt8.toNat_toUInt32] at hconcat
  have hvalue : ((pageID.toUInt32 <<< 8) ||| (x.m_Address &&& (0xFF : UInt32))).toNat =
      pageID.toNat * 0x100 + x.m_Address.toNat % 0x100 := hconcat
  rw [setPageID_split, toNat_field_or x.m_Address 0xFF0000 _ 16 8 (by decide) (by decide)
    (by rw [hvalue]; omega), hvalue, ← Nat.add_assoc]
  rfl

theorem setPageAddress_toNat (x : ROMAddress) (addressInPage : UInt8) :
    (x.setPageAddress addressInPage).m_Address.toNat =
      x.m_Address.toNat / 0x100 % 0x10000 * 0x100 + addressInPage.toNat := by
  have hlow : addressInPage.toUInt32.toNat < 2^8 := by
    rw [UInt8.toNat_toUInt32]
    exact addressInPage.toNat_lt
  have hfield := toNat_field_or x.m_Address 0xFFFF00 addressInPage.toUInt32 8 16 (by decide)
    (by decide) hlow
  rw [UInt8.toNat_toUInt32] at hfield
  exact hfield

theorem addAssign_toNat (x : ROMAddress) (i : Int32) :
    ((x.addAssign i).m_Address.toNat : Int) % 2^24 = (x.m_Address.toNat + i.toInt) % 2^24 := by
  have hi := toNat_toUInt32_emod i
  have hsum : (x.addAssign i).m_Address.toNat =
      (x.m_Address.toNat + i.toUInt32.toNat) % 2^32 := UInt32.toNat_add _ _
  omega

theorem ByteCounter.holds_address (counter : ByteCounter) (addressClass : AddressClass) :
    Holds (counter.address addressClass) counter := by
  have hbank := counter.bank.toNat_lt
  have hpage := counter.page.toNat_lt
  have hoffset := counter.offset.toNat_lt
  rw [Holds, counter.address_toNat, ByteCounter.value]
  omega

theorem LoROMAddress.toImageAddress_congr {x y : ROMAddress} (hbank : x.bank = y.bank)
    (hbankAddress : x.bankAddress = y.bankAddress) :
    LoROMAddress.toImageAddress x = LoROMAddress.toImageAddress y := by
  simp only [LoROMAddress.toImageAddress, hbank, hbankAddress]

theorem HiROMAddress.toImageAddress_congr {x y : ROMAddress} (hbank : x.bank = y.bank)
    (hbankAddress : x.bankAddress = y.bankAddress) :
    HiROMAddress.toImageAddress x = HiROMAddress.toImageAddress y := by
  simp only [HiROMAddress.toImageAddress, hbank, hbankAddress]

namespace Holds

variable {x : ROMAddress} {counter : ByteCounter} (h : Holds x counter)
include h

theorem bank_eq : x.m_Address.toNat / 0x10000 % 0x100 = counter.bank.toNat := by
  have hpage := counter.page.toNat_lt
  have hoffset := counter.offset.toNat_lt
  have hbank := counter.bank.toNat_lt
  unfold Holds ByteCounter.value at h
  omega

theorem page_eq : x.m_Address.toNat / 0x100 % 0x100 = counter.page.toNat := by
  have hpage := counter.page.toNat_lt
  have hoffset := counter.offset.toNat_lt
  unfold Holds ByteCounter.value at h
  omega

theorem offset_eq : x.m_Address.toNat % 0x100 = counter.offset.toNat := by
  have hoffset := counter.offset.toNat_lt
  unfold Holds ByteCounter.value at h
  omega

theorem bank : x.bank = counter.bank := by
  rw [bank_eq_iff, h.bank_eq]

theorem bankAddress : x.bankAddress = counter.bankAddress := by
  rw [← UInt16.toNat_inj, ROMAddress.bankAddress_toNat, counter.bankAddress_toNat, ← h.page_eq,
    ← h.offset_eq]
  omega

theorem observed : ObservedAs x counter := by
  have hconstructed : Holds (counter.address x.addressClass) counter :=
    counter.holds_address x.addressClass
  have hbank := h.bank.trans hconstructed.bank.symm
  have hbankAddress := h.bankAddress.trans hconstructed.bankAddress.symm
  refine ⟨h.bank, ?_, ?_, h.bankAddress, ?_, ?_⟩
  · rw [← UInt8.toNat_inj, page_toNat, h.page_eq]
  · rw [← UInt8.toNat_inj, pageAddress_toNat, h.offset_eq]
  · exact LoROMAddress.toImageAddress_congr hbank hbankAddress
  · exact HiROMAddress.toImageAddress_congr hbank hbankAddress

theorem applyCall (call : AddressCall) :
    ∃ y, x.applyCall call = .ok y ∧ y.addressClass = x.addressClass ∧
      Holds y (counter.applyCall call) := by
  have hbank := h.bank_eq
  have hpage := h.page_eq
  have hoffset := h.offset_eq
  cases call with
  | construct bankID bankAddress =>
    refine ⟨_, rfl, rfl, ?_⟩
    have hlt := bankAddress.toNat_lt
    have hbankLt := bankID.toNat_lt
    simp only [Holds, ByteCounter.applyCall, ByteCounter.value, ofBank_toNat, UInt8.toNat_ofNat']
    omega
  | setROMAddress longAddress =>
    have hlt := UInt32.lt_iff_toNat_lt.mp longAddress.property
    refine ⟨⟨x.addressClass, longAddress⟩, ?_, rfl, ?_⟩
    · rw [ROMAddress.applyCall, setROMAddress, assert_true longAddress.property]
      rfl
    · rw [Holds, ByteCounter.applyCall, ByteCounter.ofNat_value]
  | setROMBank ROMBank =>
    have hlt := ROMBank.toNat_lt
    refine ⟨_, rfl, rfl, ?_⟩
    simp only [Holds, ByteCounter.applyCall, ByteCounter.value, setROMBank_toNat]
    omega
  | setBankAddress addressInBank =>
    have hlt := addressInBank.toNat_lt
    refine ⟨_, rfl, rfl, ?_⟩
    simp only [Holds, ByteCounter.applyCall, ByteCounter.value, setBankAddress_toNat,
      UInt8.toNat_ofNat']
    omega
  | setPageID pageID =>
    have hlt := pageID.toNat_lt
    refine ⟨_, rfl, rfl, ?_⟩
    simp only [Holds, ByteCounter.applyCall, ByteCounter.value, setPageID_toNat]
    omega
  | setPageAddress addressInPage =>
    have hlt := addressInPage.toNat_lt
    refine ⟨_, rfl, rfl, ?_⟩
    simp only [Holds, ByteCounter.applyCall, ByteCounter.value, setPageAddress_toNat]
    omega
  | addAssign i =>
    have hsum := addAssign_toNat x i
    unfold Holds at h
    refine ⟨_, rfl, rfl, ?_⟩
    rw [Holds, ByteCounter.applyCall, ByteCounter.ofNat_value]
    omega

end Holds

/-- After any sequence of operations all observers return what they return for a machine of three
bytes. -/
theorem address_is_byte_counter (addressClass : AddressClass) (calls : List AddressCall) :
    ∃ x, afterCalls addressClass calls = .ok x ∧ x.addressClass = addressClass ∧
      ObservedAs x (ByteCounter.afterCalls calls) := by
  have hstep : ∀ (x : ROMAddress) (counter : ByteCounter) (call : AddressCall),
      x.addressClass = addressClass ∧ Holds x counter →
        ∃ y, x.applyCall call = .ok y ∧
          y.addressClass = addressClass ∧ Holds y (counter.applyCall call) := by
    intro x counter call h
    obtain ⟨y, hy, hclass, hholds⟩ := h.2.applyCall call
    exact ⟨y, hy, hclass.trans h.1, hholds⟩
  have hstart : Holds ⟨addressClass, 0⟩ {} := rfl
  obtain ⟨x, hx, hclass, hholds⟩ := related_foldlM hstep ⟨rfl, hstart⟩ calls
  exact ⟨x, hx, hclass, hholds.observed⟩

end SnesDisasm
