import SnesDisasm.Decode.Textual
import SnesDisasm.Model.Testapp
import SnesDisasm.Sweep.Delimits

/-!
# The printed listing

The lines of a section are read back from the text that the loop prints.
-/

namespace SnesDisasm
open FetchLoop OutputStream

namespace ROMAddress

def printed (address : ROMAddress) : List Char :=
  hexField 2 true address.bank.toNat ++ ':' :: hexField 4 true address.bankAddress.toNat

theorem print_eq (stream : Stream) (addr : ROMAddress) :
    addr.print stream =
      { stream with fill := '0', width := 0, written := stream.written ++ addr.printed } := by
  simp [print, printed, Stream.setFlags, Stream.setFill, Stream.setUppercase, Stream.setWidth,
    Stream.putNumber, Stream.putText, Stream.put, Flags.numeral, padded, hexField]

theorem printed_bank_length (address : ROMAddress) :
    (hexField 2 true address.bank.toNat).length = 2 :=
  hexField_length (by decide) address.bank.toNat_lt true

theorem printed_bankAddress_length (address : ROMAddress) :
    (hexField 4 true address.bankAddress.toNat).length = 4 :=
  hexField_length (by decide) address.bankAddress.toNat_lt true

theorem printed_length (address : ROMAddress) : address.printed.length = 7 := by
  simp [printed, printed_bank_length, printed_bankAddress_length]

theorem printed_take_bank (address : ROMAddress) (rest : List Char) :
    readHex ((address.printed ++ rest).take 2) = address.bank.toNat := by
  rw [printed, List.append_assoc, List.take_left' address.printed_bank_length, readHex_hexField]

theorem printed_drop_bankAddress (address : ROMAddress) (rest : List Char) :
    readHex (((address.printed ++ rest).drop 3).take 4) = address.bankAddress.toNat := by
  have hsplit : address.printed ++ rest = (hexField 2 true address.bank.toNat ++ [':']) ++
      (hexField 4 true address.bankAddress.toNat ++ rest) := by
    simp [printed]
  have hthree : (hexField 2 true address.bank.toNat ++ [':']).length = 3 := by
    simp [printed_bank_length]
  rw [hsplit, List.drop_left' hthree, List.take_left' address.printed_bankAddress_length,
    readHex_hexField]

theorem newline_not_mem_printed (address : ROMAddress) : '\n' ∉ address.printed := by
  simp [printed, newline_not_mem_hexField]

theorem bank_bankAddress_eq_iff (x y : ROMAddress) :
    x.bank.toNat = y.bank.toNat ∧ x.bankAddress.toNat = y.bankAddress.toNat ↔
      x.m_Address.toNat % 2^24 = y.m_Address.toNat % 2^24 := by
  simp only [bank_toNat, bankAddress_toNat]
  omega

theorem printed_eq_iff (x y : ROMAddress) :
    x.printed = y.printed ↔ x.m_Address.toNat % 2^24 = y.m_Address.toNat % 2^24 := by
  rw [← bank_bankAddress_eq_iff]
  constructor
  · intro h
    have hbank := printed_take_bank x []
    have haddress := printed_drop_bankAddress x []
    rw [h, printed_take_bank] at hbank
    rw [h, printed_drop_bankAddress] at haddress
    exact ⟨hbank.symm, haddress.symm⟩
  · intro h
    rw [printed, printed, h.1, h.2]

/-- For every good stream with the classic locale, whatever its width, fill and flags, an address
takes seven characters, from which the low 24 bits of its field are read back and nothing else. -/
theorem print_shows_24_bits (stream : Stream) (addr addr' : ROMAddress) :
    (∃ text, text.length = 7 ∧
        addr.print stream =
          { stream with fill := '0', width := 0, written := stream.written ++ text } ∧
        readHex (text.take 2) * 0x10000 + readHex (text.drop 3) = addr.m_Address.toNat % 2^24) ∧
      (addr.print stream = addr'.print stream ↔
        addr.m_Address.toNat % 2^24 = addr'.m_Address.toNat % 2^24) := by
  constructor
  · refine ⟨addr.printed, addr.printed_length, print_eq stream addr, ?_⟩
    have hbank := printed_take_bank addr []
    have haddress := printed_drop_bankAddress addr []
    have hrest : (addr.printed.drop 3).length = 4 := by
      rw [List.length_drop, printed_length]
    rw [List.append_nil] at hbank haddress
    rw [List.take_of_length_le (Nat.le_of_eq hrest)] at haddress
    rw [hbank, haddress, bank_toNat, bankAddress_toNat]
    omega
  · rw [← printed_eq_iff, print_eq, print_eq]
    simp

end ROMAddress

/-- What a reader finds in one line of a listing. -/
structure ListedLine where
  bank : Nat
  bankAddress : Nat
  mnemonic : List Char
  operands : Bytes
  deriving DecidableEq, Repr

def listed (pos : ROMAddress) (ins : Instruction) : ListedLine :=
  ⟨pos.bank.toNat, pos.bankAddress.toNat, ins.mnemonic.text.toList, ins.operands⟩

def ListedLine.text (line : ListedLine) : List Char :=
  hexField 2 true line.bank ++ ':' :: hexField 4 true line.bankAddress ++ (": \t".toList ++
    [' '].intercalate (line.mnemonic :: if line.operands = [] then [] else
      line.operands.map (fun s => (toHexStr s).toList) ++ ["(unknown".toList, "mode)".toList]))

/-- The operands are between the mnemonic and the two words of the suffix. -/
def readLine (line : List Char) : ListedLine :=
  let words := (line.drop 10).splitOn ' '
  { bank := readHex (line.take 2)
    bankAddress := readHex ((line.drop 3).take 4)
    mnemonic := words.headD []
    operands := words.tail.dropLast.dropLast.map fun word => UInt8.ofNat (readHex word) }

def readListing (text : List Char) : List ListedLine := (readLines text).map readLine

def lineText (pos : ROMAddress) (ins : Instruction) : List Char :=
  pos.printed ++ (": \t".toList ++ ins.stringify.toList)

def listing (pos : AddressRef) (store : AddressStore) (instructions : List Instruction) :
    List Char :=
  ended ((printInstructions pos store instructions).1.map fun line => lineText line.1 line.2)

theorem printSection_written (pos : AddressRef) (cout : Stream) (store : AddressStore)
    (instructions : List Instruction) :
    (printSection pos cout store instructions).1.written =
      cout.written ++ listing pos store instructions := by
  induction instructions generalizing cout store with
  | nil => simp [printSection, printInstructions, listing, ended]
  | cons ins rest ih =>
    rw [printSection, ih, ROMAddress.print_eq, Stream.putText_of_width_zero rfl,
      Stream.putText_of_width_zero rfl]
    simp [printInstructions, listing, ended, lineText, Stream.endl]

section Lines

variable {state : MachineState} {ins : Instruction}

theorem newline_not_mem_stringify (hsize : Sized state ins) : '\n' ∉ ins.stringify.toList := by
  have hdigits (s : UInt8) : '\n' ∉ (toHexStr s).toList := by
    rw [toHexStr_toList]
    exact newline_not_mem_digits false s.toNat
  have htext : '\n' ∉ ins.mnemonic.text.toList := by
    cases ins.mnemonic <;> decide
  rw [Instruction.mnemonic] at htext
  have hcases := Instruction.decodedSize_cases state ins.m_OpCode
  rw [← hsize] at hcases
  rcases hcases with h | h | h | h
  · simpa [Instruction.stringify, h] using htext
  · simpa [Instruction.stringify, Argument_t.toHexStr, h, hdigits] using htext
  · simpa [Instruction.stringify, Argument_t.toHexStr, h, hdigits] using htext
  · simpa [Instruction.stringify, Argument_t.toHexStr, h, hdigits] using htext

theorem newline_not_mem_lineText (pos : ROMAddress) (hsize : Sized state ins) :
    '\n' ∉ lineText pos ins := by
  have hpos := pos.newline_not_mem_printed
  have htext := newline_not_mem_stringify hsize
  simp [lineText, hpos, htext]

theorem operandWords_read (ins : Instruction) (hone : ins.size = 1 → ins.operands = []) :
    (ins.operandWords.dropLast.dropLast.map fun word => UInt8.ofNat (readHex word)) =
      ins.operands := by
  rw [Instruction.operandWords]
  by_cases h : ins.size = 1
  · rw [if_pos h, hone h]
    rfl
  · rw [if_neg h]
    have hdrop (words : List (List Char)) (a b : List Char) :
        (words ++ [a, b]).dropLast.dropLast = words := by simp [List.dropLast_append_of_ne_nil]
    rw [hdrop, List.map_map]
    have hread : (fun word => UInt8.ofNat (readHex word)) ∘ (fun s => (toHexStr s).toList) = id := by
      funext s
      simp [readHex_toHexStr]
    rw [hread, List.map_id]

theorem readLine_lineText (pos : ROMAddress) (hsize : Sized state ins) :
    readLine (lineText pos ins) = listed pos ins := by
  have hten : (pos.printed ++ ": \t".toList).length = 10 := by
    rw [List.length_append, pos.printed_length]
    rfl
  have hdrop : (lineText pos ins).drop 10 = ins.stringify.toList := by
    rw [lineText, ← List.append_assoc, List.drop_left' hten]
  have hoperands := operandWords_read ins Instruction.operands_of_size_one
  simp only [readLine, hdrop, Instruction.words_of_stringify hsize, List.headD_cons, List.tail_cons,
    hoperands]
  rw [lineText, ROMAddress.printed_take_bank, ROMAddress.printed_drop_bankAddress, listed]

example : String.ofList (lineText ⟨.HiROMAddress, 0x1C0FFEE⟩ ⟨0xAF, ⟨0x0A, 0xFF, 0⟩, 4⟩) =
    "C0:FFEE: \tLDA a ff 0 (unknown mode)" := by
  decide

theorem Sized.operands_eq_nil_iff (hsize : Sized state ins) : ins.operands = [] ↔ ins.size = 1 := by
  have hlength := Instruction.operands_length hsize
  rw [← List.length_eq_zero_iff, ← UInt8.toNat_inj, UInt8.toNat_one]
  omega

theorem lineText_eq (pos : ROMAddress) (hsize : Sized state ins) :
    lineText pos ins = (listed pos ins).text := by
  rw [lineText, Instruction.stringify_toList hsize]
  simp only [ListedLine.text, listed, ROMAddress.printed, Instruction.operandWords,
    hsize.operands_eq_nil_iff]

end Lines

def Instruction.shown (ins : Instruction) : Mnemonic × Bytes := (ins.mnemonic, ins.operands)

section Listings

variable {state state' : MachineState} {instructions instructions' : List Instruction}

theorem sized_of_printed (hsized : ∀ ins ∈ instructions, Sized state ins) (pos : AddressRef)
    (store : AddressStore) {line : ROMAddress × Instruction}
    (hline : line ∈ (printInstructions pos store instructions).1) : Sized state line.2 := by
  obtain ⟨i, hi⟩ := List.mem_iff_getElem?.mp hline
  rw [printInstructions_getElem?, Option.map_eq_some_iff] at hi
  obtain ⟨ins, hins, rfl⟩ := hi
  exact hsized ins (List.mem_of_getElem? hins)

theorem readListing_listing (hsized : ∀ ins ∈ instructions, Sized state ins) (pos : AddressRef)
    (store : AddressStore) :
    readListing (listing pos store instructions) =
      (printInstructions pos store instructions).1.map fun line => listed line.1 line.2 := by
  have hsizedLine {line : ROMAddress × Instruction}
      (hline : line ∈ (printInstructions pos store instructions).1) : Sized state line.2 :=
    sized_of_printed hsized pos store hline
  rw [readListing, listing, readLines_ended, List.map_map]
  · apply List.map_congr_left
    intro line hline
    exact readLine_lineText line.1 (hsizedLine hline)
  · intro text htext
    obtain ⟨line, hline, rfl⟩ := List.mem_map.mp htext
    exact newline_not_mem_lineText line.1 (hsizedLine hline)

theorem listing_eq (hsized : ∀ ins ∈ instructions, Sized state ins) (pos : AddressRef)
    (store : AddressStore) :
    listing pos store instructions = ended
      (((printInstructions pos store instructions).1.map fun line => listed line.1 line.2).map
        ListedLine.text) := by
  rw [listing, List.map_map]
  apply congrArg
  apply List.map_congr_left
  intro line hline
  exact lineText_eq line.1 (sized_of_printed hsized pos store hline)

theorem listed_eq_iff (pos pos' : ROMAddress) (ins ins' : Instruction) :
    listed pos ins = listed pos' ins' ↔
      pos.m_Address.toNat % 2^24 = pos'.m_Address.toNat % 2^24 ∧ ins.shown = ins'.shown := by
  rw [← ROMAddress.bank_bankAddress_eq_iff]
  simp only [listed, Instruction.shown, ListedLine.mk.injEq, Prod.mk.injEq]
  constructor
  · intro h
    exact ⟨⟨h.1, h.2.1⟩, Mnemonic.text_injective (String.toList_injective h.2.2.1), h.2.2.2⟩
  · intro h
    exact ⟨h.1.1, h.1.2, by rw [h.2.1], h.2.2⟩

theorem Sized.size_eq {ins ins' : Instruction} (hsize : Sized state ins)
    (hsize' : Sized state' ins') (hshown : ins.shown = ins'.shown) : ins.size = ins'.size := by
  have hlength := Instruction.operands_length hsize
  have hlength' := Instruction.operands_length hsize'
  rw [(Prod.mk.inj hshown).2] at hlength
  exact UInt8.toNat_inj.mp (hlength.symm.trans hlength')

theorem listed_lines_eq_iff (hsized : ∀ ins ∈ instructions, Sized state ins)
    (hsized' : ∀ ins ∈ instructions', Sized state' ins) (pos pos' : AddressRef)
    (store store' : AddressStore) :
    ((printInstructions pos store instructions).1.map fun line => listed line.1 line.2) =
        ((printInstructions pos' store' instructions').1.map fun line => listed line.1 line.2) ↔
      instructions.map Instruction.shown = instructions'.map Instruction.shown ∧
        (instructions = [] ∨
          (store pos).m_Address.toNat % 2^24 = (store' pos').m_Address.toNat % 2^24) := by
  induction instructions generalizing store store' instructions' with
  | nil => cases instructions' <;> simp [printInstructions]
  | cons ins rest ih =>
    cases instructions' with
    | nil => simp [printInstructions]
    | cons ins' rest' =>
      have hsize := hsized ins List.mem_cons_self
      have hsize' := hsized' ins' List.mem_cons_self
      have hrest := ih (fun i hi => hsized i (List.mem_cons_of_mem _ hi))
        (fun i hi => hsized' i (List.mem_cons_of_mem _ hi))
        (Function.update store pos ((store pos).advance ins.size.toNat))
        (Function.update store' pos' ((store' pos').advance ins'.size.toNat))
      simp only [printInstructions, List.map_cons, List.cons.injEq, hrest, listed_eq_iff,
        Function.update_self, ROMAddress.advance_toNat, List.cons_ne_nil, false_or]
      constructor
      · intro h
        exact ⟨⟨h.1.2, h.2.1⟩, h.1.1⟩
      · intro h
        rcases h with ⟨⟨hshown, htail⟩, hlabel⟩
        refine ⟨⟨hlabel, hshown⟩, htail, Or.inr ?_⟩
        rw [hsize.size_eq hsize' hshown]
        omega

end Listings

/-- Two returned sections print the same exactly when they have the same mnemonics and operands, and
the moved cursors, unless there is nothing to print, agree in their low 24 bits. -/
theorem listing_same_iff (cout : Stream) {rom rom' : ByteSource} {state state' : MachineState}
    {store store' after after' : AddressStore} {start start' : AddressRef}
    {maxInstructions maxInstructions' : UInt32} {sec sec' : Section}
    (hrun : disasmUntilJump rom state store start maxInstructions = .ok (sec, after))
    (hrun' : disasmUntilJump rom' state' store' start' maxInstructions' = .ok (sec', after')) :
    (printSection start cout after sec.instructions).1.written =
        (printSection start' cout after' sec'.instructions).1.written ↔
      sec.instructions.map Instruction.shown = sec'.instructions.map Instruction.shown ∧
        (sec.instructions = [] ∨
          (after start).m_Address.toNat % 2^24 = (after' start').m_Address.toNat % 2^24) := by
  have hsized := (disasmUntilJump_ok_iff.mp hrun).sized
  have hsized' := (disasmUntilJump_ok_iff.mp hrun').sized
  rw [printSection_written, printSection_written, List.append_cancel_left_eq,
    ← listed_lines_eq_iff hsized hsized' start start' after after']
  constructor
  · intro h
    rw [← readListing_listing hsized, ← readListing_listing hsized', h]
  · intro h
    rw [listing_eq hsized, listing_eq hsized', h]

private theorem immediate_run :
    Disasm.disasmUntilJump ⟨.startingWith [0xA9, 0x12, 0x4C, 0x00, 0x80], {}⟩
        (fun _ => ⟨.LoROMAddress, 0xC00000⟩) 0 30 =
      .ok (⟨0, 0, [⟨0xA9, ⟨0x12, 0, 0⟩, 2⟩, ⟨0x4C, ⟨0x00, 0x80, 0⟩, 3⟩]⟩,
        Function.update (fun _ => ⟨.LoROMAddress, 0xC00000⟩) 0 ⟨.LoROMAddress, 0xC00005⟩) :=
  disasmUntilJump_eq.trans rfl

private theorem directPage_run :
    Disasm.disasmUntilJump ⟨.startingWith [0xA5, 0x12, 0x6C, 0x00, 0x80], {}⟩
        (fun _ => ⟨.HiROMAddress, 0x1C00000⟩) 0 2 =
      .ok (⟨0, 0, [⟨0xA5, ⟨0x12, 0, 0⟩, 2⟩, ⟨0x6C, ⟨0x00, 0x80, 0⟩, 3⟩]⟩,
        Function.update (fun _ => ⟨.HiROMAddress, 0x1C00000⟩) 0 ⟨.HiROMAddress, 0x1C00005⟩) :=
  disasmUntilJump_eq.trans rfl

theorem listing_same_lda_jmp :
    (printSection 0 {}
        (Function.update (fun _ => ⟨.LoROMAddress, 0xC00000⟩) 0 ⟨.LoROMAddress, 0xC00005⟩)
        [⟨0xA9, ⟨0x12, 0, 0⟩, 2⟩, ⟨0x4C, ⟨0x00, 0x80, 0⟩, 3⟩]).1.written =
      (printSection 0 {}
        (Function.update (fun _ => ⟨.HiROMAddress, 0x1C00000⟩) 0 ⟨.HiROMAddress, 0x1C00005⟩)
        [⟨0xA5, ⟨0x12, 0, 0⟩, 2⟩, ⟨0x6C, ⟨0x00, 0x80, 0⟩, 3⟩]).1.written :=
  (listing_same_iff {} immediate_run directPage_run).mpr ⟨by decide, Or.inr (by decide)⟩

end SnesDisasm
