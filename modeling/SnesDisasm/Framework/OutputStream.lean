import Mathlib.Data.List.Basic
import Mathlib.Tactic.IntervalCases

/-!
# Formatted output

What the flags, the fill character and the width of an output stream do to a number or a text.
-/

namespace OutputStream

inductive Base where
  | dec
  | oct
  | hex
  deriving DecidableEq, Repr

/-- Where the fill characters go: in front, behind, or between a base prefix and the digits. -/
inductive Adjust where
  | right
  | left
  | internal
  deriving DecidableEq, Repr

structure Flags where
  base : Base := .dec
  adjust : Adjust := .right
  showbase : Bool := false
  uppercase : Bool := false
  deriving DecidableEq, Repr

/-- A good stream with the classic locale: no error state, and no grouping of digits. -/
structure Stream where
  flags : Flags := {}
  fill : Char := ' '
  width : Nat := 0
  written : List Char := []
  deriving DecidableEq, Repr

def digits (base : Nat) (uppercase : Bool) (n : Nat) : List Char :=
  (Nat.toDigits base n).map fun c => if uppercase then c.toUpper else c

/-- The base prefix and the digits of a number. A zero has no prefix. -/
def Flags.numeral (flags : Flags) (n : Nat) : List Char × List Char :=
  match flags.base with
  | .dec => ([], digits 10 false n)
  | .oct => ([], if flags.showbase ∧ n ≠ 0 then '0' :: digits 8 false n else digits 8 false n)
  | .hex =>
      (if flags.showbase ∧ n ≠ 0 then ['0', if flags.uppercase then 'X' else 'x'] else [],
        digits 16 flags.uppercase n)

def padded (adjust : Adjust) (fill : Char) (width : Nat) (front body : List Char) : List Char :=
  let padding := List.replicate (width - (front ++ body).length) fill
  match adjust with
  | .right => padding ++ front ++ body
  | .left => front ++ body ++ padding
  | .internal => front ++ padding ++ body

namespace Stream

def put (stream : Stream) (front body : List Char) : Stream :=
  { stream with
    width := 0
    written := stream.written ++ padded stream.flags.adjust stream.fill stream.width front body }

def putText (stream : Stream) (text : List Char) : Stream := stream.put [] text

def putNumber (stream : Stream) (n : Nat) : Stream :=
  stream.put (stream.flags.numeral n).1 (stream.flags.numeral n).2

def setFlags (stream : Stream) (flags : Flags) : Stream := { stream with flags }

def setFill (stream : Stream) (fill : Char) : Stream := { stream with fill }

def setWidth (stream : Stream) (width : Nat) : Stream := { stream with width }

def setUppercase (stream : Stream) : Stream :=
  { stream with flags := { stream.flags with uppercase := true } }

def endl (stream : Stream) : Stream := { stream with written := stream.written ++ ['\n'] }

theorem putText_of_width_zero {stream : Stream} (hwidth : stream.width = 0) (text : List Char) :
    stream.putText text = { stream with written := stream.written ++ text } := by
  have hpadded : padded stream.flags.adjust stream.fill 0 [] text = text := by
    unfold padded
    cases stream.flags.adjust <;> simp
  rw [putText, put, hwidth, hpadded]

end Stream

/-- A number in hexadecimal digits, filled up with zeros. -/
def hexField (width : Nat) (uppercase : Bool) (n : Nat) : List Char :=
  List.replicate (width - (digits 16 uppercase n).length) '0' ++ digits 16 uppercase n

theorem hexField_length {width n : Nat} (hwidth : 0 < width) (hn : n < 16^width)
    (uppercase : Bool) : (hexField width uppercase n).length = width := by
  have hlength : (digits 16 uppercase n).length ≤ width := by
    rw [digits, List.length_map]
    exact (Nat.length_toDigits_le_iff (by decide) hwidth).mpr hn
  rw [hexField, List.length_append, List.length_replicate]
  omega

def digitValue (c : Char) : Nat :=
  if c.isDigit then c.toNat - 48 else if c.isUpper then c.toNat - 55 else c.toNat - 87

def readHex (text : List Char) : Nat := text.foldl (fun n c => n * 16 + digitValue c) 0

theorem digitValue_digitChar {d : Nat} (hd : d < 16) (uppercase : Bool) :
    digitValue (if uppercase then d.digitChar.toUpper else d.digitChar) = d := by
  cases uppercase <;> interval_cases d <;> rfl

theorem readHex_append_singleton (text : List Char) (c : Char) :
    readHex (text ++ [c]) = readHex text * 16 + digitValue c := by
  simp [readHex]

theorem readHex_digits (uppercase : Bool) (n : Nat) : readHex (digits 16 uppercase n) = n := by
  induction n using Nat.strongRecOn with
  | ind n ih =>
    rw [digits, Nat.toDigits_eq_if (by decide)]
    by_cases hn : n < 16
    · rw [if_pos hn, List.map_singleton]
      have hdigit := digitValue_digitChar hn uppercase
      simpa [readHex] using hdigit
    · have hrest := ih (n / 16) (by omega)
      have hdigit := digitValue_digitChar (Nat.mod_lt n (by decide : 0 < 16)) uppercase
      rw [if_neg hn, List.map_append, List.map_singleton, readHex_append_singleton, hdigit]
      rw [digits] at hrest
      rw [hrest]
      omega

theorem readHex_zeros (k : Nat) (text : List Char) :
    readHex (List.replicate k '0' ++ text) = readHex text := by
  induction k with
  | zero => rfl
  | succ k ih =>
    rw [List.replicate_succ, List.cons_append]
    exact ih

theorem readHex_hexField (width : Nat) (uppercase : Bool) (n : Nat) :
    readHex (hexField width uppercase n) = n := by
  rw [hexField, readHex_zeros, readHex_digits]

theorem mem_digits {uppercase : Bool} {n : Nat} {c : Char} (hc : c ∈ digits 16 uppercase n) :
    ∃ d < 16, c = if uppercase then d.digitChar.toUpper else d.digitChar := by
  induction n using Nat.strongRecOn with
  | ind n ih =>
    rw [digits, Nat.toDigits_eq_if (by decide)] at hc
    by_cases hn : n < 16
    · simp only [if_pos hn, List.map_singleton, List.mem_singleton] at hc
      exact ⟨n, hn, hc⟩
    · rw [if_neg hn, List.map_append, List.mem_append] at hc
      rcases hc with hrest | hlast
      · exact ih (n / 16) (by omega) hrest
      · simp only [List.map_singleton, List.mem_singleton] at hlast
        exact ⟨n % 16, Nat.mod_lt n (by decide), hlast⟩

theorem not_mem_digits {c : Char} (hlower : ∀ d < 16, c ≠ d.digitChar)
    (hupper : ∀ d < 16, c ≠ d.digitChar.toUpper) (uppercase : Bool) (n : Nat) :
    c ∉ digits 16 uppercase n := by
  intro hmem
  obtain ⟨d, hd, hdigit⟩ := mem_digits hmem
  cases uppercase with
  | false => exact hlower d hd hdigit
  | true => exact hupper d hd hdigit

theorem newline_not_mem_digits (uppercase : Bool) (n : Nat) : '\n' ∉ digits 16 uppercase n :=
  not_mem_digits (by decide) (by decide) uppercase n

theorem newline_not_mem_hexField (width : Nat) (uppercase : Bool) (n : Nat) :
    '\n' ∉ hexField width uppercase n := by
  intro hmem
  rcases List.mem_append.mp hmem with hzero | hdigit
  · exact absurd (List.eq_of_mem_replicate hzero) (by decide)
  · exact newline_not_mem_digits uppercase n hdigit

def ended (lines : List (List Char)) : List Char := lines.flatMap fun line => line ++ ['\n']

def readLines (text : List Char) : List (List Char) := (text.splitOn '\n').dropLast

theorem splitOn_ended {lines : List (List Char)} (hlines : ∀ line ∈ lines, '\n' ∉ line) :
    (ended lines).splitOn '\n' = lines ++ [[]] := by
  induction lines with
  | nil => rfl
  | cons line rest ih =>
    have hrest := ih fun line' hline' => hlines line' (List.mem_cons_of_mem _ hline')
    have hline := hlines line List.mem_cons_self
    have hcons : ended (line :: rest) = line ++ '\n' :: ended rest := by simp [ended]
    rw [hcons, List.splitOn_append_cons_self_of_not_mem hline, hrest, List.cons_append]

theorem readLines_ended {lines : List (List Char)} (hlines : ∀ line ∈ lines, '\n' ∉ line) :
    readLines (ended lines) = lines := by
  rw [readLines, splitOn_ended hlines, List.dropLast_concat]

end OutputStream
