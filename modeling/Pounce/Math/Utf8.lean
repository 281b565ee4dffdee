/-
# Decoding UTF-8

A lenient decoder: bytes that are no UTF-8 read as replacement characters. What is replaced are
the longest beginnings of sequences, and single bytes that begin none.
-/

import Pounce.Math.Bytes

namespace Pounce.Math.Utf8

/-- The replacement character. -/
def replacement : Char := Char.ofNat 0xFFFD

/-- A sequence that has begun: how many bytes it needs besides the next one, the range that one
has to be in, and the value so far. -/
structure Pending where
  more : ℕ
  low : UInt8 := 0x80
  high : UInt8 := 0xBF
  value : ℕ
  deriving DecidableEq, Repr

/-- The sequence a lead byte begins. Those that would be overlong, surrogates or out of range are
ruled out by the range of the second byte. -/
def lead? (byte : UInt8) : Option Pending :=
  if byte < 0xC2 then none
  else if byte < 0xE0 then some { more := 0, value := byte.toNat - 0xC0 }
  else if byte = 0xE0 then some { more := 1, low := 0xA0, value := 0 }
  else if byte = 0xED then some { more := 1, high := 0x9F, value := 0xD }
  else if byte < 0xF0 then some { more := 1, value := byte.toNat - 0xE0 }
  else if byte = 0xF0 then some { more := 2, low := 0x90, value := 0 }
  else if byte < 0xF4 then some { more := 2, value := byte.toNat - 0xF0 }
  else if byte = 0xF4 then some { more := 2, high := 0x8F, value := 4 }
  else none

/-- What a byte reads as when no sequence is pending. -/
def start (byte : UInt8) : List Char × Option Pending :=
  if byte < 0x80 then ([Char.ofNat byte.toNat], none)
  else
    match lead? byte with
    | some pending => ([], some pending)
    | none => ([replacement], none)

/-- Read on with a pending sequence, if there is one. -/
def decodeFrom : Option Pending → List UInt8 → List Char
  | none, [] => []
  | some _, [] => [replacement]
  | none, byte :: rest =>
      let (chars, pending) := start byte
      chars ++ decodeFrom pending rest
  | some pending, byte :: rest =>
      if pending.low ≤ byte ∧ byte ≤ pending.high then
        let value := pending.value * 64 + (byte.toNat - 0x80)
        match pending.more with
        | 0 => Char.ofNat value :: decodeFrom none rest
        | more + 1 => decodeFrom (some { more, value }) rest
      else
        let (chars, pending) := start byte
        replacement :: (chars ++ decodeFrom pending rest)

/-- Decode UTF-8, with replacement characters for what is none. -/
def decode (bytes : List UInt8) : List Char := decodeFrom none bytes

/-- ASCII reads as it is. -/
theorem decode_ascii {bytes : List UInt8} (hascii : ∀ byte ∈ bytes, byte < 0x80) :
    decode bytes = bytes.map fun byte => Char.ofNat byte.toNat := by
  induction bytes with
  | nil => rfl
  | cons byte bytes ih =>
      have hfirst : start byte = ([Char.ofNat byte.toNat], none) :=
        if_pos (hascii byte (List.mem_cons_self ..))
      have hrest := ih fun other hmem => hascii other (List.mem_cons_of_mem _ hmem)
      rw [decode, decodeFrom, hfirst, List.map_cons, ← hrest]
      rfl

/-- A byte becomes one character, or begins a sequence that will. -/
theorem length_start (byte : UInt8) :
    (start byte).1.length + (start byte).2.toList.length = 1 := by
  rw [start]
  split
  · rfl
  · cases lead? byte <;> rfl

theorem length_decodeFrom_le (pending : Option Pending) (bytes : List UInt8) :
    (decodeFrom pending bytes).length ≤ bytes.length + pending.toList.length := by
  induction bytes generalizing pending with
  | nil => cases pending <;> exact Nat.le_refl _
  | cons byte bytes ih =>
      have hstart := length_start byte
      have hnext := ih (start byte).2
      cases pending with
      | none =>
          rw [decodeFrom, List.length_append, List.length_cons]
          simp only [Option.toList_none, List.length_nil]
          omega
      | some pending =>
          rw [decodeFrom]
          simp only [Option.toList_some, List.length_cons, List.length_nil]
          split
          case isTrue =>
            split
            · have hrest := ih none
              simp only [Option.toList_none, List.length_nil, List.length_cons] at hrest ⊢
              omega
            case h_2 more _ =>
              have hrest := ih (some { more, value := pending.value * 64 + (byte.toNat - 0x80) })
              simp only [Option.toList_some, List.length_cons, List.length_nil] at hrest
              omega
          case isFalse =>
            rw [List.length_cons, List.length_append]
            omega

/-- There are no more characters than bytes. -/
theorem length_decode_le (bytes : List UInt8) : (decode bytes).length ≤ bytes.length :=
  length_decodeFrom_le none bytes

end Pounce.Math.Utf8
