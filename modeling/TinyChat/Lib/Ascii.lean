import Mathlib.Data.List.Basic

/-!
# Texts in ASCII

A text of the first 128 characters has a byte for every character, and what is
joined out of bytes is read as the joined characters.
-/

def IsAscii (text : List Char) : Prop := ∀ char ∈ text, char.toNat < 128

namespace IsAscii

instance (text : List Char) : Decidable (IsAscii text) :=
  List.decidableBAll (fun char : Char => char.toNat < 128) text

variable {char : Char} {first second text : List Char}

theorem append (one : IsAscii first) (two : IsAscii second) :
    IsAscii (first ++ second) := by
  intro char member
  rcases List.mem_append.mp member with member | member
  · exact one char member
  · exact two char member

theorem cons (first : char.toNat < 128) (others : IsAscii text) :
    IsAscii (char :: text) := by
  intro other member
  rcases List.mem_cons.mp member with rfl | member
  · exact first
  · exact others other member

end IsAscii

namespace Ascii

def encode : List Char → Option (List UInt8)
  | [] => some []
  | char :: text =>
      if char.toNat < 128 then
        (encode text).map fun bytes => UInt8.ofNat char.toNat :: bytes
      else none

def decode : List UInt8 → Option (List Char)
  | [] => some []
  | byte :: bytes =>
      if byte.toNat < 128 then
        (decode bytes).map fun text => Char.ofNat byte.toNat :: text
      else none

variable {bytes first second : List UInt8} {text : List Char}

theorem encode_of_isAscii (ascii : IsAscii text) :
    ∃ bytes, encode text = some bytes := by
  induction text with
  | nil => exact ⟨[], rfl⟩
  | cons char text induction =>
      obtain ⟨bytes, encoded⟩ := induction fun other member =>
        ascii other (List.mem_cons_of_mem char member)
      rw [encode, if_pos (ascii char List.mem_cons_self), encoded]
      exact ⟨_, rfl⟩

theorem decode_of_encode (encoded : encode text = some bytes) :
    decode bytes = some text := by
  induction text generalizing bytes with
  | nil =>
      cases encoded
      rfl
  | cons char text induction =>
      rw [encode] at encoded
      split at encoded
      · rename_i small
        obtain ⟨rest, found, rfl⟩ := Option.map_eq_some_iff.mp encoded
        have byte : (UInt8.ofNat char.toNat).toNat = char.toNat := by
          rw [UInt8.toNat_ofNat']
          omega
        rw [decode, byte, if_pos small, induction found,
          Char.ofNat_toNat]
        rfl
      · cases encoded

theorem encode_of_decode (decoded : decode bytes = some text) :
    encode text = some bytes := by
  induction bytes generalizing text with
  | nil =>
      cases decoded
      rfl
  | cons byte bytes induction =>
      rw [decode] at decoded
      split at decoded
      · rename_i small
        obtain ⟨rest, found, rfl⟩ := Option.map_eq_some_iff.mp decoded
        have char : (Char.ofNat byte.toNat).toNat = byte.toNat := by
          rw [Char.ofNat, dif_pos (.inl (by omega))]
          rfl
        rw [encode, char, if_pos small, induction found,
          UInt8.ofNat_toNat]
        rfl
      · cases decoded

/-- The two parts of bytes that can be read are read one after the other. -/
theorem decode_append_iff :
    decode (first ++ second) = some text ↔
      ∃ one two, decode first = some one ∧ decode second = some two ∧
        text = one ++ two := by
  induction first generalizing text with
  | nil =>
      constructor
      · intro decoded
        exact ⟨[], text, rfl, decoded, rfl⟩
      · rintro ⟨one, two, first, second, rfl⟩
        cases first
        exact second
  | cons byte first induction =>
      rw [List.cons_append, decode, decode]
      split
      · constructor
        · intro decoded
          obtain ⟨rest, found, rfl⟩ := Option.map_eq_some_iff.mp decoded
          obtain ⟨one, two, first, second, rfl⟩ := induction.mp found
          exact ⟨_, two, by rw [first]; rfl, second, rfl⟩
        · rintro ⟨_, two, decoded, second, rfl⟩
          obtain ⟨one, first, rfl⟩ := Option.map_eq_some_iff.mp decoded
          rw [induction.mpr ⟨one, two, first, second, rfl⟩]
          rfl
      · constructor
        · intro decoded
          cases decoded
        · rintro ⟨_, _, decoded, _⟩
          cases decoded

end Ascii
