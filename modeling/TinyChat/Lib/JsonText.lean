import TinyChat.Lib.Ascii
import TinyChat.Lib.Table

/-!
# Strings in JSON

A string is written with ASCII characters only: what is not printable is
escaped, and a character beyond the first plane becomes a surrogate pair.  It is
read one character after another.  A single surrogate is refused, as no
character is written like that.
-/

namespace Json

def quote : Char := Char.ofNat 34

def backslash : Char := Char.ofNat 92

/-- The characters with an escape of two characters, and its second one. -/
def shortEscapes : List (Char × Char) :=
  [(quote, quote), (backslash, backslash), (Char.ofNat 8, 'b'),
    (Char.ofNat 12, 'f'), (Char.ofNat 10, 'n'), (Char.ofNat 13, 'r'),
    (Char.ofNat 9, 't')]

def hexNumeral (number : Nat) : List Char :=
  [Nat.digitChar (number / 4096 % 16), Nat.digitChar (number / 256 % 16),
    Nat.digitChar (number / 16 % 16), Nat.digitChar (number % 16)]

def unicodeEscape (number : Nat) : List Char :=
  backslash :: 'u' :: hexNumeral number

def highSurrogate (number : Nat) : Nat := 55296 + (number - 65536) / 1024

def lowSurrogate (number : Nat) : Nat := 56320 + (number - 65536) % 1024

def escapeChar (char : Char) : List Char :=
  match shortEscapes.lookup char with
  | some letter => [backslash, letter]
  | none =>
      if 32 ≤ char.toNat ∧ char.toNat ≤ 126 then [char]
      else if char.toNat < 65536 then unicodeEscape char.toNat
      else
        unicodeEscape (highSurrogate char.toNat) ++
          unicodeEscape (lowSurrogate char.toNat)

/-- The content of a string as it is written. -/
def escape (text : List Char) : List Char := text.flatMap escapeChar

/-! ## Reading -/

/-- Inside a string, after a backslash, or inside an escape with hexadecimal
digits, which may follow a high surrogate. -/
inductive TextState where
  | plain
  | escaped
  | digits (high : Option Nat) (count number : Nat)
  | pairing (high : Nat)
  | pairingEscaped (high : Nat)
  deriving DecidableEq

def hexValue (char : Char) : Option Nat :=
  if char.isDigit then some (char.toNat - 48)
  else if 97 ≤ char.toNat ∧ char.toNat ≤ 102 then some (char.toNat - 87)
  else if 65 ≤ char.toNat ∧ char.toNat ≤ 70 then some (char.toNat - 55)
  else none

/-- The last escapes, from their letters. -/
def unescapeLetter (letter : Char) : Option Char :=
  if letter = '/' then some '/'
  else (shortEscapes.find? fun entry => entry.2 = letter).map Prod.fst

/-- What the four digits of an escape stand for. -/
def closeDigits (text : List Char) (high : Option Nat) (number : Nat) :
    Option (List Char × TextState) :=
  match high with
  | some high =>
      if 56320 ≤ number ∧ number < 57344 then
        some
          (Char.ofNat (65536 + (high - 55296) * 1024 + (number - 56320)) ::
            text, .plain)
      else none
  | none =>
      if 55296 ≤ number ∧ number < 56320 then some (text, .pairing number)
      else if 56320 ≤ number ∧ number < 57344 then none
      else some (Char.ofNat number :: text, .plain)

/-- Read one character inside a string; what has been read is in reverse. -/
def readChar (text : List Char) (state : TextState) (char : Char) :
    Option (List Char × TextState) :=
  match state with
  | .plain =>
      if char = backslash then some (text, .escaped)
      else if char = quote ∨ char.toNat < 32 then none
      else some (char :: text, .plain)
  | .escaped =>
      if char = 'u' then some (text, .digits none 0 0)
      else (unescapeLetter char).map fun char => (char :: text, .plain)
  | .digits high count number =>
      match hexValue char with
      | none => none
      | some digit =>
          if count = 3 then closeDigits text high (number * 16 + digit)
          else some (text, .digits high (count + 1) (number * 16 + digit))
  | .pairing high =>
      if char = backslash then some (text, .pairingEscaped high) else none
  | .pairingEscaped high =>
      if char = 'u' then some (text, .digits (some high) 0 0) else none

def readChars : List Char × TextState → List Char →
    Option (List Char × TextState)
  | reached, [] => some reached
  | reached, char :: rest =>
      match readChar reached.1 reached.2 char with
      | none => none
      | some next => readChars next rest

theorem readChars_append {reached next : List Char × TextState}
    {first : List Char} (second : List Char)
    (read : readChars reached first = some next) :
    readChars reached (first ++ second) = readChars next second := by
  induction first generalizing reached with
  | nil =>
      cases read
      rfl
  | cons char first induction =>
      rw [readChars] at read
      rw [List.cons_append, readChars]
      split at read
      · cases read
      · exact induction read

theorem hexValue_digitChar : ∀ digit < 16,
    hexValue (Nat.digitChar digit) = some digit := by decide

theorem readChars_cons {text : List Char} {state : TextState} {char : Char}
    {next : List Char × TextState} (rest : List Char)
    (read : readChar text state char = some next) :
    readChars (text, state) (char :: rest) = readChars next rest := by
  rw [readChars, read]

theorem readChars_single (text : List Char) (state : TextState)
    (char : Char) :
    readChars (text, state) [char] = readChar text state char := by
  rw [readChars]
  cases readChar text state char <;> rfl

theorem readChar_digit (text : List Char) (high : Option Nat)
    (count number : Nat) {digit : Nat} (small : digit < 16) :
    readChar text (.digits high count number) (Nat.digitChar digit) =
      if count = 3 then closeDigits text high (number * 16 + digit)
      else some (text, .digits high (count + 1) (number * 16 + digit)) := by
  simp only [readChar, hexValue_digitChar digit small]

/-- Four digits are read as the number that they were written for. -/
theorem readChars_hexNumeral (text : List Char) (high : Option Nat)
    {number : Nat} (small : number < 65536) :
    readChars (text, .digits high 0 0) (hexNumeral number) =
      closeDigits text high number := by
  have mod : ∀ value, value % 16 < 16 := fun value =>
    Nat.mod_lt value (by decide)
  have value : (((0 * 16 + number / 4096 % 16) * 16 + number / 256 % 16) *
      16 + number / 16 % 16) * 16 + number % 16 = number := by omega
  rw [hexNumeral,
    readChars_cons _ (readChar_digit text high 0 0 (mod _)),
    readChars_cons _ (readChar_digit text high 1 _ (mod _)),
    readChars_cons _ (readChar_digit text high 2 _ (mod _)),
    readChars_single, readChar_digit text high 3 _ (mod _), if_pos rfl,
    value]

theorem readChars_unicodeEscape (text : List Char) {number : Nat}
    (small : number < 65536) :
    readChars (text, .plain) (unicodeEscape number) =
      closeDigits text none number := by
  rw [unicodeEscape, readChars_cons _ rfl, readChars_cons _ rfl]
  exact readChars_hexNumeral text none small

/-- The second half of a pair. -/
theorem readChars_pairing (text : List Char) (high : Nat) {number : Nat}
    (small : number < 65536) :
    readChars (text, .pairing high) (unicodeEscape number) =
      closeDigits text (some high) number := by
  rw [unicodeEscape, readChars_cons _ rfl, readChars_cons _ rfl]
  exact readChars_hexNumeral text (some high) small

/-- No character is a surrogate. -/
theorem toNat_lt_or_gt (char : Char) :
    char.toNat < 55296 ∨ 57343 < char.toNat ∧ char.toNat < 1114112 :=
  char.valid

theorem readChars_pair (text : List Char) {char : Char}
    (large : 65536 ≤ char.toNat) :
    readChars (text, .plain)
        (unicodeEscape (highSurrogate char.toNat) ++
          unicodeEscape (lowSurrogate char.toNat)) =
      some (char :: text, .plain) := by
  have valid := toNat_lt_or_gt char
  have high : 55296 ≤ highSurrogate char.toNat ∧
      highSurrogate char.toNat < 56320 := by
    unfold highSurrogate
    omega
  have low : 56320 ≤ lowSurrogate char.toNat ∧
      lowSurrogate char.toNat < 57344 := by
    unfold lowSurrogate
    omega
  have joined : 65536 + (highSurrogate char.toNat - 55296) * 1024 +
      (lowSurrogate char.toNat - 56320) = char.toNat := by
    unfold highSurrogate lowSurrogate
    omega
  have first : readChars (text, .plain)
      (unicodeEscape (highSurrogate char.toNat)) =
        some (text, .pairing (highSurrogate char.toNat)) := by
    rw [readChars_unicodeEscape text (by omega)]
    exact if_pos high
  rw [readChars_append _ first, readChars_pairing text _ (by omega)]
  unfold closeDigits
  dsimp only
  rw [if_pos low, joined, Char.ofNat_toNat]

theorem unescapeLetter_shortEscapes : ∀ entry ∈ shortEscapes,
    entry.2 ≠ 'u' ∧ unescapeLetter entry.2 = some entry.1 := by decide

/-- What is written for a character is read as this character. -/
theorem readChars_escapeChar (text : List Char) (char : Char) :
    readChars (text, .plain) (escapeChar char) =
      some (char :: text, .plain) := by
  unfold escapeChar
  split
  · rename_i letter found
    obtain ⟨short, read⟩ := unescapeLetter_shortEscapes (char, letter)
      (Table.mem_of_lookup found)
    rw [readChars_cons [letter] rfl, readChars_single, readChar,
      if_neg short, read]
    rfl
  · rename_i missing
    split
    · rename_i printable
      have other : char ≠ backslash := by
        intro same
        rw [same] at missing
        exact absurd missing (by decide)
      have unquoted : ¬ (char = quote ∨ char.toNat < 32) := by
        rintro (same | small)
        · rw [same] at missing
          exact absurd missing (by decide)
        · omega
      rw [readChars_single, readChar, if_neg other, if_neg unquoted]
    · split
      · rename_i small
        have valid := toNat_lt_or_gt char
        rw [readChars_unicodeEscape text small, closeDigits,
          if_neg (by omega), if_neg (by omega), Char.ofNat_toNat]
      · exact readChars_pair text (by omega)

/-- What is written for a text is read as this text. -/
theorem readChars_escape (read text : List Char) :
    readChars (read, .plain) (escape text) =
      some (text.reverse ++ read, .plain) := by
  induction text generalizing read with
  | nil => rfl
  | cons char text induction =>
      rw [escape, List.flatMap_cons,
        readChars_append _ (readChars_escapeChar read char), ← escape,
        induction, List.reverse_cons, List.append_assoc]
      rfl

/-- A quote that is not escaped is no part of the content. -/
theorem readChar_quote (text : List Char) :
    readChar text .plain quote = none := rfl

/-! ## Which characters are written -/

theorem shortEscapes_ascii : ∀ entry ∈ shortEscapes,
    entry.2.toNat < 128 := by decide

theorem digitChar_ascii : ∀ digit < 16,
    (Nat.digitChar digit).toNat < 128 := by decide

theorem ascii_unicodeEscape (number : Nat) :
    IsAscii (unicodeEscape number) := by
  have digit : ∀ value, (Nat.digitChar (value % 16)).toNat < 128 :=
    fun value => digitChar_ascii _ (Nat.mod_lt value (by decide))
  intro char member
  simp only [unicodeEscape, hexNumeral, List.mem_cons,
    List.not_mem_nil, or_false] at member
  rcases member with rfl | rfl | rfl | rfl | rfl | rfl
  · decide
  · decide
  · exact digit _
  · exact digit _
  · exact digit _
  · exact digit _

theorem ascii_escapeChar (char : Char) : IsAscii (escapeChar char) := by
  intro written member
  unfold escapeChar at member
  split at member
  · rename_i letter found
    rcases List.mem_pair.mp member with rfl | rfl
    · decide
    · exact shortEscapes_ascii (char, written) (Table.mem_of_lookup found)
  · split at member
    · rename_i printable
      rw [List.mem_singleton] at member
      rw [member]
      omega
    · split at member
      · exact ascii_unicodeEscape _ written member
      · exact IsAscii.append (ascii_unicodeEscape _)
          (ascii_unicodeEscape _) written member

theorem ascii_escape (text : List Char) : IsAscii (escape text) := by
  intro written member
  obtain ⟨char, _, member⟩ := List.mem_flatMap.mp member
  exact ascii_escapeChar char written member

end Json
