import Mathlib.Data.List.Basic

/-!
# Frames with a length in front

A body is sent after its length, which is packed into a header of a fixed
width.  The reader takes a header and then a body from what has arrived, as
soon as there are enough bytes, so that it does not matter how the bytes are
cut on their way.
-/

/-- How lengths are packed into a header; not every length may fit. -/
structure LengthHeader (β : Type) where
  width : Nat
  positive : 0 < width
  pack : Nat → Option (List β)
  unpack : List β → Nat
  pack_length : ∀ {length header}, pack length = some header →
    header.length = width
  unpack_pack : ∀ {length header}, pack length = some header →
    unpack header = length

namespace LengthHeader

variable {β : Type}

def frame (header : LengthHeader β) (body : List β) : Option (List β) :=
  (header.pack body.length).map (· ++ body)

/-- The bytes that have arrived, and the length of the body if its header has
been read. -/
structure Reader (β : Type) where
  buffer : List β := []
  awaited : Option Nat := none

/-- Take the header or the body that comes next. -/
def read (header : LengthHeader β) (reader : Reader β) :
    Option (Reader β × Option (List β)) :=
  match reader.awaited with
  | none =>
      if header.width ≤ reader.buffer.length then
        some
          ({ buffer := reader.buffer.drop header.width
             awaited :=
              some (header.unpack (reader.buffer.take header.width)) },
            none)
      else none
  | some length =>
      if length ≤ reader.buffer.length then
        some
          ({ buffer := reader.buffer.drop length
             awaited := none },
            some (reader.buffer.take length))
      else none

/-- Bytes that are the frames of some bodies, one after another. -/
inductive Frames (header : LengthHeader β) :
    List β → List (List β) → Prop where
  | nil : Frames header [] []
  | cons {body framed bytes : List β} {bodies : List (List β)}
      (first : header.frame body = some framed)
      (rest : Frames header bytes bodies) :
      Frames header (framed ++ bytes) (body :: bodies)

/-- What is in the buffer and what is still on its way are the bodies to
come. -/
inductive Expects (header : LengthHeader β) (reader : Reader β)
    (coming : List β) : List (List β) → Prop where
  | header {bodies : List (List β)} (idle : reader.awaited = none)
      (frames : header.Frames (reader.buffer ++ coming) bodies) :
      Expects header reader coming bodies
  | body {body bytes : List β} {bodies : List (List β)}
      (awaited : reader.awaited = some body.length)
      (split : reader.buffer ++ coming = body ++ bytes)
      (frames : header.Frames bytes bodies) :
      Expects header reader coming (body :: bodies)

variable {header : LengthHeader β} {reader next : Reader β}
  {coming bytes framed body : List β} {bodies : List (List β)}

theorem Frames.snoc (frames : header.Frames bytes bodies)
    (last : header.frame body = some framed) :
    header.Frames (bytes ++ framed) (bodies ++ [body]) := by
  induction frames with
  | nil =>
      have single := Frames.cons last .nil
      rw [List.append_nil] at single
      exact single
  | cons first _ induction =>
      rw [List.append_assoc]
      exact .cons first induction

/-- A frame is as long as its header at least. -/
theorem Frames.width_le (frames : header.Frames bytes (body :: bodies)) :
    header.width ≤ bytes.length := by
  cases frames with
  | cons first rest =>
      obtain ⟨packed, fits, rfl⟩ := Option.map_eq_some_iff.mp first
      rw [List.length_append, List.length_append, header.pack_length fits]
      omega

theorem expects_start (header : LengthHeader β) :
    header.Expects {} [] [] :=
  .header rfl .nil

/-- A frame is put behind the bytes that are on their way. -/
theorem Expects.send (expects : header.Expects reader coming bodies)
    (last : header.frame body = some framed) :
    header.Expects reader (coming ++ framed) (bodies ++ [body]) := by
  cases expects with
  | header idle frames =>
      refine .header idle ?_
      rw [← List.append_assoc]
      exact frames.snoc last
  | body awaited split frames =>
      refine .body awaited ?_ (frames.snoc last)
      rw [← List.append_assoc, split, List.append_assoc]

/-- Bytes arrive, no matter how many. -/
theorem Expects.arrive {first rest : List β}
    (expects : header.Expects reader (first ++ rest) bodies) :
    header.Expects { reader with buffer := reader.buffer ++ first } rest
      bodies := by
  cases expects with
  | header idle frames =>
      refine .header idle ?_
      rw [List.append_assoc]
      exact frames
  | body awaited split frames =>
      refine .body awaited ?_ frames
      rw [List.append_assoc]
      exact split

/-- A header tells how long its body is. -/
theorem Frames.header_taken
    (frames : header.Frames (reader.buffer ++ coming) (body :: bodies))
    (enough : header.width ≤ reader.buffer.length) :
    ∃ bytes,
      header.unpack (reader.buffer.take header.width) = body.length ∧
      reader.buffer.drop header.width ++ coming = body ++ bytes ∧
      header.Frames bytes bodies := by
  generalize whole : reader.buffer ++ coming = sent at frames
  cases frames with
  | @cons _ framed bytes _ first rest =>
      obtain ⟨packed, fits, rfl⟩ := Option.map_eq_some_iff.mp first
      have width := header.pack_length fits
      rw [List.append_assoc] at whole
      have front := congrArg (List.take header.width) whole
      rw [List.take_append_of_le_length enough, ← width,
        List.take_left] at front
      have back := congrArg (List.drop header.width) whole
      rw [List.drop_append_of_le_length enough, ← width,
        List.drop_left] at back
      refine ⟨bytes, ?_, ?_, rest⟩
      · rw [← width, front]
        exact header.unpack_pack fits
      · rw [← width]
        exact back

theorem Expects.read_header (expects : header.Expects reader coming bodies)
    (taken : header.read reader = some (next, none)) :
    header.Expects next coming bodies := by
  cases expects with
  | body awaited _ _ =>
      rw [read, awaited] at taken
      dsimp only at taken
      split at taken
      · cases taken
      · cases taken
  | header idle frames =>
      rw [read, idle] at taken
      dsimp only at taken
      split at taken
      · rename_i enough
        cases taken
        cases bodies with
        | nil =>
            generalize empty : reader.buffer ++ coming = sent at frames
            cases frames
            rw [(List.append_eq_nil_iff.mp empty).1] at enough
            exact absurd enough (Nat.not_le_of_gt header.positive)
        | cons body bodies =>
            obtain ⟨bytes, length, split, rest⟩ := frames.header_taken enough
            exact .body (congrArg some length) split rest
      · cases taken

/-- The body that is taken is the next one. -/
theorem Expects.read_body (expects : header.Expects reader coming bodies)
    (taken : header.read reader = some (next, some body)) :
    ∃ rest, bodies = body :: rest ∧ header.Expects next coming rest := by
  cases expects with
  | header idle _ =>
      rw [read, idle] at taken
      dsimp only at taken
      split at taken
      · cases taken
      · cases taken
  | @body sent bytes rest awaited split frames =>
      rw [read, awaited] at taken
      dsimp only at taken
      split at taken
      · rename_i enough
        cases taken
        have front := congrArg (List.take sent.length) split
        rw [List.take_append_of_le_length enough, List.take_left] at front
        have back := congrArg (List.drop sent.length) split
        rw [List.drop_append_of_le_length enough, List.drop_left] at back
        rw [front]
        refine ⟨rest, rfl, .header rfl ?_⟩
        rw [back]
        exact frames
      · cases taken

/-- If nothing is on its way and the reader has to wait, no body is missing. -/
theorem Expects.finished (expects : header.Expects reader [] bodies)
    (waits : header.read reader = none) : bodies = [] := by
  cases expects with
  | header idle frames =>
      cases bodies with
      | nil => rfl
      | cons body bodies =>
          have enough := frames.width_le
          rw [List.append_nil] at enough
          rw [read, idle] at waits
          dsimp only at waits
          rw [if_pos enough] at waits
          cases waits
  | @body sent bytes rest awaited split frames =>
      have enough : sent.length ≤ reader.buffer.length := by
        rw [List.append_nil] at split
        rw [split, List.length_append]
        omega
      rw [read, awaited] at waits
      dsimp only at waits
      rw [if_pos enough] at waits
      cases waits

end LengthHeader
