/-!
# Byte strings and UTF-8

Arguments, paths and file contents are byte strings, which need not be text.
The decoder reads one byte at a time.  It keeps the bits of an unfinished
character together with the range that the next byte must lie in, which rules
out overlong forms, surrogates and values past the last character.  A maximal
run of bytes that could still begin a character, followed by a byte that cannot
continue it, is one invalid unit; so is a byte that begins no character.
-/

namespace GraphFixture

/-- A string of arbitrary bytes. -/
abbrev ByteString := List UInt8

namespace Utf8

/-- A character of which some bytes are still to come. -/
structure Unfinished where
  /-- The bits read so far. -/
  bits : Nat
  /-- How many bytes are still missing after the next one. -/
  missing : Nat
  /-- The least byte that may come next. -/
  low : UInt8
  /-- The greatest byte that may come next. -/
  high : UInt8
  deriving DecidableEq, Repr

/-- What a byte at the start of a character means. -/
inductive Lead where
  /-- The byte is a whole character. -/
  | whole (character : Char)
  /-- The byte begins a longer character. -/
  | opening (unfinished : Unfinished)
  /-- No character begins with the byte. -/
  | invalid
  deriving DecidableEq, Repr

/-- The meaning of a byte at the start of a character. -/
def lead (byte : UInt8) : Lead :=
  if byte < 0x80 then .whole (Char.ofNat byte.toNat)
  else if byte < 0xC2 then .invalid
  else if byte < 0xE0 then .opening ⟨byte.toNat % 32, 0, 0x80, 0xBF⟩
  else if byte = 0xE0 then .opening ⟨0, 1, 0xA0, 0xBF⟩
  else if byte = 0xED then .opening ⟨0xD, 1, 0x80, 0x9F⟩
  else if byte < 0xF0 then .opening ⟨byte.toNat % 16, 1, 0x80, 0xBF⟩
  else if byte = 0xF0 then .opening ⟨0, 2, 0x90, 0xBF⟩
  else if byte < 0xF4 then .opening ⟨byte.toNat % 8, 2, 0x80, 0xBF⟩
  else if byte = 0xF4 then .opening ⟨4, 2, 0x80, 0x8F⟩
  else .invalid

namespace Unfinished

/-- Whether a byte may come next. -/
def admits (unfinished : Unfinished) (byte : UInt8) : Bool :=
  unfinished.low ≤ byte && byte ≤ unfinished.high

/-- The bits after one more byte, which brings its six lowest. -/
def extend (unfinished : Unfinished) (byte : UInt8) : Nat :=
  unfinished.bits * 64 + byte.toNat % 64

end Unfinished

/-- The units of a byte string: characters, and nothing for an invalid unit. -/
def units : Option Unfinished → ByteString → List (Option Char)
  | none, [] => []
  | some _, [] => [none]
  | none, byte :: rest =>
      match lead byte with
      | .whole character => some character :: units none rest
      | .opening unfinished => units (some unfinished) rest
      | .invalid => none :: units none rest
  | some unfinished, byte :: rest =>
      if unfinished.admits byte then
        match unfinished.missing with
        | 0 => some (Char.ofNat (unfinished.extend byte)) :: units none rest
        | missing + 1 =>
            units (some ⟨unfinished.extend byte, missing, 0x80, 0xBF⟩) rest
      else
        none ::
          match lead byte with
          | .whole character => some character :: units none rest
          | .opening opened => units (some opened) rest
          | .invalid => none :: units none rest

/-- The character that stands for an invalid unit. -/
def replacement : Char :=
  Char.ofNat 0xFFFD

/-- The text of a byte string, each invalid unit replaced. -/
def decodeLossy (bytes : ByteString) : List Char :=
  (units none bytes).map fun unit => unit.getD replacement

/-- The text of a byte string, if it has no invalid unit. -/
def decode? (bytes : ByteString) : Option (List Char) :=
  (units none bytes).mapM id

/-- The bytes of a text. -/
def encode (text : List Char) : ByteString :=
  text.flatMap String.utf8EncodeChar

@[simp] theorem encode_nil : encode [] = [] :=
  rfl

@[simp] theorem encode_cons (character : Char) (text : List Char) :
    encode (character :: text) =
      String.utf8EncodeChar character ++ encode text := by
  simp [encode]

@[simp] theorem encode_append (first second : List Char) :
    encode (first ++ second) = encode first ++ encode second := by
  simp [encode]

end Utf8

/-- The bytes of a word written in the program text. -/
def ByteString.ofWord (word : String) : ByteString :=
  Utf8.encode word.toList

/-- The text of a byte string as it is shown in messages. -/
def ByteString.shown (bytes : ByteString) : String :=
  String.ofList (Utf8.decodeLossy bytes)

end GraphFixture
