/-!
# UTF-8

A text is encoded as bytes. Bytes that are no encoded text can be read too, but not without loss:
every part that is malformed is read as one replacement character. Such a part ends where no
character goes on as it does.
-/

namespace CatalogAudit.Text

/-- The bytes of a text. -/
def encode (text : List Char) : List UInt8 := text.flatMap String.utf8EncodeChar

/-- The character as which a malformed part is read. -/
def replacement : Char := '\ufffd'

/-- How many bytes there are behind the first byte of a character, and between which bounds the
first of them lies. -/
def demand (first : UInt8) : Nat × UInt8 × UInt8 :=
  if first < 0xC2 then (0, 0, 0)
  else if first < 0xE0 then (1, 0x80, 0xBF)
  else if first = 0xE0 then (2, 0xA0, 0xBF)
  else if first = 0xED then (2, 0x80, 0x9F)
  else if first < 0xF0 then (2, 0x80, 0xBF)
  else if first = 0xF0 then (3, 0x90, 0xBF)
  else if first < 0xF4 then (3, 0x80, 0xBF)
  else if first = 0xF4 then (3, 0x80, 0x8F)
  else (0, 0, 0)

/-- How many bytes go on with a character that demands `count` of them, the first of them between
the bounds. -/
def goesOn (low high : UInt8) : (count : Nat) → List UInt8 → Nat
  | 0, _ => 0
  | _, [] => 0
  | count + 1, b :: rest =>
    if low ≤ b && b ≤ high then goesOn 0x80 0xBF count rest + 1 else 0

/-- The character that begins with a byte, and how many of the bytes behind it belong to it. -/
def decodeFirst (first : UInt8) (rest : List UInt8) : Char × Nat :=
  match (first :: rest.take 3).toByteArray.utf8DecodeChar? 0 with
  | some c => (c, c.utf8Size - 1)
  | none =>
    let (count, low, high) := demand first
    (replacement, goesOn low high count rest)

/-- The text as which bytes are read behind `skip` ones that have been read. -/
def decodeFrom : (skip : Nat) → List UInt8 → List Char
  | _, [] => []
  | skip + 1, _ :: rest => decodeFrom skip rest
  | 0, first :: rest =>
    let (c, more) := decodeFirst first rest
    c :: decodeFrom more rest

/-- The text as which bytes are read. -/
def decode (bytes : List UInt8) : List Char := decodeFrom 0 bytes

/-- One replacement character is read for a byte that begins nothing, and for a character that
breaks off. -/
example : decode [0x61, 0xFE, 0xE2, 0x82, 0x62] = ['a', replacement, replacement, 'b'] := by
  decide +kernel

end CatalogAudit.Text
