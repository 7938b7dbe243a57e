set_option autoImplicit false

namespace ClassSketch.Text.Utf8

def encode (text : List Char) : List UInt8 := text.flatMap String.utf8EncodeChar

/-- A character of which `owed + 1` bytes are still to come. The next one lies between `low` and
`high`; `value` holds the bits read so far. -/
structure Pending where
  owed : Nat
  low : UInt8
  high : UInt8
  value : Nat

inductive Lead where
  | whole (c : Char)
  | more (pending : Pending)

def replacement : Char := Char.ofNat 0xFFFD

/-- What a first byte announces. A byte that starts no character is replaced. -/
def lead (byte : UInt8) : Lead :=
  let code := byte.toNat
  if byte < 0x80 then .whole (Char.ofNat code)
  else if byte < 0xC2 then .whole replacement
  else if byte < 0xE0 then .more ⟨0, 0x80, 0xBF, code % 32⟩
  else if byte = 0xE0 then .more ⟨1, 0xA0, 0xBF, code % 16⟩
  else if byte = 0xED then .more ⟨1, 0x80, 0x9F, code % 16⟩
  else if byte < 0xF0 then .more ⟨1, 0x80, 0xBF, code % 16⟩
  else if byte = 0xF0 then .more ⟨2, 0x90, 0xBF, code % 8⟩
  else if byte < 0xF4 then .more ⟨2, 0x80, 0xBF, code % 8⟩
  else if byte = 0xF4 then .more ⟨2, 0x80, 0x8F, code % 8⟩
  else .whole replacement

def Pending.fits (pending : Pending) (byte : UInt8) : Bool :=
  pending.low ≤ byte && byte ≤ pending.high

def Pending.push (pending : Pending) (byte : UInt8) : Lead :=
  let value := pending.value * 64 + byte.toNat % 64
  match pending.owed with
  | 0 => .whole (Char.ofNat value)
  | owed + 1 => .more ⟨owed, 0x80, 0xBF, value⟩

/-- Reads characters, one byte at a time. Each longest run of bytes that starts a character and
does not finish it is replaced as one. -/
def decodeFrom : Option Pending → List UInt8 → List Char
  | none, [] => []
  | some _, [] => [replacement]
  | none, byte :: rest =>
    match lead byte with
    | .whole c => c :: decodeFrom none rest
    | .more pending => decodeFrom (some pending) rest
  | some pending, byte :: rest =>
    if pending.fits byte then
      match pending.push byte with
      | .whole c => c :: decodeFrom none rest
      | .more next => decodeFrom (some next) rest
    else
      replacement :: match lead byte with
        | .whole c => c :: decodeFrom none rest
        | .more next => decodeFrom (some next) rest

def decode (bytes : List UInt8) : List Char := decodeFrom none bytes

/-- The text between two byte offsets. Offsets past the end stop there, and nothing stands between
reversed offsets. -/
def slice (bytes : List UInt8) (start stop : Nat) : String :=
  String.ofList (decode ((bytes.take stop).drop start))

end ClassSketch.Text.Utf8
