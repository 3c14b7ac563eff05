import ProviderBindings.Text.Digits

/-! # Characters as bytes

UTF-8 in both directions. Reading goes byte by byte: between two characters, or
inside a sequence of which a known number of bytes is still owed. The second byte
of a sequence may be limited to a part of the continuation bytes, which rules out
overlong sequences, surrogates and code points beyond the last one. A refusal says
which bytes are at fault: the one that cannot start a character, or the part of a
sequence that has no continuation. -/
namespace ProviderBindings.Text.Utf8

/-- The bytes of a text. -/
def encode (text : List Char) : List UInt8 := text.flatMap String.utf8EncodeChar

/-- Why bytes are not a text. -/
inductive Reason
  | invalidStart
  | invalidContinuation
  | unexpectedEnd
  deriving DecidableEq, Repr

/-- A refusal: the bytes from `start` to `last` are at fault; `first` is the one at
`start`. -/
structure Problem where
  first : UInt8
  start : Nat
  last : Nat
  reason : Reason
  deriving DecidableEq, Repr

/-- The wording of a reason. -/
def Reason.message : Reason → String
  | .invalidStart => "invalid start byte"
  | .invalidContinuation => "invalid continuation byte"
  | .unexpectedEnd => "unexpected end of data"

/-- The wording of a refusal, which names a single byte and only counts several. -/
def Problem.message (p : Problem) : String :=
  let place :=
    if p.start = p.last then
      s!"byte 0x{String.ofList (paddedHex 2 p.first.toNat)} in position {p.start}"
    else s!"bytes in position {p.start}-{p.last}"
  s!"'utf-8' codec can't decode {place}: {p.reason.message}"

/-- A sequence that is not complete: the byte it began with and where, how many
bytes are owed, the limits of the next byte, and the bits of the code point so
far. -/
structure Partial where
  first : UInt8
  start : Nat
  owed : Nat
  low : UInt8
  high : UInt8
  bits : Nat
  deriving DecidableEq, Repr

/-- What a byte between two characters can be. -/
inductive Lead
  | whole (c : Char)
  | opens (p : Partial)
  | refused
  deriving DecidableEq, Repr

/-- What the byte `b` at position `pos` begins. -/
def lead (pos : Nat) (b : UInt8) : Lead :=
  if b < 0x80 then .whole (Char.ofNat b.toNat)
  else if b < 0xC2 then .refused
  else if b < 0xE0 then .opens ⟨b, pos, 1, 0x80, 0xBF, b.toNat - 0xC0⟩
  else if b < 0xF0 then
    .opens ⟨b, pos, 2, if b = 0xE0 then 0xA0 else 0x80, if b = 0xED then 0x9F else 0xBF,
      b.toNat - 0xE0⟩
  else if b < 0xF5 then
    .opens ⟨b, pos, 3, if b = 0xF0 then 0x90 else 0x80, if b = 0xF4 then 0x8F else 0xBF,
      b.toNat - 0xF0⟩
  else .refused

/-- The characters of the bytes from position `pos` on, when the sequence `open?` is
still to be completed. -/
def decodeFrom (pos : Nat) (open? : Option Partial) : List UInt8 → Except Problem (List Char)
  | [] =>
    match open? with
    | none => .ok []
    | some p => .error ⟨p.first, p.start, pos - 1, .unexpectedEnd⟩
  | b :: rest =>
    match open? with
    | none =>
      match lead pos b with
      | .whole c => return c :: (← decodeFrom (pos + 1) none rest)
      | .opens p => decodeFrom (pos + 1) (some p) rest
      | .refused => .error ⟨b, pos, pos, .invalidStart⟩
    | some p =>
      if p.low ≤ b ∧ b ≤ p.high then
        let bits := p.bits * 64 + (b.toNat - 0x80)
        if p.owed ≤ 1 then return Char.ofNat bits :: (← decodeFrom (pos + 1) none rest)
        else decodeFrom (pos + 1) (some ⟨p.first, p.start, p.owed - 1, 0x80, 0xBF, bits⟩) rest
      else .error ⟨p.first, p.start, pos - 1, .invalidContinuation⟩

/-- The characters of a sequence of bytes. -/
def decode (bytes : List UInt8) : Except Problem (List Char) := decodeFrom 0 none bytes

@[simp] theorem encode_nil : encode [] = [] := rfl

@[simp] theorem encode_append (s t : List Char) : encode (s ++ t) = encode s ++ encode t := by
  simp [encode]

end ProviderBindings.Text.Utf8
