import Triage.Text.Quoted

/-!
# Decoding UTF-8

Bytes become text, or the first ill-formed sequence is reported with the place it covers: a byte
that starts no character, a byte that does not continue one, or an end inside a character.
-/

namespace Triage.Text

inductive Utf8Reason where
  | invalidStart
  | invalidContinuation
  | unexpectedEnd
  deriving DecidableEq, Repr

/-- The bytes `start` to `stop` (exclusive) that could not be decoded. -/
structure Utf8Fault where
  reason : Utf8Reason
  start : Nat
  stop : Nat
  firstByte : Nat
  deriving DecidableEq, Repr

def Utf8Reason.text : Utf8Reason → String
  | .invalidStart => "invalid start byte"
  | .invalidContinuation => "invalid continuation byte"
  | .unexpectedEnd => "unexpected end of data"

def Utf8Fault.message (f : Utf8Fault) : String :=
  let place :=
    if f.stop = f.start + 1 then
      s!"byte 0x{String.ofList (hexDigits 2 f.firstByte)} in position {f.start}"
    else s!"bytes in position {f.start}-{f.stop - 1}"
  s!"'utf-8' codec can't decode {place}: {f.reason.text}"

/-- The range the second byte must lie in, by the first: no overlong forms, no surrogates, and
nothing beyond the last code point. -/
def secondByteRange (first : Nat) : Nat × Nat :=
  if first = 0xE0 then (0xA0, 0xBF)
  else if first = 0xED then (0x80, 0x9F)
  else if first = 0xF0 then (0x90, 0xBF)
  else if first = 0xF4 then (0x80, 0x8F)
  else (0x80, 0xBF)

/-- How many bytes follow the first one; a byte that starts no character has none. -/
def followers? (first : Nat) : Option Nat :=
  if first < 0x80 then some 0
  else if first < 0xC2 then none
  else if first < 0xE0 then some 1
  else if first < 0xF0 then some 2
  else if first < 0xF5 then some 3
  else none

/-- A character in progress: its code so far, the bytes it still needs, the range of the next one,
and where it started. -/
structure Utf8Pending where
  code : Nat
  missing : Nat
  low : Nat
  high : Nat
  start : Nat
  firstByte : Nat

/-- Decodes the rest of the bytes, the next of which stands at `pos`. -/
def decodeFrom : Option Utf8Pending → Nat → List Nat → Except Utf8Fault (List Char)
  | none, _, [] => .ok []
  | some p, pos, [] => .error ⟨.unexpectedEnd, p.start, pos, p.firstByte⟩
  | none, pos, b :: bs =>
    match followers? b with
    | none => .error ⟨.invalidStart, pos, pos + 1, b⟩
    | some 0 => (decodeFrom none (pos + 1) bs).map (Char.ofNat b :: ·)
    | some (n + 1) =>
      let range := secondByteRange b
      let lead := b - (0x100 - 2 ^ (6 - n))
      decodeFrom (some ⟨lead, n + 1, range.1, range.2, pos, b⟩) (pos + 1) bs
  | some p, pos, b :: bs =>
    if b < p.low || p.high < b then .error ⟨.invalidContinuation, p.start, pos, p.firstByte⟩
    else
      let code := p.code * 64 + (b - 0x80)
      if p.missing ≤ 1 then (decodeFrom none (pos + 1) bs).map (Char.ofNat code :: ·)
      else
        decodeFrom (some ⟨code, p.missing - 1, 0x80, 0xBF, p.start, p.firstByte⟩) (pos + 1) bs

def decodeUtf8 (bytes : List Nat) : Except Utf8Fault String :=
  (decodeFrom none 0 bytes).map String.ofList

end Triage.Text
