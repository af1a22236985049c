/-!
# Base64

Bytes written as letters, four for three bytes. Characters of no meaning are passed over, and an
equals sign ends the text where it completes a group of four.
-/

namespace Triage.Text

def base64Letters : List Char :=
  "ABCDEFGHIJKLMNOPQRSTUVWXYZabcdefghijklmnopqrstuvwxyz0123456789+/".toList

def base64Digit? (c : Char) : Option Nat := base64Letters.idxOf? c

/-- Reads on inside a group: how many of its letters were read, the bits of the last one that are not
used yet, and how many equals signs stand after it. -/
def base64From (place left pads : Nat) : List Char → Option (List Nat)
  | [] => if place = 0 then some [] else none
  | c :: cs =>
    if c = '=' then
      if 2 ≤ place ∧ 4 ≤ place + pads + 1 then some []
      else base64From place left (if 2 ≤ place then pads + 1 else pads) cs
    else
      match base64Digit? c with
      | none => base64From place left pads cs
      | some d =>
        match place with
        | 0 => base64From 1 d 0 cs
        | 1 => (base64From 2 (d % 16) 0 cs).map ((left * 4 + d / 16) :: ·)
        | 2 => (base64From 3 (d % 4) 0 cs).map ((left * 16 + d / 4) :: ·)
        | _ => (base64From 0 0 0 cs).map ((left * 64 + d) :: ·)

/-- The bytes of a text; none when its last group is not complete. -/
def base64? (cs : List Char) : Option (List Nat) := base64From 0 0 0 cs

end Triage.Text
