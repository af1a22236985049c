/-!
# Texts of code points

Escapes in JSON and YAML can name the halves of surrogate pairs one by one. Such a half is a code
point and no character, so a text that may hold one is a list of code points.
-/

namespace Triage

inductive CodePoint where
  | char (c : Char)
  /-- The half with the code `0xD800 + n`: a first half below 1024, else a second one. -/
  | half (n : Fin 2048)
  deriving DecidableEq, Repr

namespace CodePoint

def code : CodePoint → Nat
  | char c => c.toNat
  | half n => 0xD800 + n.val

/-- The code point of a code, which must not lie beyond the last one. -/
def ofCode? (n : Nat) : Option CodePoint :=
  if h : 0xD800 ≤ n ∧ n - 0xD800 < 2048 then some (half ⟨n - 0xD800, h.2⟩)
  else if n.isValidChar then some (char (Char.ofNat n))
  else none

def isHalf : CodePoint → Bool
  | char _ => false
  | half _ => true

def pair? : CodePoint → CodePoint → Option Char
  | half m, half n =>
    if m.val < 1024 ∧ 1024 ≤ n.val then
      some (Char.ofNat (0x10000 + m.val * 1024 + (n.val - 1024)))
    else none
  | _, _ => none

/-- Every two halves that make a character are replaced by it, from the left. -/
def joinPairs : List CodePoint → List CodePoint
  | [] => []
  | [p] => [p]
  | p :: q :: rest =>
    match pair? p q with
    | some c => char c :: joinPairs rest
    | none => p :: joinPairs (q :: rest)

/-- The replacement character stands for a half where only characters can. -/
def toChar : CodePoint → Char
  | char c => c
  | half _ => '\uFFFD'

end CodePoint

/-- A text in which halves of surrogate pairs may stand. -/
structure CodeText where
  points : List CodePoint
  deriving DecidableEq, Repr

namespace CodeText

def ofList (cs : List Char) : CodeText := ⟨cs.map .char⟩

def ofString (s : String) : CodeText := ofList s.toList

instance : Coe String CodeText := ⟨ofString⟩

def hasHalf (t : CodeText) : Bool := t.points.any (·.isHalf)

/-- The characters of the text, with pairs of halves put together. -/
def chars (t : CodeText) : List Char := (CodePoint.joinPairs t.points).map (·.toChar)

/-- The text as far as characters can show it. -/
def string (t : CodeText) : String := String.ofList t.chars

def string? (t : CodeText) : Option String := if t.hasHalf then none else some t.string

def codes (t : CodeText) : List Nat := t.points.map (·.code)

/-- Texts are ordered by their code points. -/
def le (a b : CodeText) : Bool := !decide (b.codes < a.codes)

def isEmpty (t : CodeText) : Bool := t.points.isEmpty

theorem hasHalf_ofString (s : String) : (ofString s).hasHalf = false := by
  simp [hasHalf, ofString, ofList, CodePoint.isHalf]

theorem joinPairs_map_char (cs : List Char) :
    CodePoint.joinPairs (cs.map .char) = cs.map .char := by
  match cs with
  | [] => rfl
  | [_] => rfl
  | a :: b :: rest =>
    have ih := joinPairs_map_char (b :: rest)
    simp only [List.map_cons] at ih ⊢
    simp [CodePoint.joinPairs, CodePoint.pair?, ih]

/-- The string of a text made from a string is that string. -/
@[simp] theorem string_ofString (s : String) : (ofString s).string = s := by
  simp [ofString, string, chars, ofList, joinPairs_map_char, CodePoint.toChar, Function.comp_def]

end CodeText

end Triage
