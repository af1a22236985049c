/-!
# Blank characters

The two sets of blank characters that comments, durations and numbers are trimmed by, and the
trimming and splitting of text along them.
-/

namespace Triage.Text

/-- White space in the sense of the Unicode property of that name. -/
def isSpace (c : Char) : Bool :=
  let n := c.toNat
  (0x09 ≤ n && n ≤ 0x0D) || n == 0x20 || n == 0x85 || n == 0xA0 || n == 0x1680 ||
    (0x2000 ≤ n && n ≤ 0x200A) || n == 0x2028 || n == 0x2029 || n == 0x202F || n == 0x205F ||
    n == 0x3000

/-- A blank is white space or one of the four information separators. -/
def isBlank (c : Char) : Bool :=
  isSpace c || (0x1C ≤ c.toNat && c.toNat ≤ 0x1F)

/-- Drops the characters of the class from both ends. -/
def trimBy (p : Char → Bool) (cs : List Char) : List Char :=
  ((cs.dropWhile p).reverse.dropWhile p).reverse

def trim (cs : List Char) : List Char := trimBy isBlank cs

/-- The maximal runs of characters outside the class, in order. -/
def fieldsBy (p : Char → Bool) : List Char → List (List Char)
  | [] => []
  | c :: cs =>
    if p c then fieldsBy p cs
    else
      match cs, fieldsBy p cs with
      | [], _ => [[c]]
      | d :: _, rest =>
        if p d then [c] :: rest
        else
          match rest with
          | [] => [[c]]
          | w :: ws => (c :: w) :: ws

/-- The words of a text are its runs of characters that are not blank. -/
def words (cs : List Char) : List (List Char) := fieldsBy isBlank cs

end Triage.Text
