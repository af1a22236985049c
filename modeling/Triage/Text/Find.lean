/-!
# Finding literal text

Occurrences of a fixed text: at the front, first from the left, and all of them replaced in one
pass. A text is also cut into pieces here.
-/

namespace Triage.Text

def dropLiteral? : List Char → List Char → Option (List Char)
  | [], cs => some cs
  | _ :: _, [] => none
  | l :: ls, c :: cs => if l = c then dropLiteral? ls cs else none

theorem dropLiteral?_append (l cs : List Char) : dropLiteral? l (l ++ cs) = some cs := by
  induction l with
  | nil => rfl
  | cons a l ih => simp [dropLiteral?, ih]

theorem eq_append_of_dropLiteral? {l cs rest : List Char} (h : dropLiteral? l cs = some rest) :
    cs = l ++ rest := by
  induction l generalizing cs with
  | nil => simpa [dropLiteral?] using h
  | cons a l ih =>
    cases cs with
    | nil => simp [dropLiteral?] at h
    | cons c cs =>
      by_cases hc : a = c
      · subst hc
        simp only [dropLiteral?, if_true] at h
        rw [ih h, List.cons_append]
      · simp [dropLiteral?, hc] at h

/-- The text before and after the first occurrence of the literal. -/
def cut? (literal : List Char) : List Char → Option (List Char × List Char)
  | [] => if literal = [] then some ([], []) else none
  | c :: cs =>
    match dropLiteral? literal (c :: cs) with
    | some rest => some ([], rest)
    | none => (cut? literal cs).map fun found => (c :: found.1, found.2)

theorem eq_append_of_cut? {l cs a b : List Char} (h : cut? l cs = some (a, b)) :
    cs = a ++ l ++ b := by
  induction cs generalizing a b with
  | nil =>
    by_cases hl : l = []
    · subst hl
      simp only [cut?, if_true, Option.some.injEq, Prod.mk.injEq] at h
      simp [← h.1, ← h.2]
    · simp [cut?, hl] at h
  | cons c cs ih =>
    rw [cut?] at h
    split at h
    · rename_i rest hr
      simp only [Option.some.injEq, Prod.mk.injEq] at h
      rw [← h.1, ← h.2, List.nil_append]
      exact eq_append_of_dropLiteral? hr
    · obtain ⟨⟨u, v⟩, hu, huv⟩ := Option.map_eq_some_iff.1 h
      simp only [Prod.mk.injEq] at huv
      rw [← huv.1, ← huv.2, List.cons_append, List.cons_append, ← ih hu]

/-- Replaces the occurrences from left to right; `skip` characters still belong to the last one. -/
def replaceFrom (literal value : List Char) : Nat → List Char → List Char
  | _, [] => []
  | skip + 1, _ :: cs => replaceFrom literal value skip cs
  | 0, c :: cs =>
    if literal.isPrefixOf (c :: cs) then
      value ++ replaceFrom literal value (literal.length - 1) cs
    else c :: replaceFrom literal value 0 cs

/-- Every occurrence of a non-empty literal replaced by the value, found from the left without
overlap. -/
def replaceAll (literal value cs : List Char) : List Char := replaceFrom literal value 0 cs

/-- The pieces of a text between the occurrences of a separator. -/
def pieces {α : Type} [DecidableEq α] (separator : α) : List α → List (List α)
  | [] => [[]]
  | c :: cs =>
    if c = separator then [] :: pieces separator cs
    else
      match pieces separator cs with
      | [] => [[c]]
      | p :: ps => (c :: p) :: ps

def join (separator : String) (parts : List String) : String := separator.intercalate parts

end Triage.Text
