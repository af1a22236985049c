/-!
# Ordered entries

A mapping kept as a list of entries in the order of first insertion. Putting a key that is there
replaces its value in place.
-/

namespace Triage.Entries

variable {κ α : Type} [DecidableEq κ]

def get? (key : κ) : List (κ × α) → Option α
  | [] => none
  | e :: es => if e.1 = key then some e.2 else get? key es

def put (key : κ) (value : α) : List (κ × α) → List (κ × α)
  | [] => [(key, value)]
  | e :: es => if e.1 = key then (e.1, value) :: es else e :: put key value es

def ofPairs (pairs : List (κ × α)) : List (κ × α) :=
  pairs.foldl (fun es p => put p.1 p.2 es) []

def erase (key : κ) (es : List (κ × α)) : List (κ × α) := es.filter (·.1 ≠ key)

def keys (es : List (κ × α)) : List κ := es.map (·.1)

@[simp] theorem get?_nil (key : κ) : get? key ([] : List (κ × α)) = none := rfl

theorem get?_put (key k : κ) (v : α) (es : List (κ × α)) :
    get? k (put key v es) = if key = k then some v else get? k es := by
  induction es with
  | nil => rfl
  | cons e es ih =>
    by_cases he : e.1 = key
    · rw [put, if_pos he, get?, get?, he]
      split <;> rfl
    · rw [put, if_neg he, get?, get?, ih]
      by_cases hk : e.1 = k
      · have hne : ¬key = k := fun h => he (hk.trans h.symm)
        simp only [hk, hne, if_true, if_false]
      · simp only [hk, if_false]

end Triage.Entries
