/-!
# Classes of characters given by their borders

A class of code points is written as the ascending list of the places where membership changes.
-/

namespace Triage.Text

/-- Whether `n` lies inside, when the class is entered at the first border and left at the next. -/
def insideRuns : List Nat → Nat → Bool
  | [], _ => false
  | start :: rest, n =>
    if n < start then false
    else
      match rest with
      | [] => true
      | stop :: later => if n < stop then true else insideRuns later n

end Triage.Text
