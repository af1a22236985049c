import Triage.Tracker.Host

/-!
# Operations on a tracker

A tracker is bound to one repository. A step runs against its host and always gives a result; an
operation is a step that may fail. What was changed before a failure stays changed.
-/

namespace Triage

/-- The fixed side of a tracker. `scope` is the repository that calls name, `home` the full name of
the one the host has. `find` answers search queries, and `fails` says whether the last call of a log
fails before the host acts on it. `digits` is the limit of the numerals in comments and metadata. -/
structure Tracker where
  scope : Repository
  home : String
  digits : DigitLimit := .standard
  files : List (String × Stored) := []
  find : String → List Issue → List Issue
  fails : List Call → Option HostFault := fun _ => none

def Step (α : Type) : Type := Tracker → Host → α × Host

def Op (ε α : Type) : Type := Step (Except ε α)

namespace Step

variable {α β : Type}

protected def pure (a : α) : Step α := fun _ h => (a, h)

protected def bind (x : Step α) (f : α → Step β) : Step β := fun t h =>
  let r := x t h
  f r.1 t r.2

instance : Monad Step where
  pure := Step.pure
  bind := Step.bind

instance : LawfulMonad Step :=
  LawfulMonad.mk' Step (fun _ => rfl) (fun _ _ => rfl) (fun _ _ _ => rfl)

theorem bind_apply (x : Step α) (f : α → Step β) (t : Tracker) (h : Host) :
    (x >>= f) t h = f (x t h).1 t (x t h).2 := rfl

/-- One step for each element, in order. -/
def each (f : α → Step β) : List α → Step (List β)
  | [] => pure []
  | a :: as => do
    let b ← f a
    let bs ← each f as
    return b :: bs

end Step

namespace Op

variable {ε α β : Type}

protected def pure (a : α) : Op ε α := fun _ h => (.ok a, h)

protected def bind (x : Op ε α) (f : α → Op ε β) : Op ε β := fun t h =>
  match x t h with
  | (.ok a, h') => f a t h'
  | (.error e, h') => (.error e, h')

instance : Monad (Op ε) where
  pure := Op.pure
  bind := Op.bind

theorem bind_apply (x : Op ε α) (f : α → Op ε β) (t : Tracker) (h : Host) :
    (x >>= f) t h =
      match x t h with
      | (.ok a, h') => f a t h'
      | (.error e, h') => (.error e, h') := rfl

instance : LawfulMonad (Op ε) :=
  LawfulMonad.mk' (Op ε)
    (fun x => by
      funext t h
      change Op.bind x _ t h = x t h
      unfold Op.bind
      rcases x t h with ⟨⟨⟩ | ⟨⟩, h'⟩ <;> rfl)
    (fun _ _ => rfl)
    (fun x f g => by
      funext t h
      change Op.bind (Op.bind x f) g t h = Op.bind x (fun a => Op.bind (f a) g) t h
      unfold Op.bind
      rcases x t h with ⟨⟨⟩ | ⟨⟩, h'⟩ <;> rfl)

/-- What is known already, without any call. -/
def ofExcept (x : Except ε α) : Op ε α := fun _ h => (x, h)

def fail (e : ε) : Op ε α := ofExcept (.error e)

/-- A step as an operation that does not fail. -/
def ofStep (x : Step α) : Op ε α := fun t h =>
  let r := x t h
  (.ok r.1, r.2)

/-- The operation's outcome as a value. -/
def attempt (x : Op ε α) : Step (Except ε α) := x

/-- The same operation with its failures restated. -/
def mapError {δ : Type} (f : ε → δ) (x : Op ε α) : Op δ α := fun t h =>
  let r := x t h
  (r.1.mapError f, r.2)

def scope : Op ε Repository := fun t h => (.ok t.scope, h)

def digitLimit : Op ε DigitLimit := fun t h => (.ok t.digits, h)

/-- The operation on each element in order, up to the first failure. -/
def each (f : α → Op ε β) : List α → Op ε (List β)
  | [] => pure []
  | a :: as => do
    let b ← f a
    let bs ← each f as
    return b :: bs

/-- All results, or the first failure among them. -/
def allOrFirst : List (Except ε α) → Except ε (List α)
  | [] => .ok []
  | .error e :: _ => .error e
  | .ok a :: rest => (allOrFirst rest).map (a :: ·)

/-- The operation on each element in order, the later ones also after a failure; the first failure
is that of the whole. -/
def gather (f : α → Op ε β) (as : List α) : Op ε (List β) := do
  let outcomes ← ofStep (Step.each (fun a => (f a).attempt) as)
  ofExcept (allOrFirst outcomes)

end Op

end Triage
