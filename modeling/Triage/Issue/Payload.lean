import Triage.Failure
import Triage.Issue.Basic

/-!
# Issues in event payloads

An event carries the issue it is about as JSON. Unknown fields are ignored; the others must have the
expected shapes.
-/

namespace Triage

namespace Payload

/-- A check of document values, for JSON. -/
def leaf {α : Type} (f : Value → Checked α) (j : Json) : Checked α := f (Value.ofJson j)

def optional {α : Type} (f : Json → Checked α) : Json → Checked (Option α)
  | .null => .ok none
  | j => (f j).map some

def list {α : Type} (f : Json → Checked α) : Json → Checked (List α)
  | .arr items => Checked.all f 0 items
  | _ => .fail .notList

def object {α : Type} (model : String) (f : Json.Object → Checked α) : Json → Checked α
  | .obj fields => f fields
  | _ => .fail (.notModel model)

def fieldOr {α : Type} (default : α) (key : String) (f : Json → Checked α) (o : Json.Object) :
    Checked α :=
  match Entries.get? (key : CodeText) o with
  | some j => (f j).under key
  | none => .ok default

def required {α : Type} (key : String) (f : Json → Checked α) (o : Json.Object) : Checked α :=
  match Entries.get? (key : CodeText) o with
  | some j => (f j).under key
  | none => .faulty [⟨[key], .missing⟩]

def asFields : Json → Checked Json.Object
  | .obj fields => .ok fields
  | _ => .fail .notMapping

end Payload

open Payload in
def User.ofJson : Json → Checked User :=
  object "GitHubUser" fun o =>
    pure User.mk
      <*> required "login" (leaf Value.asString) o
      <*> fieldOr none "id" (optional (leaf Value.asInteger)) o

open Payload in
def Label.ofJson : Json → Checked Label :=
  object "GitHubLabel" fun o =>
    pure Label.mk
      <*> required "name" (leaf Value.asString) o
      <*> fieldOr "" "color" (leaf Value.asString) o
      <*> fieldOr none "description" (optional (leaf Value.asString)) o

open Payload in
def Issue.check : Json → Checked Issue :=
  object "GitHubIssue" fun o =>
    pure Issue.mk
      <*> required "number" (leaf Value.asInteger) o
      <*> fieldOr "" "title" (leaf Value.asString) o
      <*> fieldOr none "body" (optional (leaf Value.asString)) o
      <*> required "state" (leaf Value.asString) o
      <*> fieldOr [] "labels" (list Label.ofJson) o
      <*> fieldOr [] "assignees" (list User.ofJson) o
      <*> fieldOr none "user" (optional User.ofJson) o
      <*> fieldOr 0 "comments" (leaf Value.asInteger) o
      <*> fieldOr false "locked" (leaf Value.asBool) o
      <*> fieldOr none "created_at" (optional (leaf Value.asMoment)) o
      <*> fieldOr none "updated_at" (optional (leaf Value.asMoment)) o
      <*> fieldOr none "pull_request" (optional asFields) o

def Issue.ofJson (j : Json) : Except Failure Issue :=
  match Issue.check j with
  | .ok i => .ok i
  | .faulty fs => .error (.payload fs)

end Triage
