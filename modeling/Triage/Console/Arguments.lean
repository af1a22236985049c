import Triage.Text.Find

/-!
# Command line arguments

Options have a long name and perhaps a letter; most are followed by a value. A value may be attached,
after an equals sign to a long name and directly to a letter, and letters may be put together behind
one dash. Two dashes end the options.
-/

namespace Triage.Console

/-- What an option sets. -/
inductive Setting where
  | help
  | organization
  | repository
  | token
  | configPath
  | configFile
  | verbose
  | issue
  | interval
  | event
  | payload
  deriving DecidableEq, Repr

structure Opt where
  setting : Setting
  long : String
  letter : Option Char := none
  takesValue : Bool := true
  deriving DecidableEq, Repr

/-- The arguments of a command: the options in their order, and what remains. -/
structure Arguments where
  settings : List (Setting × String) := []
  rest : List String := []
  deriving DecidableEq, Repr

namespace Arguments

/-- Of a repeated option the last one counts. -/
def value? (a : Arguments) (s : Setting) : Option String := a.settings.reverse.lookup s

def has (a : Arguments) (s : Setting) : Bool := (a.value? s).isSome

/-- The options in letters behind one dash, and the option that still waits for its value. -/
def readLetters (opts : List Opt) : List Char → Option (List (Setting × String) × Option Setting)
  | [] => some ([], none)
  | c :: cs =>
    match opts.find? (·.letter = some c) with
    | none => none
    | some o =>
      if o.takesValue then
        if cs = [] then some ([], some o.setting)
        else some ([(o.setting, String.ofList cs)], none)
      else (readLetters opts cs).map fun (settings, open?) => ((o.setting, "") :: settings, open?)

/-- The options in an argument that begins with a dash. A long name is looked for first, then
letters. -/
def readOption (opts : List Opt) (text : List Char) :
    Option (List (Setting × String) × Option Setting) :=
  let (name, attached) :=
    match Text.cut? ['='] text with
    | some (name, value) => (name, some (String.ofList value))
    | none => (text, none)
  match opts.find? (·.long.toList = name), attached with
  | some o, some value => if o.takesValue then some ([(o.setting, value)], none) else none
  | some o, none => if o.takesValue then some ([], some o.setting) else some ([(o.setting, "")], none)
  | none, _ => if "--".toList.isPrefixOf text then none else readLetters opts (text.drop 1)

/-- Reads the arguments; `open?` is the option whose value comes next. When `mixed` is false the
options end at the first argument that is none. -/
def readFrom (opts : List Opt) (mixed : Bool) : Option Setting → List String → Option Arguments
  | some _, [] => none
  | some s, a :: as =>
    (readFrom opts mixed none as).map fun r => { r with settings := (s, a) :: r.settings }
  | none, [] => some {}
  | none, a :: as =>
    if a = "--" then some { rest := as }
    else if a.toList.head? = some '-' ∧ 1 < a.length then
      match readOption opts a.toList with
      | none => none
      | some (settings, open?) =>
        (readFrom opts mixed open? as).map fun r => { r with settings := settings ++ r.settings }
    else if mixed then (readFrom opts mixed none as).map fun r => { r with rest := a :: r.rest }
    else some { rest := a :: as }

/-- The options before a command and the command with its own arguments. -/
def beforeCommand (opts : List Opt) (args : List String) : Option Arguments :=
  readFrom opts false none args

/-- The arguments of a command, options and others in any order. -/
def read (opts : List Opt) (args : List String) : Option Arguments := readFrom opts true none args

end Arguments

end Triage.Console
