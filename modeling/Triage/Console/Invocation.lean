import Triage.Configuration
import Triage.Console.Arguments
import Triage.Console.Environment
import Triage.Text.Integer

/-!
# Invocations

What a command line asks for. A command line that asks for nothing is a usage error: an unknown
command or option, a missing or malformed argument, or one too many.
-/

namespace Triage.Console

/-- Where a command gets its token and its configuration: from a local file when one is given, else
from the repository. -/
structure Access where
  token : Option String
  configPath : String
  configFile : Option String
  deriving DecidableEq, Repr

inductive Invocation where
  | help
  | version
  | run (r : Repository) (access : Access) (interval : Option Int)
  | checkRule (r : Repository) (access : Access) (issue : Int) (names : List String)
  | tryRule (r : Repository) (access : Access) (issue : Int) (name : String)
  | mark (r : Repository) (access : Access) (issue : Int) (names : List String)
  /-- The repository's parts may be left to the payload. -/
  | handleEvent (event payload : String) (owner name : Option String) (access : Access)
  | checkCycles (r : Repository) (access : Access)
  deriving DecidableEq, Repr

namespace Invocation

def helpOption : Opt := ⟨.help, "--help", some 'h', false⟩

def sharedOptions : List Opt :=
  [helpOption,
    ⟨.organization, "--org", some 'o', true⟩,
    ⟨.repository, "--repo", some 'r', true⟩,
    ⟨.token, "--token", none, true⟩,
    ⟨.configPath, "--config-path", none, true⟩,
    ⟨.configFile, "--config-file", some 'c', true⟩,
    ⟨.verbose, "--verbose", some 'v', false⟩]

def issueOption : Opt := ⟨.issue, "--issue-number", some 'i', true⟩

def access (env : Environment) (a : Arguments) : Access where
  token := a.value? .token
  configPath := ((a.value? .configPath).or (env.lookup? "LADYBUG_CONFIG_PATH")).getD
    Configuration.defaultPath
  configFile := a.value? .configFile

def target? (a : Arguments) : Option Repository := do
  return ⟨← a.value? .organization, ← a.value? .repository⟩

def integer? (text : String) : Option Int := (Text.looseInteger text).toOption

def issue? (a : Arguments) : Option Int := (a.value? .issue).bind integer?

/-- The interval of sweeps; absent when there is to be one sweep only. -/
def interval? (env : Environment) (a : Arguments) : Option (Option Int) :=
  match (a.value? .interval).or (env.lookup? "LADYBUG_INTERVAL") with
  | none => some none
  | some text => (integer? text).map some

def pathSettings : List Setting := [.configFile, .payload]

/-- Whether a path has the character that no path can have. -/
def hasBrokenPath (a : Arguments) : Bool :=
  pathSettings.any fun s => (a.value? s).any fun path => '\x00' ∈ path.toList

def nothing? : List String → Option Unit
  | [] => some ()
  | _ => none

def single? : List String → Option String
  | [name] => some name
  | _ => none

def some? (names : List String) : Option (List String) :=
  if names = [] then none else some names

/-- A command: its options, and the invocation that its arguments make. -/
structure Command where
  name : String
  options : List Opt
  read : Environment → Arguments → Option Invocation

def commands : List Command :=
  [⟨"run", sharedOptions ++ [⟨.interval, "--interval", none, true⟩], fun env a => do
      let seconds ← interval? env a
      nothing? a.rest
      return .run (← target? a) (access env a) seconds⟩,
    ⟨"check-rule", sharedOptions ++ [issueOption], fun env a => do
      return .checkRule (← target? a) (access env a) (← issue? a) a.rest⟩,
    ⟨"try-rule", sharedOptions ++ [issueOption], fun env a => do
      return .tryRule (← target? a) (access env a) (← issue? a) (← single? a.rest)⟩,
    ⟨"mark", sharedOptions ++ [issueOption], fun env a => do
      return .mark (← target? a) (access env a) (← issue? a) (← some? a.rest)⟩,
    ⟨"handle-event",
      sharedOptions ++
        [⟨.event, "--event", some 'e', true⟩, ⟨.payload, "--payload", some 'p', true⟩],
      fun env a => do
        nothing? a.rest
        return .handleEvent (← a.value? .event) (← a.value? .payload) (a.value? .organization)
          (a.value? .repository) (access env a)⟩,
    ⟨"check-cycles", sharedOptions, fun env a => do
      nothing? a.rest
      return .checkCycles (← target? a) (access env a)⟩,
    ⟨"version", [helpOption], fun _ a => do
      nothing? a.rest
      return .version⟩]

/-- The invocation of a command. Asking for help comes before everything but a malformed option. -/
def ofCommand (env : Environment) (c : Command) (args : List String) : Option Invocation :=
  (Arguments.read c.options args).bind fun a =>
    if a.has .help then some .help
    else if hasBrokenPath a then none
    else c.read env a

/-- The help that options in the place of a command ask for. -/
def helpInPlace (args : List String) : Option Invocation :=
  (Arguments.beforeCommand [helpOption] args).bind fun a =>
    if a.has .help then some .help else none

/-- What a command line asks for; none is a usage error. -/
def ofArgs (env : Environment) (args : List String) : Option Invocation :=
  (Arguments.beforeCommand [helpOption] args).bind fun a =>
    if a.has .help then some .help
    else
      match a.rest with
      | [] => none
      | name :: rest =>
        match commands.find? (·.name = name) with
        | some c => ofCommand env c rest
        | none => helpInPlace (name :: rest)

def localPaths : Invocation → List String
  | .run _ a _ => a.configFile.toList
  | .checkRule _ a _ _ => a.configFile.toList
  | .tryRule _ a _ _ => a.configFile.toList
  | .mark _ a _ _ => a.configFile.toList
  | .handleEvent _ payload _ _ a => payload :: a.configFile.toList
  | .checkCycles _ a => a.configFile.toList
  | _ => []

end Invocation

end Triage.Console
