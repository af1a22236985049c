import Triage.Text.CodePoint
import Triage.Text.Numeral
import Triage.Yaml.Cursor

/-!
# YAML tokens

The tokens a YAML text is cut into, and what can be wrong with a text.
-/

namespace Triage.Yaml

inductive Problem where
  | character
  | expectedColon
  | sequenceEntry
  | mappingKey
  | mappingValue
  | directive
  | anchorName
  | tag
  | blockScalarHeader
  | endOfText
  | documentMarker
  | escape
  | startOfToken
  | unexpectedToken
  | duplicateDirective
  | incompatibleVersion
  | tagHandle
  | undefinedAlias
  | duplicateAnchor
  | secondDocument
  | unknownTag
  | keyIsCollection
  | mergeValue
  | nodeKind
  /-- An escape names a code beyond the last code point. -/
  | escapedCode (code : Nat)
  /-- A version has too many digits. -/
  | longVersion (fault : NumeralFault)
  deriving DecidableEq, Repr

def Problem.text : Problem → String
  | .character => "special characters are not allowed"
  | .expectedColon => "could not find expected ':'"
  | .sequenceEntry => "sequence entries are not allowed here"
  | .mappingKey => "mapping keys are not allowed here"
  | .mappingValue => "mapping values are not allowed here"
  | .directive => "malformed directive"
  | .anchorName => "malformed anchor or alias"
  | .tag => "malformed tag"
  | .blockScalarHeader => "malformed block scalar header"
  | .endOfText => "found unexpected end of text"
  | .documentMarker => "found unexpected document marker"
  | .escape => "found unknown escape"
  | .startOfToken => "found a character that cannot start any token"
  | .unexpectedToken => "found an unexpected token"
  | .duplicateDirective => "found a repeated directive"
  | .incompatibleVersion => "found an incompatible version"
  | .tagHandle => "found an undefined tag handle"
  | .undefinedAlias => "found an undefined alias"
  | .duplicateAnchor => "found a repeated anchor"
  | .secondDocument => "expected a single document"
  | .unknownTag => "could not construct a value for the tag"
  | .keyIsCollection => "found a collection as a key"
  | .mergeValue => "expected mappings for merging"
  | .nodeKind => "found a node of another kind than its tag says"
  | .escapedCode _ => "found an escape that names no code point"
  | .longVersion fault => fault.message

/-- A problem and the line and column it was found at, counted from zero. -/
structure SyntaxFault where
  problem : Problem
  line : Nat
  column : Nat
  deriving DecidableEq, Repr

def SyntaxFault.message (f : SyntaxFault) : String :=
  f.problem.text ++ " (line " ++ toString (f.line + 1) ++ ", column " ++ toString (f.column + 1) ++ ")"

def Cursor.fault (c : Cursor) (p : Problem) : SyntaxFault := ⟨p, c.line, c.column⟩

inductive ScalarStyle where
  | plain
  | quoted
  | block
  deriving DecidableEq, Repr

/-- The tag of a node as it is written: a handle, if there is one, and the rest. -/
structure WrittenTag where
  handle : Option String
  suffix : String
  deriving DecidableEq, Repr

inductive Directive where
  | version (major minor : Nat)
  | tag (handle text : String)
  | other
  deriving DecidableEq, Repr

inductive Token where
  | streamEnd
  | directive (d : Directive)
  | documentStart
  | documentEnd
  | blockSequenceStart
  | blockMappingStart
  | blockEnd
  | flowSequenceStart
  | flowSequenceEnd
  | flowMappingStart
  | flowMappingEnd
  | blockEntry
  | flowEntry
  | key
  | value
  | alias (name : String)
  | anchor (name : String)
  | tag (t : WrittenTag)
  | scalar (text : CodeText) (style : ScalarStyle)
  /-- The place where the text cannot be cut any further. -/
  | broken (fault : SyntaxFault)
  deriving DecidableEq, Repr

/-- A token and where it starts. -/
structure Placed where
  token : Token
  line : Nat
  column : Nat

end Triage.Yaml
