import Triage.Yaml.Node
import Triage.Yaml.Scalar

/-!
# YAML documents as values

A document becomes a value level by level: a collection is begun when it is first met, and its
entries are looked at when all collections above it and before it have been. The first fault met in
this order is that of the document. Collections may contain themselves, so their values are put
together only in the end.
-/

namespace Triage.Yaml

/-- Why a text gives no value: its form is wrong, or it names a value that does not exist. -/
inductive DocumentFault where
  | malformed (fault : SyntaxFault)
  | badValue (fault : ValueFault)
  deriving DecidableEq, Repr

namespace DocumentFault

/-- A problem of a node, reported at the start of the text. -/
def ofProblem (p : Problem) : DocumentFault := malformed ⟨p, 0, 0⟩

/-- Some places where a text cannot be read are values that do not exist. -/
def ofSyntax (fault : SyntaxFault) : DocumentFault :=
  match fault.problem with
  | .escapedCode code => badValue (.code code)
  | .longVersion numeral => badValue (.numeral numeral)
  | _ => malformed fault

end DocumentFault

/-- What a node stands for, with the nodes that its entries are. -/
inductive Outline where
  | whole (v : Value)
  | list (items : List NodeId)
  /-- A list of lists of two. -/
  | pairs (entries : List (NodeId × NodeId))
  | map (entries : List (Value × NodeId))
  deriving Inhabited

/-- The nodes, what is known of each, and the collections whose entries are still to be looked at,
the last one first. -/
structure Building where
  nodes : Array Node
  outlines : Array (Option Outline)
  pending : List NodeId := []

abbrev Build := StateT Building (Except DocumentFault)

namespace Build

def fail {α : Type} (p : Problem) : Build α := throw (.ofProblem p)

def node (id : NodeId) : Build Node := do
  return ((← get).nodes[id]?).getD ⟨.null, .scalar ""⟩

def setNode (id : NodeId) (n : Node) : Build Unit :=
  modify fun b => { b with nodes := b.nodes.setIfInBounds id n }

def setOutline (id : NodeId) (o : Outline) : Build Unit :=
  modify fun b => { b with outlines := b.outlines.setIfInBounds id (some o) }

/-- The text of a scalar. A mapping has the text of its value of the special key, if it has one; the
fuel bounds how many mappings stand in each other in this way. -/
def text? : Nat → NodeId → Build (Option CodeText)
  | 0, _ => return none
  | fuel + 1, id => do
    match (← node id).content with
    | .scalar text => return some text
    | .seq _ => return none
    | .map entries => do
      let tagged ← entries.mapM fun e => return ((← node e.1).tag, e.2)
      match tagged.lookup .value with
      | some value => text? fuel value
      | none => return none

def emptyOutline (tag : Tag) : Outline :=
  match tag with
  | .map => .map []
  | .omap | .pairs => .pairs []
  | _ => .list []

def start (id : NodeId) : Build Outline := do
  let b ← get
  match (b.outlines[id]?).join with
  | some known => return known
  | none => do
    let tag := (← node id).tag
    if tag.isCollection then do
      setOutline id (emptyOutline tag)
      modify fun b => { b with pending := id :: b.pending }
      return emptyOutline tag
    else
      match ← text? b.nodes.size id with
      | none => fail .nodeKind
      | some text =>
        match Scalar.value? tag text with
        | none => fail .unknownTag
        | some (.error fault) => throw (.badValue fault)
        | some (.ok v) => do
          setOutline id (.whole v)
          return .whole v

def entries (id : NodeId) : Build (List (NodeId × NodeId)) := do
  match (← node id).content with
  | .map es => return es
  | _ => fail .nodeKind

def setEntries (id : NodeId) (es : List (NodeId × NodeId)) : Build Unit := do
  setNode id { (← node id) with content := .map es }

/-- A key that stands for a whole mapping reads as text where it does not. -/
def readAsText (id : NodeId) : Build Unit := do
  let n ← node id
  if n.tag = .value then setNode id { n with tag := .str } else return ()

/-- The entries a merge key brings in: those of one mapping, or of several with the first winning. -/
def merged (flatten : NodeId → Build (List (NodeId × NodeId))) (id : NodeId) :
    Build (List (NodeId × NodeId)) := do
  match (← node id).content with
  | .map _ => flatten id
  | .seq items => do
    let parts ← items.mapM fun item => do
      match (← node item).content with
      | .map _ => flatten item
      | _ => fail .mergeValue
    return parts.reverse.flatten
  | .scalar _ => fail .mergeValue

/-- Resolves the merge keys of a mapping: merged entries come first, so that its own win. The fuel
bounds the nesting of merged mappings. -/
def flatten : Nat → NodeId → Build (List (NodeId × NodeId))
  | 0, id => entries id
  | fuel + 1, id => do
    let tagged ← (← entries id).mapM fun e => return ((← node e.1).tag, e)
    let merges := (tagged.filter fun e => e.1 = .merge).map (·.2)
    let own := (tagged.filter fun e => e.1 ≠ .merge).map (·.2)
    own.forM fun e => readAsText e.1
    setEntries id own
    let parts ← merges.mapM fun e => merged (flatten fuel) e.2
    let all := parts.flatten ++ (← entries id)
    setEntries id all
    return all

/-- The value of a key, which cannot be a collection. -/
def key (id : NodeId) : Build Value := do
  match ← start id with
  | .whole v => if v.isKey then return v else fail .keyIsCollection
  | _ => fail .keyIsCollection

/-- Puts an entry under a key; a key that is there keeps its first spelling. -/
def putEntry (k : Value) (id : NodeId) : List (Value × NodeId) → List (Value × NodeId)
  | [] => [(k, id)]
  | e :: es => if e.1.sameKey k then (e.1, id) :: es else e :: putEntry k id es

def mapping (id : NodeId) : Build (List (Value × NodeId)) := do
  let es ← flatten ((← get).nodes.size + 1) id
  es.foldlM (fun known e => do
    let k ← key e.1
    let _ ← start e.2
    return putEntry k e.2 known) []

/-- The single entry of a mapping in a list of pairs. -/
def pair (id : NodeId) : Build (NodeId × NodeId) := do
  match ← entries id with
  | [(k, v)] => do
    let _ ← start k
    let _ ← start v
    return (k, v)
  | _ => fail .nodeKind

def items (id : NodeId) : Build (List NodeId) := do
  match (← node id).content with
  | .seq ids => return ids
  | _ => fail .nodeKind

/-- Looks at the entries of a collection. A set is the list of its keys. -/
def fill (id : NodeId) : Build Unit := do
  match (← node id).tag with
  | .map => setOutline id (.map (← mapping id))
  | .set => setOutline id (.whole (.list ((← mapping id).map (·.1))))
  | .omap | .pairs => setOutline id (.pairs (← (← items id).mapM pair))
  | _ => do
    let ids ← items id
    ids.forM fun item => do
      let _ ← start item
      return ()
    setOutline id (.list ids)

/-- Looks at the entries of all collections, one level after another. Every collection is pending
once, so the number of nodes bounds that of the levels. -/
def fillAll : Nat → Build Unit
  | 0 => return ()
  | fuel + 1 => do
    let level := (← get).pending.reverse
    modify fun b => { b with pending := [] }
    level.forM fill
    if level = [] then return () else fillAll fuel

end Build

/-- What the nodes of a document stand for. -/
def Document.outlines (d : Document) : Except DocumentFault (Array Outline) :=
  let work : Build Unit := do
    let _ ← Build.start d.root
    Build.fillAll (d.nodes.size + 1)
  (work.run ⟨d.nodes, Array.replicate d.nodes.size none, []⟩).map fun r =>
    r.2.outlines.map fun o => o.getD (.whole .null)

/-- A value, and whether nothing of it is missing. -/
structure Draft where
  value : Value
  complete : Bool

namespace Outline

def assemble (known : Array Draft) (o : Outline) : Draft :=
  let at? (id : NodeId) : Draft := (known[id]?).getD ⟨.null, true⟩
  match o with
  | .whole v => ⟨v, true⟩
  | .list ids => ⟨.list (ids.map fun id => (at? id).value), ids.all fun id => (at? id).complete⟩
  | .pairs es =>
    ⟨.list (es.map fun e => .list [(at? e.1).value, (at? e.2).value]),
      es.all fun e => (at? e.1).complete && (at? e.2).complete⟩
  | .map es =>
    ⟨.map (es.map fun e => (e.1, (at? e.2).value)), es.all fun e => (at? e.2).complete⟩

def emptied : Outline → Draft
  | .whole v => ⟨v, true⟩
  | .map es => ⟨.map [], es.isEmpty⟩
  | .list ids => ⟨.list [], ids.isEmpty⟩
  | .pairs es => ⟨.list [], es.isEmpty⟩

/-- Assembles all values once, the last node first: what a collection holds mostly comes after it. -/
def assembleAll (outlines : Array Outline) (known : Array Draft) : Array Draft :=
  (List.range outlines.size).reverse.foldl (fun known id =>
    match outlines[id]? with
    | some o => known.setIfInBounds id (o.assemble known)
    | none => known) known

/-- Assembles the values again and again, each time to a greater depth, until the one wanted is
complete. A collection that contains itself never is; its value ends at the depth of the fuel. -/
def deepen (outlines : Array Outline) (root : NodeId) : Nat → Array Draft → Value
  | 0, known => ((known[root]?).map (·.value)).getD .null
  | fuel + 1, known =>
    match known[root]? with
    | none => .null
    | some p =>
      if p.complete then p.value else deepen outlines root fuel (assembleAll outlines known)

end Outline

def Document.value (d : Document) : Except DocumentFault Value :=
  d.outlines.map fun outlines =>
    Outline.deepen outlines d.root (outlines.size + 1) (outlines.map (·.emptied))

/-- The value of a text's single document; null when it has none. -/
def Document.read (text : String) : Except DocumentFault Value :=
  match Document.ofTokens (Token.scan text.toList).toList with
  | .error fault => .error (.ofSyntax fault)
  | .ok none => .ok .null
  | .ok (some d) => d.value

end Triage.Yaml
