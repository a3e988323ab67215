import Canopy.Ast.Basic
import Canopy.Ast.Options
import Canopy.Registry

namespace Canopy

/-- A node that waits to be visited. -/
structure Pending where
  place : Place
  parent : Option Nat
  depth : Nat

namespace Pending

/-- The nodes that are pending or below a pending one. -/
def total (stack : List Pending) : Nat := Tree.sizeAll (stack.map fun p => p.place.tree)

def children (index : Nat) (p : Pending) : List Pending :=
  p.place.children.map fun c => ⟨c, some index, p.depth + 1⟩

end Pending

namespace Node

def shownValue (l : Profile) (options : BuildOptions) (source : Bytes) (t : Tree) : String :=
  match options.limit? with
  | some size => Utf8.truncate (l.nodeValue source t) (some size)
  | none => l.nodeValue source t

/-- The node for a place, its descendants not counted yet. Visibility is worked out only for
declarations that can be public. -/
def ofPlace (l : Profile) (options : BuildOptions) (source : Bytes) (index : Nat)
    (p : Pending) : Node :=
  let t := p.place.tree
  let config := l.configFor? t
  { index := index
    parent := p.parent
    semanticType := l.semanticType p.place
    rawType := t.type
    name := l.nodeName source t
    value := shownValue l options source t
    startByte := t.startByte
    endByte := t.endByte
    startLine := t.label.startPoint.row
    startColumn := t.label.startPoint.column
    endLine := t.label.endPoint.row
    endColumn := t.label.endPoint.column
    depth := p.depth
    childCount := t.children.length
    descendantCount := 0
    flags := (config.map NodeConfig.flags).getD 0
    isPublic :=
      match config with
      | some c => if c.isPublicEligible then some (l.isPublic source p.place) else none
      | none => none }

end Node

namespace Ast

/-- Visits the pending nodes, topmost first; the children of a node go on top of the stack. The
depth of a tree is thus no depth of recursion. -/
def walk (make : Nat → Pending → Node) (index : Nat) (stack : List Pending) : List Node :=
  match stack with
  | [] => []
  | p :: rest => make index p :: walk make (index + 1) (Pending.children index p ++ rest)
termination_by Pending.total stack
decreasing_by
  obtain ⟨⟨⟨label, children⟩, ancestors⟩, parent, depth⟩ := p
  simp [Pending.total, Pending.children, Place.children, Tree.children, Tree.sizeAll,
    Tree.sizeAll_append, Tree.size, Function.comp_def]

/-- How many descendants each node has. Going backwards, a node's count is complete when it is met,
and is added to its parent's. -/
def descendantCounts (parents : List (Option Nat)) : Array Nat :=
  parents.zipIdx.foldr
    (fun (parent, i) counts =>
      match parent with
      | none => counts
      | some up => counts.modify up (· + (counts[i]?.getD 0 + 1)))
    (Array.replicate parents.length 0)

def countDescendants (nodes : List Node) : List Node :=
  let counts := descendantCounts (nodes.map Node.parent)
  nodes.map fun n => { n with descendantCount := counts[n.index]?.getD 0 }

/-- The nodes of a tree in pre-order. -/
def flatten (l : Profile) (options : BuildOptions) (source : Bytes) (t : Tree) : List Node :=
  countDescendants (walk (Node.ofPlace l options source) 0 [⟨{ tree := t }, none, 0⟩])

/-- Why there is no result. -/
inductive Error where
  | unsupported (u : Registry.Unsupported)
  | grammar (fault : GrammarFault)
  | parse (fault : ParseFault)
  | invalid (issues : List Issue)
deriving Repr, DecidableEq

def Error.ofFault : Provider.Fault → Error
  | .grammar fault => .grammar fault
  | .parse fault => .parse fault

/-- The issues of the first node that has any. -/
def firstIssues (nodes : List Node) : Option (List Issue) :=
  (nodes.find? fun n => !n.issues.isEmpty).map Node.issues

/-- A build: its result, the grammar's provider afterwards, and what was logged. -/
structure Outcome where
  result : Except Error Ast
  provider : Provider
  logs : List Log.Entry

/-- What the world outside answers during one build: what loading the adapter's grammar gives, and
what its parser finds in the source. -/
structure World where
  load : Loader
  found : Option Parse

/-- Parses a source with an adapter's grammar and flattens the tree. There is a result for every
node or there is none. -/
def build (world : World) (options : BuildOptions) (source : Bytes) (a : Adapter) : Outcome :=
  let parsed :=
    a.provider.parse (world.load a.provider.grammar) world.found source.length
  match parsed.result with
  | .error fault => ⟨.error (.ofFault fault), parsed.provider, parsed.logs⟩
  | .ok parse =>
    let nodes := flatten a.profile options source parse.tree
    match firstIssues nodes with
    | some issues => ⟨.error (.invalid issues), parsed.provider, parsed.logs⟩
    | none =>
      ⟨.ok ⟨a.name, source.length, parse.hasError, nodes⟩, parsed.provider, parsed.logs ++
        [Log.debug "ast_built"
          [("language", .str a.name), ("source_length", Json.nat source.length),
            ("node_count", Json.nat nodes.length), ("has_errors", .bool parse.hasError)]]⟩

/-- A build through a registry, with the registry afterwards. -/
structure SourceOutcome where
  result : Except Error Ast
  registry : Registry
  logs : List Log.Entry

/-- Builds with the adapter that a language tag stands for. -/
def parseSource (world : World) (options : BuildOptions) (source : Bytes) (tag : String)
    (r : Registry) : SourceOutcome :=
  let asked := r.resolveLogs tag
  match r.require tag with
  | .error u => ⟨.error (.unsupported u), r, asked⟩
  | .ok a =>
    let built := build world options source a
    ⟨built.result,
      { r with adapters := r.adapters.insert a.name { a with provider := built.provider } },
      asked ++ built.logs⟩

end Ast
end Canopy
