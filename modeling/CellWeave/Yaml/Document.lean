import CellWeave.Yaml.Atom
import CellWeave.Yaml.Merge
/-!
# Values of documents

Every node of a graph gets its value once. Scalars have theirs at once; a collection is empty at
first and is filled when those that were met before it are. So the fault that is met first need not
be the one that is written first, and a collection may be inside itself. A key may be any value but
a collection, and of two equal keys the later one gives the value.
-/

namespace CellWeave.Yaml

/-- The value of a node, with collections by the places of what is in them. -/
inductive Made where
  | atom (value : Value)
  | list (items : List Nat)
  | map (entries : List (Nat × Nat))
  | set (members : List Nat)
  | pairs (entries : List (Nat × Nat))

/-- A graph with values for some of its nodes, and the collections in the order in which they have
to be filled. -/
structure Builder where
  nodes : Array Node
  made : Array (Option Made)
  queue : Array Nat

abbrev Build := StateT Builder (Except Fault)

namespace Build

def malformed {α : Type} : Build α :=
  throw .malformed

def put (place : Nat) (made : Made) : Build Unit :=
  modify fun builder ↦ { builder with made := builder.made.setIfInBounds place (some made) }

/-- The text of a node that has to be a scalar. In a mapping it is the one under the key `=`. -/
def textOf (nodes : Array Node) (place : Nat) : Nat → Except Fault Text
  | 0 => .error .endless
  | fuel + 1 =>
    match Graph.contentAt nodes place with
    | .scalar text => .ok text
    | .sequence _ => .error .malformed
    | .mapping entries =>
      match entries.find? fun entry ↦ Graph.kindAt nodes entry.1 = .valueKey with
      | some entry => textOf nodes entry.2 fuel
      | none => .error .malformed

/-- The value of a node of a kind that has no others in it. -/
def atom (nodes : Array Node) (kind : Kind) (place : Nat) : Except Fault Value := do
  if kind = .unknown ∨ kind = .mergeKey ∨ kind = .valueKey then throw .malformed
  let text ← textOf nodes place (nodes.size + 1)
  match kind, Graph.contentAt nodes place with
  | .time, .mapping _ => throw .timeInMap
  | _, _ => Atom.value kind place text

/-- A collection of a kind with nothing in it. -/
def empty? : Kind → Option Made
  | .sequence => some (.list [])
  | .mapping => some (.map [])
  | .set => some (.set [])
  | .orderedMap | .pairs => some (.pairs [])
  | _ => none

/-- Gives a node its value unless it has one. -/
def make (place : Nat) : Build Unit := do
  let builder ← get
  if (builder.made.getD place none).isNone then
    let kind := Graph.kindAt builder.nodes place
    match empty? kind with
    | some made =>
      put place made
      modify fun builder ↦ { builder with queue := builder.queue.push place }
    | none => put place (.atom (← atom builder.nodes kind place))

/-- The value of a node that is a key. -/
def key (place : Nat) : Build Value := do
  make place
  match (← get).made.getD place none with
  | some (.atom value) => return value
  | _ => malformed

/-- Writes an entry, with the value of its key; under a key that is there it keeps the key. -/
def setEntry (entries : List (Value × Nat × Nat)) (name : Value) (entry : Nat × Nat) :
    List (Value × Nat × Nat) :=
  match entries with
  | [] => [(name, entry)]
  | first :: rest =>
    if first.1.sameKey name then (first.1, first.2.1, entry.2) :: rest
    else first :: setEntry rest name entry

/-- The entries of a mapping, merged and with different keys. -/
def entriesAt (place : Nat) : Build (List (Nat × Nat)) := do
  match Graph.contentAt (← get).nodes place with
  | .mapping _ =>
    let nodes ← Graph.flatten (← get).nodes place
    modify fun builder ↦ { builder with nodes }
    let entries ← (Graph.contentAt nodes place).entries.foldlM (fun entries entry ↦ do
      let name ← key entry.1
      make entry.2
      return setEntry entries name entry) []
    return entries.map (·.2)
  | _ => malformed

def itemsAt (place : Nat) : Build (List Nat) := do
  match Graph.contentAt (← get).nodes place with
  | .sequence items =>
    items.forM make
    return items
  | _ => malformed

/-- The entries of a sequence of mappings with one entry each. -/
def pairsAt (place : Nat) : Build (List (Nat × Nat)) := do
  match Graph.contentAt (← get).nodes place with
  | .sequence items =>
    items.mapM fun item ↦ do
      match Graph.contentAt (← get).nodes item with
      | .mapping [entry] =>
        make entry.1
        make entry.2
        return entry
      | _ => malformed
  | _ => malformed

def fill (place : Nat) : Build Unit := do
  match Graph.kindAt (← get).nodes place with
  | .sequence => put place (.list (← itemsAt place))
  | .mapping => put place (.map (← entriesAt place))
  | .set => put place (.set ((← entriesAt place).map (·.1)))
  | _ => put place (.pairs (← pairsAt place))

/-- Fills the collections in the queue from a position on. As every node is in the queue at most
once, the number of nodes bounds the steps. -/
def fillFrom (position : Nat) : Nat → Build Unit
  | 0 => return
  | fuel + 1 => do
    match (← get).queue[position]? with
    | none => return
    | some place =>
      fill place
      fillFrom (position + 1) fuel

end Build

/-- The values of all nodes of a document whose root is a map. -/
structure Document where
  made : Array (Option Made)
  entries : List (Nat × Nat)

namespace Document

/-- The value of a node, written out. A list or a map inside itself, which is one of the `outer`
ones, is not written out again. -/
def valueAt (made : Array (Option Made)) (outer : List Nat) (place : Nat) : Nat → Value
  | 0 => .null
  | fuel + 1 =>
    let value (place' : Nat) := valueAt made (place :: outer) place' fuel
    let isOuter := outer.contains place
    match made.getD place none with
    | none => .null
    | some (.atom value) => value
    | some (.list items) => if isOuter then .outerList else .list (items.map value)
    | some (.pairs entries) =>
      if isOuter then .outerList
      else .list (entries.map fun (first, second) ↦ .pair (value first) (value second))
    | some (.map entries) =>
      if isOuter then .outerMap
      else .map (entries.map fun (key, item) ↦ (value key, value item))
    | some (.set members) => .ofMembers (members.map value)

/-- The value under a text key of the root. -/
def get? (document : Document) (name : String) : Option Value :=
  let value (place : Nat) := valueAt document.made [] place (document.made.size + 1)
  (document.entries.find? fun entry ↦ (value entry.1).isText name).map fun entry ↦ value entry.2

/-- The document of a graph, if its root is a map. -/
def ofGraph (graph : Graph) : Except Fault (Option Document) := do
  let start : Builder := ⟨graph.nodes, Array.replicate graph.nodes.size none, #[]⟩
  let build : Build Unit := do
    Build.make graph.root
    Build.fillFrom 0 (graph.nodes.size + 1)
  let (_, builder) ← build.run start
  match builder.made.getD graph.root none with
  | some (.map entries) => return some ⟨builder.made, entries⟩
  | _ => return none

/-- The only document in a text, if there is one and it is a map. -/
def read (source : Source) : Except Fault (Option Document) := do
  match ← Graph.ofSource source with
  | none => return none
  | some graph => ofGraph graph

end Document

end CellWeave.Yaml
