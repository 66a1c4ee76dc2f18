import CellWeave.Yaml.Node
/-!
# Merged mappings

The key `<<` puts the entries of other mappings before those of the mapping it stands in. The
entries are moved in the graph itself: a mapping that is merged into several others is the same for
all of them, and a mapping may be merged into itself. An equals sign as a key is text from then on,
wherever its node stands.
-/

namespace CellWeave.Yaml

namespace Content

def entries : Content → List (Nat × Nat)
  | mapping entries => entries
  | _ => []

end Content

namespace Graph

def kindAt (nodes : Array Node) (place : Nat) : Kind :=
  (nodes[place]?.map (·.kind)).getD .unknown

def contentAt (nodes : Array Node) (place : Nat) : Content :=
  (nodes[place]?.map (·.content)).getD (.scalar [])

def setEntries (nodes : Array Node) (place : Nat) (entries : List (Nat × Nat)) : Array Node :=
  nodes.modify place fun node ↦ { node with content := .mapping entries }

/-- Turns the keys that are equals signs into text. -/
def settleKeys (nodes : Array Node) (entries : List (Nat × Nat)) : Array Node :=
  entries.foldl (fun nodes (key, _) ↦ nodes.modify key fun node ↦
    if node.kind = .valueKey then { node with kind := .text } else node) nodes

/-- The entries before the first merge key, what is under it, and the entries after it. -/
def splitMerge (nodes : Array Node) :
    List (Nat × Nat) → Option (List (Nat × Nat) × Nat × List (Nat × Nat))
  | [] => none
  | entry :: rest =>
    if kindAt nodes entry.1 = .mergeKey then some ([], entry.2, rest)
    else (splitMerge nodes rest).map fun (before, value, after) ↦ (entry :: before, value, after)

/-- The number of entries under merge keys. -/
def mergeCount (nodes : Array Node) : Nat :=
  nodes.foldl (fun count node ↦
    count + (node.content.entries.filter fun entry ↦ kindAt nodes entry.1 = .mergeKey).length) 0

mutual

/-- Takes the merge keys out of the mapping at a place, one after the other, and puts the entries
`merged` by them before the others. As each step takes one key out of the graph, the number of these
keys bounds the steps. -/
def mergeAt (nodes : Array Node) (place : Nat) (merged : List (Nat × Nat)) :
    Nat → Except Fault (Array Node)
  | 0 => .error .malformed
  | fuel + 1 =>
    let entries := (contentAt nodes place).entries
    match splitMerge nodes entries with
    | none =>
      .ok (setEntries (settleKeys nodes entries) place (merged ++ entries))
    | some (before, value, after) => do
      let nodes := setEntries nodes place (before ++ after)
      let (added, nodes) ←
        match contentAt nodes value with
        | .scalar _ => throw .malformed
        | .mapping _ =>
          let nodes ← mergeAt nodes value [] fuel
          pure ((contentAt nodes value).entries, nodes)
        | .sequence items => mergeItems nodes items fuel
      mergeAt nodes place (merged ++ added) fuel

/-- The entries of the mappings at some places, the last one first. -/
def mergeItems (nodes : Array Node) (items : List Nat) (fuel : Nat) :
    Except Fault (List (Nat × Nat) × Array Node) :=
  match items with
  | [] => .ok ([], nodes)
  | item :: rest =>
    match contentAt nodes item with
    | .mapping _ => do
      let nodes ← mergeAt nodes item [] fuel
      let added := (contentAt nodes item).entries
      let (others, nodes) ← mergeItems nodes rest fuel
      return (others ++ added, nodes)
    | _ => .error .malformed

end

/-- The graph with the merge keys of a mapping, and of those merged into it, replaced. -/
def flatten (nodes : Array Node) (place : Nat) : Except Fault (Array Node) :=
  mergeAt nodes place [] (mergeCount nodes + 1)

end Graph

end CellWeave.Yaml
