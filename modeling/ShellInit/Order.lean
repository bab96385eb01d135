/-!
# Release order

Nodes of a graph in an order in which each follows all nodes that point to it. A node counts the
edges that still hold it back; a synthetic start points to every node once. Nodes are released when
their count reaches zero, and a released node then lets go of its targets in their order. Nodes on
or behind a cycle are never released, and targets that are no nodes are ignored.
-/

namespace ShellInit

/-- Adjacency lists: the targets of node `i` stand at index `i`. -/
abbrev Edges := List (List Nat)

/-- What lets go of targets. -/
inductive Source
  | start
  | node (index : Nat)
deriving DecidableEq, Repr

def Source.targets (edges : Edges) : Source → List Nat
  | .start => List.range edges.length
  | .node index => edges[index]?.getD []

/-- A run under way. -/
structure Sorter where
  /-- For each node the number of edges that hold it back. -/
  held : Array Nat
  /-- Sources whose targets are still to be let go of. -/
  queue : List Source
  /-- The nodes released so far. -/
  released : List Nat
deriving Repr

namespace Sorter

def start (edges : Edges) : Sorter where
  held := Array.ofFn fun (i : Fin edges.length) ↦ edges.flatten.count i.val + 1
  queue := [.start]
  released := []

/-- Takes one edge off a node, and releases it if that was the last. -/
def letGo (s : Sorter) (target : Nat) : Sorter :=
  match s.held[target]? with
  | none => s
  | some count =>
    let held := s.held.setIfInBounds target (count - 1)
    if count - 1 = 0 then
      { held, queue := s.queue ++ [.node target], released := s.released ++ [target] }
    else { s with held }

/-- Lets the first source of the queue go of its targets. -/
def step (edges : Edges) (s : Sorter) : Sorter :=
  match s.queue with
  | [] => s
  | source :: queue => (source.targets edges).foldl letGo { s with queue }

def after (edges : Edges) : Nat → Sorter
  | 0 => start edges
  | n + 1 => step edges (after edges n)

end Sorter

/-- The released nodes in their order; the start and each node take one step. -/
def releaseOrder (edges : Edges) : List Nat := (Sorter.after edges (edges.length + 1)).released

end ShellInit
