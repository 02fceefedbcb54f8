import FlowEngine.Graph.Basic

/-!
# Cycles

`cycle?` searches depth first for a node that leads back to itself. Which of
several cycles it finds depends on where it starts: a first pass over the graph
suggests a start, namely the first node that shares a component with the node
that finished last.
-/

namespace FlowEngine.Graph

/-! ## Where to start -/

inductive Finish where
  /-- A node with an edge to itself. -/
  | selfLoop (n : String)
  /-- The nodes in the reverse order of their finishing. -/
  | order (latestFirst : List String)

/-- One depth-first pass with its stack written out. The top of the stack is left
in place while its successors are visited. The fuel is at least twice the count
of nodes and edges. -/
def finishFrom (g : Graph) : Nat → List String → List String → List String → Finish × List String
  | 0, _, discovered, finished => (.order finished, discovered)
  | _, [], discovered, finished => (.order finished, discovered)
  | fuel + 1, n :: stack, discovered, finished =>
    if discovered.contains n then
      finishFrom g fuel stack discovered
        (if finished.contains n then finished else n :: finished)
    else
      let next := g.successors n
      if next.contains n then (.selfLoop n, discovered)
      else
        let discovered := n :: discovered
        finishFrom g fuel ((next.filter fun s => !discovered.contains s) ++ n :: stack)
          discovered finished

/-- The finishing order of all nodes of a list. -/
def finishAll (g : Graph) (fuel : Nat) : List String → List String → List String → Finish
  | [], _, finished => .order finished
  | n :: ns, discovered, finished =>
    if discovered.contains n then finishAll g fuel ns discovered finished
    else
      match finishFrom g fuel [n] discovered finished with
      | (.selfLoop m, _) => .selfLoop m
      | (.order finished, discovered) => finishAll g fuel ns discovered finished

/-- The first node found to share a component with an earlier one, going through
the nodes from the latest finished on. -/
def firstShared? (g : Graph) (scope : List String) : List String → List String → Option String
  | [], _ => none
  | n :: ns, seen =>
    let seen := n :: seen
    match (g.sources n).find? fun s => scope.contains s && !seen.contains s with
    | some s => some s
    | none => firstShared? g scope ns seen

/-- Where the search for a cycle starts, if the first pass suggests a node. -/
def suspect? (g : Graph) (scope : List String) : Option String :=
  match finishAll g (2 * (g.nodes.length + g.edges.length) + 2) scope [] [] with
  | .selfLoop n => some n
  | .order finished => firstShared? g scope finished []

/-! ## The search -/

/-- The cycle that an edge from the top of a path back to one of its nodes
closes. The path is given last node first. -/
def closeCycle (path : List String) (n : String) : List String :=
  n :: ((path.takeWhile (· != n)).reverse ++ [n])

/-- Search from a node at the end of a path. Gives the nodes that are known to
lead to no cycle, or a cycle as an error. The fuel is more than the count of
nodes. -/
def search (g : Graph) : Nat → List String → List String → String →
    Except (List String) (List String)
  | 0, _, done, _ => .ok done
  | fuel + 1, path, done, n =>
    if path.contains n then .error (closeCycle path n)
    else if done.contains n then .ok done
    else do
      let done ← (g.successors n).foldlM (search g fuel (n :: path)) done
      .ok (n :: done)

/-- A cycle among the nodes of `scope`, which is closed under successors. -/
def cycle? (g : Graph) (scope : List String) : Option (List String) :=
  let starts := (g.suspect? scope).toList ++ scope
  match starts.foldlM (g.search (g.nodes.length + 1) []) [] with
  | .ok _ => none
  | .error path => some path

end FlowEngine.Graph
