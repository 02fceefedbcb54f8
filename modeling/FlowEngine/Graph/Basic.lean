/-!
# Graphs

A graph is a list of nodes and a list of edges, both in the order in which they
were declared. An edge may occur more than once.
-/

namespace FlowEngine

structure Graph where
  nodes : List String
  edges : List (String × String)

namespace Graph

/-- Where the edges of a node lead, once for each edge. -/
def successors (g : Graph) (n : String) : List String :=
  g.edges.filterMap fun e => if e.1 = n then some e.2 else none

/-- Where the edges to a node come from, once for each edge. -/
def sources (g : Graph) (n : String) : List String :=
  g.edges.filterMap fun e => if e.2 = n then some e.1 else none

/-- The nodes with an edge to a node. -/
def predecessors (g : Graph) (n : String) : List String := (g.sources n).eraseDups

/-- Visit the nodes of a work list and all that they lead to, after those seen
already. The fuel is at least the length of the list and the count of edges. -/
def visit (g : Graph) : Nat → List String → List String → List String
  | 0, _, seen => seen
  | _, [], seen => seen
  | fuel + 1, n :: todo, seen =>
    if seen.contains n then visit g fuel todo seen
    else visit g fuel (g.successors n ++ todo) (seen ++ [n])

/-- The nodes that a node leads to, itself included; none for an unknown node. -/
def reachableFrom (g : Graph) (root : String) : List String :=
  if g.nodes.contains root then g.visit (g.edges.length + 2) [root] [] else []

end Graph

end FlowEngine
