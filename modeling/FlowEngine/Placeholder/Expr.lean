import FlowEngine.Json.Value

/-!
# Placeholder expressions

What a placeholder may hold: literals, references, filters, conditions and
choices between two values.
-/

namespace FlowEngine

/-- Where a reference reads from. -/
inductive Source where
  | node (id : String)
  | parameter
  | request
  | env
  | storage (key : String)
deriving DecidableEq, Repr

structure Reference where
  source : Source
  path : List String
deriving DecidableEq, Repr

/-- The dotted form of a reference. A stored key stands for the whole of it. -/
def Reference.describe (r : Reference) : String :=
  let dotted (head : String) := ".".intercalate (head :: r.path)
  match r.source with
  | .node id => dotted id
  | .parameter => dotted ".Parameter"
  | .request => dotted ".Request"
  | .env => dotted ".Env"
  | .storage key => "key:" ++ key

inductive Comparison where
  | eq | ne | gt | lt | ge | le
deriving DecidableEq, Repr

/-- The operator of a comparison. -/
def Comparison.text : Comparison → String
  | .eq => "=="
  | .ne => "!="
  | .gt => ">"
  | .lt => "<"
  | .ge => ">="
  | .le => "<="

structure FilterCall where
  name : String
  args : List Json

inductive Expr where
  | literal (value : Json)
  | ref (reference : Reference)
  | piped (input : Expr) (filters : List FilterCall)
  | not (a : Expr)
  | and (a b : Expr)
  | or (a b : Expr)
  | compare (op : Comparison) (a b : Expr)
  /-- The value if the condition holds, else the fallback. -/
  | choice (value condition fallback : Expr)

end FlowEngine
