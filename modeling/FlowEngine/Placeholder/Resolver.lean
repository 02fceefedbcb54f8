import FlowEngine.Placeholder.Environment
import FlowEngine.Placeholder.Filter
import FlowEngine.Placeholder.Lookup
import FlowEngine.Placeholder.Parser
import FlowEngine.Placeholder.Template
import FlowEngine.Run.NodeResult
import FlowEngine.Run.Store
import FlowEngine.Text.Basic

/-!
# Resolving placeholders

A string that is one placeholder, blanks aside, takes the value of its
expression; in any other string the values are spliced in as text. A reference
that finds nothing is null and marks the placeholder as missing, which a strict
resolver refuses. Conditions count a missing value as false and forgive it, and
so does the filter `default`.
-/

namespace FlowEngine

/-- Why the expression of a placeholder is invalid. -/
inductive InvalidExpr where
  | malformed (e : ExprError)
  | filter (e : FilterError)
deriving DecidableEq, Repr

def InvalidExpr.message : InvalidExpr → String
  | .malformed e => e.message
  | .filter e => e.message

/-- Why a value could not be resolved, with the text of the placeholder. -/
inductive ResolveError where
  | unresolved (expression : String)
  | invalid (expression : String) (cause : InvalidExpr)
deriving DecidableEq, Repr

/-- The text of a resolve error within a longer message. -/
def ResolveError.describe : ResolveError → String
  | .unresolved expression => expression
  | .invalid expression cause => expression ++ " (" ++ cause.message ++ ")"

/-- Everything that placeholders can read apart from the store. -/
structure Context where
  workflow : String
  parameters : Entries Json
  request : Json
  environment : Environment
  results : Results

/-- The context with one more result recorded. -/
def Context.record (c : Context) (id : String) (r : NodeResult) : Context :=
  { c with results := (c.results.record id r).2 }

structure Resolver where
  context : Context
  store : Store
  /-- Whether a missing value is an error. -/
  strict : Bool

namespace Resolver

/-! ## References -/

/-- The value of a key of the store, where the key may go on with a path into
the value of a shorter key. The longest key that is stored decides. -/
def stored? (s : Store) (key : String) (path : List String) : Option Json :=
  match s.get? key with
  | some v => v.walk? path
  | none =>
    let candidates := (Text.cutsAtDots key.toList).reverse
    (candidates.findSome? fun (head, rest) =>
      (s.get? (String.ofList head)).map fun v =>
        v.walk? (Text.segments rest ++ path)).join

/-- The value that a reference finds. -/
def lookup? (r : Resolver) (ref : Reference) : Option Json :=
  match ref.source with
  | .node id => (r.context.results.get? id).bind fun result => (result.lookup? ref.path).map (·.2)
  | .parameter =>
    match ref.path with
    | [] => none
    | name :: rest => (r.context.parameters.get? name).bind (·.walk? rest)
  | .request => r.context.request.walk? ref.path
  | .env =>
    match ref.path with
    | [] => none
    | name :: rest => (r.context.environment.get? name).bind fun v => (Json.string v).walk? rest
  | .storage key => stored? r.store key ref.path

/-! ## Expressions -/

/-- The value of an expression, and whether a reference in it found nothing. -/
structure Evaluated where
  value : Json
  missing : Bool

def Evaluated.found (v : Json) : Evaluated := ⟨v, false⟩

/-- Send a value through filters. -/
def applyFilters (e : Evaluated) : List FilterCall → Except FilterError Evaluated
  | [] => .ok e
  | f :: fs => do
    let v ← Filter.apply f.name e.value f.args
    applyFilters ⟨v, e.missing && f.name != "default"⟩ fs

def compares (op : Comparison) (a b : Json) : Bool :=
  match op with
  | .eq => a.looselyEqual b
  | .ne => !a.looselyEqual b
  | .gt => (a.compare? b).any Ordering.isGT
  | .lt => (a.compare? b).any Ordering.isLT
  | .ge => (a.compare? b).any Ordering.isGE
  | .le => (a.compare? b).any Ordering.isLE

/-- Evaluate an expression. Of `and`, `or` and a choice, only the parts that
decide the value are evaluated. -/
def eval (r : Resolver) : Expr → Except FilterError Evaluated
  | .literal v => .ok (.found v)
  | .ref reference =>
    match r.lookup? reference with
    | some v => .ok (.found v)
    | none => .ok ⟨.null, true⟩
  | .piped input filters => do applyFilters (← eval r input) filters
  | .not a => do
    let a ← eval r a
    .ok (.found (.bool !a.value.truthy))
  | .and a b => do
    let a ← eval r a
    if a.value.truthy then
      let b ← eval r b
      .ok (.found (.bool b.value.truthy))
    else .ok (.found (.bool false))
  | .or a b => do
    let a ← eval r a
    if a.value.truthy then .ok (.found (.bool true))
    else
      let b ← eval r b
      .ok (.found (.bool b.value.truthy))
  | .compare op a b => do
    let a ← eval r a
    let b ← eval r b
    .ok (.found (.bool (compares op a.value b.value)))
  | .choice value condition fallback => do
    let c ← eval r condition
    if c.value.truthy then eval r value else eval r fallback

/-! ## Texts -/

/-- The value of a placeholder, given the text between its braces. -/
def placeholder (r : Resolver) (inner : List Char) : Except ResolveError Json :=
  let source := Text.trim inner
  let expression := String.ofList source
  match Expr.ofText source with
  | .error e => .error (.invalid expression (.malformed e))
  | .ok expr =>
    match r.eval expr with
    | .error e => .error (.invalid expression (.filter e))
    | .ok e =>
      if !e.missing then .ok e.value
      else if r.strict then .error (.unresolved expression)
      else .ok .null

/-- The text that pieces make once their placeholders are resolved. -/
def splice (r : Resolver) : List Piece → Except ResolveError (List Char)
  | [] => .ok []
  | .char c :: ps => do .ok (c :: (← splice r ps))
  | .placeholder inner :: ps => do
    let v ← r.placeholder inner
    .ok (v.plainText.toList ++ (← splice r ps))

/-- The inner text of the placeholder that is all there is among blanks. -/
def soleInner? (ps : List Piece) : Option (List Char) :=
  match ps.filter fun p => !p.isBlank with
  | [.placeholder inner] => some inner
  | _ => none

def resolveText (r : Resolver) (s : String) : Except ResolveError Json :=
  let ps := Template.pieces s.toList
  match soleInner? ps with
  | some inner => r.placeholder inner
  | none => (r.splice ps).map fun cs => .string (String.ofList cs)

/-! ## Values -/

open Document (Value)

mutual

/-- The JSON value of a document value. Only strings hold placeholders. -/
def resolve (r : Resolver) : Value → Except ResolveError Json
  | .string s => r.resolveText s
  | .list items => do .ok (.array (← resolveItems r items))
  | .map entries => do .ok (.object (← resolveEntries r entries))
  | v => .ok v.toJson

def resolveItems (r : Resolver) : List Value → Except ResolveError (List Json)
  | [] => .ok []
  | v :: vs => do
    let j ← resolve r v
    .ok (j :: (← resolveItems r vs))

def resolveEntries (r : Resolver) :
    List (String × Value) → Except ResolveError (List (String × Json))
  | [] => .ok []
  | (k, v) :: es => do
    let j ← resolve r v
    .ok ((k, j) :: (← resolveEntries r es))

end

end Resolver

end FlowEngine
