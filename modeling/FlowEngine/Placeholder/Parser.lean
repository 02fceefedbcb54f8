import FlowEngine.Placeholder.Token

/-!
# Parsing placeholder expressions

```text
expr    := or ( "if" or "else" expr )?
or      := and ( "or" and )*
and     := not ( "and" not )*
not     := "not" not | cmp
cmp     := operand ( ("==" | "!=" | ">" | "<" | ">=" | "<=") operand )?
operand := primary ( "|" name ( "(" literal ("," literal)* ")" )? )*
primary := literal | "(" expr ")" | reference
```

Each function answers with what it read and the tokens after it.
-/

namespace FlowEngine

inductive ExprError where
  | token (e : Token.Error)
  | empty
  | trailing (t : Token)
  | missingElse
  | expected (want : Token) (found : Option Token)
  | expectedFilterName (found : Option Token)
  | expectedLiteral (found : Option Token)
  | expectedSegment (found : Option Token)
  | unknownSource (name : String)
  | unexpected (found : Option Token)
deriving DecidableEq, Repr

def ExprError.message : ExprError → String
  | .token e => e.message
  | .empty => "empty placeholder"
  | .trailing t => "unexpected trailing " ++ t.describe
  | .missingElse => "inline conditional is missing 'else'"
  | .expected want (some found) => "expected " ++ want.describe ++ ", found " ++ found.describe
  | .expected want none => "expected " ++ want.describe ++ ", found end of expression"
  | .expectedFilterName found => "expected filter name, found " ++ Token.describe? found
  | .expectedLiteral found => "expected a literal, found " ++ Token.describe? found
  | .expectedSegment found => "expected a path segment, found " ++ Token.describe? found
  | .unknownSource name => "unknown source '." ++ name ++ "'"
  | .unexpected found => "unexpected " ++ Token.describe? found

namespace Expr

/-! ## Literals and references -/

/-- The literal that a token writes. -/
def literalOf? : Token → Option Json
  | .text s => some (.string s)
  | .number n => some (.number n)
  | .ident "true" => some (.bool true)
  | .ident "false" => some (.bool false)
  | .ident "null" => some .null
  | .ident "none" => some .null
  | _ => none

def parseLiteral (ts : List Token) : Except ExprError (Json × List Token) :=
  match ts with
  | [] => .error (.expectedLiteral none)
  | t :: r =>
    match literalOf? t with
    | some v => .ok (v, r)
    | none => .error (.expectedLiteral (some t))

/-- Segments, each after its dot. -/
def parsePath : List Token → Except ExprError (List String × List Token)
  | .dot :: .segment s :: r => (parsePath r).map fun (path, r) => (s :: path, r)
  | .dot :: r => .error (.expectedSegment r.head?)
  | r => .ok ([], r)

/-- The source that a name after a leading dot stands for, in any case. -/
def sourceOf? (name : String) : Option Source :=
  match String.ofList (name.toList.map Char.toLower) with
  | "parameter" | "parameters" | "param" => some .parameter
  | "request" => some .request
  | "env" => some .env
  | _ => none

/-- A reference, the tokens of which start with a dot. -/
def parseSourced (ts : List Token) : Except ExprError (Expr × List Token) := do
  let (path, r) ← parsePath ts
  match path with
  | [] => .error (.unexpected ts.head?)
  | name :: path =>
    match sourceOf? name with
    | some source => .ok (.ref ⟨source, path⟩, r)
    | none => .error (.unknownSource name)

/-! ## Filters -/

/-- The literals after the first of an argument list, and its end. -/
def parseMoreArgs : List Token → Except ExprError (List Json × List Token)
  | .comma :: t :: r =>
    match literalOf? t with
    | none => .error (.expectedLiteral (some t))
    | some v => (parseMoreArgs r).map fun (vs, r) => (v :: vs, r)
  | [.comma] => .error (.expectedLiteral none)
  | .closeParen :: r => .ok ([], r)
  | ts => .error (.expected .closeParen ts.head?)

/-- The arguments of a filter, if there are any. -/
def parseArgs : List Token → Except ExprError (List Json × List Token)
  | .openParen :: .closeParen :: r => .ok ([], r)
  | .openParen :: r => do
    let (v, r) ← parseLiteral r
    let (vs, r) ← parseMoreArgs r
    .ok (v :: vs, r)
  | r => .ok ([], r)

/-- The filters of an operand. The fuel is at least the count of tokens. -/
def parseFilters : Nat → List Token → Except ExprError (List FilterCall × List Token)
  | 0, ts => .ok ([], ts)
  | fuel + 1, .pipe :: r =>
    match r with
    | .ident name :: r => do
      let (args, r) ← parseArgs r
      let (calls, r) ← parseFilters fuel r
      .ok (⟨name, args⟩ :: calls, r)
    | r => .error (.expectedFilterName r.head?)
  | _, ts => .ok ([], ts)

/-! ## Expressions

The fuel pays for one call each; eight for every token are enough. -/

mutual

def parseExpr : Nat → List Token → Except ExprError (Expr × List Token)
  | 0, ts => .error (.unexpected ts.head?)
  | fuel + 1, ts => do
    let (value, r) ← parseOr fuel ts
    match r with
    | .ident "if" :: r => do
      let (condition, r) ← parseOr fuel r
      match r with
      | .ident "else" :: r => do
        let (fallback, r) ← parseExpr fuel r
        .ok (.choice value condition fallback, r)
      | _ => .error .missingElse
    | r => .ok (value, r)

def parseOr : Nat → List Token → Except ExprError (Expr × List Token)
  | 0, ts => .error (.unexpected ts.head?)
  | fuel + 1, ts => do
    let (left, r) ← parseAnd fuel ts
    parseOrTail fuel left r

def parseOrTail : Nat → Expr → List Token → Except ExprError (Expr × List Token)
  | 0, _, ts => .error (.unexpected ts.head?)
  | fuel + 1, left, ts =>
    match ts with
    | .ident "or" :: r => do
      let (right, r) ← parseAnd fuel r
      parseOrTail fuel (.or left right) r
    | r => .ok (left, r)

def parseAnd : Nat → List Token → Except ExprError (Expr × List Token)
  | 0, ts => .error (.unexpected ts.head?)
  | fuel + 1, ts => do
    let (left, r) ← parseNot fuel ts
    parseAndTail fuel left r

def parseAndTail : Nat → Expr → List Token → Except ExprError (Expr × List Token)
  | 0, _, ts => .error (.unexpected ts.head?)
  | fuel + 1, left, ts =>
    match ts with
    | .ident "and" :: r => do
      let (right, r) ← parseNot fuel r
      parseAndTail fuel (.and left right) r
    | r => .ok (left, r)

def parseNot : Nat → List Token → Except ExprError (Expr × List Token)
  | 0, ts => .error (.unexpected ts.head?)
  | fuel + 1, ts =>
    match ts with
    | .ident "not" :: r => do
      let (a, r) ← parseNot fuel r
      .ok (.not a, r)
    | ts => parseComparison fuel ts

def parseComparison : Nat → List Token → Except ExprError (Expr × List Token)
  | 0, ts => .error (.unexpected ts.head?)
  | fuel + 1, ts => do
    let (left, r) ← parseOperand fuel ts
    match r with
    | .comparison op :: r => do
      let (right, r) ← parseOperand fuel r
      .ok (.compare op left right, r)
    | r => .ok (left, r)

def parseOperand : Nat → List Token → Except ExprError (Expr × List Token)
  | 0, ts => .error (.unexpected ts.head?)
  | fuel + 1, ts => do
    let (primary, r) ← parsePrimary fuel ts
    let (filters, r) ← parseFilters r.length r
    match filters with
    | [] => .ok (primary, r)
    | filters => .ok (.piped primary filters, r)

def parsePrimary : Nat → List Token → Except ExprError (Expr × List Token)
  | 0, ts => .error (.unexpected ts.head?)
  | _, [] => .error (.unexpected none)
  | fuel + 1, t :: r =>
    match literalOf? t with
    | some v => .ok (.literal v, r)
    | none =>
      match t with
      | .openParen => do
        let (inner, r) ← parseExpr fuel r
        match r with
        | .closeParen :: r => .ok (inner, r)
        | r => .error (.expected .closeParen r.head?)
      | .storageKey key => .ok (.ref ⟨.storage key, []⟩, r)
      | .dot => parseSourced (t :: r)
      | .ident id => (parsePath r).map fun (path, r) => (.ref ⟨.node id, path⟩, r)
      | _ => .error (.unexpected (some t))

end

/-- The expression that a whole row of tokens writes. -/
def ofTokens (ts : List Token) : Except ExprError Expr := do
  if ts.isEmpty then .error .empty
  let (e, r) ← parseExpr (8 * ts.length + 8) ts
  match r with
  | [] => .ok e
  | t :: _ => .error (.trailing t)

/-- The expression that the inner text of a placeholder writes. -/
def ofText (cs : List Char) : Except ExprError Expr :=
  match tokenize cs with
  | .ok ts => ofTokens ts
  | .error e => .error (.token e)

end Expr

end FlowEngine
