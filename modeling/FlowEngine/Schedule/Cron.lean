import FlowEngine.Number.Decimal

/-!
# Cron expressions

Six or seven fields, from seconds to years, or a shorthand such as `@daily`. A
field is a list of points, ranges and periods:

```text
ordinal   := ws digit+ ws               name := ws letter+ ws
specifier := "*" | ordinal "-" ordinal | ordinal | name "-" name
period    := specifier "/" ordinal
root      := period | specifier | name
field     := ws root ("," root)* ws
```

The first alternative that matches is taken for good, and nothing but these
blanks separates one field from the next.
-/

namespace FlowEngine.Cron

/-! ## Texts -/

def isBlank (c : Char) : Bool := c == ' ' || c == '\t' || c == '\r' || c == '\n'

def skipBlanks (cs : List Char) : List Char := cs.dropWhile isBlank

inductive Specifier where
  | all
  | point (n : Nat)
  | range (first last : Nat)
  | namedRange (first last : String)
deriving DecidableEq, Repr

inductive Root where
  | plain (s : Specifier)
  | period (s : Specifier) (step : Nat)
  | named (name : String)
deriving DecidableEq, Repr

/-- A number of 32 bits between blanks. -/
def ordinal? (cs : List Char) : Option (Nat × List Char) :=
  let cs := skipBlanks cs
  let ds := cs.takeWhile Char.isDigit
  if ds.isEmpty || nat32End ≤ digitsValue ds then none
  else some (digitsValue ds, skipBlanks (cs.dropWhile Char.isDigit))

/-- A word between blanks. -/
def name? (cs : List Char) : Option (String × List Char) :=
  let cs := skipBlanks cs
  let w := cs.takeWhile Char.isAlpha
  if w.isEmpty then none else some (String.ofList w, skipBlanks (cs.dropWhile Char.isAlpha))

/-- What follows a given character. -/
def after? (c : Char) : List Char → Option (List Char)
  | d :: r => if c = d then some r else none
  | [] => none

/-- Two of a kind with a dash between them. -/
def pair? (item : List Char → Option (α × List Char)) (cs : List Char) :
    Option ((α × α) × List Char) := do
  let (a, r) ← item cs
  let r ← after? '-' r
  let (b, r) ← item r
  some ((a, b), r)

/-- A star, where `anyMark` says whether a question mark may stand for it. -/
def all? (anyMark : Bool) (cs : List Char) : Option (Specifier × List Char) :=
  match cs with
  | '*' :: r => some (.all, r)
  | '?' :: r => if anyMark then some (.all, r) else none
  | _ => none

def specifier? (anyMark : Bool) (cs : List Char) : Option (Specifier × List Char) :=
  (all? anyMark cs)
    <|> ((pair? ordinal? cs).map fun ((a, b), r) => (.range a b, r))
    <|> ((ordinal? cs).map fun (n, r) => (.point n, r))
    <|> ((pair? name? cs).map fun ((a, b), r) => (.namedRange a b, r))

def period? (anyMark : Bool) (cs : List Char) : Option (Root × List Char) := do
  let (s, r) ← specifier? anyMark cs
  let r ← after? '/' r
  let (step, r) ← ordinal? r
  some (.period s step, r)

def root? (anyMark : Bool) (cs : List Char) : Option (Root × List Char) :=
  (period? anyMark cs)
    <|> ((specifier? anyMark cs).map fun (s, r) => (.plain s, r))
    <|> ((name? cs).map fun (n, r) => (.named n, r))

/-- The roots after the first; a comma that no root follows is left unread. The
fuel is at least the length of the text. -/
def moreRoots (anyMark : Bool) : Nat → List Char → List Root × List Char
  | 0, cs => ([], cs)
  | fuel + 1, cs =>
    match (after? ',' cs).bind (root? anyMark) with
    | none => ([], cs)
    | some (root, r) =>
      let (roots, r) := moreRoots anyMark fuel r
      (root :: roots, r)

/-! ## Fields -/

/-- The values of a field and the names that some of them have. -/
structure Field where
  first : Nat
  last : Nat
  names : List (String × Nat)
  anyMark : Bool

def monthNames : List (String × Nat) :=
  [("jan", 1), ("january", 1), ("feb", 2), ("february", 2), ("mar", 3), ("march", 3), ("apr", 4),
    ("april", 4), ("may", 5), ("jun", 6), ("june", 6), ("jul", 7), ("july", 7), ("aug", 8),
    ("august", 8), ("sep", 9), ("september", 9), ("oct", 10), ("october", 10), ("nov", 11),
    ("november", 11), ("dec", 12), ("december", 12)]

def dayNames : List (String × Nat) :=
  [("sun", 1), ("sunday", 1), ("mon", 2), ("monday", 2), ("tue", 3), ("tues", 3), ("tuesday", 3),
    ("wed", 4), ("wednesday", 4), ("thu", 5), ("thurs", 5), ("thursday", 5), ("fri", 6),
    ("friday", 6), ("sat", 7), ("saturday", 7)]

def seconds : Field := ⟨0, 59, [], false⟩
def minutes : Field := ⟨0, 59, [], false⟩
def hours : Field := ⟨0, 23, [], false⟩
def daysOfMonth : Field := ⟨1, 31, [], true⟩
def months : Field := ⟨1, 12, monthNames, false⟩
def daysOfWeek : Field := ⟨1, 7, dayNames, true⟩
def years : Field := ⟨1970, 2100, [], false⟩

namespace Field

def holds (f : Field) (n : Nat) : Bool := f.first ≤ n && n ≤ f.last

/-- The value that a name stands for, in any case. -/
def named? (f : Field) (name : String) : Option Nat :=
  f.names.lookup (String.ofList (name.toList.map Char.toLower))

def acceptsSpecifier (f : Field) : Specifier → Bool
  | .all => true
  | .point n => f.holds n
  | .range a b => f.holds a && f.holds b && a ≤ b
  | .namedRange a b =>
    match f.named? a, f.named? b with
    | some a, some b => a ≤ b
    | _, _ => false

def accepts (f : Field) : Root → Bool
  | .plain s => f.acceptsSpecifier s
  | .period s step => f.acceptsSpecifier s && 1 ≤ step && step ≤ f.last
  | .named name => (f.named? name).isSome

/-- Read the field off the front of a text, if the text gives it valid values. -/
def read? (f : Field) (cs : List Char) : Option (List Char) := do
  let (root, r) ← root? f.anyMark (skipBlanks cs)
  let (roots, r) := moreRoots f.anyMark r.length r
  if (root :: roots).all f.accepts then some (skipBlanks r) else none

end Field

/-! ## Expressions -/

def shorthands : List String := ["@yearly", "@monthly", "@weekly", "@daily", "@hourly"]

/-- Whether the text is a shorthand between blanks. -/
def isShorthand (cs : List Char) : Bool :=
  let cs := skipBlanks cs
  shorthands.any fun s =>
    s.toList.isPrefixOf cs && (skipBlanks (cs.drop s.toList.length)).isEmpty

/-- The fields that every expression has. -/
def requiredFields : List Field := [seconds, minutes, hours, daysOfMonth, months, daysOfWeek]

def isLonghand (cs : List Char) : Bool :=
  match requiredFields.foldlM (fun r (f : Field) => f.read? r) cs with
  | none => false
  | some r => r.isEmpty || years.read? r == some []

/-- Whether a text is a cron expression. -/
def isValid (s : String) : Bool := isShorthand s.toList || isLonghand s.toList

end FlowEngine.Cron
