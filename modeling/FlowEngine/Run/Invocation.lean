import FlowEngine.Json.Reader
import FlowEngine.Placeholder.Environment

/-!
# Invocations

What the caller of a run passes in. An invocation is an object with the members
`parameters`, `request` and `environment`, or an array of these three in order;
what is left out is empty.
-/

namespace FlowEngine

structure Invocation where
  parameters : Entries Json
  request : Json
  environment : Environment

namespace Invocation

def empty : Invocation := ⟨[], .null, []⟩

def textMember? : String × Json → Option (String × String)
  | (k, .string s) => some (k, s)
  | _ => none

/-- One of the three parts, by its name. -/
def setPart? (i : Invocation) (name : String) (value : Json) : Option Invocation :=
  match name, value with
  | "parameters", .object members => some { i with parameters := members }
  | "parameters", _ => none
  | "request", value => some { i with request := value }
  | "environment", .object members =>
    (members.mapM textMember?).map fun env => { i with environment := env }
  | "environment", _ => none
  | _, _ => some i

/-- The parts in the order in which an array gives them. -/
def partNames : List String := ["parameters", "request", "environment"]

def ofParts? (parts : List (String × Json)) : Option Invocation :=
  parts.foldlM (fun i p => i.setPart? p.1 p.2) empty

/-- The invocation that a JSON value stands for. -/
def ofJson? : Json → Option Invocation
  | .object members => ofParts? members
  | .array items => if items.length ≤ partNames.length then ofParts? (partNames.zip items) else none
  | _ => none

/-! ## From text

In a text, no part may be given twice, and the content of other members does not
matter. Every member of the environment has to be a text, also one that a later
member of its name replaces. -/

/-- An environment at the front of a text. -/
def readEnvironment? (cs : List Char) : Option (Json × List Char) :=
  match Json.skipBlanks cs with
  | '{' :: r =>
    match Json.skipBlanks r with
    | '}' :: r => some (.object [], r)
    | r => do
      let (members, r) ← Json.readMembers? true (2 * r.length + 2) (Json.maxDepth - 2) r
      let env ← members.mapM textMember?
      some (.object (Entries.ofList (env.map fun v => (v.1, .string v.2))), r)
  | _ => none

/-- What a member of an invocation holds, by its name. -/
def readMember? (name : String) (cs : List Char) : Option (Json × List Char) :=
  if name == "environment" then readEnvironment? cs
  else Json.readValue? (partNames.contains name) (2 * cs.length + 2) (Json.maxDepth - 1) cs

/-- The members of an object after its opening brace, and the text after it. The
fuel is at least the length of the text. -/
def readMembers? : Nat → List Char → Option (List (String × Json) × List Char)
  | 0, _ => none
  | fuel + 1, cs =>
    match Json.skipBlanks cs with
    | '"' :: r => do
      let (key, r) ← Json.readString? true (r.length + 1) r
      let key := String.ofList key
      match Json.skipBlanks r with
      | ':' :: r => do
        let (value, r) ← readMember? key r
        match Json.skipBlanks r with
        | ',' :: r => do
          let (members, r) ← readMembers? fuel r
          some ((key, value) :: members, r)
        | '}' :: r => some ([(key, value)], r)
        | _ => none
      | _ => none
    | _ => none

/-- The items of an array after its opening bracket, as the parts of the given names,
and the text after it. -/
def readItems? : List String → List Char → Option (List (String × Json) × List Char)
  | [], _ => none
  | name :: names, cs => do
    let (value, r) ← readMember? name cs
    match Json.skipBlanks r with
    | ',' :: r => do
      let (parts, r) ← readItems? names r
      some ((name, value) :: parts, r)
    | ']' :: r => some ([(name, value)], r)
    | _ => none

/-- The parts that a text gives, in its order, and what follows. -/
def readParts? (cs : List Char) : Option (List (String × Json) × List Char) :=
  match Json.skipBlanks cs with
  | '{' :: r =>
    match Json.skipBlanks r with
    | '}' :: r => some ([], r)
    | r => readMembers? (r.length + 1) r
  | '[' :: r =>
    match Json.skipBlanks r with
    | ']' :: r => some ([], r)
    | r => readItems? partNames r
  | _ => none

/-- Whether no part is given twice. -/
def partsOnce (members : List (String × Json)) : Bool :=
  partNames.all fun name => (members.filter (·.1 == name)).length ≤ 1

/-- The invocation that a text stands for. -/
def ofText? (s : String) : Option Invocation := do
  let (parts, r) ← readParts? s.toList
  if partsOnce parts && (Json.skipBlanks r).isEmpty then ofParts? parts else none

end Invocation

end FlowEngine
