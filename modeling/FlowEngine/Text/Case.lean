import FlowEngine.Text.Basic
import FlowEngine.Text.CaseTable

/-!
# Upper and lower case

Every character maps on its own, to one or more characters, except the capital
sigma: its small form at the end of a word differs from the one elsewhere.
-/

namespace FlowEngine.Text

/-- The run that a code point falls in, between the indices `low` and `high`. -/
def searchRuns (runs : Array CaseRun) (point : Nat) : Nat → Nat → Nat → Option CaseRun
  | 0, _, _ => none
  | fuel + 1, low, high =>
    if low < high then
      let mid := (low + high) / 2
      match runs[mid]? with
      | none => none
      | some r =>
        if point < r.low then searchRuns runs point fuel low mid
        else if r.high < point then searchRuns runs point fuel (mid + 1) high
        else some r
    else none

/-- Map a character by the tables of one direction. -/
def mapCase (special : Array (Nat × List Nat)) (runs : Array CaseRun) (c : Char) : List Char :=
  match special.find? (·.1 == c.toNat) with
  | some (_, points) => points.map Char.ofNat
  | none =>
    match searchRuns runs c.toNat (runs.size + 1) 0 runs.size with
    | some r =>
      if (c.toNat - r.low) % r.stride == 0 then [Char.ofNat (r.target + (c.toNat - r.low))]
      else [c]
    | none => [c]

def upperChar (c : Char) : List Char :=
  if isAscii c then [c.toUpper] else mapCase upperSpecial upperRuns c

def lowerChar (c : Char) : List Char :=
  if isAscii c then [c.toLower] else mapCase lowerSpecial lowerRuns c

def isCased (c : Char) : Bool :=
  if isAscii c then c.isAlpha else inRanges casedRanges c

def isCaseIgnorable (c : Char) : Bool :=
  if isAscii c then ['\'', '.', ':', '^', (Char.ofNat 0x60)].contains c
  else inRanges caseIgnorableRanges c

/-- Whether a cased character comes next, once ignorable ones are passed over. -/
def meetsCased (cs : List Char) : Bool :=
  match cs.dropWhile isCaseIgnorable with
  | [] => false
  | c :: _ => isCased c

def upper (cs : List Char) : List Char := cs.flatMap upperChar

/-- The lower case of a text whose preceding characters are given, last first. -/
def lowerAfter (before : List Char) : List Char → List Char
  | [] => []
  | c :: cs =>
    let mapped :=
      if c = 'Σ' then [if meetsCased before && !meetsCased cs then 'ς' else 'σ'] else lowerChar c
    mapped ++ lowerAfter (c :: before) cs

def lower (cs : List Char) : List Char := lowerAfter [] cs

end FlowEngine.Text
