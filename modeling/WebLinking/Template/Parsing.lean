import WebLinking.Template.Basic

/-!
# Reading templates

A template is read character by character. The scan is either in a literal or in an
expression; a closing brace ends the expression, whose parts are then read, so the first
fault of a text from left to right is the one that is reported. A brace inside an
expression is remembered until the expression ends: only then is it known to be nested
rather than part of an expression that never ends.
-/

namespace WebLinking

/-- Why reading stops. -/
inductive ReadError where
  /-- The text is malformed at a position. -/
  | malformed (flaw : TemplateFlaw) (position : Nat)
  /-- A variable has a name outside the grammar. -/
  | badName (name : Text)
  deriving DecidableEq, Repr

/-- The fault that is reported for a pattern. -/
def ReadError.toFault (pattern : Text) : ReadError → Fault
  | .malformed flaw position => .malformedTemplate pattern flaw position
  | .badName name => .invalidName name

/-- A name and its modifier as an expression writes them. -/
structure Varspec where
  /-- What stands before the modifier. -/
  name : Text
  /-- An explode mark is written. -/
  explode : Bool
  /-- The prefix length that is written. -/
  maxLength : Option Nat
  deriving DecidableEq, Repr

namespace Varspec

/-- Reads the number after a colon: 1 to 9999 without leading zeros. -/
def prefixLength? : Text → Option Nat
  | [] => none
  | c :: rest =>
    if c.isDigit && c != '0' && rest.all Char.isDigit && rest.length ≤ 3 then
      Decimal.digitsFrom 0 (c :: rest)
    else none

/-- Reads a name and its modifier. Only the number after a colon can be wrong. -/
def read? (t : Text) : Option Varspec :=
  if t.getLast? = some '*' then some ⟨t.dropLast, true, none⟩
  else if t.contains ':' then
    let (name, length) := Text.cutAt ':' t
    (prefixLength? length).map fun n => ⟨name, false, some n⟩
  else some ⟨t, false, none⟩

/-- The variable that a name and its modifier stand for under an operator. -/
def toVariable (spec : Varspec) (operator : Operator) : Variable :=
  let kind := VariableKind.ofOperator operator spec.explode
  { name := spec.name, kind, explode := spec.explode && !kind.isExploded,
    maxLength := spec.maxLength }

end Varspec

namespace Group

/-- Reads one variable of an expression whose opening brace stands at `position`. -/
def readVariable (operator : Operator) (expression : Text) (position : Nat) (t : Text) :
    Except ReadError Variable :=
  match Varspec.read? t with
  | none => .error (.malformed (.badPrefix t) position)
  | some spec =>
    if spec.name.isEmpty then .error (.malformed (.emptyName expression) position)
    else if Variable.isName spec.name then .ok (spec.toVariable operator)
    else .error (.badName spec.name)

/-- The operator of an expression and what follows it. -/
def splitOperator (symbol : Char) (rest : Text) : Operator × Text :=
  match Operator.ofKey? [symbol] with
  | some operator => (operator, rest)
  | none => (.simple, symbol :: rest)

/-- Reads what stands between the braces of an expression whose opening brace stands at
`position`. -/
def read (position : Nat) : (expression : Text) → Except ReadError Group
  | [] => .error (.malformed .emptyExpression position)
  | symbol :: rest =>
    if Operator.futureSymbols.contains symbol then
      .error (.malformed (.reservedOperator symbol) (position + 1))
    else
      let (operator, body) := splitOperator symbol rest
      if body.isEmpty then .error (.malformed .noVariables position)
      else do
        let vars ← (Text.splitOn ',' body).mapM
          (readVariable operator (symbol :: rest) position)
        return { operator, vars }

end Group

/-- Where a scan is. -/
inductive ScanMode where
  /-- In a literal, whose characters so far are `seen`, the last one first. -/
  | literal (seen : Text)
  /-- In an expression whose brace stands at `start`, after `seen` in reverse; `nested` is the first
  brace inside it. -/
  | expression (start : Nat) (seen : Text) (nested : Option Nat)
  deriving DecidableEq, Repr

/-- What a scan has read. -/
structure Scan where
  /-- The number of characters read. -/
  position : Nat := 0
  /-- The segments that are complete. -/
  segments : List Segment := []
  /-- Where the scan is. -/
  mode : ScanMode := .literal []
  deriving DecidableEq, Repr

namespace Scan

/-- The segments with a literal after them, unless the literal is empty. -/
def withLiteral (segments : List Segment) (seen : Text) : List Segment :=
  if seen.isEmpty then segments else segments ++ [.literal seen.reverse]

/-- Reads one character. -/
def step (scan : Scan) (c : Char) : Except ReadError Scan :=
  let next := scan.position + 1
  match scan.mode with
  | .literal seen =>
    if c = '{' then
      .ok ⟨next, withLiteral scan.segments seen, .expression scan.position [] none⟩
    else if c = '}' then .error (.malformed .unmatchedClose scan.position)
    else .ok ⟨next, scan.segments, .literal (c :: seen)⟩
  | .expression start seen nested =>
    if c = '}' then
      match nested with
      | some place => .error (.malformed .nestedOpen place)
      | none => do
        let g ← Group.read start seen.reverse
        return ⟨next, scan.segments ++ [.group g], .literal []⟩
    else if c = '{' then
      .ok ⟨next, scan.segments, .expression start (c :: seen) (nested <|> some scan.position)⟩
    else .ok ⟨next, scan.segments, .expression start (c :: seen) nested⟩

/-- Reads a text on from where the scan is. -/
def run (scan : Scan) (t : Text) : Except ReadError Scan := t.foldlM step scan

/-- Ends a scan: no expression may be open. -/
def finish (scan : Scan) : Except ReadError Template :=
  match scan.mode with
  | .literal seen => .ok ⟨withLiteral scan.segments seen⟩
  | .expression start _ _ => .error (.malformed .unclosedOpen start)

end Scan

namespace Template

/-- Reads a pattern, or says why reading stops. -/
def read (pattern : Text) : Except ReadError Template := do
  let scan ← Scan.run {} pattern
  scan.finish

/-- Reads a pattern. -/
def parse (pattern : Text) : Except Fault Template :=
  (read pattern).mapError (ReadError.toFault pattern)

end Template

end WebLinking
