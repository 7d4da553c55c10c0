import WebLinking.Link.Basic

/-!
# Link headers

A link header lists links between commas. Each link is a target between angle brackets
and parameters between semicolons; a parameter's value may stand between quotation
marks, where a backslash takes the next character as it is. Delimiters count only
outside of quotation marks and brackets. A relation of several words stands for one link
per word.
-/

namespace WebLinking

namespace Header

/-- Where a scan of a header is. -/
inductive Zone where
  /-- Outside of quotation marks and brackets. -/
  | outside
  /-- Between quotation marks. -/
  | quoted
  /-- Between quotation marks, right after a backslash. -/
  | escaped
  /-- Between angle brackets. -/
  | bracketed
  deriving DecidableEq, Repr

/-- Where a scan is after one more character. -/
def Zone.next : Zone → Char → Zone
  | .outside, c => if c = '"' then .quoted else if c = '<' then .bracketed else .outside
  | .quoted, c => if c = '\\' then .escaped else if c = '"' then .outside else .quoted
  | .escaped, _ => .quoted
  | .bracketed, c => if c = '>' then .outside else .bracketed

/-- Puts a character in front of the first of several pieces. -/
def extend (c : Char) : List Text → List Text
  | [] => [[c]]
  | piece :: more => (c :: piece) :: more

/-- Cuts a text at each delimiter that stands outside of quotation marks and brackets,
starting in a zone. -/
def splitFrom (delimiter : Char) (zone : Zone) : Text → List Text
  | [] => [[]]
  | c :: rest =>
    if zone = .outside && c = delimiter then [] :: splitFrom delimiter .outside rest
    else extend c (splitFrom delimiter (zone.next c) rest)

/-- Cuts a text at each delimiter that stands outside of quotation marks and brackets. -/
def split (delimiter : Char) (t : Text) : List Text := splitFrom delimiter .outside t

/-- Drops the backslash before each character that it takes as it is; a line feed cannot
be taken in this way. -/
def unescape : Text → Text
  | '\\' :: c :: rest => if c = '\n' then '\\' :: c :: unescape rest else c :: unescape rest
  | c :: rest => c :: unescape rest
  | [] => []

/-- The value of a parameter: what stands between quotation marks, or else the text less
the blanks around it. -/
def unquote (t : Text) : Text :=
  let body := t.trim
  if body.length ≥ 2 && body.head? == some '"' && body.getLast? == some '"' then
    unescape (body.drop 1).dropLast
  else body

/-- A backslash before each quotation mark and each backslash. -/
def escapeChar (c : Char) : Text := if c = '\\' || c = '"' then ['\\', c] else [c]

/-- A text between quotation marks. -/
def quote (t : Text) : Text := '"' :: t.flatMap escapeChar ++ ['"']

/-- The target of an element and the text after its bracket. -/
def target? (element : Text) : Option (Text × Text) :=
  match element.dropWhile Text.isBlank with
  | '<' :: rest =>
    if rest.contains '>' then
      let (href, after) := Text.cutAt '>' rest
      some (href, after.dropWhile Text.isBlank)
    else none
  | _ => none

/-- A parameter as its name, in small letters, and its value. -/
def parameter (t : Text) : Text × Text :=
  let (key, value) := Text.cutAt '=' t
  (Text.lower key.trim, unquote value)

/-- The parameters of an element; blank ones are passed over. -/
def parameters (t : Text) : List (Text × Text) :=
  ((split ';' t).filter (!·.isBlankText)).map parameter

end Header

namespace Link

/-- Reads one element of a link header. Of several parameters with one name the first counts;
unknown names are passed over. -/
def ofElement (element : Text) : Except Fault Link := do
  let some (href, after) := Header.target? element
    | throw (.malformedHeader element .noTarget)
  let found := Header.parameters after
  let rel := (found.lookup "rel".toList).getD []
  if rel.isBlankText then throw (.malformedHeader element .noRelation)
  if href.isEmpty then throw (.malformedHeader element .emptyTarget)
  return build href ⟨rel.trim⟩ fun a => found.lookup a.key

/-- A link for each word of the link's relation. -/
def perRelation (l : Link) : List Link := l.rel.value.words.map fun word => { l with rel := ⟨word⟩ }

/-- Reads a link header; blank elements are passed over. -/
def parseHeader (header : Text) : Except Fault (List Link) := do
  let links ← ((Header.split ',' header).filter (!·.isBlankText)).mapM ofElement
  return links.flatMap perRelation

/-- The parts of a link as a header writes them. -/
def headerParts (l : Link) : List Text :=
  ('<' :: l.href ++ ['>']) :: ("rel=".toList ++ Header.quote l.rel.value) ::
    Attribute.all.filterMap fun a =>
      (l.get a).map fun value => a.key ++ '=' :: Header.quote value

/-- A link as an element of a link header. -/
def text (l : Link) : Text := Text.joinWith [';'] l.headerParts

end Link

end WebLinking
