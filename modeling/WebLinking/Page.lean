import WebLinking.Checked

/-!
# Pages

The place of a page within a result: its size, its number counted from zero and, where
they are known, the counts of elements and of pages. The count of pages follows from the
other two numbers and may be left out; a count that disagrees with them is refused.
-/

namespace WebLinking

/-- The number of pages of a size that a number of elements fills; none of size zero. -/
def pageCount (total size : Int) : Int :=
  if size = 0 then 0 else -Int.fdiv (-total) size

/-- The place of a page within a result. -/
structure Page where
  /-- How many elements a page holds. -/
  size : Nat
  /-- The number of the page, counted from zero. -/
  number : Nat
  /-- How many elements there are, unless that is unknown. -/
  totalElements : Option Nat := none
  /-- How many pages there are, unless that is unknown. -/
  totalPages : Option Nat := none
  deriving DecidableEq, Repr

namespace Page

/-- The integer that a literal stands for; a literal that cannot be read breaks a rule. -/
def integerOfLiteral (t : Text) (unreadable : Rule) : Checked Int :=
  match Decimal.ofLiteral t with
  | .value i => .sound i
  | .unreadable => .refuse (.broken unreadable)
  | .tooLong digits => .refuse (.broken (.longLiteral digits))

/-- The integer in a string of octets, of which only those of the Latin basis can be part
of a literal. -/
def integerOfOctets (content : Text) : Checked Int :=
  integerOfLiteral (content.map fun c => if c.toNat < 0x80 then c else '?')
    (.unreadableOctets (content.flatMap String.utf8EncodeChar))

/-- The integer that a value amounts to. Fractions are dropped; a text that is no literal breaks a
rule. -/
def integerOf : Value → Except Fault (Checked Int)
  | .scalar (.bool b) => .ok (.sound (if b then 1 else 0))
  | .scalar (.int i) => .ok (.sound i)
  | .scalar (.float (.finite negative significand exponent)) =>
    .ok (.sound (Binary64.truncated negative significand exponent))
  | .scalar (.float .nan) => .ok (.refuse (.broken .undefinedInteger))
  | .scalar (.float (.infinite _)) => .error .infiniteInteger
  | .scalar (.text t) => .ok (integerOfLiteral t (.unreadableLiteral t))
  | .unordered (.bytes content) | .unordered (.byteBuffer content) => .ok (integerOfOctets content)
  | value => .error (.notNumeric value.typeName)

/-- A field that is given and not absent. -/
def present? (fields : Fields) (name : String) : Option Value :=
  match fields.get? name.toList with
  | some .null => none
  | given => given

/-- The count of pages to be checked: the one that is given, or else the one that follows from the
other numbers. -/
def pagesField (fields : Fields) : Except Fault (Checked (Option Value)) :=
  let given := fields.get? "total_pages".toList
  match present? fields "total_pages", present? fields "total_elements", present? fields "size" with
  | none, some elements, some size => do
    match ← integerOf size with
    | .flawed failures => return .flawed failures
    | .halted fault => return .halted fault
    | .sound size =>
      match ← integerOf elements with
      | .flawed failures => return .flawed failures
      | .halted fault => return .halted fault
      | .sound elements =>
        if 0 ≤ size && 0 ≤ elements then return .sound (some (.int (pageCount elements size)))
        else return .sound given
  | _, _, _ => return .sound given

/-- Compares the count of pages with the other numbers. -/
def consistent (page : Page) : Checked Page :=
  match page.totalPages, page.totalElements with
  | none, _ => .sound page
  | some _, none => .refuse (.broken .pagesWithoutElements)
  | some pages, some elements =>
    let expected := pageCount elements page.size
    if (pages : Int) = expected then .sound page
    else .refuse (.broken (.inconsistentPages pages elements page.size expected))

/-- Checks each number of a page. -/
def checkNumbers (fields : Fields) (pages : Option Value) : Checked Page :=
  let natural (name : String) :=
    (Checked.required Value.asNatural (fields.get? name.toList)).inField name
  let count (name : String) (given : Option Value) :=
    (Checked.optional Value.asNatural given).inField name
  Page.mk <$> natural "size" <*> natural "number" <*>
    count "total_elements" (fields.get? "total_elements".toList) <*> count "total_pages" pages

/-- Checks the fields of a page: first what the count of pages is, then each number, and
at last whether the numbers agree. -/
def check (fields : Fields) : Except Fault (Checked Page) := do
  let pages ← pagesField fields
  return (pages.andThen (checkNumbers fields)).andThen consistent

/-- The page that fields describe. -/
def ofFields (fields : Fields) : Except Fault Page := do (← check fields).settle

/-- A page of a result whose counts are unknown. -/
def forSlice (size number : Value) : Except Fault Page :=
  ofFields [(.text "size".toList, size), (.text "number".toList, number)]

/-- There is a page before this one. -/
def hasPrevious (page : Page) : Bool := 0 < page.number

/-- Whether there is a page after this one, if the count of pages is known. -/
def hasNext (page : Page) : Option Bool := page.totalPages.map fun pages => page.number + 1 < pages

/-- The page comes with a count of elements or of pages. -/
def isCounted (page : Page) : Bool := page.totalElements.isSome || page.totalPages.isSome

/-- The fields that describe a page. -/
def fields (page : Page) : Fields := [
  (.text "size".toList, .nat page.size),
  (.text "number".toList, .nat page.number),
  (.text "total_elements".toList, .ofNat? page.totalElements),
  (.text "total_pages".toList, .ofNat? page.totalPages)]

/-- The page as a record of values. -/
def toValue (page : Page) : Value := .mapping page.fields

end Page

end WebLinking
