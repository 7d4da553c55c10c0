import WebLinking.Text.Basic

/-!
# Blanks

Two classes of blanks are in use. White space is the Unicode property of that name.
Blanks are white space and the four information separators; trimming and cutting
into words go by blanks.
-/

namespace WebLinking.Text

/-- The Unicode property White_Space. -/
def isWhiteSpace (c : Char) : Bool :=
  let n := c.toNat
  (0x09 ≤ n && n ≤ 0x0D) || n == 0x20 || n == 0x85 || n == 0xA0 || n == 0x1680 ||
    (0x2000 ≤ n && n ≤ 0x200A) || n == 0x2028 || n == 0x2029 || n == 0x202F ||
    n == 0x205F || n == 0x3000

/-- White space or one of the information separators U+001C to U+001F. -/
def isBlank (c : Char) : Bool :=
  isWhiteSpace c || (0x1C ≤ c.toNat && c.toNat ≤ 0x1F)

/-- A text without the characters of a class at its two ends. -/
def strip (drop : Char → Bool) (t : Text) : Text :=
  ((t.dropWhile drop).reverse.dropWhile drop).reverse

/-- A text without the blanks at its two ends. -/
def trim (t : Text) : Text := strip isBlank t

/-- A text of blanks only. -/
def isBlankText (t : Text) : Bool := t.all isBlank

/-- The non-empty pieces of a text between its blanks. -/
def words (t : Text) : List Text := (splitWhere isBlank t).filter (!·.isEmpty)

end WebLinking.Text
