import WebLinking.Text.Basic

/-!
# Percent-encoding

Characters outside an allowed set are written as the triplets of their UTF-8 octets.
The unreserved set serves for data, which is encoded in full. Reserved expansion lets
the delimiters of a URI pass and keeps the triplets that a text already has. The octets
of a text are what all its spellings have in common.
-/

namespace WebLinking.Percent

/-- The characters that stand for themselves in any part of a URI. -/
def isUnreserved (c : Char) : Bool :=
  c.isAlphanum || c == '-' || c == '.' || c == '_' || c == '~'

/-- The delimiters of a URI and of its parts. -/
def isReserved (c : Char) : Bool := ":/?#[]@!$&\x27()*+,;=".toList.contains c

/-- The characters that reserved expansion lets pass. -/
def isPlain (c : Char) : Bool := isUnreserved c || isReserved c

/-- One octet as a triplet with capital digits. -/
def triplet (octet : UInt8) : Text :=
  ['%', Text.hexDigit 'A' (octet.toNat / 16), Text.hexDigit 'A' (octet.toNat % 16)]

/-- One character: itself if it is allowed, else its octets as triplets. -/
def encodeChar (allowed : Char → Bool) (c : Char) : Text :=
  if allowed c then [c] else (String.utf8EncodeChar c).flatMap triplet

/-- Encodes everything outside the unreserved set. -/
def encodeUnreserved (t : Text) : Text := t.flatMap (encodeChar isUnreserved)

/-- Encodes everything outside the unreserved and reserved sets, except that a percent
sign with two hexadecimal digits after it is kept with them. -/
def encodeReserved : Text → Text
  | '%' :: a :: b :: rest =>
    if Text.isHexDigit a && Text.isHexDigit b then '%' :: a :: b :: encodeReserved rest
    else encodeChar isPlain '%' ++ encodeReserved (a :: b :: rest)
  | c :: rest => encodeChar isPlain c ++ encodeReserved rest
  | [] => []

/-- The value of a hexadecimal digit. -/
def hexValue (c : Char) : Nat :=
  if c.isDigit then c.toNat - '0'.toNat
  else if 'a' ≤ c then c.toNat - 'a'.toNat + 10
  else c.toNat - 'A'.toNat + 10

/-- The octets that a text stands for: a triplet stands for its octet, any other
character for its UTF-8 octets. -/
def octets : Text → List UInt8
  | '%' :: a :: b :: rest =>
    if Text.isHexDigit a && Text.isHexDigit b then
      UInt8.ofNat (16 * hexValue a + hexValue b) :: octets rest
    else String.utf8EncodeChar '%' ++ octets (a :: b :: rest)
  | c :: rest => String.utf8EncodeChar c ++ octets rest
  | [] => []

/-- The text whose UTF-8 octets a percent-encoded text stands for. -/
def decode? (t : Text) : Option Text :=
  (ByteArray.utf8Decode? ⟨(octets t).toArray⟩).map Array.toList

end WebLinking.Percent
