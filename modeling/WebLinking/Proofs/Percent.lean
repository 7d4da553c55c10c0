import WebLinking.Percent
import WebLinking.Proofs.Text.Splitting
import WebLinking.Template.Operator

/-!
# Encoded texts

Encoding writes something for every character, so that only the empty text is encoded as
the empty text. What it writes are allowed characters and whole triplets, and data that is
encoded in full is recovered from its octets.
-/

namespace WebLinking

namespace Percent

/-- Every character is written as something. -/
theorem encodeChar_ne_nil (allowed : Char → Bool) (c : Char) : encodeChar allowed c ≠ [] := by
  unfold encodeChar
  split
  · exact List.cons_ne_nil c []
  · have hne : String.utf8EncodeChar c ≠ [] := String.utf8EncodeChar_ne_nil
    obtain ⟨octet, rest, hoctets⟩ := List.exists_cons_of_ne_nil hne
    simp [hoctets, triplet]

/-- Only the empty text has an empty full encoding. -/
theorem encodeUnreserved_eq_nil_iff {t : Text} : encodeUnreserved t = [] ↔ t = [] := by
  cases t with
  | nil => simp [encodeUnreserved]
  | cons c rest => simp [encodeUnreserved, encodeChar_ne_nil]

/-- A text of characters that stand for themselves is not changed. -/
theorem encodeUnreserved_eq_self {t : Text} (h : ∀ c ∈ t, isUnreserved c = true) :
    encodeUnreserved t = t := by
  induction t with
  | nil => rfl
  | cons c rest ih =>
    obtain ⟨hc, hrest⟩ := List.forall_mem_cons.mp h
    rw [encodeUnreserved, List.flatMap_cons, encodeChar, if_pos hc, ← encodeUnreserved, ih hrest]
    rfl

/-- Only the empty text has an empty reserved encoding. -/
theorem encodeReserved_eq_nil_iff {t : Text} : encodeReserved t = [] ↔ t = [] := by
  fun_cases encodeReserved t <;> simp [encodeChar_ne_nil]

section Reading

variable {c a b : Char} {rest : Text}

/-- A text begins with a percent sign and two hexadecimal digits. -/
def BeginsTriplet (t : Text) : Prop :=
  ∃ a b rest, t = '%' :: a :: b :: rest ∧ Text.isHexDigit a = true ∧ Text.isHexDigit b = true

/-- Only a percent sign begins a triplet. -/
theorem not_beginsTriplet_cons (h : c ≠ '%') : ¬BeginsTriplet (c :: rest) := by
  rintro ⟨a, b, more, he, -, -⟩
  exact h (List.cons.inj he).1

private theorem not_isHexDigit_of_not_beginsTriplet (h : ¬BeginsTriplet ('%' :: a :: b :: rest)) :
    ¬(Text.isHexDigit a && Text.isHexDigit b) = true := by
  rw [Bool.and_eq_true]
  exact fun hdigits => h ⟨a, b, rest, rfl, hdigits⟩

/-- A text is read from its beginning: a triplet where there is one, and a single character
elsewhere. -/
@[elab_as_elim]
theorem readInduction {motive : Text → Prop} (nil : motive [])
    (triplet : ∀ a b rest, Text.isHexDigit a = true → Text.isHexDigit b = true → motive rest →
      motive ('%' :: a :: b :: rest))
    (char : ∀ c rest, ¬BeginsTriplet (c :: rest) → motive rest → motive (c :: rest)) (t : Text) :
    motive t := by
  induction t using encodeReserved.induct with
  | case1 a b rest h ih =>
    rw [Bool.and_eq_true] at h
    exact triplet a b rest h.1 h.2 ih
  | case2 a b rest h ih =>
    refine char '%' (a :: b :: rest) ?_ ih
    rintro ⟨a', b', rest', he, ha, hb⟩
    cases he
    exact h (by rw [ha, hb]; rfl)
  | case3 c rest h ih =>
    refine char c rest ?_ ih
    rintro ⟨a, b, rest', he, -, -⟩
    cases he
    exact h a b rest' rfl rfl
  | case4 => exact nil

/-- A triplet is kept. -/
theorem encodeReserved_triplet (ha : Text.isHexDigit a = true) (hb : Text.isHexDigit b = true) :
    encodeReserved ('%' :: a :: b :: rest) = '%' :: a :: b :: encodeReserved rest := by
  rw [encodeReserved, ha, hb]
  rfl

/-- Any other character is encoded by itself. -/
theorem encodeReserved_cons (h : ¬BeginsTriplet (c :: rest)) :
    encodeReserved (c :: rest) = encodeChar isPlain c ++ encodeReserved rest := by
  rw [encodeReserved.eq_def]
  split
  · rename_i a b more he
    cases he
    exact if_neg (not_isHexDigit_of_not_beginsTriplet h)
  · rename_i he
    cases he
    rfl
  · rename_i he
    cases he

end Reading

/-- A text of allowed characters and of percent signs with two hexadecimal digits each. -/
inductive IsEncoded (allowed : Char → Bool) : Text → Prop
  /-- The empty text. -/
  | nil : IsEncoded allowed []
  /-- An allowed character before such a text. -/
  | char {c : Char} {rest : Text} (h : allowed c = true) (hrest : IsEncoded allowed rest) :
      IsEncoded allowed (c :: rest)
  /-- A triplet before such a text. -/
  | triplet {a b : Char} {rest : Text} (ha : Text.isHexDigit a = true)
      (hb : Text.isHexDigit b = true) (hrest : IsEncoded allowed rest) :
      IsEncoded allowed ('%' :: a :: b :: rest)

namespace IsEncoded

variable {allowed allowed' : Char → Bool} {s t : Text}

/-- Encoded texts one after the other are encoded: no triplet is cut between them. -/
theorem append (hs : IsEncoded allowed s) (ht : IsEncoded allowed t) :
    IsEncoded allowed (s ++ t) := by
  induction hs with
  | nil => exact ht
  | char h _ ih => exact .char h ih
  | triplet ha hb _ ih => exact .triplet ha hb ih

/-- What is encoded for each member of a list is encoded for all of them together. -/
theorem flatMap {α : Type} {f : α → Text} {xs : List α} (h : ∀ x ∈ xs, IsEncoded allowed (f x)) :
    IsEncoded allowed (xs.flatMap f) := by
  induction xs with
  | nil => exact .nil
  | cons x xs ih =>
    obtain ⟨hx, hxs⟩ := List.forall_mem_cons.mp h
    exact hx.append (ih hxs)

/-- Encoded pieces are encoded when they are joined with an allowed separator. -/
theorem joinWith {separator : Char} {pieces : List Text} (hseparator : allowed separator = true)
    (h : ∀ piece ∈ pieces, IsEncoded allowed piece) :
    IsEncoded allowed (Text.joinWith [separator] pieces) := by
  cases pieces with
  | nil => exact .nil
  | cons piece more =>
    obtain ⟨hpiece, hmore⟩ := List.forall_mem_cons.mp h
    rw [Text.joinWith_cons]
    exact hpiece.append (.flatMap fun other hother => .char hseparator (hmore other hother))

/-- A text of allowed characters has no need of triplets. -/
theorem of_forall (h : ∀ c ∈ t, allowed c = true) : IsEncoded allowed t := by
  induction t with
  | nil => exact .nil
  | cons c rest ih =>
    obtain ⟨hc, hrest⟩ := List.forall_mem_cons.mp h
    exact .char hc (ih hrest)

/-- A text stays encoded if more characters are allowed. -/
theorem mono (h : IsEncoded allowed t) (hle : ∀ c, allowed c = true → allowed' c = true) :
    IsEncoded allowed' t := by
  induction h with
  | nil => exact .nil
  | char hc _ ih => exact .char (hle _ hc) ih
  | triplet ha hb _ ih => exact .triplet ha hb ih

/-- Besides allowed characters there are only those of triplets. -/
theorem allowed_or_of_mem (h : IsEncoded allowed t) {c : Char} (hc : c ∈ t) :
    allowed c = true ∨ c = '%' ∨ Text.isHexDigit c = true := by
  induction h with
  | nil => cases hc
  | char hallowed _ ih =>
    rcases List.mem_cons.mp hc with rfl | hc
    · exact Or.inl hallowed
    · exact ih hc
  | triplet ha hb _ ih =>
    simp only [List.mem_cons] at hc
    rcases hc with rfl | rfl | rfl | hc
    · exact Or.inr (Or.inl rfl)
    · exact Or.inr (Or.inr ha)
    · exact Or.inr (Or.inr hb)
    · exact ih hc

end IsEncoded

/-- Reserved characters are not unreserved and do not occur in triplets. -/
theorem not_unreserved_of_isReserved {c : Char} (h : isReserved c = true) :
    isUnreserved c = false ∧ c ≠ '%' ∧ Text.isHexDigit c = false := by
  have hall : (":/?#[]@!$&\x27()*+,;=".toList.all fun c =>
      !isUnreserved c && c != '%' && !Text.isHexDigit c) = true := by
    decide
  have hc := List.all_eq_true.mp hall c (List.contains_iff_mem.mp h)
  simpa only [Bool.and_eq_true, Bool.not_eq_true', bne_iff_ne, and_assoc] using hc

/-- Each number below sixteen is written as a hexadecimal digit. -/
theorem isHexDigit_hexDigit : ∀ n < 16, Text.isHexDigit (Text.hexDigit 'A' n) = true := by
  decide

/-- Each number below sixteen is the value of the digit that is written for it. -/
theorem hexValue_hexDigit : ∀ n < 16, hexValue (Text.hexDigit 'A' n) = n := by
  decide

/-- The halves of an octet are numbers below sixteen. -/
theorem halves_lt (octet : UInt8) : octet.toNat / 16 < 16 ∧ octet.toNat % 16 < 16 := by
  have hoctet : octet.toNat < 256 := octet.toNat_lt
  omega

/-- An octet is written as a triplet. -/
theorem isEncoded_triplet (allowed : Char → Bool) (octet : UInt8) :
    IsEncoded allowed (triplet octet) := by
  obtain ⟨hhigh, hlow⟩ := halves_lt octet
  exact .triplet (isHexDigit_hexDigit _ hhigh) (isHexDigit_hexDigit _ hlow) .nil

/-- A character is written as itself if it is allowed and as triplets if it is not. -/
theorem isEncoded_encodeChar (allowed : Char → Bool) (c : Char) :
    IsEncoded allowed (encodeChar allowed c) := by
  unfold encodeChar
  split
  · rename_i h
    exact .char h .nil
  · exact .flatMap fun octet _ => isEncoded_triplet allowed octet

/-- Full encoding leaves unreserved characters and triplets. -/
theorem isEncoded_encodeUnreserved (t : Text) : IsEncoded isUnreserved (encodeUnreserved t) :=
  .flatMap fun c _ => isEncoded_encodeChar isUnreserved c

/-- Reserved encoding leaves unreserved and reserved characters and triplets. -/
theorem isEncoded_encodeReserved (t : Text) : IsEncoded isPlain (encodeReserved t) := by
  induction t using readInduction with
  | nil => exact .nil
  | triplet a b rest ha hb ih =>
    rw [encodeReserved_triplet ha hb]
    exact .triplet ha hb ih
  | char c rest h ih =>
    rw [encodeReserved_cons h]
    exact (isEncoded_encodeChar isPlain c).append ih

/-- A triplet stands for one octet. -/
theorem octets_triplet_cons {a b : Char} {rest : Text} (ha : Text.isHexDigit a = true)
    (hb : Text.isHexDigit b = true) :
    octets ('%' :: a :: b :: rest) =
      UInt8.ofNat (16 * hexValue a + hexValue b) :: octets rest := by
  rw [octets, ha, hb]
  rfl

/-- Any other character stands for its own octets. -/
theorem octets_cons {c : Char} {rest : Text} (h : ¬BeginsTriplet (c :: rest)) :
    octets (c :: rest) = String.utf8EncodeChar c ++ octets rest := by
  rw [octets.eq_def]
  split
  · rename_i a b more he
    cases he
    exact if_neg (not_isHexDigit_of_not_beginsTriplet h)
  · rename_i he
    cases he
    rfl
  · rename_i he
    cases he

/-- A triplet stands for the octet that it was written for. -/
theorem octets_triplet (octet : UInt8) (rest : Text) :
    octets (triplet octet ++ rest) = octet :: octets rest := by
  obtain ⟨hhigh, hlow⟩ := halves_lt octet
  have hvalue : 16 * (octet.toNat / 16) + octet.toNat % 16 = octet.toNat := by omega
  simp only [triplet, List.cons_append, List.nil_append,
    octets_triplet_cons (isHexDigit_hexDigit _ hhigh) (isHexDigit_hexDigit _ hlow),
    hexValue_hexDigit _ hhigh, hexValue_hexDigit _ hlow, hvalue, UInt8.ofNat_toNat]

/-- What is written for a character stands for its octets, unless percent signs pass. -/
theorem octets_encodeChar {allowed : Char → Bool} (hpercent : allowed '%' = false) (c : Char)
    (rest : Text) :
    octets (encodeChar allowed c ++ rest) = String.utf8EncodeChar c ++ octets rest := by
  have htriplets : ∀ bytes : List UInt8,
      octets (bytes.flatMap triplet ++ rest) = bytes ++ octets rest := by
    intro bytes
    induction bytes with
    | nil => rfl
    | cons octet bytes ih =>
      rw [List.flatMap_cons, List.append_assoc, octets_triplet, ih, List.cons_append]
  unfold encodeChar
  split
  · rename_i h
    have hne : c ≠ '%' := by
      rintro rfl
      rw [hpercent] at h
      cases h
    exact octets_cons (not_beginsTriplet_cons hne)
  · exact htriplets _

/-- A text that is encoded in full stands for its octets. -/
theorem octets_encodeUnreserved (t : Text) :
    octets (encodeUnreserved t) = t.flatMap String.utf8EncodeChar := by
  induction t with
  | nil => rfl
  | cons c rest ih =>
    have hc := @octets_encodeChar isUnreserved (by decide) c (encodeUnreserved rest)
    rw [List.flatMap_cons, ← ih, ← hc]
    rfl

/-- A text is recovered from its full encoding. -/
theorem decode?_encodeUnreserved (t : Text) : decode? (encodeUnreserved t) = some t := by
  have hbytes : (⟨(octets (encodeUnreserved t)).toArray⟩ : ByteArray) = t.utf8Encode := by
    rw [octets_encodeUnreserved, List.utf8Encode]
    exact ByteArray.ext List.data_toByteArray.symm
  rw [decode?, hbytes, List.utf8Decode?_utf8Encode, Option.map_some]

end Percent

/-- Only the empty text is encoded as the empty text. -/
theorem Operator.encode_eq_nil_iff {operator : Operator} {t : Text} :
    operator.encode t = [] ↔ t = [] := by
  unfold Operator.encode
  split
  · exact Percent.encodeReserved_eq_nil_iff
  · exact Percent.encodeUnreserved_eq_nil_iff

end WebLinking
