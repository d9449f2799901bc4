import CatalogClient.Text.Hex

/-!
# Percent-encoding

`percentEncode keep` leaves the characters that `keep` admits and writes every octet of any other
character as `%` and two upper-case hexadecimal digits. Each format that uses it brings its own
`keep`; the one of form fields and payloads is `isUnreserved`. `percentDecode` gives the octets
back (`percentDecode_percentEncode`), as long as `%` itself is not kept.
-/

namespace CatalogClient

/-- An octet as `%` and two digits. -/
def percentOctet (b : UInt8) : List Char :=
  ['%', upperHexDigit (b.toNat / 16), upperHexDigit (b.toNat % 16)]

/-- A character as the percent-encoded octets of its UTF-8 form. -/
def percentChar (c : Char) : List Char := (String.utf8EncodeChar c).flatMap percentOctet

def percentEncode (keep : Char → Bool) (text : List Char) : List Char :=
  text.flatMap fun c => if keep c then [c] else percentChar c

/-- Shown characters of ASCII other than the blank. -/
def isGraphic (c : Char) : Bool := 0x20 < c.toNat && c.toNat < 0x7F

/-- Letters and digits of ASCII and `-`, `_`, `.`, `~`: never encoded, in no place of a URL. -/
def isUnreserved (c : Char) : Bool := c.isAlphanum || c = '-' || c = '_' || c = '.' || c = '~'

/-- A text in which only unreserved characters stand for themselves. -/
def encodeComponent (text : String) : String :=
  String.ofList (percentEncode isUnreserved text.toList)

/-- The octets of a text in which `%` and two digits stand for one octet. -/
def percentDecode : List Char → List UInt8
  | '%' :: a :: b :: rest =>
    match hexValue? a, hexValue? b with
    | some x, some y => UInt8.ofNat (x * 16 + y) :: percentDecode rest
    | _, _ => UInt8.ofNat '%'.toNat :: percentDecode (a :: b :: rest)
  | c :: rest => String.utf8EncodeChar c ++ percentDecode rest
  | [] => []

@[simp] theorem percentEncode_nil (keep : Char → Bool) : percentEncode keep [] = [] := rfl

@[simp] theorem percentEncode_append (keep : Char → Bool) (a b : List Char) :
    percentEncode keep (a ++ b) = percentEncode keep a ++ percentEncode keep b := by
  simp [percentEncode]

theorem percentEncode_cons (keep : Char → Bool) (c : Char) (rest : List Char) :
    percentEncode keep (c :: rest) =
      (if keep c then [c] else percentChar c) ++ percentEncode keep rest := List.flatMap_cons

theorem exists_percentChar (c : Char) : ∃ digits, percentChar c = '%' :: digits := by
  obtain ⟨b, octets, written⟩ := List.exists_cons_of_ne_nil (String.utf8EncodeChar_ne_nil (c := c))
  exact ⟨_, by rw [percentChar, written, List.flatMap_cons, percentOctet]; rfl⟩

/-- No character goes unwritten. -/
theorem length_percentEncode_lt_cons (keep : Char → Bool) (c : Char) (rest : List Char) :
    (percentEncode keep rest).length < (percentEncode keep (c :: rest)).length := by
  rw [percentEncode_cons, List.length_append]
  have some_sign : 0 < (if keep c then [c] else percentChar c).length := by
    split
    · exact Nat.one_pos
    · obtain ⟨digits, written⟩ := exists_percentChar c
      rw [written]
      exact Nat.succ_pos _
  omega

/-- What is written is kept, or it is the `%` of an octet or one of its digits. -/
theorem mem_percentEncode {keep : Char → Bool} {text : List Char} {c : Char}
    (h : c ∈ percentEncode keep text) :
    keep c = true ∨ c = '%' ∨ ∃ n < 16, c = upperHexDigit n := by
  obtain ⟨d, -, here⟩ := List.mem_flatMap.mp h
  split at here
  · next kept =>
    obtain rfl := List.mem_singleton.mp here
    exact .inl kept
  · right
    obtain ⟨b, -, digit⟩ := List.mem_flatMap.mp here
    have bound := b.toNat_lt
    simp only [percentOctet, List.mem_cons, List.not_mem_nil, or_false] at digit
    rcases digit with rfl | rfl | rfl
    · exact .inl rfl
    · exact .inr ⟨b.toNat / 16, by omega, rfl⟩
    · exact .inr ⟨b.toNat % 16, by omega, rfl⟩

/-! ## Decoding what was encoded -/

theorem percentDecode_octet (b : UInt8) (rest : List Char) :
    percentDecode (percentOctet b ++ rest) = b :: percentDecode rest := by
  have bound := b.toNat_lt
  have value : b.toNat / 16 * 16 + b.toNat % 16 = b.toNat := by omega
  simp only [percentOctet, List.cons_append, List.nil_append, percentDecode,
    hexValue?_upperHexDigit (show b.toNat / 16 < 16 by omega),
    hexValue?_upperHexDigit (show b.toNat % 16 < 16 by omega), value, UInt8.ofNat_toNat]

theorem percentDecode_octets (octets : List UInt8) (rest : List Char) :
    percentDecode (octets.flatMap percentOctet ++ rest) = octets ++ percentDecode rest := by
  induction octets with
  | nil => rfl
  | cons b octets ih =>
    rw [List.flatMap_cons, List.append_assoc, percentDecode_octet, ih, List.cons_append]

theorem percentDecode_cons {c : Char} (h : c ≠ '%') (rest : List Char) :
    percentDecode (c :: rest) = String.utf8EncodeChar c ++ percentDecode rest := by
  rw [percentDecode]
  intro a b rest' same
  exact absurd same h

/-- The octets of the text come back. -/
theorem percentDecode_percentEncode {keep : Char → Bool} (h : keep '%' = false)
    (text : List Char) :
    percentDecode (percentEncode keep text) = text.flatMap String.utf8EncodeChar := by
  induction text with
  | nil => rfl
  | cons c text ih =>
    rw [percentEncode_cons, List.flatMap_cons]
    split
    · next kept =>
      have plain : c ≠ '%' := by
        rintro rfl
        rw [h] at kept
        cases kept
      rw [List.singleton_append, percentDecode_cons plain, ih]
    · rw [percentChar, percentDecode_octets, ih]

/-! ## Unreserved characters -/

theorem isUnreserved_upperHexDigit {n : Nat} (h : n < 16) : isUnreserved (upperHexDigit n) := by
  have all : ∀ m : Fin 16, isUnreserved (upperHexDigit m) := by decide
  exact all ⟨n, h⟩

/-- An encoded text holds nothing but unreserved characters and `%`. -/
theorem mem_encodeComponent {text : String} {c : Char} (h : c ∈ (encodeComponent text).toList) :
    isUnreserved c ∨ c = '%' := by
  rw [encodeComponent, String.toList_ofList] at h
  rcases mem_percentEncode h with kept | rfl | ⟨n, small, rfl⟩
  · exact .inl kept
  · exact .inr rfl
  · exact .inl (isUnreserved_upperHexDigit small)

end CatalogClient
