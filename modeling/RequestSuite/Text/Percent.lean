/-!
# Percent-encoding

A character that is not kept is written as its UTF-8 bytes, each as a percent sign and two upper-case
hexadecimal digits.
-/

namespace RequestSuite.Text

/-- The upper-case hexadecimal digit of a number below sixteen. -/
def upperHexDigit (n : Nat) : Char :=
  if n < 10 then Char.ofNat (48 + n) else Char.ofNat (55 + n)

/-- A byte as a percent sign and two digits. -/
def percentByte (b : UInt8) : List Char :=
  ['%', upperHexDigit (b.toNat / 16), upperHexDigit (b.toNat % 16)]

/-- A text in which every character that is not kept is percent-encoded. -/
def percentEncode (keep : Char → Bool) (s : List Char) : List Char :=
  s.flatMap fun c => if keep c then [c] else (String.utf8EncodeChar c).flatMap percentByte

/-- The characters that need no encoding anywhere in a URL. -/
def isUnreserved (c : Char) : Bool :=
  c.isAlphanum || c == '-' || c == '_' || c == '.' || c == '~'

/-- A text in which only unreserved characters stand for themselves. -/
def encodeComponent (s : String) : String :=
  String.ofList (percentEncode isUnreserved s.toList)

/-- The value of a hexadecimal digit of either case. -/
def hexDigitValue? (c : Char) : Option Nat :=
  if c.isDigit then some (c.toNat - 48)
  else if 'a' ≤ c ∧ c ≤ 'f' then some (c.toNat - 87)
  else if 'A' ≤ c ∧ c ≤ 'F' then some (c.toNat - 55)
  else none

/-- The bytes of a text in which percent signs with two digits stand for a byte. -/
def percentDecode : List Char → List UInt8
  | '%' :: a :: b :: rest =>
    match hexDigitValue? a, hexDigitValue? b with
    | some x, some y => UInt8.ofNat (x * 16 + y) :: percentDecode rest
    | _, _ => String.utf8EncodeChar '%' ++ percentDecode (a :: b :: rest)
  | c :: rest => String.utf8EncodeChar c ++ percentDecode rest
  | [] => []

/-- The text whose UTF-8 bytes are percent-encoded; nothing if the bytes are those of no text. -/
def decodeComponent? (s : List Char) : Option String :=
  String.fromUTF8? (percentDecode s).toByteArray

/-! ## Decoding what was encoded -/

theorem hexDigitValue?_upperHexDigit : ∀ n < 16, hexDigitValue? (upperHexDigit n) = some n := by
  decide

theorem isAlphanum_upperHexDigit : ∀ n < 16, (upperHexDigit n).isAlphanum = true := by
  decide

theorem percentDecode_percentByte (b : UInt8) (rest : List Char) :
    percentDecode (percentByte b ++ rest) = b :: percentDecode rest := by
  have hb : b.toNat < 256 := b.toNat_lt
  have hbyte : UInt8.ofNat (b.toNat / 16 * 16 + b.toNat % 16) = b := by
    rw [Nat.div_add_mod', UInt8.ofNat_toNat]
  simp only [percentByte, List.cons_append, List.nil_append, percentDecode,
    hexDigitValue?_upperHexDigit (b.toNat / 16) (by omega),
    hexDigitValue?_upperHexDigit (b.toNat % 16) (by omega), hbyte]

theorem percentDecode_percentBytes (bs : List UInt8) (rest : List Char) :
    percentDecode (bs.flatMap percentByte ++ rest) = bs ++ percentDecode rest := by
  induction bs with
  | nil => rfl
  | cons b bs ih =>
    rw [List.flatMap_cons, List.append_assoc, percentDecode_percentByte, ih, List.cons_append]

theorem percentDecode_cons {c : Char} (h : c ≠ '%') (rest : List Char) :
    percentDecode (c :: rest) = String.utf8EncodeChar c ++ percentDecode rest := by
  rw [percentDecode]
  exact fun _ _ _ hc => absurd hc h

/-- Decoding gives back the bytes of what was encoded, unless percent signs were kept. -/
theorem percentDecode_percentEncode {keep : Char → Bool} (h : keep '%' = false) (s : List Char) :
    percentDecode (percentEncode keep s) = s.flatMap String.utf8EncodeChar := by
  induction s with
  | nil => rfl
  | cons c rest ih =>
    rw [percentEncode, List.flatMap_cons, ← percentEncode, List.flatMap_cons]
    split
    · rename_i hkeep
      have hc : c ≠ '%' := by
        rintro rfl
        exact absurd (h.symm.trans hkeep) nofun
      rw [List.singleton_append, percentDecode_cons hc, ih]
    · rw [percentDecode_percentBytes, ih]

theorem fromUTF8?_toByteArray (s : String) : String.fromUTF8? s.toByteArray = some s :=
  dif_pos s.isValidUTF8

theorem decodeComponent?_encodeComponent (s : String) :
    decodeComponent? (encodeComponent s).toList = some s := by
  have hbytes : (s.toList.flatMap String.utf8EncodeChar).toByteArray = s.toByteArray := by
    have hchars := String.toByteArray_ofList (l := s.toList)
    rw [String.ofList_toList] at hchars
    exact hchars.symm
  rw [decodeComponent?, encodeComponent, String.toList_ofList, percentDecode_percentEncode rfl,
    hbytes, fromUTF8?_toByteArray]

theorem isUnreserved_of_mem_encodeComponent {s : String} {c : Char}
    (h : c ∈ (encodeComponent s).toList) : isUnreserved c = true ∨ c = '%' := by
  rw [encodeComponent, String.toList_ofList] at h
  obtain ⟨d, -, hd⟩ := List.mem_flatMap.mp h
  split at hd
  · rename_i hkeep
    exact .inl (List.mem_singleton.mp hd ▸ hkeep)
  · obtain ⟨b, -, hb⟩ := List.mem_flatMap.mp hd
    have hlt : b.toNat < 256 := b.toNat_lt
    simp only [percentByte, List.mem_cons, List.not_mem_nil, or_false] at hb
    rcases hb with rfl | rfl | rfl
    · exact .inr rfl
    · simp [isUnreserved, isAlphanum_upperHexDigit (b.toNat / 16) (by omega)]
    · simp [isUnreserved, isAlphanum_upperHexDigit (b.toNat % 16) (by omega)]

end RequestSuite.Text
