import Mathlib.Logic.Basic
import RequestSuite.Json.Reader
import RequestSuite.Value.Text

/-!
# Texts between quotation marks

Whatever characters a text has, the reader of documents takes it back from between the quotation
marks and stops behind the closing one.  So a quoted text tells the text and where it ends.
-/

namespace RequestSuite

namespace Json

open Value (hexDigit escapeChar quotedChars)

theorem hexValue?_hexDigit : ∀ n < 16, hexValue? (hexDigit n) = some n := by
  decide

/-- A control character is read back from the two last of its four digits. -/
theorem unicodeEscape_control {c : Char} (hc : c.toNat < 32) (rest : List Char) :
    unicodeEscape ('0' :: '0' :: hexDigit (c.toNat / 16) :: hexDigit (c.toNat % 16) :: rest) =
      .ok (c, rest) := by
  have hzero : hexValue? '0' = some 0 := rfl
  have hvalue : ((0 * 16 + 0) * 16 + c.toNat / 16) * 16 + c.toNat % 16 = c.toNat := by omega
  have hdigits : fourDigits
      ('0' :: '0' :: hexDigit (c.toNat / 16) :: hexDigit (c.toNat % 16) :: rest) =
      .ok (c.toNat, rest) := by
    simp only [fourDigits, hzero, hexValue?_hexDigit _ (show c.toNat / 16 < 16 by omega),
      hexValue?_hexDigit _ (show c.toNat % 16 < 16 by omega), hvalue]
  simp only [unicodeEscape, hdigits, bind, Except.bind]
  rw [if_neg (by omega), if_neg (by omega), Char.ofNat_toNat]
  rfl

/-- A character is written as an escape that stands for it, or as itself. -/
theorem escapeChar_cases (c : Char) :
    (∃ letters, escapeChar c = '\\' :: letters ∧
      ∀ rest, escape (letters ++ rest) = .ok (c, rest)) ∨
    (escapeChar c = [c] ∧ c ≠ '"' ∧ c ≠ '\\' ∧ ¬ c.toNat < 32) := by
  rcases eq_or_ne c '"' with rfl | hquote
  · exact .inl ⟨['"'], rfl, fun _ => rfl⟩
  rcases eq_or_ne c '\\' with rfl | hbackslash
  · exact .inl ⟨['\\'], rfl, fun _ => rfl⟩
  rcases eq_or_ne c '\x08' with rfl | hb
  · exact .inl ⟨['b'], rfl, fun _ => rfl⟩
  rcases eq_or_ne c '\x0c' with rfl | hf
  · exact .inl ⟨['f'], rfl, fun _ => rfl⟩
  rcases eq_or_ne c '\n' with rfl | hn
  · exact .inl ⟨['n'], rfl, fun _ => rfl⟩
  rcases eq_or_ne c '\r' with rfl | hr
  · exact .inl ⟨['r'], rfl, fun _ => rfl⟩
  rcases eq_or_ne c '\t' with rfl | ht
  · exact .inl ⟨['t'], rfl, fun _ => rfl⟩
  rw [escapeChar, if_neg hquote, if_neg hbackslash, if_neg hb, if_neg hf, if_neg hn, if_neg hr,
    if_neg ht]
  by_cases hcontrol : c.toNat < 32
  · rw [if_pos hcontrol]
    exact .inl ⟨_, rfl, unicodeEscape_control hcontrol⟩
  · rw [if_neg hcontrol]
    exact .inr ⟨rfl, hquote, hbackslash, hcontrol⟩

theorem escapeChar_ne_nil (c : Char) : escapeChar c ≠ [] := by
  rcases escapeChar_cases c with ⟨letters, h, -⟩ | ⟨h, -⟩ <;> rw [h] <;> exact List.cons_ne_nil _ _

/-- One step of the reader takes one character of the text. -/
theorem quoted_escapeChar (c : Char) (n : Nat) (s : List Char) :
    quoted (n + 1) (escapeChar c ++ s) =
      (quoted n s).map fun (cs, rest) => (c :: cs, rest) := by
  rcases escapeChar_cases c with ⟨letters, h, hescape⟩ | ⟨h, hquote, hbackslash, hcontrol⟩
  · rw [h, List.cons_append, quoted, if_neg (by decide), if_pos rfl, hescape]
    simp only [bind, Except.bind]
    cases quoted n s <;> rfl
  · rw [h, List.singleton_append, quoted, if_neg hquote, if_neg hbackslash, if_neg hcontrol]
    cases quoted n s <;> rfl

theorem quoted_flatMap (cs rest : List Char) {n : Nat} (hn : cs.length < n) :
    quoted n (cs.flatMap escapeChar ++ '"' :: rest) = .ok (cs, rest) := by
  induction cs generalizing n with
  | nil =>
    obtain ⟨n, rfl⟩ := Nat.exists_eq_succ_of_ne_zero (Nat.ne_of_gt hn)
    rfl
  | cons c cs ih =>
    obtain ⟨n, rfl⟩ := Nat.exists_eq_succ_of_ne_zero (Nat.ne_of_gt (Nat.zero_lt_of_lt hn))
    rw [List.flatMap_cons, List.append_assoc, quoted_escapeChar, ih (Nat.lt_of_succ_lt_succ hn)]
    rfl

theorem length_le_length_flatMap (cs : List Char) : cs.length ≤ (cs.flatMap escapeChar).length := by
  induction cs with
  | nil => exact Nat.le_refl 0
  | cons c cs ih =>
    have hpos : 0 < (escapeChar c).length := List.length_pos_iff.mpr (escapeChar_ne_nil c)
    rw [List.flatMap_cons, List.length_append, List.length_cons]
    omega

/-- **Quoted texts are read back**, and what comes behind them is left over. -/
theorem quotedText_quotedChars (s : String) (rest : List Char) :
    quotedText ((quotedChars s ++ rest).tail) = .ok (s, rest) := by
  have hlength := length_le_length_flatMap s.toList
  rw [quotedChars, List.cons_append, List.cons_append, List.tail_cons, List.append_assoc,
    List.singleton_append, quotedText, quoted_flatMap]
  · exact congrArg Except.ok (Prod.ext String.ofList_toList rfl)
  · rw [List.length_append]
    omega

end Json

/-- What is written in quotation marks tells the text and what comes behind it. -/
theorem Value.quotedChars_append_eq_iff {s t : String} {x y : List Char} :
    quotedChars s ++ x = quotedChars t ++ y ↔ s = t ∧ x = y := by
  constructor
  · intro h
    have hread := congrArg (fun text => Json.quotedText text.tail) h
    rw [Json.quotedText_quotedChars, Json.quotedText_quotedChars] at hread
    exact Prod.mk.inj (Except.ok.inj hread)
  · rintro ⟨rfl, rfl⟩
    rfl

end RequestSuite
