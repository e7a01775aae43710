import RequestSuite.Proofs.Value.Compact

/-!
# The indented form is free of control characters

Whatever control characters the texts in a value have, they are escaped when the value is set out
over several lines.  So the only control characters of the indented form are its line breaks.
-/

namespace RequestSuite.Value

/-- Whether a character is a line break, or none of the control characters below the blank. -/
def IsShown (c : Char) : Prop :=
  c = '\n' ∨ 32 ≤ c.toNat

instance (c : Char) : Decidable (IsShown c) := inferInstanceAs (Decidable (_ ∨ _))

/-- Of a fixed text, each character is looked at. -/
theorem isShown_of_all {chars : List Char} (h : chars.all (fun c => decide (IsShown c)) = true) :
    ∀ x ∈ chars, IsShown x :=
  fun x hx => of_decide_eq_true (List.all_eq_true.mp h x hx)

theorem isShown_of_isSpelling {c : Char} (h : Number.isSpelling c = true) : IsShown c := by
  simp only [Number.isSpelling, Bool.or_eq_true, beq_iff_eq] at h
  rcases h with (((h | rfl) | rfl) | rfl) | rfl
  · have hzero : 48 ≤ c.toNat := (Char.isDigit_iff_toNat.mp h).1
    exact .inr (by omega)
  all_goals decide

theorem isShown_hexDigit : ∀ n < 16, IsShown (hexDigit n) := by
  decide

theorem isShown_escapeChar (c : Char) : ∀ x ∈ escapeChar c, IsShown x := by
  unfold escapeChar
  iterate 7
    split
    · exact isShown_of_all (by decide)
  split
  · rename_i hcontrol
    have hhigh : IsShown (hexDigit (c.toNat / 16)) := isShown_hexDigit _ (by omega)
    have hlow : IsShown (hexDigit (c.toNat % 16)) := isShown_hexDigit _ (by omega)
    have hescape : ∀ x ∈ ['\\', 'u', '0', '0'], IsShown x := isShown_of_all (by decide)
    change ∀ x ∈ ['\\', 'u', '0', '0'] ++ [_, _], IsShown x
    exact List.forall_mem_append.mpr
      ⟨hescape, List.forall_mem_cons.mpr ⟨hhigh, List.forall_mem_singleton.mpr hlow⟩⟩
  · rename_i hother
    exact List.forall_mem_singleton.mpr (.inr (Nat.not_lt.mp hother))

theorem isShown_quotedChars (s : String) : ∀ x ∈ quotedChars s, IsShown x := by
  refine List.forall_mem_append.mpr ⟨List.forall_mem_cons.mpr ⟨by decide, fun x hx => ?_⟩,
    isShown_of_all (by decide)⟩
  obtain ⟨c, -, hc⟩ := List.mem_flatMap.mp hx
  exact isShown_escapeChar c x hc

theorem isShown_lineStart (depth : Nat) : ∀ x ∈ lineStart depth, IsShown x := by
  refine List.forall_mem_cons.mpr ⟨by decide, fun x hx => ?_⟩
  rw [List.eq_of_mem_replicate hx]
  decide

/-- The parts of the indented form after an opening bracket or a comma begin with a new line. -/
theorem isShown_cons_lineStart {c : Char} (hc : IsShown c) (depth : Nat) {chars : List Char}
    (h : ∀ x ∈ chars, IsShown x) : ∀ x ∈ c :: lineStart depth ++ chars, IsShown x :=
  List.forall_mem_append.mpr ⟨List.forall_mem_cons.mpr ⟨hc, isShown_lineStart depth⟩, h⟩

/-- The key of a field, with the value behind it. -/
theorem isShown_field (key : String) {chars : List Char} (h : ∀ x ∈ chars, IsShown x) :
    ∀ x ∈ quotedChars key ++ ':' :: ' ' :: chars, IsShown x := by
  refine List.forall_mem_append.mpr ⟨isShown_quotedChars key, ?_⟩
  exact List.forall_mem_cons.mpr ⟨by decide, List.forall_mem_cons.mpr ⟨by decide, h⟩⟩

mutual

theorem isShown_indentedChars (depth : Nat) (v : Value) :
    ∀ x ∈ v.indentedChars depth, IsShown x := by
  cases v with
  | null =>
    rw [indentedChars]
    exact isShown_of_all (by decide)
  | bool b =>
    rw [indentedChars]
    cases b <;> exact isShown_of_all (by decide)
  | number n => exact fun x hx => isShown_of_isSpelling (Number.isSpelling_of_mem_chars x hx)
  | string s => exact isShown_quotedChars s
  | array items =>
    cases items with
    | nil =>
      rw [indentedChars]
      exact isShown_of_all (by decide)
    | cons v rest =>
      rw [indentedChars]
      have hfirst := isShown_indentedChars (depth + 1) v
      exact List.forall_mem_append.mpr ⟨isShown_cons_lineStart (by decide) (depth + 1) hfirst,
        isShown_indentedItems depth rest⟩
  | object fields =>
    cases fields with
    | nil =>
      rw [indentedChars]
      exact isShown_of_all (by decide)
    | cons f rest =>
      obtain ⟨k, v⟩ := f
      rw [indentedChars, List.append_assoc (_ :: _)]
      have hfirst := isShown_field k (isShown_indentedChars (depth + 1) v)
      exact List.forall_mem_append.mpr ⟨isShown_cons_lineStart (by decide) (depth + 1) hfirst,
        isShown_indentedFields depth rest⟩

theorem isShown_indentedItems (depth : Nat) (items : List Value) :
    ∀ x ∈ indentedItems depth items, IsShown x := by
  cases items with
  | nil => exact List.forall_mem_append.mpr ⟨isShown_lineStart depth, isShown_of_all (by decide)⟩
  | cons v rest =>
    rw [indentedItems]
    have hfirst := isShown_indentedChars (depth + 1) v
    exact List.forall_mem_append.mpr ⟨isShown_cons_lineStart (by decide) (depth + 1) hfirst,
      isShown_indentedItems depth rest⟩

theorem isShown_indentedFields (depth : Nat) (fields : List (String × Value)) :
    ∀ x ∈ indentedFields depth fields, IsShown x := by
  cases fields with
  | nil => exact List.forall_mem_append.mpr ⟨isShown_lineStart depth, isShown_of_all (by decide)⟩
  | cons f rest =>
    obtain ⟨k, v⟩ := f
    rw [indentedFields, List.append_assoc (_ :: _)]
    have hfirst := isShown_field k (isShown_indentedChars (depth + 1) v)
    exact List.forall_mem_append.mpr ⟨isShown_cons_lineStart (by decide) (depth + 1) hfirst,
      isShown_indentedFields depth rest⟩

end

/-- **No control character but line breaks** is in the indented form of a value. -/
theorem isShown_of_mem_indented {v : Value} {c : Char} (h : c ∈ v.indented.toList) : IsShown c := by
  rw [indented, String.toList_ofList] at h
  exact isShown_indentedChars 0 v c h

end RequestSuite.Value
