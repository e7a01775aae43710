/-!
# Blank characters

Which characters count as white space, and the cutting of white space off the two ends of a text.
Names, methods, paths and settings are all read without the blanks around them.
-/

namespace RequestSuite.Text

/-- The characters that the Unicode standard gives the property `White_Space`. -/
def isBlank (c : Char) : Bool :=
  let n := c.toNat
  (9 ≤ n && n ≤ 13) || n == 32 || n == 0x85 || n == 0xA0 || n == 0x1680 ||
    (0x2000 ≤ n && n ≤ 0x200A) || n == 0x2028 || n == 0x2029 || n == 0x202F || n == 0x205F ||
    n == 0x3000

/-- A list of characters without the blanks at its end. -/
def trimEndChars (s : List Char) : List Char :=
  (s.reverse.dropWhile isBlank).reverse

/-- A list of characters without the blanks at either end. -/
def trimChars (s : List Char) : List Char :=
  trimEndChars (s.dropWhile isBlank)

/-- A text without the blanks at either end. -/
def trim (s : String) : String :=
  String.ofList (trimChars s.toList)

/-- Whether a text holds nothing but blanks. -/
def isBlankText (s : String) : Bool :=
  s.toList.all isBlank

/-! ## Texts without blanks at their ends -/

theorem dropWhile_isBlank_eq_self {s : List Char} (h : ∀ c ∈ s.head?, isBlank c = false) :
    s.dropWhile isBlank = s := by
  cases s with
  | nil => rfl
  | cons c rest =>
    have hc : ¬ isBlank c = true := by simp [h c rfl]
    exact List.dropWhile_cons_of_neg hc

/-- Only blanks behind the last other character are cut off at the end. -/
theorem trimEndChars_append {s : List Char} (h : ∀ c ∈ s.getLast?, isBlank c = false)
    (t : List Char) : trimEndChars (s ++ t) = s ++ trimEndChars t := by
  have hs : s.reverse.dropWhile isBlank = s.reverse :=
    dropWhile_isBlank_eq_self (by rwa [List.head?_reverse])
  rw [trimEndChars, trimEndChars, List.reverse_append, List.dropWhile_append, hs]
  split
  · rename_i hempty
    rw [List.isEmpty_iff.mp hempty, List.reverse_nil, List.append_nil, List.reverse_reverse]
  · rw [List.reverse_append, List.reverse_reverse]

theorem trimEndChars_eq_self {s : List Char} (h : ∀ c ∈ s.getLast?, isBlank c = false) :
    trimEndChars s = s := by
  have hcut := trimEndChars_append h []
  rwa [List.append_nil, trimEndChars, trimEndChars, List.reverse_nil, List.dropWhile_nil,
    List.reverse_nil, List.append_nil] at hcut

theorem trimChars_eq_self {s : List Char} (hfirst : ∀ c ∈ s.head?, isBlank c = false)
    (hlast : ∀ c ∈ s.getLast?, isBlank c = false) : trimChars s = s := by
  rw [trimChars, dropWhile_isBlank_eq_self hfirst, trimEndChars_eq_self hlast]

/-! ## What is cut off -/

theorem exists_trimEndChars (s : List Char) :
    ∃ after, s = trimEndChars s ++ after ∧ ∀ c ∈ after, isBlank c = true := by
  refine ⟨(s.reverse.takeWhile isBlank).reverse, ?_, fun c hc => ?_⟩
  · rw [trimEndChars, ← List.reverse_append, List.takeWhile_append_dropWhile, List.reverse_reverse]
  · exact List.all_eq_true.mp List.all_takeWhile c (List.mem_reverse.mp hc)

/-- Nothing but blanks is cut off. -/
theorem exists_trimChars (s : List Char) : ∃ before after, s = before ++ trimChars s ++ after ∧
    (∀ c ∈ before, isBlank c = true) ∧ ∀ c ∈ after, isBlank c = true := by
  obtain ⟨after, hs, hafter⟩ := exists_trimEndChars (s.dropWhile isBlank)
  refine ⟨s.takeWhile isBlank, after, ?_, List.all_eq_true.mp List.all_takeWhile, hafter⟩
  rw [trimChars, List.append_assoc, ← hs, List.takeWhile_append_dropWhile]

theorem isBlank_of_head?_trimChars (s : List Char) : ∀ c ∈ (trimChars s).head?, isBlank c = false := by
  intro c hc
  obtain ⟨after, hs, -⟩ := exists_trimEndChars (s.dropWhile isBlank)
  have hhead : (s.dropWhile isBlank).head? = some c := by
    rw [hs, List.head?_append]
    exact Option.or_eq_some_iff.mpr (.inl hc)
  have hfirst := List.head?_dropWhile_not isBlank s
  rw [hhead] at hfirst
  exact hfirst

theorem isBlank_of_getLast?_trimChars (s : List Char) :
    ∀ c ∈ (trimChars s).getLast?, isBlank c = false := by
  intro c hc
  rw [trimChars, trimEndChars, List.getLast?_reverse] at hc
  have hlast := List.head?_dropWhile_not isBlank (s.dropWhile isBlank).reverse
  rw [Option.mem_def.mp hc] at hlast
  exact hlast

@[simp] theorem trim_trim (s : String) : trim (trim s) = trim s := by
  rw [trim, trim, String.toList_ofList, trimChars_eq_self (isBlank_of_head?_trimChars s.toList)
    (isBlank_of_getLast?_trimChars s.toList)]

@[simp] theorem isBlankText_trim (s : String) : isBlankText (trim s) = isBlankText s := by
  obtain ⟨before, after, hs, hbefore, hafter⟩ := exists_trimChars s.toList
  have hall : s.toList.all isBlank = (before ++ trimChars s.toList ++ after).all isBlank :=
    congrArg (List.all · isBlank) hs
  rw [isBlankText, isBlankText, trim, String.toList_ofList, hall, List.all_append, List.all_append,
    List.all_eq_true.mpr hbefore, List.all_eq_true.mpr hafter, Bool.true_and, Bool.and_true]

end RequestSuite.Text
