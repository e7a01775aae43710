import RequestSuite.Proofs.Template.Alone

/-!
# Escaping

Every text can be written as a template.  A backslash put before each placeholder of a text takes
away its meaning.  It neither ends nor begins a placeholder anywhere else, and backslashes that
were there before stay in front of it, so nothing but what was put in is dropped again
(`resolve_escaped`).
-/

namespace RequestSuite.Template

/-- A text with a backslash put directly before each dollar sign with which a placeholder starts. -/
def escapeChars : List Char → List Char
  | [] => []
  | c :: rest =>
    if c = '$' ∧ (placeholder? rest).isSome then '\\' :: '$' :: escapeChars rest
    else c :: escapeChars rest

/-- The template that stands for a text. -/
def escaped (t : String) : String :=
  String.ofList (escapeChars t.toList)

/-! ## Escaped texts -/

theorem escapeChars_of_starts {s : List Char} (h : StartsPlaceholder s) :
    escapeChars ('$' :: s) = '\\' :: '$' :: escapeChars s := by
  rw [escapeChars, if_pos ⟨rfl, isSome_placeholder?_iff.mpr h⟩]

theorem escapeChars_of_not_starts {c : Char} {s : List Char}
    (h : c = '$' → ¬ StartsPlaceholder s) : escapeChars (c :: s) = c :: escapeChars s := by
  rw [escapeChars, if_neg fun hstarts => h hstarts.1 (isSome_placeholder?_iff.mp hstarts.2)]

theorem escapeChars_append {a : List Char} (ha : '$' ∉ a) (s : List Char) :
    escapeChars (a ++ s) = a ++ escapeChars s := by
  induction a with
  | nil => rfl
  | cons c a ih =>
    obtain ⟨hc, hrest⟩ := List.ne_and_not_mem_of_not_mem_cons ha
    rw [List.cons_append, escapeChars_of_not_starts fun h => absurd h.symm hc, ih hrest]
    rfl

/-- What starts an escaped text without a backslash starts the text itself. -/
theorem exists_of_escapeChars_eq {s a b : List Char} (ha : '\\' ∉ a)
    (h : escapeChars s = a ++ b) : ∃ s', s = a ++ s' ∧ b = escapeChars s' := by
  induction a generalizing s with
  | nil => exact ⟨s, rfl, h.symm⟩
  | cons c a ih =>
    obtain ⟨hc, hrest⟩ := List.ne_and_not_mem_of_not_mem_cons ha
    cases s with
    | nil => cases h
    | cons d s =>
      by_cases hd : d = '$' ∧ StartsPlaceholder s
      · obtain ⟨rfl, hstarts⟩ := hd
        -- The text would start with the backslash that was put in.
        rw [escapeChars_of_starts hstarts] at h
        exact absurd (List.cons.inj h).1 hc
      · rw [escapeChars_of_not_starts (not_and.mp hd)] at h
        obtain ⟨rfl, htail⟩ := List.cons.inj h
        obtain ⟨s', rfl, hb⟩ := ih hrest htail
        exact ⟨s', rfl, hb⟩

/-- The backslashes come before placeholders and never into one. -/
theorem startsPlaceholder_escapeChars {s : List Char} :
    StartsPlaceholder (escapeChars s) ↔ StartsPlaceholder s := by
  rw [startsPlaceholder_iff, startsPlaceholder_iff]
  constructor
  · rintro ⟨p, rest, hname, h⟩
    obtain ⟨s', rfl, -⟩ := exists_of_escapeChars_eq (Placeholder.backslash_not_mem hname) h
    exact ⟨p, s', hname, rfl⟩
  · rintro ⟨p, rest, hname, rfl⟩
    exact ⟨p, escapeChars rest, hname, escapeChars_append (Placeholder.dollar_not_mem hname) rest⟩

/-! ## Reading an escaped text -/

/-- A placeholder of the text is read as an escape, and what follows the dollar sign as it is. -/
theorem scan_escapeChars_of_starts {s : List Char} (h : StartsPlaceholder s) :
    scan (escapeChars ('$' :: s)) = .escape :: scan (escapeChars s) := by
  rw [escapeChars_of_starts h, scan_escape (startsPlaceholder_escapeChars.mpr h)]

/-- Every other character is read as itself.  A backslash that is followed by a placeholder has
another backslash after it now, which is the one that is dropped. -/
theorem scan_escapeChars_of_not_starts {c : Char} {s : List Char}
    (h : c = '$' → ¬ StartsPlaceholder s) :
    scan (escapeChars (c :: s)) = pushChar c (scan (escapeChars s)) := by
  rw [escapeChars_of_not_starts h]
  refine scan_char ⟨fun hc hstarts => h hc (startsPlaceholder_escapeChars.mp hstarts), ?_⟩
  -- A dollar sign comes first only if no placeholder starts with it.
  intro rest _ hs hstarts
  cases s with
  | nil => cases hs
  | cons d s =>
    by_cases hd : d = '$' ∧ StartsPlaceholder s
    · rw [hd.1, escapeChars_of_starts hd.2] at hs
      exact absurd (List.cons.inj hs).1 (by decide)
    · rw [escapeChars_of_not_starts (not_and.mp hd)] at hs
      obtain ⟨rfl, rfl⟩ := List.cons.inj hs
      exact hd ⟨rfl, startsPlaceholder_escapeChars.mp hstarts⟩

/-- What holds of the reading of every escaped text. -/
theorem escapeChars_induction {motive : List Char → List Token → Prop} (nil : motive [] [])
    (escape : ∀ s ts, motive s ts → motive ('$' :: s) (.escape :: ts))
    (char : ∀ c s ts, motive s ts → motive (c :: s) (pushChar c ts)) (s : List Char) :
    motive s (scan (escapeChars s)) := by
  induction s with
  | nil =>
    rw [escapeChars, scan_nil]
    exact nil
  | cons c s ih =>
    by_cases hc : c = '$' ∧ StartsPlaceholder s
    · rw [hc.1, scan_escapeChars_of_starts hc.2]
      exact escape s _ ih
    · rw [scan_escapeChars_of_not_starts (not_and.mp hc)]
      exact char c s _ ih

theorem names_escaped (t : String) : names (escaped t) = [] := by
  rw [names, tokens, escaped, String.toList_ofList]
  induction t.toList using escapeChars_induction with
  | nil => rfl
  | escape s ts ih => exact ih
  | char c s ts ih => rw [namesIn_pushChar, ih]

theorem resolveText_escaped (lookup : Lookup) (t : String) :
    resolveText lookup (escaped t) = t := by
  have hchars : (scan (escapeChars t.toList)).flatMap (Token.fill lookup) = t.toList := by
    induction t.toList using escapeChars_induction with
    | nil => rfl
    | escape s ts ih => rw [List.flatMap_cons, ih]; rfl
    | char c s ts ih => rw [flatMap_fill_pushChar, ih]
  rw [resolveText, tokens, escaped, String.toList_ofList, hchars, String.ofList_toList]

/-- **Escaping.**  Every text stands for itself once it is escaped, as a value and as a text, from
whatever store it is filled in, and no name is noted. -/
theorem resolve_escaped (store : Store) (t : String) (noted : List String) :
    resolve store.get? (escaped t) = .string t ∧
      resolveText store.get? (escaped t) = t ∧
      undefinedNames store.get? (escaped t) = [] ∧
      (fill store.get? (escaped t)).run noted = (.string t, noted) ∧
      (fillText store.get? (escaped t)).run noted = (t, noted) := by
  have htext : resolveText store.get? (escaped t) = t := resolveText_escaped store.get? t
  have hnames : undefinedNames store.get? (escaped t) = [] := by
    rw [undefinedNames, names_escaped, List.filter_nil]
  have hvalue : resolve store.get? (escaped t) = .string t := by
    rw [resolve_of_not_isAlone, htext]
    intro name hs
    have hmem := hs.mem_names
    rw [names_escaped] at hmem
    cases hmem
  refine ⟨hvalue, htext, hnames, ?_, ?_⟩
  · rw [notes_fill store.get? (escaped t) noted, hvalue, hnames]
    rfl
  · rw [notes_fillText store.get? (escaped t) noted, htext, hnames]
    rfl

/-- A backslash before a placeholder gets a second one, a dollar sign before one gets none. -/
example : escaped "\\$a$$(b)$c \\$1" = "\\\\$a$\\$(b)\\$c \\$1" := by
  cbv

end RequestSuite.Template
