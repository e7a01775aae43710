import RequestSuite.Proofs.Template.Tokens
import RequestSuite.Template.Resolve
import RequestSuite.Text.Blank

/-!
# Templates without the blanks around them

Blanks are no part of a placeholder and end every name, so a template mentions the same names with
the blanks at its ends and without them (`names_trim`).
-/

namespace RequestSuite.Template

/-- Whether characters are all blank. -/
def AllBlank (s : List Char) : Prop :=
  ∀ c ∈ s, Text.isBlank c = true

theorem isBlank_of_isWordChar {c : Char} (h : isWordChar c = true) : Text.isBlank c = false := by
  have hn := toNat_of_isWordChar h
  simp only [Text.isBlank, Bool.or_eq_false_iff, Bool.and_eq_false_iff, decide_eq_false_iff_not,
    beq_eq_false_iff_ne]
  omega

theorem endsName_append {rest after : List Char} (h : EndsName rest) (hafter : AllBlank after) :
    EndsName (rest ++ after) := by
  intro c hc
  cases rest with
  | cons d tail => exact h c hc
  | nil =>
    have hblank : Text.isBlank c = true := hafter c (List.mem_of_head? hc)
    by_contra hword
    rw [isBlank_of_isWordChar (by simpa using hword)] at hblank
    cases hblank

/-- What starts a text and has no blanks starts it without the blanks at its end, too. -/
theorem exists_of_append_blanks {a b s after : List Char} (h : a ++ b = s ++ after)
    (ha : ∀ c ∈ a, Text.isBlank c = false) (hafter : AllBlank after) : ∃ rest, s = a ++ rest := by
  rcases List.append_eq_append_iff.mp h with ⟨rest, hs, -⟩ | ⟨rest, hrest, hb⟩
  · exact ⟨rest, hs⟩
  · cases rest with
    | nil => exact ⟨[], by rw [hrest, List.append_nil, List.append_nil]⟩
    | cons c tail =>
      have hc : Text.isBlank c = false := ha c (by simp [hrest])
      rw [hafter c (by simp [hb])] at hc
      cases hc

theorem Placeholder.isBlank_chars {p : Placeholder} (h : IsName p.name) :
    ∀ c ∈ p.chars, Text.isBlank c = false := by
  intro c hc
  rcases of_mem_chars h hc with hword | rfl | rfl
  · exact isBlank_of_isWordChar hword
  · decide
  · decide

theorem startsPlaceholder_append_iff {s after : List Char} (hafter : AllBlank after) :
    StartsPlaceholder (s ++ after) ↔ StartsPlaceholder s := by
  rw [startsPlaceholder_iff, startsPlaceholder_iff]
  constructor
  · rintro ⟨p, rest, hname, h⟩
    obtain ⟨rest', rfl⟩ := exists_of_append_blanks h.symm (Placeholder.isBlank_chars hname) hafter
    exact ⟨p, rest', hname, rfl⟩
  · rintro ⟨p, rest, hname, rfl⟩
    exact ⟨p, rest ++ after, hname, List.append_assoc ..⟩

/-- Blanks before a template mention nothing. -/
theorem namesIn_scan_of_blanks {before : List Char} (hbefore : AllBlank before) (s : List Char) :
    namesIn (scan (before ++ s)) = namesIn (scan s) := by
  induction before with
  | nil => rfl
  | cons c rest ih =>
    obtain ⟨hc, hrest⟩ := List.forall_mem_cons.mp hbefore
    have hplain : IsPlain c (rest ++ s) := by
      refine ⟨?_, fun _ => ?_⟩
      · rintro rfl
        cases hc
      · rintro rfl
        cases hc
    rw [List.cons_append, scan_char hplain, namesIn_pushChar, ih hrest]

/-- Neither do blanks after it. -/
theorem namesIn_scan_append {after : List Char} (hafter : AllBlank after) (s : List Char) :
    namesIn (scan (s ++ after)) = namesIn (scan s) := by
  induction s using scan_induction with
  | nil =>
    have hblanks := namesIn_scan_of_blanks hafter []
    rw [List.append_nil] at hblanks
    rw [List.nil_append, hblanks, scan_nil]
  | escape s hstarts ih =>
    exact (congrArg namesIn (scan_escape ((startsPlaceholder_append_iff hafter).mpr hstarts))).trans
      ih
  | placeholder p rest hname hends ih =>
    have hfound : placeholder? (p.chars ++ rest ++ after) = some (p, rest ++ after) :=
      placeholder?_eq_some_iff.mpr ⟨List.append_assoc .., hname,
        fun hbare => endsName_append (hends hbare) hafter⟩
    rw [List.cons_append, scan_variable hfound, namesIn, namesIn, ih]
  | char c s hplain ih =>
    have hplain' : IsPlain c (s ++ after) := by
      refine ⟨fun hc hs => hplain.1 hc ((startsPlaceholder_append_iff hafter).mp hs),
        fun rest hc hs hstarts => ?_⟩
      -- The dollar sign after a backslash is none of the blanks.
      have hdollar : ∀ c ∈ ['$'], Text.isBlank c = false := List.forall_mem_singleton.mpr rfl
      obtain ⟨rest', rfl⟩ := exists_of_append_blanks hs.symm hdollar hafter
      obtain rfl : rest' ++ after = rest := (List.cons.inj hs).2
      exact hplain.2 rest' hc rfl ((startsPlaceholder_append_iff hafter).mp hstarts)
    rw [List.cons_append, scan_char hplain', namesIn_pushChar, namesIn_pushChar, ih]

theorem names_trim (s : String) : names (Text.trim s) = names s := by
  obtain ⟨before, after, hs, hbefore, hafter⟩ := Text.exists_trimChars s.toList
  have hscan : namesIn (scan s.toList) =
      namesIn (scan (before ++ Text.trimChars s.toList ++ after)) :=
    congrArg (fun t => namesIn (scan t)) hs
  rw [names, names, tokens, tokens, hscan, namesIn_scan_append hafter,
    namesIn_scan_of_blanks hbefore, Text.trim, String.toList_ofList]

end RequestSuite.Template
