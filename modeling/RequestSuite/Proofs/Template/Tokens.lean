import Mathlib.Data.List.Chain
import Mathlib.Data.List.TakeWhile
import RequestSuite.Template.Token

/-!
# The one reading of a template

A template is read from left to right into texts, escapes and placeholders.  What a reading has to
be is said without the scanner (`IsReading`): nothing is lost, a placeholder is read as far as it
goes, no text hides a placeholder, and a backslash is an escape just before a placeholder and
nowhere else.  Every template has exactly one reading, and it is the one that the scanner finds.
-/

namespace RequestSuite.Template

/-- Whether characters make up a name. -/
def IsName : List Char → Prop
  | [] => False
  | c :: rest => isNameStart c = true ∧ ∀ d ∈ rest, isWordChar d = true

/-- No name goes on at the start of a text. -/
def EndsName (rest : List Char) : Prop :=
  ∀ c ∈ rest.head?, isWordChar c = false

/-- Whether a placeholder starts here, just after a dollar sign. -/
def StartsPlaceholder (s : List Char) : Prop :=
  ∃ name rest, IsName name ∧ (s = name ++ rest ∨ s = '(' :: name ++ ')' :: rest)

/-- The text that a list of tokens was read from. -/
def source (ts : List Token) : List Char :=
  ts.flatMap Token.source

/-- Whether a token is text that stands for itself. -/
def Token.IsText : Token → Prop
  | .text _ => True
  | _ => False

/-- Whether there is an escape just after the tokens that were read from a text. -/
def EscapeAfter (ts : List Token) (u : List Char) : Prop :=
  ∃ before after, ts = before ++ .escape :: after ∧ source before = u

/-- What makes a list of tokens the reading of a template. -/
structure IsReading (s : List Char) (ts : List Token) : Prop where
  /-- Nothing is lost: the tokens make up the template. -/
  source_eq : source ts = s
  /-- What a placeholder names is a name. -/
  isName : ∀ name delimited, .variable name delimited ∈ ts → IsName name.toList
  /-- A bare name is as long as it can be. -/
  longest : ∀ before name after, ts = before ++ .variable name false :: after →
    EndsName (source after)
  /-- No text has a dollar sign with which a placeholder starts. -/
  plain : ∀ before u w after, ts = before ++ .text (u ++ '$' :: w) :: after →
    ¬ StartsPlaceholder (w ++ source after)
  /-- A backslash is an escape if and only if it stands directly before a placeholder. -/
  escaped : ∀ u v, s = u ++ '\\' :: v →
    (EscapeAfter ts u ↔ ∃ rest, v = '$' :: rest ∧ StartsPlaceholder rest)
  /-- No text is empty. -/
  nonempty : .text [] ∉ ts
  /-- No two texts follow each other. -/
  joined : ts.IsChain fun t t' => ¬ (t.IsText ∧ t'.IsText)

/-! ## Names and placeholders -/

theorem isWordChar_of_isNameStart {c : Char} (h : isNameStart c = true) :
    isWordChar c = true := by
  simp only [isNameStart, isWordChar, Char.isAlphanum, Bool.or_eq_true, beq_iff_eq] at h ⊢
  tauto

/-- The letters of names are the letters from a to z, the digits and the underscore. -/
theorem toNat_of_isWordChar {c : Char} (h : isWordChar c = true) :
    (65 ≤ c.toNat ∧ c.toNat ≤ 90) ∨ (97 ≤ c.toNat ∧ c.toNat ≤ 122) ∨
      (48 ≤ c.toNat ∧ c.toNat ≤ 57) ∨ c.toNat = 95 := by
  unfold isWordChar Char.isAlphanum Char.isAlpha Char.isUpper Char.isLower Char.isDigit at h
  simp only [Bool.or_eq_true, Bool.and_eq_true, decide_eq_true_eq, beq_iff_eq,
    UInt32.le_iff_toNat_le] at h
  rcases h with ((h | h) | h) | rfl
  · exact .inl h
  · exact .inr (.inl h)
  · exact .inr (.inr (.inl h))
  · exact .inr (.inr (.inr rfl))

theorem IsName.isWordChar {name : List Char} (h : IsName name) :
    ∀ c ∈ name, isWordChar c = true := by
  cases name with
  | nil => exact h.elim
  | cons c rest => exact List.forall_mem_cons.mpr ⟨isWordChar_of_isNameStart h.1, h.2⟩

/-- A name is found if it starts the text and does not go on after it. -/
theorem name?_eq_some_iff {s name rest : List Char} :
    name? s = some (name, rest) ↔ s = name ++ rest ∧ IsName name ∧ EndsName rest := by
  constructor
  · intro h
    cases s with
    | nil => cases h
    | cons c tail =>
      rw [name?] at h
      split at h
      · rename_i hstart
        simp only [Option.some.injEq, Prod.mk.injEq] at h
        obtain ⟨rfl, rfl⟩ := h
        refine ⟨?_, ⟨hstart, fun d hd => List.mem_takeWhile_imp hd⟩, fun d hd => ?_⟩
        · rw [List.cons_append, List.takeWhile_append_dropWhile]
        · have := List.head?_dropWhile_not isWordChar tail
          rw [Option.mem_def.mp hd] at this
          exact this
      · cases h
  · rintro ⟨rfl, hname, hrest⟩
    cases name with
    | nil => exact hname.elim
    | cons c letters =>
      have htake : rest.takeWhile isWordChar = [] := by
        cases rest with
        | nil => rfl
        | cons d tail => rw [List.takeWhile_cons_of_neg]; simp [hrest d rfl]
      have hdrop : rest.dropWhile isWordChar = rest := by
        cases rest with
        | nil => rfl
        | cons d tail => rw [List.dropWhile_cons_of_neg]; simp [hrest d rfl]
      rw [List.cons_append, name?, if_pos hname.1, List.takeWhile_append_of_pos hname.2,
        List.dropWhile_append_of_pos hname.2, htake, hdrop, List.append_nil]

/-- The text of a placeholder after its dollar sign. -/
def Placeholder.chars (p : Placeholder) : List Char :=
  if p.delimited then '(' :: p.name ++ [')'] else p.name

/-- A placeholder is found if it starts the text and its name, if bare, does not go on after it. -/
theorem placeholder?_eq_some_iff {s rest : List Char} {p : Placeholder} :
    placeholder? s = some (p, rest) ↔
      s = p.chars ++ rest ∧ IsName p.name ∧ (p.delimited = false → EndsName rest) := by
  constructor
  · intro h
    unfold placeholder? at h
    split at h
    · split at h
      · rename_i name after hname
        obtain ⟨hs, hisName, -⟩ := name?_eq_some_iff.mp hname
        cases h
        exact ⟨by simp [Placeholder.chars, hs], hisName, nofun⟩
      · cases h
    · obtain ⟨⟨name, after⟩, hname, hp⟩ := Option.map_eq_some_iff.mp h
      obtain ⟨hs, hisName, hends⟩ := name?_eq_some_iff.mp hname
      cases hp
      exact ⟨hs, hisName, fun _ => hends⟩
  · rintro ⟨rfl, hname, hrest⟩
    obtain ⟨name, delimited⟩ := p
    cases delimited with
    | true =>
      have hclosed : name? (name ++ ')' :: rest) = some (name, ')' :: rest) :=
        name?_eq_some_iff.mpr ⟨rfl, hname, by simp [EndsName]; decide⟩
      simp [Placeholder.chars, placeholder?, hclosed]
    | false =>
      have hbare : name? (name ++ rest) = some (name, rest) :=
        name?_eq_some_iff.mpr ⟨rfl, hname, hrest rfl⟩
      cases name with
      | nil => exact hname.elim
      | cons c letters =>
        -- A name does not start with a parenthesis, so the bare form is the one tried.
        have hc : c ≠ '(' := by
          rintro rfl
          exact absurd hname.1 (by decide)
        simp only [Placeholder.chars, Bool.false_eq_true, if_false, List.cons_append] at hbare ⊢
        rw [placeholder?]
        · rw [hbare]
          rfl
        · exact fun tail htail => hc (List.cons.inj htail).1

/-- Some placeholder is found just where one starts. -/
theorem isSome_placeholder?_iff {s : List Char} :
    (placeholder? s).isSome = true ↔ StartsPlaceholder s := by
  constructor
  · intro h
    obtain ⟨⟨p, rest⟩, hp⟩ := Option.isSome_iff_exists.mp h
    obtain ⟨rfl, hname, -⟩ := placeholder?_eq_some_iff.mp hp
    obtain ⟨name, delimited⟩ := p
    cases delimited with
    | true => exact ⟨name, rest, hname, .inr (by simp [Placeholder.chars])⟩
    | false => exact ⟨name, rest, hname, .inl rfl⟩
  · rintro ⟨name, rest, hname, rfl | rfl⟩
    · -- A bare name is found together with the letters that follow it.
      have hlonger : placeholder? (name ++ rest) =
          some (⟨name ++ rest.takeWhile isWordChar, false⟩, rest.dropWhile isWordChar) := by
        refine placeholder?_eq_some_iff.mpr ⟨?_, ?_, fun _ c hc => ?_⟩
        · simp [Placeholder.chars]
        · cases name with
          | nil => exact hname.elim
          | cons c letters =>
            refine ⟨hname.1, fun d hd => ?_⟩
            rcases List.mem_append.mp hd with hd | hd
            · exact hname.2 d hd
            · exact List.mem_takeWhile_imp hd
        · have := List.head?_dropWhile_not isWordChar rest
          rw [Option.mem_def.mp hc] at this
          exact this
      rw [hlonger]
      rfl
    · have hfound : placeholder? ('(' :: name ++ ')' :: rest) = some (⟨name, true⟩, rest) :=
        placeholder?_eq_some_iff.mpr ⟨by simp [Placeholder.chars], hname, nofun⟩
      rw [hfound]
      rfl

/-- What starts a placeholder is the text of one, found there or only a first part of it. -/
theorem startsPlaceholder_iff {s : List Char} : StartsPlaceholder s ↔
    ∃ (p : Placeholder) (rest : List Char), IsName p.name ∧ s = p.chars ++ rest := by
  constructor
  · rintro ⟨name, rest, hname, rfl | rfl⟩
    · exact ⟨⟨name, false⟩, rest, hname, rfl⟩
    · exact ⟨⟨name, true⟩, rest, hname, by simp [Placeholder.chars]⟩
  · rintro ⟨⟨name, delimited⟩, rest, hname, rfl⟩
    cases delimited with
    | true => exact ⟨name, rest, hname, .inr (by simp [Placeholder.chars])⟩
    | false => exact ⟨name, rest, hname, .inl rfl⟩

theorem placeholderChars_eq (p : Placeholder) :
    placeholderChars (String.ofList p.name) p.delimited = '$' :: p.chars := by
  rw [placeholderChars, Placeholder.chars, String.toList_ofList]
  cases p.delimited <;> rfl

/-! ## One step of the scanner -/

/-- Neither an escape nor a placeholder starts with this character before this text. -/
def IsPlain (c : Char) (s : List Char) : Prop :=
  (c = '$' → ¬ StartsPlaceholder s) ∧
    ∀ rest, c = '\\' → s = '$' :: rest → ¬ StartsPlaceholder rest

@[simp] theorem scan_nil : scan [] = [] := by
  rw [scan]

theorem scan_escape {s : List Char} (h : StartsPlaceholder s) :
    scan ('\\' :: '$' :: s) = .escape :: scan s := by
  rw [scan, if_pos (isSome_placeholder?_iff.mpr h)]

theorem scan_variable {s rest : List Char} {p : Placeholder}
    (h : placeholder? s = some (p, rest)) :
    scan ('$' :: s) = .variable (String.ofList p.name) p.delimited :: scan rest := by
  rw [scan]
  · simp only [if_true]
    split
    · rename_i p' rest' h'
      cases h.symm.trans h'
      rfl
    · rename_i h'
      cases h.symm.trans h'
  · exact fun _ hc => absurd hc (by decide)

theorem scan_char {c : Char} {s : List Char} (h : IsPlain c s) :
    scan (c :: s) = pushChar c (scan s) := by
  by_cases hescape : c = '\\' ∧ ∃ rest, s = '$' :: rest
  · obtain ⟨rfl, rest, rfl⟩ := hescape
    rw [scan, if_neg]
    exact fun hfound => h.2 rest rfl rfl (isSome_placeholder?_iff.mp hfound)
  · rw [scan]
    · split
      · rename_i hdollar
        split
        · rename_i p rest hfound
          exact absurd (isSome_placeholder?_iff.mp (hfound ▸ rfl)) (h.1 hdollar)
        · rfl
      · rfl
    · exact fun rest hc hs => hescape ⟨hc, rest, hs⟩

/-- What is kept by each way in which the scanner goes on holds of every template. -/
theorem scan_induction {motive : List Char → List Token → Prop} (nil : motive [] [])
    (escape : ∀ s, StartsPlaceholder s → motive s (scan s) →
      motive ('\\' :: '$' :: s) (.escape :: scan s))
    (placeholder : ∀ (p : Placeholder) rest, IsName p.name →
      (p.delimited = false → EndsName rest) → motive rest (scan rest) →
      motive ('$' :: (p.chars ++ rest))
        (.variable (String.ofList p.name) p.delimited :: scan rest))
    (char : ∀ c s, IsPlain c s → motive s (scan s) → motive (c :: s) (pushChar c (scan s)))
    (s : List Char) : motive s (scan s) := by
  induction hn : s.length using Nat.strong_induction_on generalizing s with
  | _ n ih =>
    subst hn
    have shorter (t : List Char) (ht : t.length < s.length) : motive t (scan t) :=
      ih t.length ht t rfl
    cases s with
    | nil =>
      rw [scan_nil]
      exact nil
    | cons c tail =>
      by_cases hdollar : c = '$' ∧ StartsPlaceholder tail
      · obtain ⟨rfl, hstarts⟩ := hdollar
        obtain ⟨⟨p, rest⟩, hp⟩ := Option.isSome_iff_exists.mp (isSome_placeholder?_iff.mpr hstarts)
        rw [scan_variable hp]
        have hrest := shorter rest (Nat.lt_succ_of_lt (placeholder?_length hp))
        obtain ⟨rfl, hname, hends⟩ := placeholder?_eq_some_iff.mp hp
        exact placeholder p rest hname hends hrest
      · by_cases hescape : c = '\\' ∧ ∃ rest, tail = '$' :: rest ∧ StartsPlaceholder rest
        · obtain ⟨rfl, rest, rfl, hstarts⟩ := hescape
          rw [scan_escape hstarts]
          exact escape rest hstarts (shorter rest (by simp only [List.length_cons]; omega))
        · have hplain : IsPlain c tail :=
            ⟨fun hc hs => hdollar ⟨hc, hs⟩, fun rest hc ht hs => hescape ⟨hc, rest, ht, hs⟩⟩
          rw [scan_char hplain]
          exact char c tail hplain (shorter tail (Nat.lt_succ_self _))

/-! ## Tokens and their text -/

@[simp] theorem source_nil : source [] = [] := rfl

@[simp] theorem source_cons (t : Token) (ts : List Token) :
    source (t :: ts) = t.source ++ source ts :=
  List.flatMap_cons

@[simp] theorem source_append (ts ts' : List Token) : source (ts ++ ts') = source ts ++ source ts' :=
  List.flatMap_append

@[simp] theorem source_pushChar (c : Char) (ts : List Token) :
    source (pushChar c ts) = c :: source ts := by
  unfold pushChar
  split <;> rfl

theorem source_ne_nil {t : Token} (h : t ≠ .text []) : t.source ≠ [] := by
  rcases t with cs | _ | ⟨name, delimited⟩
  · exact fun hcs => h (congrArg Token.text hcs)
  · exact List.cons_ne_nil _ _
  · cases delimited <;> exact List.cons_ne_nil _ _

/-- A list that starts with other elements has an element only after them. -/
theorem exists_of_append_eq {x : Char} {a b u v : List Char} (hx : x ∉ a)
    (h : a ++ b = u ++ x :: v) : ∃ u', u = a ++ u' ∧ b = u' ++ x :: v := by
  induction a generalizing u with
  | nil => exact ⟨u, rfl, h⟩
  | cons c rest ih =>
    obtain ⟨hc, hrest⟩ := List.ne_and_not_mem_of_not_mem_cons hx
    cases u with
    | nil => exact absurd (List.cons.inj h).1.symm hc
    | cons d u =>
      obtain ⟨rfl, htail⟩ := List.cons.inj h
      obtain ⟨u', rfl, hb⟩ := ih hrest htail
      exact ⟨u', rfl, hb⟩

/-- A token of a list with a character put in front is the text that starts with it, or was there
before. -/
theorem split_pushChar {c : Char} {ts before after : List Token} {t : Token}
    (h : pushChar c ts = before ++ t :: after) :
    (before = [] ∧ ∃ cs, t = .text (c :: cs) ∧ (ts = .text cs :: after ∨ cs = [] ∧ ts = after)) ∨
      ∃ before', ts = before' ++ t :: after ∧ source before = c :: source before' := by
  unfold pushChar at h
  split at h
  · rename_i cs rest
    rcases List.cons_eq_append_iff.mp h with ⟨rfl, heq⟩ | ⟨before', rfl, rfl⟩
    · obtain ⟨rfl, rfl⟩ := List.cons.inj heq
      exact .inl ⟨rfl, cs, rfl, .inl rfl⟩
    · exact .inr ⟨.text cs :: before', rfl, rfl⟩
  · rcases List.cons_eq_append_iff.mp h with ⟨rfl, heq⟩ | ⟨before', rfl, rfl⟩
    · obtain ⟨rfl, rfl⟩ := List.cons.inj heq
      exact .inl ⟨rfl, [], rfl, .inr ⟨rfl, rfl⟩⟩
    · exact .inr ⟨before', rfl, rfl⟩

theorem pushChar_append_escape (c : Char) (before after : List Token) :
    pushChar c (before ++ .escape :: after) = pushChar c before ++ .escape :: after := by
  rcases before with _ | ⟨t, before⟩
  · rfl
  · cases t <;> rfl

theorem escapeAfter_cons {t : Token} {ts : List Token} {u : List Char} (ht : t ≠ .text []) :
    EscapeAfter (t :: ts) (t.source ++ u) ↔ EscapeAfter ts u := by
  constructor
  · rintro ⟨before, after, hsplit, hsource⟩
    rcases List.cons_eq_append_iff.mp hsplit with ⟨rfl, -⟩ | ⟨before', rfl, hts⟩
    · exact absurd (List.append_eq_nil_iff.mp hsource.symm).1 (source_ne_nil ht)
    · rw [source_cons] at hsource
      exact ⟨before', after, hts, List.append_cancel_left hsource⟩
  · rintro ⟨before, after, rfl, rfl⟩
    exact ⟨t :: before, after, rfl, source_cons t before⟩

theorem escapeAfter_nil {t : Token} {ts : List Token} (ht : t ≠ .text []) :
    EscapeAfter (t :: ts) [] ↔ t = .escape := by
  constructor
  · rintro ⟨before, after, hsplit, hsource⟩
    rcases List.cons_eq_append_iff.mp hsplit with ⟨rfl, heq⟩ | ⟨before', rfl, -⟩
    · exact (List.cons.inj heq).1.symm
    · rw [source_cons] at hsource
      exact absurd (List.append_eq_nil_iff.mp hsource).1 (source_ne_nil ht)
  · rintro rfl
    exact ⟨[], ts, rfl, rfl⟩

theorem escapeAfter_pushChar {c : Char} {ts : List Token} {u : List Char} :
    EscapeAfter (pushChar c ts) (c :: u) ↔ EscapeAfter ts u := by
  constructor
  · rintro ⟨before, after, hsplit, hsource⟩
    rcases split_pushChar hsplit with ⟨rfl, -⟩ | ⟨before', hts, hbefore⟩
    · cases hsource
    · exact ⟨before', after, hts, (List.cons.inj (hbefore.symm.trans hsource)).2⟩
  · rintro ⟨before, after, rfl, rfl⟩
    exact ⟨pushChar c before, after, pushChar_append_escape c before after,
      source_pushChar c before⟩

theorem not_escapeAfter_pushChar_nil {c : Char} {ts : List Token} :
    ¬ EscapeAfter (pushChar c ts) [] := by
  rintro ⟨before, after, hsplit, hsource⟩
  rcases split_pushChar hsplit with ⟨-, cs, ht, -⟩ | ⟨before', -, hbefore⟩
  · cases ht
  · cases hbefore.symm.trans hsource

/-! ## The scanner finds a reading -/

/-- A placeholder has nothing but letters of names and parentheses after its dollar sign. -/
theorem Placeholder.of_mem_chars {p : Placeholder} (h : IsName p.name) {c : Char}
    (hc : c ∈ p.chars) : isWordChar c = true ∨ c = '(' ∨ c = ')' := by
  rw [chars] at hc
  split at hc
  · rcases List.mem_cons.mp hc with rfl | hc
    · exact .inr (.inl rfl)
    · rcases List.mem_append.mp hc with hc | hc
      · exact .inl (h.isWordChar c hc)
      · exact .inr (.inr (List.mem_singleton.mp hc))
  · exact .inl (h.isWordChar c hc)

theorem Placeholder.dollar_not_mem {p : Placeholder} (h : IsName p.name) : '$' ∉ p.chars :=
  fun hmem => absurd (of_mem_chars h hmem) (by decide)

theorem Placeholder.backslash_not_mem {p : Placeholder} (h : IsName p.name) : '\\' ∉ p.chars :=
  fun hmem => absurd (of_mem_chars h hmem) (by decide)

theorem source_scan (s : List Char) : source (scan s) = s := by
  induction s using scan_induction with
  | nil => rfl
  | escape s _ ih => rw [source_cons, ih]; rfl
  | placeholder p rest _ _ ih =>
    rw [source_cons, ih, Token.source, placeholderChars_eq, List.cons_append]
  | char c s _ ih => rw [source_pushChar, ih]

/-- A template that is read as one placeholder is the text of this placeholder. -/
theorem toList_of_tokens {s name : String} {delimited : Bool}
    (h : tokens s = [.variable name delimited]) : s.toList = placeholderChars name delimited := by
  rw [← source_scan s.toList, ← tokens, h, source_cons, source_nil, List.append_nil, Token.source]

theorem isName_scan (s : List Char) :
    ∀ name delimited, .variable name delimited ∈ scan s → IsName name.toList := by
  induction s using scan_induction with
  | nil => exact nofun
  | escape s _ ih =>
    intro name delimited hmem
    exact ih name delimited ((List.mem_cons.mp hmem).resolve_left nofun)
  | placeholder p rest hname _ ih =>
    intro name delimited hmem
    rcases List.mem_cons.mp hmem with heq | hmem
    · cases heq
      rwa [String.toList_ofList]
    · exact ih name delimited hmem
  | char c s _ ih =>
    intro name delimited hmem
    obtain ⟨before, after, hsplit⟩ := List.append_of_mem hmem
    rcases split_pushChar hsplit with ⟨-, cs, ht, -⟩ | ⟨before', hts, -⟩
    · cases ht
    · exact ih name delimited (hts ▸ List.mem_append_right _ List.mem_cons_self)

theorem longest_scan (s : List Char) : ∀ before name after,
    scan s = before ++ .variable name false :: after → EndsName (source after) := by
  induction s using scan_induction with
  | nil => intro before name after h; exact absurd h.symm (by simp)
  | escape s _ ih =>
    intro before name after hsplit
    rcases List.cons_eq_append_iff.mp hsplit with ⟨-, heq⟩ | ⟨before', -, hts⟩
    · cases heq
    · exact ih before' name after hts
  | placeholder p rest _ hends ih =>
    intro before name after hsplit
    rcases List.cons_eq_append_iff.mp hsplit with ⟨-, heq⟩ | ⟨before', -, hts⟩
    · obtain ⟨ht, rfl⟩ := List.cons.inj heq
      rw [source_scan]
      exact hends (Token.variable.inj ht).2.symm
    · exact ih before' name after hts
  | char c s _ ih =>
    intro before name after hsplit
    rcases split_pushChar hsplit with ⟨-, cs, ht, -⟩ | ⟨before', hts, -⟩
    · cases ht
    · exact ih before' name after hts

theorem plain_scan (s : List Char) : ∀ before u w after,
    scan s = before ++ .text (u ++ '$' :: w) :: after →
      ¬ StartsPlaceholder (w ++ source after) := by
  induction s using scan_induction with
  | nil => intro before u w after h; exact absurd h.symm (by simp)
  | escape s _ ih =>
    intro before u w after hsplit
    rcases List.cons_eq_append_iff.mp hsplit with ⟨-, heq⟩ | ⟨before', -, hts⟩
    · cases heq
    · exact ih before' u w after hts
  | placeholder p rest _ hends ih =>
    intro before u w after hsplit
    rcases List.cons_eq_append_iff.mp hsplit with ⟨-, heq⟩ | ⟨before', -, hts⟩
    · cases heq
    · exact ih before' u w after hts
  | char c s hplain ih =>
    intro before u w after hsplit
    rcases split_pushChar hsplit with ⟨-, cs, ht, hts⟩ | ⟨before', hts, -⟩
    · have hchars : u ++ '$' :: w = c :: cs := Token.text.inj ht
      cases u with
      | nil =>
        obtain ⟨rfl, rfl⟩ := List.cons.inj hchars
        have hrest : w ++ source after = s := by
          rw [← source_scan s]
          rcases hts with hts | ⟨rfl, hts⟩ <;> rw [hts] <;> rfl
        rw [hrest]
        exact hplain.1 rfl
      | cons d u =>
        obtain ⟨-, rfl⟩ := List.cons.inj hchars
        rcases hts with hts | ⟨hnil, -⟩
        · exact ih [] u w after hts
        · exact absurd hnil (by simp)
    · exact ih before' u w after hts

theorem escaped_scan (s : List Char) : ∀ u v, s = u ++ '\\' :: v →
    (EscapeAfter (scan s) u ↔ ∃ rest, v = '$' :: rest ∧ StartsPlaceholder rest) := by
  induction s using scan_induction with
  | nil => intro u v h; exact absurd h.symm (by simp)
  | escape s hstarts ih =>
    intro u v hsplit
    cases u with
    | nil =>
      obtain ⟨-, rfl⟩ := List.cons.inj hsplit
      rw [escapeAfter_nil (t := .escape) nofun]
      exact ⟨fun _ => ⟨s, rfl, hstarts⟩, fun _ => rfl⟩
    | cons d u =>
      obtain ⟨rfl, htail⟩ := List.cons.inj hsplit
      obtain ⟨u', rfl, hs⟩ := exists_of_append_eq (a := ['$']) (by decide) htail
      exact (escapeAfter_cons (t := .escape) nofun).trans (ih u' v hs)
  | placeholder p rest hname _ ih =>
    intro u v hsplit
    have hnone : '\\' ∉ '$' :: p.chars := by
      intro hmem
      rcases List.mem_cons.mp hmem with h | h
      · cases h
      · exact Placeholder.backslash_not_mem hname h
    obtain ⟨u', rfl, hrest⟩ := exists_of_append_eq hnone hsplit
    have hne : Token.variable (String.ofList p.name) p.delimited ≠ .text [] := nofun
    rw [← placeholderChars_eq]
    exact (escapeAfter_cons hne).trans (ih u' v hrest)
  | char c s hplain ih =>
    intro u v hsplit
    cases u with
    | nil =>
      obtain ⟨rfl, rfl⟩ := List.cons.inj hsplit
      refine ⟨fun h => absurd h not_escapeAfter_pushChar_nil, ?_⟩
      rintro ⟨rest, rfl, hstarts⟩
      exact absurd hstarts (hplain.2 rest rfl rfl)
    | cons d u =>
      obtain ⟨rfl, rfl⟩ := List.cons.inj hsplit
      exact escapeAfter_pushChar.trans (ih u v rfl)

theorem nonempty_scan (s : List Char) : .text [] ∉ scan s := by
  induction s using scan_induction with
  | nil => exact nofun
  | escape s _ ih => exact fun h => ih ((List.mem_cons.mp h).resolve_left nofun)
  | placeholder p rest _ _ ih => exact fun h => ih ((List.mem_cons.mp h).resolve_left nofun)
  | char c s _ ih =>
    intro hmem
    obtain ⟨before, after, hsplit⟩ := List.append_of_mem hmem
    rcases split_pushChar hsplit with ⟨-, cs, ht, -⟩ | ⟨before', hts, -⟩
    · cases ht
    · exact ih (hts ▸ List.mem_append_right _ List.mem_cons_self)

theorem joined_scan (s : List Char) :
    (scan s).IsChain fun t t' => ¬ (t.IsText ∧ t'.IsText) := by
  induction s using scan_induction with
  | nil => exact .nil
  | escape s _ ih => exact List.isChain_cons.mpr ⟨fun _ _ h => h.1, ih⟩
  | placeholder p rest _ _ ih => exact List.isChain_cons.mpr ⟨fun _ _ h => h.1, ih⟩
  | char c s _ ih =>
    unfold pushChar
    split
    · rename_i cs rest heq
      rw [heq] at ih
      exact List.isChain_cons.mpr (List.isChain_cons.mp ih)
    · rename_i hnot
      refine List.isChain_cons.mpr ⟨fun t ht h => ?_, ih⟩
      obtain ⟨rest, hrest⟩ := List.head?_eq_some_iff.mp ht
      cases t with
      | text cs => exact hnot cs rest hrest
      | escape => exact h.2
      | «variable» name delimited => exact h.2

theorem isReading_scan (s : List Char) : IsReading s (scan s) where
  source_eq := source_scan s
  isName := isName_scan s
  longest := longest_scan s
  plain := plain_scan s
  escaped := escaped_scan s
  nonempty := nonempty_scan s
  joined := joined_scan s

/-! ## There is no other reading -/

namespace IsReading

variable {s : List Char} {t : Token} {ts : List Token}

/-- What is left of a reading without its first token is a reading of the text that is left. -/
theorem tail (h : IsReading s (t :: ts)) : IsReading (source ts) ts where
  source_eq := rfl
  isName name delimited hmem := h.isName name delimited (List.mem_cons_of_mem t hmem)
  longest before name after hts := h.longest (t :: before) name after (congrArg (t :: ·) hts)
  plain before u w after hts := h.plain (t :: before) u w after (congrArg (t :: ·) hts)
  escaped u v hs := by
    have ht : t ≠ .text [] := fun ht => h.nonempty (ht ▸ List.mem_cons_self)
    have hwhole : s = (t.source ++ u) ++ '\\' :: v := by
      rw [← h.source_eq, source_cons, hs, List.append_assoc]
    exact (escapeAfter_cons ht).symm.trans (h.escaped (t.source ++ u) v hwhole)
  nonempty hmem := h.nonempty (List.mem_cons_of_mem t hmem)
  joined := (List.isChain_cons.mp h.joined).2

/-- A placeholder in front of a reading is what the scanner finds there. -/
theorem scan_placeholder {name : String} {delimited : Bool}
    (h : IsReading s (.variable name delimited :: ts)) :
    scan s = .variable name delimited :: scan (source ts) := by
  have hfound : placeholder? ((⟨name.toList, delimited⟩ : Placeholder).chars ++ source ts) =
      some (⟨name.toList, delimited⟩, source ts) := by
    refine placeholder?_eq_some_iff.mpr ⟨rfl, h.isName name delimited List.mem_cons_self, ?_⟩
    rintro rfl
    exact h.longest [] name ts rfl
  have hsource := placeholderChars_eq ⟨name.toList, delimited⟩
  rw [String.ofList_toList] at hsource
  rw [← h.source_eq, source_cons, Token.source, hsource, List.cons_append, scan_variable hfound,
    String.ofList_toList]

theorem scan_escape (h : IsReading s (.escape :: ts)) :
    scan s = .escape :: scan (source ts) := by
  have hs : s = '\\' :: '$' :: source ts := h.source_eq.symm
  obtain ⟨rest, hrest, hstarts⟩ := (h.escaped [] _ hs).mp ⟨[], ts, rfl, rfl⟩
  cases hrest
  rw [hs, Template.scan_escape hstarts]

/-- No character of a text in front of a reading starts anything else. -/
theorem isPlain {u v : List Char} {c : Char} (h : IsReading s (.text (u ++ c :: v) :: ts)) :
    IsPlain c (v ++ source ts) := by
  constructor
  · rintro rfl
    exact h.plain [] u v ts rfl
  · rintro rest rfl hrest hstarts
    have hs : s = u ++ '\\' :: (v ++ source ts) := by
      rw [← h.source_eq, source_cons, Token.source, List.append_assoc, List.cons_append]
    obtain ⟨before, after, hsplit, hsource⟩ := (h.escaped u _ hs).mpr ⟨rest, hrest, hstarts⟩
    -- The escape would have to stand after the whole text, which reaches further than `u`.
    rcases List.cons_eq_append_iff.mp hsplit with ⟨-, heq⟩ | ⟨before', rfl, -⟩
    · cases heq
    · have hlength := congrArg List.length hsource
      simp [Token.source] at hlength

/-- The scanner goes through a text character by character. -/
theorem scan_text {cs : List Char} (h : IsReading s (.text cs :: ts))
    (hts : scan (source ts) = ts) : scan s = .text cs :: ts := by
  have hnext : ∀ t ∈ ts.head?, ¬ t.IsText := fun t ht htext =>
    (List.isChain_cons.mp h.joined).1 t ht ⟨trivial, htext⟩
  have hparts (u v : List Char) (huv : cs = u ++ v) (hv : v ≠ []) :
      scan (v ++ source ts) = .text v :: ts := by
    induction v generalizing u with
    | nil => exact absurd rfl hv
    | cons c v ih =>
      have hplain : IsPlain c (v ++ source ts) := isPlain (huv ▸ h)
      rw [List.cons_append, scan_char hplain]
      cases v with
      | nil =>
        rw [List.nil_append, hts]
        cases ts with
        | nil => rfl
        | cons t rest =>
          cases t with
          | text => exact absurd trivial (hnext _ rfl)
          | escape => rfl
          | «variable» => rfl
      | cons d v =>
        rw [ih (u ++ [c]) (by rw [huv, List.append_assoc]; rfl) (List.cons_ne_nil d v)]
        rfl
  have hcs : cs ≠ [] := by
    rintro rfl
    exact h.nonempty List.mem_cons_self
  rw [← h.source_eq, source_cons]
  exact hparts [] cs rfl hcs

theorem eq_scan (h : IsReading s ts) : ts = scan s := by
  induction ts generalizing s with
  | nil =>
    rw [← h.source_eq]
    exact scan_nil.symm
  | cons t ts ih =>
    have hrest := ih h.tail
    cases t with
    | text cs => exact (h.scan_text hrest.symm).symm
    | escape => rw [h.scan_escape, ← hrest]
    | «variable» name delimited => rw [h.scan_placeholder, ← hrest]

end IsReading

end RequestSuite.Template
