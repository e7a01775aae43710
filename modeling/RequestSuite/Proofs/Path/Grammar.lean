import Mathlib.Data.List.TakeWhile
import RequestSuite.Proofs.Path.Address

/-!
# The grammar of paths

A path is a dollar sign followed by segments, and each segment stands for a step.  Which texts are
segments is said without the reader (`IsSegment`).  A text is accepted if and only if it is a path
of this grammar, blanks around it aside, and it can be read in one way only (`parse_iff_source`).
A character that makes the reader give up stands directly behind a shorter path.
-/

namespace RequestSuite

/-! ## Whole numbers -/

namespace Text

/-- Whether a text is a whole number: decimal digits, at least one, with an optional sign. -/
inductive IsInteger : List Char → Int → Prop where
  | unsigned {digits : List Char} (hne : digits ≠ [])
    (hdigits : ∀ c ∈ digits, c.isDigit = true) :
    IsInteger digits (Nat.ofDigitChars 10 digits 0)
  | plus {digits : List Char} (hne : digits ≠ []) (hdigits : ∀ c ∈ digits, c.isDigit = true) :
    IsInteger ('+' :: digits) (Nat.ofDigitChars 10 digits 0)
  | minus {digits : List Char} (hne : digits ≠ []) (hdigits : ∀ c ∈ digits, c.isDigit = true) :
    IsInteger ('-' :: digits) (-Nat.ofDigitChars 10 digits 0)

theorem readNat?_eq_some_iff {s : List Char} {n : Nat} : readNat? s = some n ↔
    s ≠ [] ∧ (∀ c ∈ s, c.isDigit = true) ∧ Nat.ofDigitChars 10 s 0 = n := by
  constructor
  · intro h
    unfold readNat? at h
    split at h
    · rename_i hs
      rw [Bool.and_eq_true, Bool.not_eq_true', List.isEmpty_eq_false_iff, List.all_eq_true] at hs
      rw [Decimal.readDigits_eq_ofDigitChars hs.2] at h
      exact ⟨hs.1, hs.2, Option.some.inj h⟩
    · cases h
  · rintro ⟨hne, hdigits, rfl⟩
    have hs : (!s.isEmpty && s.all Char.isDigit) = true := by
      rw [Bool.and_eq_true, Bool.not_eq_true', List.isEmpty_eq_false_iff, List.all_eq_true]
      exact ⟨hne, hdigits⟩
    rw [readNat?, if_pos hs, Decimal.readDigits_eq_ofDigitChars hdigits]

theorem readInt?_eq_some_iff {s : List Char} {i : Int} : readInt? s = some i ↔ IsInteger s i := by
  constructor
  · intro h
    unfold readInt? at h
    split at h
    all_goals
      obtain ⟨_, hread, rfl⟩ := Option.map_eq_some_iff.mp h
      obtain ⟨n, hn, hcast⟩ := Option.bind_eq_some_iff.mp hread
      obtain ⟨hne, hdigits, rfl⟩ := readNat?_eq_some_iff.mp hn
      obtain rfl := Option.some.inj hcast
    · exact .minus hne hdigits
    · exact .plus hne hdigits
    · exact .unsigned hne hdigits
  · rintro (⟨hne, hdigits⟩ | ⟨hne, hdigits⟩ | ⟨hne, hdigits⟩)
    all_goals have hread := readNat?_eq_some_iff.mpr ⟨hne, hdigits, rfl⟩
    · -- A digit is no sign, so the text is read without one.
      unfold readInt?
      split
      · exact absurd (hdigits '-' List.mem_cons_self) (by decide)
      · exact absurd (hdigits '+' List.mem_cons_self) (by decide)
      · rw [hread]
        rfl
    · rw [readInt?, hread]
      rfl
    · rw [readInt?, hread]
      rfl

theorem readInt64?_eq_some_iff {s : List Char} {i : Int} :
    readInt64? s = some i ↔ IsInteger s i ∧ FitsInt64 i := by
  rw [readInt64?, Option.filter_eq_some_iff, readInt?_eq_some_iff, Bool.and_eq_true,
    decide_eq_true_eq, decide_eq_true_eq]
  rfl

end Text

namespace Path

/-! ## Segments -/

/-- Whether a text is a segment that stands for a step. -/
inductive IsSegment : List Char → Step → Prop where
  /-- a point and a star -/
  | pointStar : IsSegment ['.', '*'] .wildcard
  /-- a point and a name -/
  | name {name : List Char} (hne : name ≠ []) (hpoint : '.' ∉ name) (hbracket : '[' ∉ name)
    (hstar : name.head? ≠ some '*') : IsSegment ('.' :: name) (.key (String.ofList name))
  /-- a text between quotation marks of one kind, in brackets -/
  | quoted {quote : Char} {name : List Char} (hquote : quote = '\'' ∨ quote = '"')
    (hname : quote ∉ name) :
    IsSegment ('[' :: quote :: (name ++ [quote, ']'])) (.key (String.ofList name))
  /-- a star in brackets, with blanks around it -/
  | star {inner : List Char} (hinner : IsUnquoted inner) (hstar : Text.trimChars inner = ['*']) :
    IsSegment ('[' :: (inner ++ [']'])) .wildcard
  /-- a whole number of 64 bits in brackets, with blanks around it -/
  | index {inner : List Char} {i : Int} (hinner : IsUnquoted inner)
    (hinteger : Text.IsInteger (Text.trimChars inner) i) (hfits : Text.FitsInt64 i) :
    IsSegment ('[' :: (inner ++ [']'])) (.index i)

/-- A segment, with the step that it stands for. -/
@[ext] structure Segment where
  text : List Char
  step : Step
  isSegment : IsSegment text step

/-- The text of segments, one after the other. -/
def source (segs : List Segment) : List Char :=
  segs.flatMap Segment.text

@[simp] theorem source_nil : source [] = [] := rfl

@[simp] theorem source_cons (seg : Segment) (segs : List Segment) :
    source (seg :: segs) = seg.text ++ source segs :=
  List.flatMap_cons

@[simp] theorem source_append (segs rest : List Segment) :
    source (segs ++ rest) = source segs ++ source rest :=
  List.flatMap_append

/-- No name goes on at the start of a text. -/
def EndsName (rest : List Char) : Prop :=
  ∀ c ∈ rest.head?, isNameChar c = false

/-- A text does not end with a blank. -/
def EndsPlainly (s : List Char) : Prop :=
  ∀ c ∈ s.getLast?, Text.isBlank c = false

theorem endsPlainly_concat (s : List Char) {c : Char} (hc : Text.isBlank c = false) :
    EndsPlainly (s ++ [c]) := by
  intro d hd
  rw [List.getLast?_concat] at hd
  cases hd
  exact hc

theorem isNameChar_eq_true_iff {c : Char} : isNameChar c = true ↔ c ≠ '.' ∧ c ≠ '[' := by
  simp [isNameChar]

/-- A segment starts with a character that ends the name before it. -/
theorem IsSegment.exists_first {text : List Char} {step : Step} (h : IsSegment text step) :
    ∃ c s, text = c :: s ∧ isNameChar c = false := by
  cases h with
  | pointStar => exact ⟨'.', _, rfl, by decide⟩
  | name => exact ⟨'.', _, rfl, by decide⟩
  | quoted => exact ⟨'[', _, rfl, by decide⟩
  | star => exact ⟨'[', _, rfl, by decide⟩
  | index => exact ⟨'[', _, rfl, by decide⟩

theorem endsName_source (segs : List Segment) : EndsName (source segs) := by
  cases segs with
  | nil => exact fun _ hd => by cases hd
  | cons seg rest =>
    obtain ⟨c, s, htext, hc⟩ := seg.isSegment.exists_first
    intro d hd
    rw [source_cons, htext] at hd
    cases hd
    exact hc

/-! ## Reading one segment -/

theorem bracketStep?_eq_some_iff {inner : List Char} {step : Step} :
    bracketStep? inner = some step ↔
      (Text.trimChars inner = ['*'] ∧ .wildcard = step) ∨
        ∃ i, Text.IsInteger (Text.trimChars inner) i ∧ Text.FitsInt64 i ∧ .index i = step := by
  have hstar (i : Int) : ¬ Text.IsInteger ['*'] i := by
    intro h
    cases h with
    | unsigned _ hdigits => exact absurd (hdigits '*' List.mem_cons_self) (by decide)
  by_cases h : Text.trimChars inner = ['*']
  · simp [bracketStep?, h, hstar]
  · rw [bracketStep?, if_neg h, Option.map_eq_some_iff]
    simp only [Text.readInt64?_eq_some_iff, and_assoc, h, false_and, false_or]

/-- A text up to a character is what comes before its first occurrence. -/
theorem exists_of_dropWhile_ne {x c : Char} {s rest : List Char}
    (h : s.dropWhile (· != x) = c :: rest) :
    s = s.takeWhile (· != x) ++ x :: rest ∧ x ∉ s.takeWhile (· != x) := by
  have hfirst := List.head?_dropWhile_not (· != x) s
  rw [h] at hfirst
  obtain rfl : c = x := by simpa using hfirst
  refine ⟨?_, fun hmem => ?_⟩
  · rw [← h, List.takeWhile_append_dropWhile]
  · simpa using List.mem_takeWhile_imp hmem

section

variable {path s rest : List Char} {c : Char} {step : Step}

theorem segment_point (h : s.head? ≠ some '*') : segment path '.' s =
    if (s.takeWhile isNameChar).isEmpty then
      .error (.emptySegment (String.ofList path) (path.length - s.length))
    else .ok (.key (String.ofList (s.takeWhile isNameChar)), s.dropWhile isNameChar) := by
  unfold segment
  rw [if_pos rfl]
  split
  · exact absurd rfl h
  · rfl

/-- A segment at the start of a text is read if no name goes on after it. -/
theorem segment_of_isSegment (path : List Char) {text : List Char} (h : IsSegment text step)
    (hrest : EndsName rest) :
    ∃ c s, text ++ rest = c :: s ∧ segment path c s = .ok (step, rest) := by
  cases h with
  | pointStar => exact ⟨'.', '*' :: rest, rfl, by simp [segment]⟩
  | @name name hne hpoint hbracket hstar =>
    have hname : ∀ c ∈ name, isNameChar c = true := fun c hc =>
      isNameChar_eq_true_iff.mpr ⟨fun heq => hpoint (heq ▸ hc), fun heq => hbracket (heq ▸ hc)⟩
    have hend : rest.takeWhile isNameChar = [] ∧ rest.dropWhile isNameChar = rest := by
      cases rest with
      | nil => exact ⟨rfl, rfl⟩
      | cons d tail =>
        have hd : ¬ isNameChar d = true := by simp [hrest d rfl]
        exact ⟨List.takeWhile_cons_of_neg hd, List.dropWhile_cons_of_neg hd⟩
    have hhead : (name ++ rest).head? ≠ some '*' := by
      obtain ⟨d, tail, rfl⟩ := List.exists_cons_of_ne_nil hne
      exact hstar
    refine ⟨'.', name ++ rest, rfl, ?_⟩
    rw [segment_point hhead, List.takeWhile_append_of_pos hname, List.dropWhile_append_of_pos hname,
      hend.1, hend.2, List.append_nil, if_neg (by simpa using hne)]
  | @quoted quote name hquote hname =>
    refine ⟨'[', quote :: (name ++ quote :: ']' :: rest), by simp, ?_⟩
    rw [segment_bracket, bracket_quoted path hquote hname]
  | @star inner hinner hstar =>
    refine ⟨'[', inner ++ ']' :: rest, by simp, ?_⟩
    rw [segment_bracket, bracket_unquoted path hinner,
      bracketStep?_eq_some_iff.mpr (.inl ⟨hstar, rfl⟩)]
  | @index inner i hinner hinteger hfits =>
    refine ⟨'[', inner ++ ']' :: rest, by simp, ?_⟩
    rw [segment_bracket, bracket_unquoted path hinner,
      bracketStep?_eq_some_iff.mpr (.inr ⟨i, hinteger, hfits, rfl⟩)]

/-- What is read from behind an opening bracket: it is refused for the lack of a closing bracket or
for what stands in the brackets, or it is the rest of a segment. -/
theorem bracket_cases {result : Except PathError (Step × List Char)}
    (h : bracket path s = result) :
    result = .error (.unclosedBracket (String.ofList path)) ∨
      (∃ index, result = .error (.invalidIndex (String.ofList path) index)) ∨
      ∃ inner step rest, result = .ok (step, rest) ∧ s = inner ++ ']' :: rest ∧
        IsSegment ('[' :: (inner ++ [']'])) step := by
  unfold bracket at h
  cases s with
  | nil => exact .inl h.symm
  | cons quote tail =>
    simp only at h
    split at h
    · rename_i hquote
      split at h
      · rename_i after heq
        obtain ⟨htail, hname⟩ := exists_of_dropWhile_ne heq
        refine .inr (.inr ⟨quote :: (tail.takeWhile (· != quote) ++ [quote]), _, _, h.symm, ?_, ?_⟩)
        · simpa using htail
        · simpa using IsSegment.quoted hquote hname
      · exact .inl h.symm
    · rename_i hquote
      split at h
      · exact .inl h.symm
      · rename_i heq
        obtain ⟨hs, hclose⟩ := exists_of_dropWhile_ne heq
        have hunquoted : IsUnquoted ((quote :: tail).takeWhile (· != ']')) := by
          refine ⟨hclose, fun d hd => ?_⟩
          have hhead : (quote :: tail).head? = some d := by
            rw [hs, List.head?_append, Option.mem_def.mp hd]
            rfl
          cases hhead
          exact hquote
        split at h
        · rename_i step hstep
          refine .inr (.inr ⟨_, step, _, h.symm, hs, ?_⟩)
          rcases bracketStep?_eq_some_iff.mp hstep with ⟨hstar, rfl⟩ | ⟨i, hinteger, hfits, rfl⟩
          · exact .star hunquoted hstar
          · exact .index hunquoted hinteger hfits
        · exact .inr (.inl ⟨_, h.symm⟩)

/-- The name that stands at the start of a text makes a segment with the point before it. -/
theorem isSegment_takeWhile (hne : s.takeWhile isNameChar ≠ []) (hstar : s.head? ≠ some '*') :
    IsSegment ('.' :: s.takeWhile isNameChar)
      (.key (String.ofList (s.takeWhile isNameChar))) := by
  have hname (d : Char) (hd : d ∈ s.takeWhile isNameChar) : d ≠ '.' ∧ d ≠ '[' :=
    isNameChar_eq_true_iff.mp (List.mem_takeWhile_imp hd)
  refine .name hne (fun hmem => (hname '.' hmem).1 rfl) (fun hmem => (hname '[' hmem).2 rfl) ?_
  intro hhead
  rw [List.head?_takeWhile] at hhead
  exact hstar (Option.filter_eq_some_iff.mp hhead).1

theorem endsName_dropWhile (s : List Char) : EndsName (s.dropWhile isNameChar) := by
  intro d hd
  have hfirst := List.head?_dropWhile_not isNameChar s
  rw [Option.mem_def.mp hd] at hfirst
  exact hfirst

/-- What is read is a segment.  Only a name can end with a blank, and it goes as far as it can. -/
theorem isSegment_of_segment (h : segment path c s = .ok (step, rest)) :
    ∃ text, IsSegment text step ∧ c :: s = text ++ rest ∧ (EndsName rest ∨ EndsPlainly text) := by
  unfold segment at h
  split at h
  · rename_i hc
    subst hc
    split at h
    · cases h
      exact ⟨_, .pointStar, rfl, .inr (endsPlainly_concat ['.'] (by decide))⟩
    · rename_i hother
      split at h
      · cases h
      · rename_i hempty
        cases h
        have hne : s.takeWhile isNameChar ≠ [] := by simpa using hempty
        have hstar : s.head? ≠ some '*' := by
          intro hhead
          obtain ⟨tail, hs⟩ := List.head?_eq_some_iff.mp hhead
          exact hother tail hs
        refine ⟨_, isSegment_takeWhile hne hstar, ?_, .inl (endsName_dropWhile s)⟩
        rw [List.cons_append, List.takeWhile_append_dropWhile]
  · split at h
    · rename_i hc
      subst hc
      rcases bracket_cases h with hbad | ⟨_, hbad⟩ | ⟨inner, _, _, hok, hs, hsegment⟩
      · cases hbad
      · cases hbad
      · cases hok
        exact ⟨_, hsegment, by simp [hs], .inr (endsPlainly_concat ('[' :: inner) (by decide))⟩
    · cases h

theorem segment_unexpected {shown : String} {found : Char} {position : Nat}
    (h : segment path c s = .error (.unexpectedChar shown found position)) :
    found = c ∧ isNameChar c = true ∧ shown = String.ofList path ∧
      position = path.length - (s.length + 1) := by
  unfold segment at h
  split at h
  · split at h
    · cases h
    · split at h
      · cases h
      · cases h
  · rename_i hpoint
    split at h
    · -- Nothing in brackets is refused as a character in the wrong place.
      rcases bracket_cases h with hother | ⟨_, hother⟩ | ⟨_, _, _, hother, _⟩ <;> cases hother
    · rename_i hbracket
      cases h
      exact ⟨rfl, isNameChar_eq_true_iff.mpr ⟨hpoint, hbracket⟩, rfl, rfl⟩

end

/-! ## Reading one segment after the other

By induction on what is left of the text: a segment is read off, and the rest of the text is read
like the whole. -/

section

variable {path s rest : List Char} {c : Char} {step : Step}

theorem segments_of_refused {e : PathError} (h : segment path c s = .error e) :
    segments path (c :: s) = .error e := by
  rw [segments_cons, h]
  rfl

theorem segments_of_read (h : segment path c s = .ok (step, rest)) :
    segments path (c :: s) = (segments path rest).map (step :: ·) := by
  rw [segments_cons, h]
  rfl

theorem segments_source (path : List Char) (segs : List Segment) :
    segments path (source segs) = .ok (segs.map Segment.step) := by
  induction segs with
  | nil => exact segments_nil path
  | cons seg rest ih =>
    obtain ⟨c, s, hs, hfirst⟩ := segment_of_isSegment path seg.isSegment (endsName_source rest)
    rw [source_cons, hs, segments_of_read hfirst, ih]
    rfl

/-- No text can be taken apart into segments in two ways. -/
theorem source_injective {segs segs' : List Segment} (h : source segs = source segs') :
    segs = segs' := by
  induction segs generalizing segs' with
  | nil =>
    cases segs' with
    | nil => rfl
    | cons seg' rest' =>
      obtain ⟨c, s, htext, -⟩ := seg'.isSegment.exists_first
      rw [source_cons, htext] at h
      cases h
  | cons seg rest ih =>
    cases segs' with
    | nil =>
      obtain ⟨c, s, htext, -⟩ := seg.isSegment.exists_first
      rw [source_cons, htext] at h
      cases h
    | cons seg' rest' =>
      rw [source_cons, source_cons] at h
      -- Both first segments are the one that is read at the start of the text.
      obtain ⟨c, s, hs, hfirst⟩ := segment_of_isSegment [] seg.isSegment (endsName_source rest)
      obtain ⟨c', s', hs', hfirst'⟩ :=
        segment_of_isSegment [] seg'.isSegment (endsName_source rest')
      obtain ⟨rfl, rfl⟩ := List.cons.inj (hs.symm.trans (h.trans hs'))
      obtain ⟨hstep, hrest⟩ := Prod.mk.inj (Except.ok.inj (hfirst.symm.trans hfirst'))
      have htext : seg.text = seg'.text := by
        rw [hrest] at h
        exact List.append_cancel_right h
      rw [Segment.ext htext hstep, ih hrest]

theorem segments_eq_ok_iff {steps : List Step} : segments path s = .ok steps ↔
    ∃ segs : List Segment, s = source segs ∧ segs.map Segment.step = steps := by
  constructor
  · intro h
    induction s using segments.induct path generalizing steps with
    | case1 =>
      rw [segments_nil] at h
      cases h
      exact ⟨[], rfl, rfl⟩
    | case2 c s e hfirst =>
      rw [segments_of_refused hfirst] at h
      cases h
    | case3 c s step rest hfirst ih =>
      rw [segments_of_read hfirst] at h
      obtain ⟨text, hsegment, hs, -⟩ := isSegment_of_segment hfirst
      rcases hrest : segments path rest with e | steps'
      · rw [hrest] at h
        cases h
      · rw [hrest] at h
        cases h
        obtain ⟨segs, rfl, rfl⟩ := ih hrest
        exact ⟨⟨text, step, hsegment⟩ :: segs, hs, rfl⟩
  · rintro ⟨segs, rfl, rfl⟩
    exact segments_source path segs

/-- A character in the wrong place stands behind segments of which the last is no name. -/
theorem source_of_unexpected {shown : String} {found : Char} {position : Nat}
    (h : segments path s = .error (.unexpectedChar shown found position)) :
    ∃ (segs : List Segment) (rest : List Char), s = source segs ++ found :: rest ∧
      isNameChar found = true ∧ EndsPlainly (source segs) ∧ shown = String.ofList path ∧
      position = path.length - (rest.length + 1) := by
  induction s using segments.induct path with
  | case1 =>
    rw [segments_nil] at h
    cases h
  | case2 c s e hfirst =>
    rw [segments_of_refused hfirst] at h
    cases h
    obtain ⟨rfl, hfound, hshown, hposition⟩ := segment_unexpected hfirst
    exact ⟨[], s, rfl, hfound, (fun _ hd => nomatch hd), hshown, hposition⟩
  | case3 c s step rest hfirst ih =>
    have hrest : segments path rest = .error (.unexpectedChar shown found position) := by
      rw [segments_of_read hfirst] at h
      rcases hrest : segments path rest with e | steps
      · rw [hrest] at h
        cases h
        rfl
      · rw [hrest] at h
        cases h
    obtain ⟨text, hsegment, hs, hends⟩ := isSegment_of_segment hfirst
    obtain ⟨segs, after, rfl, hfound, hplain, hshown, hposition⟩ := ih hrest
    refine ⟨⟨text, step, hsegment⟩ :: segs, after, ?_, hfound, ?_, hshown, hposition⟩
    · rw [hs, source_cons, List.append_assoc]
    · intro d hd
      rw [source_cons, List.getLast?_append] at hd
      rcases Option.or_eq_some_iff.mp hd with hlast | ⟨hnone, hlast⟩
      · exact hplain d hlast
      · -- The name before the character would have gone on with it.
        rw [List.getLast?_eq_none_iff.mp hnone] at hends
        rcases hends with hname | htext
        · exact absurd hfound (by simp [hname found rfl])
        · exact htext d hlast

end

/-! ## Whole paths -/

theorem parse_eq_ok_iff {text : String} {steps : List Step} : parse text = .ok steps ↔
    ∃ segs : List Segment, Text.trimChars text.toList = '$' :: source segs ∧
      segs.map Segment.step = steps := by
  unfold parse
  dsimp only
  split
  · rename_i rest hpath
    rw [hpath, segments_eq_ok_iff]
    simp only [List.cons.injEq, true_and]
  · rename_i hpath
    constructor
    · intro h
      cases h
    · rintro ⟨segs, hsource, -⟩
      exact absurd hsource (hpath _)

/-- Every position that is read has a form of 64 bits. -/
theorem fitsInt64_of_parse {text : String} {steps : List Step} (h : parse text = .ok steps)
    {i : Int} (hi : .index i ∈ steps) : Text.FitsInt64 i := by
  obtain ⟨segs, -, rfl⟩ := parse_eq_ok_iff.mp h
  obtain ⟨⟨text, step, hsegment⟩, -, rfl⟩ := List.mem_map.mp hi
  cases hsegment with
  | index _ _ hfits => exact hfits

/-- No blanks are cut off in front of a dollar sign. -/
theorem trimChars_dollar (s : List Char) :
    Text.trimChars ('$' :: s) = '$' :: Text.trimEndChars s := by
  have hfirst : ('$' :: s).dropWhile Text.isBlank = ['$'] ++ s := rfl
  have hdollar : EndsPlainly ['$'] := endsPlainly_concat [] (by decide)
  rw [Text.trimChars, hfirst, Text.trimEndChars_append hdollar]
  rfl

theorem parse_source {segs : List Segment} (h : EndsPlainly (source segs)) :
    parse (String.ofList ('$' :: source segs)) = .ok (segs.map Segment.step) := by
  refine parse_eq_ok_iff.mpr ⟨segs, ?_, rfl⟩
  rw [String.toList_ofList, trimChars_dollar, Text.trimEndChars_eq_self h]

/-- A path that goes on with a character in the wrong place is a shorter path up to there. -/
theorem exists_of_unexpected {text shown : String} {found : Char} {position : Nat}
    (h : parse text = .error (.unexpectedChar shown found position)) :
    ∃ (segs : List Segment) (rest : List Char),
      Text.trimChars text.toList = ('$' :: source segs) ++ found :: rest ∧
        EndsPlainly (source segs) ∧ shown = String.ofList (Text.trimChars text.toList) ∧
        position = ('$' :: source segs).length := by
  unfold parse at h
  dsimp only at h
  split at h
  · rename_i rest hpath
    obtain ⟨segs, after, rfl, -, hplain, hshown, rfl⟩ := source_of_unexpected h
    refine ⟨segs, after, hpath, hplain, hshown, ?_⟩
    rw [hpath]
    simp only [List.length_cons, List.length_append]
    omega
  · cases h

/-- **The grammar of paths.**  A text is accepted if and only if it is, blanks around it aside, a
dollar sign followed by segments, and the steps that are read are those that the segments stand for;
there is only one way to read it.  If a character in the wrong place makes the reader give up, then
this character stands at the place that is reported, and the text before it is a path. -/
theorem parse_iff_source (text : String) :
    let path := Text.trimChars text.toList
    (∀ steps, parse text = .ok steps ↔
      ∃ segs : List Segment, path = '$' :: source segs ∧ segs.map Segment.step = steps) ∧
    (∀ segs segs' : List Segment, path = '$' :: source segs → path = '$' :: source segs' →
      segs = segs') ∧
    ∀ shown found position, parse text = .error (.unexpectedChar shown found position) →
      shown = String.ofList path ∧ path[position]? = some found ∧
        ∃ steps, parse (String.ofList (path.take position)) = .ok steps := by
  intro path
  refine ⟨fun steps => parse_eq_ok_iff, fun segs segs' h h' => ?_, ?_⟩
  · exact source_injective (List.cons.inj (h.symm.trans h')).2
  · intro shown found position h
    obtain ⟨segs, rest, hpath, hplain, hshown, rfl⟩ := exists_of_unexpected h
    refine ⟨hshown, ?_, segs.map Segment.step, ?_⟩
    · rw [show path = _ from hpath, List.getElem?_append_right (Nat.le_refl _), Nat.sub_self]
      rfl
    · rw [show path = _ from hpath, List.take_left]
      exact parse_source hplain

/-- A letter after a bracket is refused, and the text before it is a path. -/
theorem parse_iff_source_letter :
    let path := Text.trimChars " $['a.b']x ".toList
    parse " $['a.b']x " = .error (.unexpectedChar "$['a.b']x" 'x' 8) ∧ path[8]? = some 'x' ∧
      ∃ steps, parse (String.ofList (path.take 8)) = .ok steps := by
  have h : parse " $['a.b']x " = .error (.unexpectedChar "$['a.b']x" 'x' 8) := by decide +kernel
  obtain ⟨-, -, hrefused⟩ := parse_iff_source " $['a.b']x "
  obtain ⟨-, hfound, hbefore⟩ := hrefused _ _ _ h
  exact ⟨h, hfound, hbefore⟩

end Path

end RequestSuite
