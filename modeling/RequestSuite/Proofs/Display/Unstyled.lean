import Mathlib.Data.List.Forall2
import RequestSuite.Display.Response
import RequestSuite.Proofs.Value.Indented
import RequestSuite.Text.Integer

/-!
# Styles do not change what is shown

A styled text is the text between control sequences.  `Style.unstyled` removes these sequences from
whatever stands around them, and `Style.Shows` says of a part of an output what is left of it, so
that the parts can be put together line by line.  `ResponseView.text_unstyled` does so for a whole
response and says of which lines it consists.
-/

namespace RequestSuite

/-! ## Removing control sequences -/

namespace Style

/-- Characters without the control sequences among them, each of which goes from an escape character
with a bracket to the next `m`; `inside` tells whether a sequence has begun before. -/
def unstyledChars (inside : Bool) : List Char → List Char
  | [] => []
  | '\x1b' :: '[' :: rest => unstyledChars true rest
  | c :: rest => if inside then unstyledChars (c != 'm') rest else c :: unstyledChars false rest

/-- A text without control sequences. -/
def unstyled (text : String) : String :=
  String.ofList (unstyledChars false text.toList)

/-- Whether a text holds no escape character. -/
def IsPlain (text : String) : Prop :=
  '\x1b' ∉ text.toList

instance (text : String) : Decidable (IsPlain text) := inferInstanceAs (Decidable (_ ∉ _))

theorem unstyledChars_cons {c : Char} (h : c ≠ '\x1b') (rest : List Char) :
    unstyledChars false (c :: rest) = c :: unstyledChars false rest := by
  rw [unstyledChars, if_neg Bool.false_ne_true]
  rintro _ rfl
  exact absurd rfl h

theorem unstyledChars_inside (c : Char) (rest : List Char) :
    unstyledChars true (c :: rest) = unstyledChars (c != 'm') rest := by
  by_cases h : ∃ r, c = '\x1b' ∧ rest = '[' :: r
  · obtain ⟨r, rfl, rfl⟩ := h
    rfl
  · rw [unstyledChars, if_pos rfl]
    exact fun r hc hrest => h ⟨r, hc, hrest⟩

theorem unstyledChars_append {s : List Char} (h : '\x1b' ∉ s) (rest : List Char) :
    unstyledChars false (s ++ rest) = s ++ unstyledChars false rest := by
  induction s with
  | nil => rfl
  | cons c s ih =>
    obtain ⟨hc, hs⟩ := List.ne_and_not_mem_of_not_mem_cons h
    rw [List.cons_append, unstyledChars_cons hc.symm, ih hs, List.cons_append]

/-- A control sequence that has begun ends with its first `m`. -/
theorem unstyledChars_end {codes : List Char} (h : 'm' ∉ codes) (rest : List Char) :
    unstyledChars true (codes ++ 'm' :: rest) = unstyledChars false rest := by
  induction codes with
  | nil => exact unstyledChars_inside 'm' rest
  | cons c codes ih =>
    obtain ⟨hc, hcodes⟩ := List.ne_and_not_mem_of_not_mem_cons h
    rw [List.cons_append, unstyledChars_inside, bne_iff_ne.mpr hc.symm, ih hcodes]

theorem m_not_mem_codes (s : Style) : 'm' ∉ (";".intercalate (s.codes.map toString)).toList := by
  rcases s with ⟨_ | _ | _, _ | _ | _ | _ | _ | _⟩ <;> decide

theorem unstyledChars_start (s : Style) (rest : List Char) :
    unstyledChars false (s.start ++ rest) = unstyledChars false rest := by
  rw [start, List.append_assoc]
  exact unstyledChars_end s.m_not_mem_codes rest

theorem unstyledChars_stop (rest : List Char) :
    unstyledChars false (stop ++ rest) = unstyledChars false rest := by
  have hreset : 'm' ∉ ['0'] := by decide
  exact unstyledChars_end hreset rest

/-- Where no style ends inside, none is taken up again. -/
theorem resume_eq_self (s : Style) {text : List Char} (h : '\x1b' ∉ text) :
    s.resume text = text := by
  induction text with
  | nil => rfl
  | cons c rest ih =>
    obtain ⟨hc, hrest⟩ := List.ne_and_not_mem_of_not_mem_cons h
    rw [resume, ih hrest]
    rintro _ rfl
    exact absurd rfl hc

/-! ## What parts of an output show -/

/-- Whether a part of an output is another text if control sequences are removed, whatever comes
behind it. -/
def Shows (part text : String) : Prop :=
  ∀ rest, unstyledChars false (part.toList ++ rest) = text.toList ++ unstyledChars false rest

theorem Shows.unstyled_eq {part text : String} (h : Shows part text) : unstyled part = text := by
  have hrest := h []
  rw [List.append_nil, unstyledChars, List.append_nil] at hrest
  rw [unstyled, hrest, String.ofList_toList]

theorem shows_self {text : String} (h : IsPlain text) : Shows text text :=
  unstyledChars_append h

theorem shows_paint (s : Style) (styled : Bool) {text : String} (h : IsPlain text) :
    Shows (s.paint styled text) text := by
  cases styled with
  | false => exact shows_self h
  | true =>
    intro rest
    rw [paint, if_pos rfl, String.toList_ofList, resume_eq_self s h, List.append_assoc,
      List.append_assoc, unstyledChars_start, unstyledChars_append h, unstyledChars_stop]

theorem Shows.append {part part' text text' : String} (h : Shows part text)
    (h' : Shows part' text') : Shows (part ++ part') (text ++ text') := by
  intro rest
  rw [String.toList_append, List.append_assoc, h, h', String.toList_append, List.append_assoc]

theorem Shows.intercalate {separator : String} (hseparator : IsPlain separator)
    {parts texts : List String} (h : List.Forall₂ Shows parts texts) :
    Shows (separator.intercalate parts) (separator.intercalate texts) := by
  induction h with
  | nil => exact shows_self (by simp [IsPlain])
  | @cons part text parts texts hfirst hrest ih =>
    cases hrest with
    | nil => simpa only [String.intercalate_singleton] using hfirst
    | cons hsecond hrest =>
      rw [String.intercalate_cons_cons, String.intercalate_cons_cons]
      exact (hfirst.append (shows_self hseparator)).append ih

/-! ## Texts without escape characters -/

theorem IsPlain.append {s t : String} (hs : IsPlain s) (ht : IsPlain t) : IsPlain (s ++ t) := by
  rw [IsPlain, String.toList_append, List.mem_append, not_or]
  exact ⟨hs, ht⟩

theorem isPlain_toString (n : Nat) : IsPlain (toString n) := by
  intro h
  rw [Nat.toString_eq_repr, Nat.toList_repr] at h
  exact absurd (Decimal.isDigit_of_mem_digitChars h) (by decide)

theorem isPlain_indented (v : Value) : IsPlain v.indented :=
  fun h => absurd (Value.isShown_of_mem_indented h) (by decide)

end Style

theorem Status.isPlain_phrases : ∀ p ∈ phrases, Style.IsPlain p.2 := by
  decide

theorem Status.isPlain_text (s : Status) : Style.IsPlain s.text := by
  have hphrase : Style.IsPlain s.phrase := by
    unfold phrase
    rcases hlookup : phrases.lookup s.code with _ | phrase
    · decide
    · obtain ⟨before, after, hphrases, -⟩ := List.lookup_eq_some_iff.mp hlookup
      exact isPlain_phrases (s.code, phrase) (by rw [hphrases]; simp)
  exact ((Style.isPlain_toString s.code).append (by decide)).append hphrase

namespace Text

/-- The lines of a text hold no character that the text does not hold. -/
theorem mem_of_mem_splitLines {start s line : List Char} (h : line ∈ splitLines start s) {c : Char}
    (hc : c ∈ line) : c ∈ start ∨ c ∈ s := by
  induction s generalizing start with
  | nil =>
    rw [splitLines] at h
    split at h
    · cases h
    · rw [List.mem_singleton.mp h] at hc
      exact .inl (List.mem_reverse.mp hc)
  | cons d rest ih =>
    unfold splitLines at h
    dsimp only at h
    split at h
    · rcases List.mem_cons.mp h with hline | h
      · rw [hline, List.mem_reverse] at hc
        split at hc
        · exact .inl (List.mem_cons_of_mem _ hc)
        · exact .inl hc
      · exact (ih h).elim nofun fun hrest => .inr (List.mem_cons_of_mem _ hrest)
    · rcases ih h with hstart | hrest
      · exact (List.mem_cons.mp hstart).elim (fun heq => .inr (heq ▸ List.mem_cons_self)) .inl
      · exact .inr (List.mem_cons_of_mem _ hrest)

theorem isPlain_of_mem_lines {s line : String} (hs : Style.IsPlain s) (h : line ∈ lines s) :
    Style.IsPlain line := by
  obtain ⟨chars, hchars, rfl⟩ := List.mem_map.mp h
  intro hc
  rw [String.toList_ofList] at hc
  exact (mem_of_mem_splitLines hchars hc).elim nofun hs

end Text

/-! ## Responses -/

namespace ResponseView

variable (v : ResponseView) (r : Response)

/-- The lines of a response, as they are put together. -/
def lines : List String :=
  v.statusLine r :: v.timeLine r :: if r.isFailed then [] else v.headerLines r ++ v.bodyLines r

/-- What is told of the headers: a title over their lines. -/
def toldHeaders : List String :=
  if v.showHeaders ∧ r.headerBlock ≠ "" then
    "" :: "Headers:" :: (Text.lines r.headerBlock).map fun line => "   " ++ line
  else []

/-- What is told of the body: the body itself, in the long form under a title, or its size. -/
def toldBody : List String :=
  if r.body = "" then []
  else if v.verbose then ["", "Body:", v.bodyText r]
  else if (v.bodyText r).utf8ByteSize < sizeLimit then [v.bodyText r]
  else ["Body: " ++ toString r.body.utf8ByteSize ++ " bytes"]

/-- What is told of a response, line by line and without styles. -/
def told : List String :=
  match r.status? with
  | none => ["Error: " ++ r.body, "Time: " ++ toString r.duration ++ "ms"]
  | some status =>
    ["HTTP " ++ status.text, "Time: " ++ toString r.duration ++ "ms"] ++ v.toldHeaders r ++
      v.toldBody r

theorem text_eq_intercalate : v.text r = "\n".intercalate (v.lines r) := rfl

variable {v r}

theorem isPlain_bodyText (hbody : Style.IsPlain r.body) : Style.IsPlain (v.bodyText r) := by
  unfold bodyText
  split
  · exact hbody
  · split
    · exact Style.isPlain_indented _
    · exact hbody

open Style (Shows shows_self shows_paint)

/-- An empty line and a title are shown as such. -/
theorem shows_titleLines {title : String} (h : Style.IsPlain title) {parts texts : List String}
    (hrest : List.Forall₂ Shows parts texts) :
    List.Forall₂ Shows (v.titleLines title ++ parts) ("" :: title :: texts) :=
  .cons (shows_self (by decide)) (.cons (shows_paint _ _ h) hrest)

theorem shows_headerLines (hheaders : Style.IsPlain r.headerBlock) :
    List.Forall₂ Shows (v.headerLines r) (v.toldHeaders r) := by
  simp only [headerLines, toldHeaders, Bool.and_eq_true, Bool.not_eq_true', ne_eq,
    String.isEmpty_eq_false_iff]
  split
  · refine shows_titleLines (by decide) (List.forall₂_map_left_iff.mpr
      (List.forall₂_map_right_iff.mpr (List.forall₂_same.mpr fun line hline => ?_)))
    exact shows_paint _ _ (Style.IsPlain.append (by decide)
      (Text.isPlain_of_mem_lines hheaders hline))
  · exact .nil

theorem shows_bodyLines (hbody : Style.IsPlain r.body) :
    List.Forall₂ Shows (v.bodyLines r) (v.toldBody r) := by
  have hshown : List.Forall₂ Shows [v.bodyText r] [v.bodyText r] :=
    .cons (shows_self (isPlain_bodyText hbody)) .nil
  simp only [bodyLines, toldBody, String.isEmpty_iff]
  split
  · exact .nil
  · split
    · exact shows_titleLines (by decide) hshown
    · split
      · rw [if_neg (by omega)]
        refine .cons (shows_self (Style.IsPlain.append ?_ (by decide))) .nil
        exact Style.IsPlain.append (by decide) (Style.isPlain_toString _)
      · rw [if_pos (by omega)]
        exact hshown

theorem shows_timeLine : Shows (v.timeLine r) ("Time: " ++ toString r.duration ++ "ms") := by
  refine shows_paint _ _ (Style.IsPlain.append ?_ (by decide))
  exact Style.IsPlain.append (by decide) (Style.isPlain_toString _)

/-- Each line shows what is told, whether styles are shown or not. -/
theorem shows_lines (hbody : Style.IsPlain r.body) (hheaders : Style.IsPlain r.headerBlock) :
    List.Forall₂ Shows (v.lines r) (v.told r) := by
  obtain ⟨outcome, duration⟩ := r
  cases outcome with
  | error f =>
    have hstatus : Style.IsPlain ("Error: " ++ f.text) := Style.IsPlain.append (by decide) hbody
    exact .cons (shows_paint _ _ hstatus) (.cons shows_timeLine .nil)
  | ok reply =>
    have hstatus : Style.IsPlain ("HTTP " ++ reply.status.text) :=
      Style.IsPlain.append (by decide) reply.status.isPlain_text
    refine .cons (shows_paint _ _ hstatus) (.cons shows_timeLine ?_)
    exact List.rel_append (shows_headerLines hheaders) (shows_bodyLines hbody)

/-- Without styles the lines are what is told, whatever their characters. -/
theorem lines_eq_told (h : v.styled = false) : v.lines r = v.told r := by
  have hpaint (s : Style) (text : String) : s.paint v.styled text = text := by
    rw [h]
    rfl
  have htitle (title : String) : v.titleLines title = ["", title] := by rw [titleLines, hpaint]
  have hheaders : v.headerLines r = v.toldHeaders r := by
    simp only [headerLines, toldHeaders, htitle, hpaint, Bool.and_eq_true, Bool.not_eq_true',
      ne_eq, String.isEmpty_eq_false_iff, List.cons_append, List.nil_append]
  have hbody : v.bodyLines r = v.toldBody r := by
    simp only [bodyLines, toldBody, htitle, String.isEmpty_iff, ← Nat.not_lt, ite_not,
      List.cons_append, List.nil_append]
  obtain ⟨outcome, duration⟩ := r
  cases outcome <;>
    simp only [lines, told, statusLine, timeLine, hpaint, hheaders, hbody] <;> rfl

/-- **Styles do not change what is shown.**  Of a response without escape characters, the output
with styles is the output without them once the control sequences are removed.  Both have the same
lines: the status or the failure, the time, and, if the request was answered, the headers and the
body or its size, as far as they are asked for. -/
theorem text_unstyled (v : ResponseView) (r : Response) (hbody : Style.IsPlain r.body)
    (hheaders : Style.IsPlain r.headerBlock) :
    Style.unstyled ({ v with styled := true }.text r) = { v with styled := false }.text r ∧
      { v with styled := false }.text r = "\n".intercalate (v.told r) ∧
      ∃ lines, { v with styled := true }.text r = "\n".intercalate lines ∧
        List.Forall₂ (fun line told => Style.unstyled line = told) lines (v.told r) := by
  have hplain : { v with styled := false }.text r = "\n".intercalate (v.told r) := by
    rw [text_eq_intercalate, lines_eq_told rfl]
    rfl
  have hlines : List.Forall₂ Shows ({ v with styled := true }.lines r) (v.told r) :=
    shows_lines hbody hheaders
  refine ⟨?_, hplain, { v with styled := true }.lines r, rfl, hlines.imp fun _ _ h => h.unstyled_eq⟩
  rw [hplain, text_eq_intercalate]
  exact (Style.Shows.intercalate (by decide) hlines).unstyled_eq

/-- A reply whose JSON body holds the end of a style, though without an escape character. -/
def markedReply : Reply :=
  ⟨⟨404, by decide, by decide⟩, "HTTP/1.1", [("x-id", "7")], "[\"\\u001b[0m\"]"⟩

/-- The escaped character in the body stays escaped, so only the sequences of styles are removed. -/
theorem text_unstyled_marked :
    let v : ResponseView := { verbose := true, styled := true }
    let r : Response := .answered markedReply 42
    Style.IsPlain r.body ∧ Style.IsPlain r.headerBlock ∧
      Style.unstyled (v.text r) = "HTTP 404 Not Found\nTime: 42ms\n\nHeaders:\n" ++
        "   HTTP/1.1 404 Not Found\n   x-id: 7\n\nBody:\n[\n  \"\\u001b[0m\"\n]" ∧
      v.text r ≠ Style.unstyled (v.text r) := by
  intro v r
  have hbody : Style.IsPlain r.body := by decide
  have hheaders : Style.IsPlain r.headerBlock := by decide +kernel
  obtain ⟨hstyled, hplain, -⟩ := text_unstyled v r hbody hheaders
  refine ⟨hbody, hheaders, ?_, ?_⟩
  · rw [hstyled, hplain]
    decide +kernel
  · rw [hstyled]
    decide +kernel

end ResponseView

end RequestSuite
