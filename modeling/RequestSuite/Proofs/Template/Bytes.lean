import RequestSuite.Proofs.Template.Tokens

/-!
# Templates as bytes

A template may be scanned as the bytes of its text.  All characters with a meaning in templates are
single bytes, and no byte of another character looks like one of them, so the bytes are read as the
characters are (`scan_byteChars`) and whatever is cut out of the text is cut between characters.
With the uniqueness of readings this is `tokens_isReading`.
-/

namespace RequestSuite.Template

/-- The bytes of a character, each as the character of its number. -/
def bytesOf (c : Char) : List Char :=
  (String.utf8EncodeChar c).map fun b => Char.ofNat b.toNat

/-- The bytes of a text, each as the character of its number. -/
def byteChars (s : List Char) : List Char :=
  s.flatMap bytesOf

/-- Whether a character is a single byte. -/
def IsAscii (c : Char) : Prop :=
  c.toNat < 128

/-- The same token of the bytes of a text. -/
def Token.bytes : Token → Token
  | .text cs => .text (byteChars cs)
  | .escape => .escape
  | .variable name delimited => .variable name delimited

/-- Where a token that starts at a position is cut out of a text: its own ends, and those of its
name. -/
def Token.cuts (start : Nat) : Token → List Nat
  | .variable name delimited =>
    let nameStart := if delimited then start + 2 else start + 1
    [start, nameStart, nameStart + name.length,
      start + (placeholderChars name delimited).length]
  | t => [start, start + t.source.length]

/-- Where tokens that start at a position, one after the other, are cut out of a text. -/
def cuts : Nat → List Token → List Nat
  | _, [] => []
  | start, t :: ts => t.cuts start ++ cuts (start + t.source.length) ts

instance (c : Char) : Decidable (IsAscii c) :=
  inferInstanceAs (Decidable (c.toNat < 128))

/-! ## Characters and their bytes -/

theorem toNat_ofNat_byte (b : UInt8) : (Char.ofNat b.toNat).toNat = b.toNat := by
  have hb := b.toNat_lt
  have hv : b.toNat.isValidChar := .inl (by omega)
  rw [Char.ofNat, dif_pos hv]
  rfl

theorem bytesOf_of_isAscii {c : Char} (h : IsAscii c) : bytesOf c = [c] := by
  have hc : c.val.toNat ≤ 127 := Nat.le_of_lt_succ h
  have hb : (UInt8.ofNat c.val.toNat).toNat = c.toNat :=
    UInt8.toNat_ofNat_of_lt' (Nat.lt_trans h (by decide))
  rw [bytesOf, String.utf8EncodeChar, if_pos hc, List.map_singleton, hb, Char.ofNat_toNat]

/-- The bytes of any other character all have their highest bit set. -/
theorem not_isAscii_of_mem_bytesOf {c b : Char} (h : ¬ IsAscii c) (hb : b ∈ bytesOf c) :
    ¬ IsAscii b := by
  have hc : ¬ c.val.toNat ≤ 127 := fun hc => h (Nat.lt_succ_of_le hc)
  have hbytes : ∀ byte ∈ String.utf8EncodeChar c, 128 ≤ byte.toNat := by
    intro byte hbyte
    rw [String.utf8EncodeChar, if_neg hc] at hbyte
    split at hbyte
    · simp only [List.mem_cons, List.not_mem_nil, or_false] at hbyte
      rcases hbyte with rfl | rfl <;> simp <;> omega
    · split at hbyte <;> simp only [List.mem_cons, List.not_mem_nil, or_false] at hbyte
      · rcases hbyte with rfl | rfl | rfl <;> simp <;> omega
      · rcases hbyte with rfl | rfl | rfl | rfl <;> simp <;> omega
  obtain ⟨byte, hbyte, rfl⟩ := List.mem_map.mp hb
  rw [IsAscii, toNat_ofNat_byte]
  exact Nat.not_lt.mpr (hbytes byte hbyte)

theorem bytesOf_ne_nil (c : Char) : bytesOf c ≠ [] := by
  intro h
  have hlength := congrArg List.length h
  rw [bytesOf, List.length_map, String.length_utf8EncodeChar, List.length_nil] at hlength
  exact absurd hlength (Nat.ne_of_gt c.utf8Size_pos)

theorem isAscii_dollar : ∀ c ∈ ['$'], IsAscii c :=
  List.forall_mem_singleton.mpr (by decide)

theorem isAscii_escape : ∀ c ∈ ['\\', '$'], IsAscii c :=
  List.forall_mem_cons.mpr ⟨by decide, isAscii_dollar⟩

theorem isAscii_of_isWordChar {c : Char} (h : isWordChar c = true) : IsAscii c := by
  have hn := toNat_of_isWordChar h
  rw [IsAscii]
  omega

/-! ## Texts and their bytes -/

@[simp] theorem byteChars_nil : byteChars [] = [] := rfl

@[simp] theorem byteChars_cons (c : Char) (s : List Char) :
    byteChars (c :: s) = bytesOf c ++ byteChars s :=
  List.flatMap_cons

@[simp] theorem byteChars_append (s s' : List Char) :
    byteChars (s ++ s') = byteChars s ++ byteChars s' :=
  List.flatMap_append

theorem byteChars_of_isAscii {s : List Char} (h : ∀ c ∈ s, IsAscii c) : byteChars s = s := by
  induction s with
  | nil => rfl
  | cons c s ih =>
    obtain ⟨hc, hs⟩ := List.forall_mem_cons.mp h
    rw [byteChars_cons, bytesOf_of_isAscii hc, ih hs, List.singleton_append]

theorem length_byteChars (s : List Char) :
    (byteChars s).length = (String.ofList s).utf8ByteSize := by
  induction s with
  | nil => rfl
  | cons c s ih =>
    have hsplit : String.ofList (c :: s) = String.singleton c ++ String.ofList s := by
      rw [String.singleton_eq_ofList, ← String.ofList_append, List.singleton_append]
    rw [byteChars_cons, List.length_append, ih, bytesOf, List.length_map,
      String.length_utf8EncodeChar, hsplit, String.utf8ByteSize_append,
      String.utf8ByteSize_singleton]

/-- Single bytes at the start of the bytes of a text are the characters at its start. -/
theorem exists_of_byteChars_eq {s a b : List Char} (ha : ∀ c ∈ a, IsAscii c)
    (h : byteChars s = a ++ b) : ∃ s', s = a ++ s' ∧ b = byteChars s' := by
  induction a generalizing s with
  | nil => exact ⟨s, rfl, h.symm⟩
  | cons c a ih =>
    obtain ⟨hc, hrest⟩ := List.forall_mem_cons.mp ha
    cases s with
    | nil => cases h
    | cons d s =>
      by_cases hd : IsAscii d
      · rw [byteChars_cons, bytesOf_of_isAscii hd, List.singleton_append] at h
        obtain ⟨rfl, htail⟩ := List.cons.inj h
        obtain ⟨s', rfl, hb⟩ := ih hrest htail
        exact ⟨s', rfl, hb⟩
      · -- The first byte of `d` would be the single byte `c`.
        obtain ⟨byte, bytes, hbytes⟩ := List.exists_cons_of_ne_nil (bytesOf_ne_nil d)
        rw [byteChars_cons, hbytes] at h
        have hbyte : byte ∈ bytesOf d := hbytes ▸ List.mem_cons_self
        rw [(List.cons.inj h).1] at hbyte
        exact absurd hc (not_isAscii_of_mem_bytesOf hd hbyte)

theorem Placeholder.isAscii_chars {p : Placeholder} (h : IsName p.name) :
    ∀ c ∈ p.chars, IsAscii c := by
  intro c hc
  rcases of_mem_chars h hc with hword | rfl | rfl
  · exact isAscii_of_isWordChar hword
  · decide
  · decide

theorem startsPlaceholder_byteChars {s : List Char} :
    StartsPlaceholder (byteChars s) ↔ StartsPlaceholder s := by
  rw [startsPlaceholder_iff, startsPlaceholder_iff]
  constructor
  · rintro ⟨p, rest, hname, h⟩
    obtain ⟨s', rfl, -⟩ := exists_of_byteChars_eq (Placeholder.isAscii_chars hname) h
    exact ⟨p, s', hname, rfl⟩
  · rintro ⟨p, rest, hname, rfl⟩
    refine ⟨p, byteChars rest, hname, ?_⟩
    rw [byteChars_append, byteChars_of_isAscii (Placeholder.isAscii_chars hname)]

theorem endsName_byteChars {s : List Char} (h : EndsName s) : EndsName (byteChars s) := by
  cases s with
  | nil => exact nofun
  | cons c s =>
    intro byte hbyte
    by_cases hc : IsAscii c
    · rw [byteChars_cons, bytesOf_of_isAscii hc] at hbyte
      exact h byte hbyte
    · have hmem : byte ∈ bytesOf c := by
        obtain ⟨first, bytes, hbytes⟩ := List.exists_cons_of_ne_nil (bytesOf_ne_nil c)
        rw [byteChars_cons, hbytes] at hbyte
        rw [hbytes, ← Option.some.inj hbyte]
        exact List.mem_cons_self
      exact Bool.eq_false_iff.mpr fun hword =>
        not_isAscii_of_mem_bytesOf hc hmem (isAscii_of_isWordChar hword)

/-! ## Scanning bytes -/

theorem foldr_pushChar {cs : List Char} (h : cs ≠ []) (ts : List Token) :
    cs.foldr pushChar ts =
      match ts with
      | .text cs' :: rest => .text (cs ++ cs') :: rest
      | ts => .text cs :: ts := by
  induction cs with
  | nil => exact absurd rfl h
  | cons c cs ih =>
    rw [List.foldr_cons]
    cases cs with
    | nil => rcases ts with _ | ⟨_ | _ | _, _⟩ <;> rfl
    | cons d cs =>
      rw [ih (List.cons_ne_nil d cs)]
      rcases ts with _ | ⟨_ | _ | _, _⟩ <;> rfl

theorem map_bytes_pushChar (c : Char) (ts : List Token) :
    (pushChar c ts).map Token.bytes = (bytesOf c).foldr pushChar (ts.map Token.bytes) := by
  rw [foldr_pushChar (bytesOf_ne_nil c)]
  rcases ts with _ | ⟨t, rest⟩
  · simp [pushChar, Token.bytes]
  · cases t <;> simp [pushChar, Token.bytes]

/-- Bytes of characters of several bytes are plain wherever they stand. -/
theorem scan_append_of_not_isAscii {bs : List Char} (h : ∀ b ∈ bs, ¬ IsAscii b) (s : List Char) :
    scan (bs ++ s) = bs.foldr pushChar (scan s) := by
  induction bs with
  | nil => rfl
  | cons b bs ih =>
    obtain ⟨hb, hbs⟩ := List.forall_mem_cons.mp h
    have hplain : IsPlain b (bs ++ s) :=
      ⟨by rintro rfl; exact absurd (by decide) hb, by rintro _ rfl; exact absurd (by decide) hb⟩
    rw [List.cons_append, scan_char hplain, ih hbs, List.foldr_cons]

theorem IsPlain.byteChars {c : Char} {s : List Char} (h : IsPlain c s) :
    IsPlain c (byteChars s) := by
  refine ⟨fun hc hstarts => h.1 hc (startsPlaceholder_byteChars.mp hstarts), ?_⟩
  intro rest hc hs hstarts
  obtain ⟨s', rfl, rfl⟩ := exists_of_byteChars_eq isAscii_dollar hs
  exact h.2 s' hc rfl (startsPlaceholder_byteChars.mp hstarts)

/-- The bytes of a text are read as its characters are. -/
theorem scan_byteChars (s : List Char) : scan (byteChars s) = (scan s).map Token.bytes := by
  induction s using scan_induction with
  | nil => exact scan_nil
  | escape s hstarts ih =>
    have hbytes : byteChars ('\\' :: '$' :: s) = '\\' :: '$' :: byteChars s :=
      (byteChars_append ['\\', '$'] s).trans (congrArg (· ++ _) (byteChars_of_isAscii isAscii_escape))
    rw [hbytes, scan_escape (startsPlaceholder_byteChars.mpr hstarts), ih, List.map_cons]
    rfl
  | placeholder p rest hname hends ih =>
    have hfound : placeholder? (p.chars ++ byteChars rest) = some (p, byteChars rest) :=
      placeholder?_eq_some_iff.mpr ⟨rfl, hname, fun hp => endsName_byteChars (hends hp)⟩
    rw [byteChars_cons, bytesOf_of_isAscii (by decide), byteChars_append,
      byteChars_of_isAscii (Placeholder.isAscii_chars hname), List.singleton_append,
      scan_variable hfound, ih, List.map_cons]
    rfl
  | char c s hplain ih =>
    rw [map_bytes_pushChar, byteChars_cons, ← ih]
    by_cases hc : IsAscii c
    · rw [bytesOf_of_isAscii hc]
      exact scan_char hplain.byteChars
    · exact scan_append_of_not_isAscii (fun b hb => not_isAscii_of_mem_bytesOf hc hb) _

/-! ## Where the bytes are cut -/

theorem isValid_length_byteChars {s : String} {u v : List Char} (h : s.toList = u ++ v) :
    (⟨(byteChars u).length⟩ : String.Pos.Raw).IsValid s := by
  rw [length_byteChars]
  refine String.Pos.Raw.isValid_iff_exists_append.mpr ⟨String.ofList u, String.ofList v, ?_, rfl⟩
  rw [← String.ofList_append, ← h, String.ofList_toList]

/-- Whether the name of a token, if it has one, is a name. -/
def Token.IsNamed : Token → Prop
  | .variable name _ => IsName name.toList
  | _ => True

theorem isAscii_placeholderChars {name : String} (h : IsName name.toList) (delimited : Bool) :
    ∀ c ∈ placeholderChars name delimited, IsAscii c := by
  have hchars := placeholderChars_eq ⟨name.toList, delimited⟩
  rw [String.ofList_toList] at hchars
  rw [hchars]
  exact List.forall_mem_cons.mpr ⟨by decide, Placeholder.isAscii_chars h⟩

theorem source_bytes {t : Token} (h : t.IsNamed) : t.bytes.source = byteChars t.source := by
  rcases t with cs | _ | ⟨name, delimited⟩
  · rfl
  · exact (byteChars_of_isAscii isAscii_escape).symm
  · exact (byteChars_of_isAscii (isAscii_placeholderChars h delimited)).symm

/-- The parts of a placeholder's text: up to its name, the name, and the rest. -/
theorem exists_placeholderChars_eq (name : String) (delimited : Bool) :
    ∃ opening closing : List Char, placeholderChars name delimited = opening ++ name.toList ++ closing ∧
      opening.length = if delimited then 2 else 1 := by
  cases delimited with
  | true => exact ⟨['$', '('], [')'], by simp [placeholderChars], rfl⟩
  | false => exact ⟨['$'], [], by simp [placeholderChars], rfl⟩

/-- A token is cut out of the bytes where its characters are cut. -/
theorem exists_of_mem_cuts_bytes {t : Token} (h : t.IsNamed) {u : List Char} {position : Nat}
    (hposition : position ∈ t.bytes.cuts (byteChars u).length) :
    ∃ v w, t.source = v ++ w ∧ position = (byteChars (u ++ v)).length := by
  have hstart : ∃ v w, t.source = v ++ w ∧ (byteChars u).length = (byteChars (u ++ v)).length :=
    ⟨[], t.source, rfl, by rw [List.append_nil]⟩
  have hend : ∃ v w, t.source = v ++ w ∧
      (byteChars u).length + t.bytes.source.length = (byteChars (u ++ v)).length :=
    ⟨t.source, [], (List.append_nil _).symm, by
      rw [source_bytes h, byteChars_append, List.length_append]⟩
  rcases t with cs | _ | ⟨name, delimited⟩
  · rcases List.mem_pair.mp hposition with rfl | rfl
    · exact hstart
    · exact hend
  · rcases List.mem_pair.mp hposition with rfl | rfl
    · exact hstart
    · exact hend
  · obtain ⟨opening, closing, hparts, hopening⟩ := exists_placeholderChars_eq name delimited
    have hascii := isAscii_placeholderChars h delimited
    rw [hparts] at hascii
    have hbefore : byteChars opening = opening :=
      byteChars_of_isAscii fun c hc => hascii c (by simp [hc])
    have hname : byteChars name.toList = name.toList :=
      byteChars_of_isAscii fun c hc => hascii c (by simp [hc])
    simp only [Token.bytes, Token.cuts, List.mem_cons, List.not_mem_nil, or_false] at hposition
    rcases hposition with rfl | rfl | rfl | rfl
    · exact hstart
    · refine ⟨opening, name.toList ++ closing, by rw [Token.source, hparts, List.append_assoc], ?_⟩
      rw [byteChars_append, hbefore, List.length_append, hopening]
      cases delimited <;> rfl
    · refine ⟨opening ++ name.toList, closing, hparts, ?_⟩
      rw [byteChars_append, byteChars_append, hbefore, hname, List.length_append,
        List.length_append, hopening, String.length_toList]
      cases delimited <;> simp <;> omega
    · exact hend

theorem exists_of_mem_cuts {ts : List Token} (h : ∀ t ∈ ts, t.IsNamed) {u : List Char}
    {position : Nat} (hposition : position ∈ cuts (byteChars u).length (ts.map Token.bytes)) :
    ∃ v w, source ts = v ++ w ∧ position = (byteChars (u ++ v)).length := by
  induction ts generalizing u with
  | nil => cases hposition
  | cons t ts ih =>
    obtain ⟨ht, hts⟩ := List.forall_mem_cons.mp h
    rw [List.map_cons, cuts, source_bytes ht] at hposition
    rcases List.mem_append.mp hposition with hposition | hposition
    · obtain ⟨v, w, hsource, heq⟩ := exists_of_mem_cuts_bytes ht hposition
      exact ⟨v, w ++ source ts, by rw [source_cons, hsource, List.append_assoc], heq⟩
    · rw [← List.length_append, ← byteChars_append] at hposition
      obtain ⟨v, w, hsource, heq⟩ := ih hts hposition
      exact ⟨t.source ++ v, w, by rw [source_cons, hsource, List.append_assoc],
        by rw [heq, List.append_assoc]⟩

/-- **The reading of a template.**  The tokens of a template are its one reading.  Scanned as bytes
it has the same tokens, and every position at which they are cut out of it is one between two of
its characters. -/
theorem tokens_isReading (s : String) :
    (∀ ts, IsReading s.toList ts ↔ ts = tokens s) ∧
      scan (byteChars s.toList) = (tokens s).map Token.bytes ∧
      ∀ position ∈ cuts 0 (scan (byteChars s.toList)),
        (⟨position⟩ : String.Pos.Raw).IsValid s := by
  refine ⟨fun ts => ⟨IsReading.eq_scan, ?_⟩, scan_byteChars s.toList, fun position hposition => ?_⟩
  · rintro rfl
    exact isReading_scan s.toList
  · have hnamed : ∀ t ∈ scan s.toList, t.IsNamed := by
      rintro (cs | _ | ⟨name, delimited⟩) ht
      · trivial
      · trivial
      · exact isName_scan s.toList name delimited ht
    rw [scan_byteChars] at hposition
    obtain ⟨u, v, hsource, rfl⟩ := exists_of_mem_cuts (u := []) hnamed hposition
    rw [source_scan] at hsource
    exact isValid_length_byteChars hsource

/-- A doubled backslash, a placeholder before a letter of two bytes, and a parenthesis that is not
closed. -/
example : tokens "\\\\$a $(b)$cé$(d" =
    [.text ['\\'], .escape, .text ['a', ' '], .variable "b" true, .variable "c" false,
      .text ['é', '$', '(', 'd']] := by
  cbv

end RequestSuite.Template
