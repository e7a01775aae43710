import Mathlib.Algebra.Group.Int.Defs
import Mathlib.Algebra.Group.Nat.Defs
import RequestSuite.Path.Parser

/-!
# Addresses in documents

An address is a list of keys and positions that leads from a document to one of its nodes.  Written
in brackets behind a dollar sign it is a path, and a query with this path finds the node
(`query_written`).  The key may be any text without a single quote, brackets, points and blanks
included, and a position may be counted from the end.
-/

namespace RequestSuite

/-! ## Addresses -/

namespace Value

mutual

/-- The length of the longest list in a value. -/
def longestList : Value → Nat
  | .array items => max items.length (longestListOfItems items)
  | .object fields => longestListOfFields fields
  | .null | .bool _ | .number _ | .string _ => 0

/-- The length of the longest list in a list of values. -/
def longestListOfItems : List Value → Nat
  | [] => 0
  | v :: rest => max (longestList v) (longestListOfItems rest)

/-- The length of the longest list in the values of a list of fields. -/
def longestListOfFields : List (String × Value) → Nat
  | [] => 0
  | (_, v) :: rest => max (longestList v) (longestListOfFields rest)

end

theorem longestList_le_of_mem_items {items : List Value} {v : Value} (h : v ∈ items) :
    v.longestList ≤ longestListOfItems items := by
  induction items with
  | nil => cases h
  | cons u rest ih =>
    rcases List.mem_cons.mp h with rfl | hrest
    · exact Nat.le_max_left _ _
    · exact Nat.le_trans (ih hrest) (Nat.le_max_right _ _)

theorem longestList_le_of_mem_fields {fields : List (String × Value)} {name : String} {v : Value}
    (h : (name, v) ∈ fields) : v.longestList ≤ longestListOfFields fields := by
  induction fields with
  | nil => cases h
  | cons field rest ih =>
    rcases List.mem_cons.mp h with rfl | hrest
    · exact Nat.le_max_left _ _
    · exact Nat.le_trans (ih hrest) (Nat.le_max_right _ _)

theorem longestList_of_field {fields : List (String × Value)} {name : String} {u : Value}
    (h : Table.get? fields name = some u) : u.longestList ≤ (object fields).longestList :=
  longestList_le_of_mem_fields (Table.mem_of_get? h)

theorem longestList_of_item {items : List Value} {i : Nat} {u : Value} (h : items[i]? = some u) :
    i < items.length ∧ items.length ≤ (array items).longestList ∧
      u.longestList ≤ (array items).longestList :=
  ⟨(List.getElem?_eq_some_iff.mp h).1, Nat.le_max_left _ _,
    Nat.le_trans (longestList_le_of_mem_items (List.mem_of_getElem? h)) (Nat.le_max_right _ _)⟩

end Value

namespace Path

/-- Whether a step stands for one place and can be written between single quotes: a key without
such a quote, or a position. -/
def Step.IsPlain : Step → Prop
  | .key name => '\'' ∉ name.toList
  | .index _ => True
  | .wildcard => False

/-- Where the steps of an address lead in a document. -/
inductive Leads : Value → List Step → Value → Prop
  /-- No step leads to the document itself. -/
  | here (v : Value) : Leads v [] v
  /-- A key leads to the value under it. -/
  | key {fields : List (String × Value)} {name : String} {u w : Value} {steps : List Step}
    (hfield : Table.get? fields name = some u) (hrest : Leads u steps w) :
    Leads (.object fields) (.key name :: steps) w
  /-- A position leads to the item there. -/
  | item {items : List Value} {i : Nat} {u w : Value} {steps : List Step}
    (hitem : items[i]? = some u) (hrest : Leads u steps w) :
    Leads (.array items) (.index i :: steps) w
  /-- A position less the length of the list leads to the same item. -/
  | itemFromEnd {items : List Value} {i : Nat} {u w : Value} {steps : List Step}
    (hitem : items[i]? = some u) (hrest : Leads u steps w) :
    Leads (.array items) (.index (i - items.length) :: steps) w

/-- The positions of an address that leads somewhere are no larger than the lists on its way. -/
theorem Leads.index_bounds {v w : Value} {steps : List Step} (h : Leads v steps w) {i : Int}
    (hi : .index i ∈ steps) : -(v.longestList : Int) ≤ i ∧ i < v.longestList := by
  induction h with
  | here v => cases hi
  | key hfield _ ih =>
    have hle := Value.longestList_of_field hfield
    have := ih (by simpa using hi)
    omega
  | item hitem _ ih =>
    obtain ⟨hlt, hlength, hle⟩ := Value.longestList_of_item hitem
    rcases List.mem_cons.mp hi with heq | hrest
    · cases heq
      omega
    · have := ih hrest
      omega
  | itemFromEnd hitem _ ih =>
    obtain ⟨hlt, hlength, hle⟩ := Value.longestList_of_item hitem
    rcases List.mem_cons.mp hi with heq | hrest
    · cases heq
      omega
    · have := ih hrest
      omega

/-! ## What an address selects -/

theorem item?_natCast (items : List Value) (i : Nat) : item? items i = items[i]? := by
  have hpos : ¬ (i : Int) < 0 := by omega
  simp only [item?, fromStart, if_neg hpos, Int.toNat_natCast]

theorem item?_fromEnd {items : List Value} {i : Nat} (h : i < items.length) :
    item? items (i - items.length) = items[i]? := by
  have hneg : (i : Int) - items.length < 0 := by omega
  have hback : (items.length : Int) + (i - items.length) = i := by omega
  have hpos : ¬ (i : Int) < 0 := by omega
  simp only [item?, fromStart, if_pos hneg, hback, if_neg hpos, Int.toNat_natCast]

theorem exists_position {items : List Value} {p : Int} {u : Value} (h : item? items p = some u) :
    ∃ i : Nat, items[i]? = some u ∧ (p = i ∨ p = i - items.length) := by
  unfold item? fromStart at h
  by_cases hp : p < 0
  · simp only [if_pos hp] at h
    split at h
    · cases h
    · exact ⟨_, h, Or.inr (by omega)⟩
  · simp only [if_neg hp] at h
    exact ⟨_, h, Or.inl (by omega)⟩

/-- A step other than a wildcard leads to nothing or to one child. -/
theorem Step.follow_cases {step : Step} (h : step ≠ .wildcard) (v : Value) :
    step.follow v = [] ∨ ∃ u, step.follow v = [u] ∧
      ∀ steps w, Leads u steps w → Leads v (step :: steps) w := by
  cases step with
  | wildcard => exact absurd rfl h
  | key name =>
    cases v with
    | object fields =>
      cases hfield : Table.get? fields name with
      | none => exact Or.inl (by simp [follow, hfield])
      | some u => exact Or.inr ⟨u, by simp [follow, hfield], fun _ _ hrest => .key hfield hrest⟩
    | null | bool _ | number _ | string _ | array _ => exact Or.inl rfl
  | index p =>
    cases v with
    | array items =>
      cases hitem : item? items p with
      | none => exact Or.inl (by simp [follow, hitem])
      | some u =>
        refine Or.inr ⟨u, by simp [follow, hitem], fun steps w hrest => ?_⟩
        obtain ⟨i, hi, rfl | rfl⟩ := exists_position hitem
        · exact .item hi hrest
        · exact .itemFromEnd hi hrest
    | null | bool _ | number _ | string _ | object _ => exact Or.inl rfl

/-- Where steps lead is what they select. -/
theorem Leads.select {v w : Value} {steps : List Step} (h : Leads v steps w) :
    select steps v = [w] := by
  induction h with
  | here v => rfl
  | key hfield _ ih => simp [select_cons, Step.follow, hfield, ih]
  | item hitem _ ih => simp [select_cons, Step.follow, item?_natCast, hitem, ih]
  | itemFromEnd hitem _ ih =>
    have hlt := (List.getElem?_eq_some_iff.mp hitem).1
    simp [select_cons, Step.follow, item?_fromEnd hlt, hitem, ih]

/-- What steps without wildcards select is nothing or the one value to which they lead. -/
theorem select_eq_nil_or_leads {steps : List Step} (h : .wildcard ∉ steps) (v : Value) :
    select steps v = [] ∨ ∃ w, Leads v steps w := by
  induction steps generalizing v with
  | nil => exact Or.inr ⟨v, .here v⟩
  | cons step rest ih =>
    obtain ⟨hstep, hrest⟩ := List.ne_and_not_mem_of_not_mem_cons h
    rcases Step.follow_cases hstep.symm v with hnone | ⟨u, hone, hlead⟩
    · exact Or.inl (by rw [select_cons, hnone, List.flatMap_nil])
    · rw [select_cons, hone, List.flatMap_singleton]
      exact (ih hrest u).imp_right fun ⟨w, hw⟩ => ⟨w, hlead rest w hw⟩

theorem find?_eq_head? {steps : List Step} (h : .wildcard ∉ steps) (v : Value) :
    find? steps v = (select steps v).head? := by
  have hwildcard : steps.contains .wildcard = false := by
    rw [List.contains_eq_mem]
    exact decide_eq_false h
  rw [find?, hwildcard]
  rfl

theorem wildcard_not_mem {steps : List Step} (hplain : ∀ step ∈ steps, step.IsPlain) :
    .wildcard ∉ steps :=
  fun h => hplain _ h

/-- What the steps of an address select is nothing or where they lead. -/
theorem select_cases {steps : List Step} (hplain : ∀ step ∈ steps, step.IsPlain) (v : Value) :
    select steps v = [] ∨ ∃ w, Leads v steps w :=
  select_eq_nil_or_leads (wildcard_not_mem hplain) v

/-! ## Addresses as texts -/

/-- A step in brackets, a key between single quotes. -/
def Step.written : Step → String
  | .key name => "['" ++ name ++ "']"
  | .index i => "[" ++ toString i ++ "]"
  | .wildcard => "[*]"

/-- Steps in brackets behind a dollar sign. -/
def written (steps : List Step) : String :=
  "$" ++ String.join (steps.map Step.written)

/-- The characters of steps in brackets. -/
def brackets (steps : List Step) : List Char :=
  steps.flatMap fun step => step.written.toList

theorem toList_written (steps : List Step) : (written steps).toList = '$' :: brackets steps := by
  simp [written, brackets, List.flatMap_map]

theorem takeWhile_ne_append {c : Char} {s : List Char} (h : c ∉ s) (rest : List Char) :
    (s ++ c :: rest).takeWhile (· != c) = s := by
  have hs : ∀ d ∈ s, (d != c) = true := fun d hd => bne_iff_ne.mpr fun heq => h (heq ▸ hd)
  rw [List.takeWhile_append_of_pos hs, List.takeWhile_cons_of_neg (by simp), List.append_nil]

theorem dropWhile_ne_append {c : Char} {s : List Char} (h : c ∉ s) (rest : List Char) :
    (s ++ c :: rest).dropWhile (· != c) = c :: rest := by
  have hs : ∀ d ∈ s, (d != c) = true := fun d hd => bne_iff_ne.mpr fun heq => h (heq ▸ hd)
  rw [List.dropWhile_append_of_pos hs, List.dropWhile_cons_of_neg (by simp)]

/-- Whether a text can stand in brackets without quotation marks: it does not close them and starts
with no quotation mark. -/
def IsUnquoted (inner : List Char) : Prop :=
  ']' ∉ inner ∧ ∀ c ∈ inner.head?, ¬ (c = '\'' ∨ c = '"')

/-- A character of a written number is no blank and has no meaning in brackets. -/
theorem plain_of_mem_toString {i : Int} {c : Char} (h : c ∈ (toString i).toList) :
    Text.isBlank c = false ∧ c ∉ ['*', ']', '\'', '"'] := by
  rcases Text.mem_toString_int h with rfl | hdigit
  · decide
  · obtain ⟨hlow, hhigh⟩ : 48 ≤ c.toNat ∧ c.toNat ≤ 57 := Char.isDigit_iff_toNat.mp hdigit
    refine ⟨?_, fun hmem => ?_⟩
    · simp [Text.isBlank]
      omega
    · simp only [List.mem_cons, List.not_mem_nil, or_false] at hmem
      rcases hmem with rfl | rfl | rfl | rfl <;> exact absurd hdigit (by decide)

theorem trimChars_toString (i : Int) :
    Text.trimChars (toString i).toList = (toString i).toList :=
  Text.trimChars_eq_self (fun _ h => (plain_of_mem_toString (List.mem_of_mem_head? h)).1)
    fun _ h => (plain_of_mem_toString (List.mem_of_getLast? h)).1

theorem bracketStep?_toString (i : Int) :
    bracketStep? (toString i).toList = if Text.FitsInt64 i then some (.index i) else none := by
  have hstar : (toString i).toList ≠ ['*'] := fun heq =>
    (plain_of_mem_toString (i := i) (c := '*') (heq ▸ List.mem_singleton_self '*')).2
      (by simp)
  simp only [bracketStep?, trimChars_toString, if_neg hstar, Text.readInt64?_toString]
  split <;> rfl

section

variable (path : List Char)

/-- A quoted text is read up to the next quotation mark of its kind. -/
theorem bracket_quoted {quote : Char} (hquote : quote = '\'' ∨ quote = '"') {name : List Char}
    (h : quote ∉ name) (rest : List Char) :
    bracket path (quote :: (name ++ quote :: ']' :: rest)) =
      .ok (.key (String.ofList name), rest) := by
  rw [bracket]
  simp only [if_pos hquote, dropWhile_ne_append h, takeWhile_ne_append h]

/-- A text that does not start with a quotation mark is read up to the next closing bracket. -/
theorem bracket_unquoted {inner : List Char} (h : IsUnquoted inner) (rest : List Char) :
    bracket path (inner ++ ']' :: rest) =
      match bracketStep? inner with
      | some step => .ok (step, rest)
      | none =>
        .error (.invalidIndex (String.ofList path) (String.ofList (Text.trimChars inner))) := by
  obtain ⟨hclose, hhead⟩ := h
  have hdrop := dropWhile_ne_append hclose rest
  have htake := takeWhile_ne_append hclose rest
  obtain ⟨c, tail, hs, hquote⟩ : ∃ c tail, inner ++ ']' :: rest = c :: tail ∧
      ¬ (c = '\'' ∨ c = '"') := by
    cases inner with
    | nil => exact ⟨']', rest, rfl, by decide⟩
    | cons c tail => exact ⟨c, _, rfl, hhead c rfl⟩
  rw [hs] at hdrop htake ⊢
  rw [bracket, if_neg hquote]
  cases hstep : bracketStep? inner with
  | none => simp only [hdrop, htake, hstep]
  | some step => simp only [hdrop, htake, hstep]

theorem bracket_key {name : String} (h : '\'' ∉ name.toList) (rest : List Char) :
    bracket path ('\'' :: (name.toList ++ '\'' :: ']' :: rest)) = .ok (.key name, rest) := by
  rw [bracket_quoted path (.inl rfl) h, String.ofList_toList]

theorem bracket_index (i : Int) (rest : List Char) :
    bracket path ((toString i).toList ++ ']' :: rest) =
      if Text.FitsInt64 i then .ok (.index i, rest)
      else .error (.invalidIndex (String.ofList path) (toString i)) := by
  -- A number does not start with a quotation mark, so it is read up to the bracket.
  have hunquoted : IsUnquoted (toString i).toList := by
    refine ⟨fun h => (plain_of_mem_toString h).2 (by simp), fun c hc => ?_⟩
    have hother := (plain_of_mem_toString (List.mem_of_mem_head? hc)).2
    simp only [List.mem_cons, not_or] at hother
    exact fun h => h.elim hother.2.2.1 hother.2.2.2.1
  rw [bracket_unquoted path hunquoted, bracketStep?_toString, trimChars_toString,
    String.ofList_toList]
  by_cases hfits : Text.FitsInt64 i
  · simp only [if_pos hfits]
  · simp only [if_neg hfits]

theorem segment_bracket (s : List Char) : segment path '[' s = bracket path s := by
  simp [segment]

theorem segments_bracket (s : List Char) : segments path ('[' :: s) =
    (bracket path s).bind fun p => (segments path p.2).map (p.1 :: ·) := by
  rw [segments_cons, segment_bracket]

theorem segments_key {name : String} (h : '\'' ∉ name.toList) (rest : List Char) :
    segments path ((Step.key name).written.toList ++ rest) =
      (segments path rest).map (.key name :: ·) := by
  have hchars : (Step.key name).written.toList ++ rest =
      '[' :: '\'' :: (name.toList ++ '\'' :: ']' :: rest) := by
    simp [Step.written]
  rw [hchars, segments_bracket, bracket_key path h]
  rfl

theorem segments_index (i : Int) (rest : List Char) :
    segments path ((Step.index i).written.toList ++ rest) =
      if Text.FitsInt64 i then (segments path rest).map (.index i :: ·)
      else .error (.invalidIndex (String.ofList path) (toString i)) := by
  have hchars : (Step.index i).written.toList ++ rest =
      '[' :: ((toString i).toList ++ ']' :: rest) := by
    simp [Step.written]
  rw [hchars, segments_bracket, bracket_index path]
  split <;> rfl

end

/-- The steps before a part of a path that all fit are read off one after the other. -/
theorem segments_append (path : List Char) {steps : List Step}
    (hplain : ∀ step ∈ steps, step.IsPlain) (hfits : ∀ i, .index i ∈ steps → Text.FitsInt64 i)
    (rest : List Char) : segments path (brackets steps ++ rest) =
      (segments path rest).map (steps ++ ·) := by
  induction steps with
  | nil =>
    change segments path rest = _
    cases segments path rest <;> rfl
  | cons step steps ih =>
    obtain ⟨hstep, hsteps⟩ := List.forall_mem_cons.mp hplain
    have hread := ih hsteps fun i hi => hfits i (List.mem_cons_of_mem step hi)
    rw [brackets, List.flatMap_cons, ← brackets, List.append_assoc]
    cases step with
    | wildcard => exact hstep.elim
    | key name =>
      rw [segments_key path hstep, hread]
      cases segments path rest <;> rfl
    | index i =>
      rw [segments_index, if_pos (hfits i List.mem_cons_self), hread]
      cases segments path rest <;> rfl

theorem Step.exists_written (step : Step) : ∃ s, step.written.toList = s ++ [']'] := by
  cases step with
  | key name => exact ⟨'[' :: '\'' :: (name.toList ++ ['\'']), by simp [written]⟩
  | index i => exact ⟨'[' :: (toString i).toList, by simp [written]⟩
  | wildcard => exact ⟨['[', '*'], rfl⟩

theorem trimChars_written (steps : List Step) :
    Text.trimChars (written steps).toList = (written steps).toList := by
  rw [toList_written]
  refine Text.trimChars_eq_self (fun c hc => ?_) fun c hc => ?_
  · cases hc
    rfl
  · rcases List.eq_nil_or_concat steps with rfl | ⟨init, step, rfl⟩
    · cases hc
      rfl
    · obtain ⟨s, hs⟩ := step.exists_written
      have hlast : '$' :: brackets (init ++ [step]) = '$' :: brackets init ++ s ++ [']'] := by
        simp [brackets, hs]
      rw [List.concat_eq_append, hlast, List.getLast?_concat] at hc
      cases hc
      rfl

theorem parse_written (steps : List Step) :
    parse (written steps) = segments (written steps).toList (brackets steps) := by
  rw [parse, trimChars_written, toList_written]
  rfl

/-! ## Queries -/

theorem query_of_fits (v : Value) {steps : List Step} (hplain : ∀ step ∈ steps, step.IsPlain)
    (hfits : ∀ i, .index i ∈ steps → Text.FitsInt64 i) :
    query v (written steps) = .ok (select steps v).head? := by
  have hread := segments_append (written steps).toList hplain hfits []
  rw [List.append_nil] at hread
  rw [query, parse_written, hread, ← find?_eq_head? (wildcard_not_mem hplain)]
  simp [Except.map]

theorem query_of_not_fits (v : Value) (before after : List Step) {i : Int}
    (hplain : ∀ step ∈ before, step.IsPlain) (hfits : ∀ j, .index j ∈ before → Text.FitsInt64 j)
    (hi : ¬ Text.FitsInt64 i) : query v (written (before ++ .index i :: after)) =
      .error (.invalidIndex (written (before ++ .index i :: after)) (toString i)) := by
  have hsplit : brackets (before ++ .index i :: after) =
      brackets before ++ ((Step.index i).written.toList ++ brackets after) := by
    simp [brackets]
  rw [query, parse_written, hsplit, segments_append _ hplain hfits, segments_index, if_neg hi,
    String.ofList_toList]
  rfl

/-- **Addresses as paths.**  A query with a written address finds the node to which the address
leads, also where positions are counted from the end.  If the address leads to no node, the query
finds nothing, provided that all positions have a signed form of 64 bits; the first position without
such a form makes the query refuse the path and name that position. -/
theorem query_written (v : Value) (steps : List Step) (hplain : ∀ step ∈ steps, step.IsPlain) :
    (v.longestList < 2 ^ 63 → ∀ w, Leads v steps w →
        query v (written steps) = .ok (some w)) ∧
      ((∀ i, .index i ∈ steps → Text.FitsInt64 i) → (∀ w, ¬ Leads v steps w) →
        query v (written steps) = .ok none) ∧
      ∀ before i after, steps = before ++ .index i :: after →
        (∀ j, .index j ∈ before → Text.FitsInt64 j) → ¬ Text.FitsInt64 i →
          query v (written steps) = .error (.invalidIndex (written steps) (toString i)) := by
  refine ⟨fun hshort w hlead => ?_, fun hfits hnone => ?_, ?_⟩
  · -- The positions of a node are within the lists on its way, and these are short.
    have hfits (i : Int) (hi : .index i ∈ steps) : Text.FitsInt64 i := by
      obtain ⟨hlow, hhigh⟩ := hlead.index_bounds hi
      exact ⟨by omega, by omega⟩
    rw [query_of_fits v hplain hfits, hlead.select]
    rfl
  · rcases select_cases hplain v with hempty | ⟨w, hlead⟩
    · rw [query_of_fits v hplain hfits, hempty]
      rfl
    · exact absurd hlead (hnone w)
  · rintro before i after rfl hbefore hi
    exact query_of_not_fits v before after (fun step h => hplain step (List.mem_append_left _ h))
      hbefore hi

/-- A document with a key that looks like a path, asked for its last item, for an item past the end
and for a position without a form of 64 bits. -/
theorem query_written_items :
    let v : Value := .object [("a].*", .array [.null, .object [("", .string "x")]])]
    query v (written [.key "a].*", .index (-1), .key ""]) = .ok (some (.string "x")) ∧
      query v (written [.key "a].*", .index 2]) = .ok none ∧
      query v (written [.key "a].*", .index (2 ^ 63)]) = .error
        (.invalidIndex "$['a].*'][9223372036854775808]" "9223372036854775808") := by
  intro v
  have hlast : Leads v [.key "a].*", .index (-1), .key ""] (.string "x") :=
    .key rfl (.itemFromEnd (i := 1) rfl (.key rfl (.here _)))
  have hpast (w : Value) : ¬ Leads v [.key "a].*", .index 2] w := fun h => by
    have hlt := (h.index_bounds (i := 2) (by simp)).2
    exact absurd hlt (by decide)
  refine ⟨?_, ?_, ?_⟩
  · exact (query_written v _ (by simp [Step.IsPlain])).1 (by decide) _ hlast
  · exact (query_written v _ (by simp [Step.IsPlain])).2.1 (by simp; decide) hpast
  · exact (query_written v _ (by simp [Step.IsPlain])).2.2 [.key "a].*"] _ [] rfl (by simp)
      (by decide)

/-- A position past the end leads to no node, but a query does not always find nothing then. -/
theorem not_query_written_none : ¬ ∀ (v : Value) (steps : List Step),
    (∀ step ∈ steps, step.IsPlain) → (∀ w, ¬ Leads v steps w) →
      query v (written steps) = .ok none := by
  intro h
  have hbeyond (w : Value) : ¬ Leads (.array [.null]) [.index (2 ^ 63)] w := fun hlead => by
    have hlt := (hlead.index_bounds List.mem_cons_self).2
    exact absurd hlt (by decide)
  have hnone := h (.array [.null]) [.index (2 ^ 63)] (by simp [Step.IsPlain]) hbeyond
  have hrefused := query_of_not_fits (.array [.null]) [] [] (i := 2 ^ 63) (by simp) (by simp)
    (by decide)
  exact absurd (hrefused.symm.trans hnone) (by simp)

end Path

end RequestSuite
