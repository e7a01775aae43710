import Mathlib.Data.List.Forall2
import RequestSuite.Proofs.Value.Quoted

/-!
# The compact form tells the value

Two values have the same compact form just if they are identical: of one kind, with the same items
or fields in the same order, equal texts, and numbers that are spelled alike.  The first character
tells the kind.  A text ends at its quotation mark and a list or map at its bracket, and a number
goes on up to a character that is not in the spelling of numbers.
-/

namespace RequestSuite

/-! ## Numbers -/

namespace Number

/-- Whether a character occurs in the spelling of numbers. -/
def isSpelling (c : Char) : Bool :=
  c.isDigit || c == '-' || c == '+' || c == '.' || c == 'e'

/-- The spelling of a number without its sign: it starts with a digit. -/
structure IsUnsigned (s : List Char) : Prop where
  spelling : ∀ c ∈ s, isSpelling c = true
  start : ∃ c ∈ s.head?, c.isDigit = true

theorem isSpelling_of_isDigit {c : Char} (h : c.isDigit = true) : isSpelling c = true := by
  simp [isSpelling, h]

theorem isUnsigned_digitChars (n : Nat) : IsUnsigned (Decimal.digitChars n) where
  spelling _ hc := isSpelling_of_isDigit (Decimal.isDigit_of_mem_digitChars hc)
  start :=
    ⟨_, List.head?_eq_some_head (Decimal.digitChars_ne_nil n),
      Decimal.isDigit_of_mem_digitChars (List.head_mem _)⟩

theorem IsUnsigned.append {s t : List Char} (hs : IsUnsigned s)
    (ht : ∀ c ∈ t, isSpelling c = true) : IsUnsigned (s ++ t) where
  spelling := List.forall_mem_append.mpr ⟨hs.spelling, ht⟩
  start := by
    obtain ⟨c, hc, hdigit⟩ := hs.start
    exact ⟨c, List.mem_head?_append_of_mem_head? hc, hdigit⟩

theorem IsUnsigned.take {s : List Char} (hs : IsUnsigned s) {n : Nat} (hn : n ≠ 0) :
    IsUnsigned (s.take n) where
  spelling c hc := hs.spelling c (List.mem_of_mem_take hc)
  start := by
    rw [List.head?_take, if_neg hn]
    exact hs.start

theorem isSpelling_of_mem_replicate {n : Nat} : ∀ c ∈ List.replicate n '0', isSpelling c = true :=
  fun _ hc => List.eq_of_mem_replicate hc ▸ rfl

theorem isUnsigned_plainChars {digits : List Char} (h : IsUnsigned digits) (before : Int) :
    IsUnsigned (plainChars digits before) := by
  unfold plainChars
  split
  · refine ⟨?_, '0', rfl, rfl⟩
    exact List.forall_mem_cons.mpr ⟨rfl, List.forall_mem_cons.mpr ⟨rfl,
      List.forall_mem_append.mpr ⟨isSpelling_of_mem_replicate, h.spelling⟩⟩⟩
  · dsimp only
    split
    · exact (h.append isSpelling_of_mem_replicate).append
        (List.forall_mem_cons.mpr ⟨rfl, List.forall_mem_singleton.mpr rfl⟩)
    · refine (h.take (by omega)).append (List.forall_mem_cons.mpr ⟨rfl, fun c hc => ?_⟩)
      exact h.spelling c (List.mem_of_mem_drop hc)

theorem isUnsigned_scientificChars {digits : List Char} (h : IsUnsigned digits) (power : Int) :
    IsUnsigned (scientificChars digits power) := by
  have hfraction : ∀ c ∈ (if digits.length ≤ 1 then [] else '.' :: digits.drop 1),
      isSpelling c = true := by
    split
    · exact nofun
    · exact List.forall_mem_cons.mpr ⟨rfl, fun c hc => h.spelling c (List.mem_of_mem_drop hc)⟩
  have hsign : isSpelling (if power < 0 then '-' else '+') = true := by
    split <;> rfl
  exact ((h.take Nat.one_ne_zero).append hfraction).append (List.forall_mem_cons.mpr
    ⟨rfl, List.forall_mem_cons.mpr ⟨hsign, (isUnsigned_digitChars _).spelling⟩⟩)

theorem exists_isUnsigned_chars (n : Number) :
    ∃ sign s, n.chars = sign ++ s ∧ (sign = ['-'] ∨ sign = []) ∧ IsUnsigned s := by
  have hsign (negative : Prop) [Decidable negative] :
      (if negative then ['-'] else []) = ['-'] ∨ (if negative then ['-'] else []) = [] := by
    split
    · exact .inl rfl
    · exact .inr rfl
  cases n with
  | int i => exact ⟨_, _, rfl, hsign _, isUnsigned_digitChars _⟩
  | float x =>
    refine ⟨_, _, rfl, hsign _, ?_⟩
    split
    · exact isUnsigned_plainChars (isUnsigned_digitChars _) _
    · exact isUnsigned_scientificChars (isUnsigned_digitChars _) _

theorem isSpelling_of_mem_chars {n : Number} : ∀ c ∈ n.chars, isSpelling c = true := by
  obtain ⟨sign, s, h, hsign, hs⟩ := n.exists_isUnsigned_chars
  rw [h]
  refine List.forall_mem_append.mpr ⟨?_, hs.spelling⟩
  rcases hsign with rfl | rfl
  · exact List.forall_mem_singleton.mpr rfl
  · exact nofun

/-- No number goes on at the start of a text. -/
def EndsNumber (rest : List Char) : Prop :=
  ∀ c ∈ rest.head?, isSpelling c = false

variable {x y : List Char}

theorem takeWhile_chars_append (n : Number) (hx : EndsNumber x) :
    (n.chars ++ x).takeWhile isSpelling = n.chars := by
  rw [List.takeWhile_append_of_pos isSpelling_of_mem_chars]
  cases x with
  | nil => exact List.append_nil _
  | cons c x => rw [List.takeWhile_cons_of_neg (by simp [hx c rfl]), List.append_nil]

theorem chars_append_eq_iff {m n : Number} (hx : EndsNumber x) (hy : EndsNumber y) :
    m.chars ++ x = n.chars ++ y ↔ m.chars = n.chars ∧ x = y := by
  constructor
  · intro h
    have hchars : m.chars = n.chars := by
      rw [← m.takeWhile_chars_append hx, h, n.takeWhile_chars_append hy]
    rw [hchars] at h
    exact ⟨hchars, List.append_cancel_left h⟩
  · rintro ⟨hchars, rfl⟩
    rw [hchars]

end Number

namespace Value

open Number (EndsNumber)

/-! ## The first character -/

/-- The kind of the values whose compact form starts with a character. -/
def kindAt (c : Char) : Option String :=
  if c = '-' ∨ c.isDigit = true then some "number"
  else match c with
    | 'n' => some "null"
    | 't' | 'f' => some "boolean"
    | '"' => some "string"
    | '[' => some "array"
    | '\x7b' => some "object"
    | _ => none

theorem kindAt_head_compactChars (v : Value) (x : List Char) :
    (v.compactChars ++ x).head?.bind kindAt = some v.kind := by
  cases v with
  | null => rfl
  | bool b => cases b <;> rfl
  | number n =>
    obtain ⟨sign, s, h, hsign, hs⟩ := n.exists_isUnsigned_chars
    obtain ⟨c, hc, hdigit⟩ := hs.start
    rw [compactChars, h]
    rcases hsign with rfl | rfl
    · rfl
    · have hfirst : (s ++ x).head? = some c := List.mem_head?_append_of_mem_head? hc
      rw [List.nil_append, hfirst]
      exact if_pos (.inr hdigit)
  | string s => rfl
  | array items => cases items <;> rfl
  | object fields => cases fields <;> rfl

variable {v w : Value} {x y : List Char}

theorem kind_eq_of_append (h : v.compactChars ++ x = w.compactChars ++ y) : v.kind = w.kind := by
  have hkind := congrArg (fun s => s.head?.bind kindAt) h
  rw [kindAt_head_compactChars, kindAt_head_compactChars] at hkind
  exact Option.some.inj hkind

/-- No value starts with the bracket that closes a list. -/
theorem compactChars_append_ne_bracket (v : Value) : v.compactChars ++ x ≠ ']' :: y := by
  intro h
  have hkind := congrArg (fun s => s.head?.bind kindAt) h
  rw [kindAt_head_compactChars] at hkind
  cases hkind

/-! ## Identical values -/

/-- Two values are of one kind and have equal parts in the same order, numbers that are spelled
alike for equal ones. -/
inductive Identical : Value → Value → Prop
  | null : Identical .null .null
  | bool (b : Bool) : Identical (.bool b) (.bool b)
  | number {m n : Number} (h : m.chars = n.chars) : Identical (.number m) (.number n)
  | string (s : String) : Identical (.string s) (.string s)
  | array {vs ws : List Value} (h : List.Forall₂ Identical vs ws) :
      Identical (.array vs) (.array ws)
  | object {fs gs : List (String × Value)} (hkeys : fs.map (·.1) = gs.map (·.1))
      (h : List.Forall₂ Identical (fs.map (·.2)) (gs.map (·.2))) :
      Identical (.object fs) (.object gs)

theorem Identical.kind_eq (h : Identical v w) : v.kind = w.kind := by
  cases h <;> rfl

theorem identical_bool_iff {a b : Bool} : Identical (.bool a) (.bool b) ↔ a = b :=
  ⟨fun h => by cases h; rfl, fun h => h ▸ .bool a⟩

theorem identical_number_iff {m n : Number} :
    Identical (.number m) (.number n) ↔ m.chars = n.chars :=
  ⟨fun h => by cases h with | number h => exact h, .number⟩

theorem identical_string_iff {s t : String} : Identical (.string s) (.string t) ↔ s = t :=
  ⟨fun h => by cases h; rfl, fun h => h ▸ .string s⟩

theorem identical_array_iff {vs ws : List Value} :
    Identical (.array vs) (.array ws) ↔ List.Forall₂ Identical vs ws :=
  ⟨fun h => by cases h with | array h => exact h, .array⟩

theorem identical_object_iff {fs gs : List (String × Value)} :
    Identical (.object fs) (.object gs) ↔
      fs.map (·.1) = gs.map (·.1) ∧ List.Forall₂ Identical (fs.map (·.2)) (gs.map (·.2)) :=
  ⟨fun h => by cases h with | object hkeys h => exact ⟨hkeys, h⟩, fun h => .object h.1 h.2⟩

/-! ## What compact forms tell -/

theorem endsNumber_compactItems (vs : List Value) (x : List Char) :
    EndsNumber (compactItems vs ++ x) := by
  cases vs <;> rintro c ⟨⟩ <;> rfl

theorem endsNumber_compactFields (fs : List (String × Value)) (x : List Char) :
    EndsNumber (compactFields fs ++ x) := by
  cases fs <;> rintro c ⟨⟩ <;> rfl

/-- Two lists are compared by their items and closing brackets. -/
theorem array_append_eq_iff (vs ws : List Value) :
    (Value.array vs).compactChars ++ x = (Value.array ws).compactChars ++ y ↔
      compactItems vs ++ x = compactItems ws ++ y := by
  cases vs with
  | nil =>
    cases ws with
    | nil => simp [compactChars, compactItems]
    | cons w ws => simp [compactChars, compactItems, (compactChars_append_ne_bracket w).symm]
  | cons v vs =>
    cases ws with
    | nil => simp [compactChars, compactItems, compactChars_append_ne_bracket v]
    | cons w ws => simp [compactChars, compactItems]

/-- Two maps are compared by their fields and closing braces. -/
theorem object_append_eq_iff (fs gs : List (String × Value)) :
    (Value.object fs).compactChars ++ x = (Value.object gs).compactChars ++ y ↔
      compactFields fs ++ x = compactFields gs ++ y := by
  cases fs <;> cases gs <;> simp [compactChars, compactFields, quotedChars]

mutual

/-- Values are told apart with anything behind them that does not go on with a number. -/
theorem compactChars_append_eq_iff (v w : Value) {x y : List Char} (hx : EndsNumber x)
    (hy : EndsNumber y) :
    v.compactChars ++ x = w.compactChars ++ y ↔ Identical v w ∧ x = y := by
  -- Values of different kinds differ in the first character, so only six pairs of kinds are left.
  by_cases hkind : v.kind = w.kind
  · cases v with
    | null =>
      cases w with
      | null => exact (List.append_right_inj _).trans (and_iff_right .null).symm
      | _ => simp [kind] at hkind
    | bool a =>
      cases w with
      | bool b => cases a <;> cases b <;> simp [compactChars, boolChars, identical_bool_iff]
      | _ => simp [kind] at hkind
    | number m =>
      cases w with
      | number n =>
        rw [compactChars, compactChars, identical_number_iff]
        exact Number.chars_append_eq_iff hx hy
      | _ => simp [kind] at hkind
    | string s =>
      cases w with
      | string t =>
        rw [compactChars, compactChars, identical_string_iff]
        exact quotedChars_append_eq_iff
      | _ => simp [kind] at hkind
    | array vs =>
      cases w with
      | array ws =>
        rw [array_append_eq_iff, identical_array_iff]
        exact compactItems_append_eq_iff vs ws
      | _ => simp [kind] at hkind
    | object fs =>
      cases w with
      | object gs =>
        rw [object_append_eq_iff, identical_object_iff, and_assoc]
        exact compactFields_append_eq_iff fs gs
      | _ => simp [kind] at hkind
  · exact iff_of_false (fun h => hkind (kind_eq_of_append h)) fun h => hkind h.1.kind_eq

/-- Behind an item stands a comma or the bracket, and behind the bracket anything. -/
theorem compactItems_append_eq_iff (vs ws : List Value) {x y : List Char} :
    compactItems vs ++ x = compactItems ws ++ y ↔ List.Forall₂ Identical vs ws ∧ x = y := by
  cases vs with
  | nil =>
    cases ws with
    | nil => simp [compactItems]
    | cons w ws => simp [compactItems]
  | cons v vs =>
    cases ws with
    | nil => simp [compactItems]
    | cons w ws =>
      rw [compactItems, compactItems, List.cons_append, List.cons_append, List.cons_append,
        List.cons_append, List.append_assoc, List.append_assoc, List.cons_inj_right,
        compactChars_append_eq_iff v w (endsNumber_compactItems vs x)
          (endsNumber_compactItems ws y), compactItems_append_eq_iff vs ws, List.forall₂_cons,
        and_assoc]

theorem compactFields_append_eq_iff (fs gs : List (String × Value)) {x y : List Char} :
    compactFields fs ++ x = compactFields gs ++ y ↔
      fs.map (·.1) = gs.map (·.1) ∧
        List.Forall₂ Identical (fs.map (·.2)) (gs.map (·.2)) ∧ x = y := by
  cases fs with
  | nil =>
    cases gs with
    | nil => simp [compactFields]
    | cons g gs => simp [compactFields]
  | cons f fs =>
    cases gs with
    | nil => simp [compactFields]
    | cons g gs =>
      obtain ⟨k, v⟩ := f
      obtain ⟨l, w⟩ := g
      simp only [compactFields, List.cons_append, List.append_assoc, List.cons.injEq, true_and,
        quotedChars_append_eq_iff, List.map_cons, List.forall₂_cons,
        compactChars_append_eq_iff v w (endsNumber_compactFields fs x)
          (endsNumber_compactFields gs y), compactFields_append_eq_iff fs gs]
      tauto

end

/-- **The compact form tells the value** up to the spelling of numbers. -/
theorem compactChars_eq_iff : v.compactChars = w.compactChars ↔ Identical v w := by
  simpa using compactChars_append_eq_iff v w (x := []) (y := []) nofun nofun

end Value

end RequestSuite
