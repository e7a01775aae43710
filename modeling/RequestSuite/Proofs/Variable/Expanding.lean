import RequestSuite.Proofs.Template.Tokens
import RequestSuite.Variable.File

/-!
# The one reading of a text with outer variables

A text is read as stretches with occurrences of names between them.  What a reading has to be is
said without the scanner (`IsReading`): nothing is lost, what is between the braces is a name, and
no stretch has an occurrence in it.  Occurrences cannot overlap, because the only dollar sign of
one is its first character, so every text has exactly one reading.  The values of the names are put
in for the occurrences of that reading, in every text of a variable file and nowhere else
(`EnvironmentSet.ofText_expanded`).
-/

namespace RequestSuite

namespace Expansion

open Template (IsName)

/-- An occurrence of a name in a text. -/
def occurrence (name : List Char) : List Char :=
  '$' :: '\x7b' :: name ++ ['\x7d']

/-- Whether no name occurs in a text. -/
def IsPlain (s : List Char) : Prop :=
  ∀ name, IsName name → ¬ occurrence name <:+: s

/-- A text read as stretches with occurrences of names between them. -/
structure Reading where
  /-- What stands before the first occurrence. -/
  first : List Char
  /-- The names that occur, each with the stretch that follows. -/
  rest : List (List Char × List Char)

namespace Reading

/-- The text that was read. -/
def source (r : Reading) : List Char :=
  r.first ++ r.rest.flatMap fun p => occurrence p.1 ++ p.2

/-- The text with the values of the names that are set in place of their occurrences. -/
def filled (outer : Surroundings) (r : Reading) : List Char :=
  r.first ++ r.rest.flatMap fun p =>
    ((outer (.ofList p.1)).elim (occurrence p.1) String.toList) ++ p.2

/-- The pieces of a reading, character by character. -/
def pieces (r : Reading) : List Piece :=
  r.first.map .char ++ r.rest.flatMap fun p => .variable p.1 :: p.2.map .char

/-- The reading that some pieces make up. -/
def ofPieces : List Piece → Reading
  | [] => ⟨[], []⟩
  | .char c :: ps => ⟨c :: (ofPieces ps).first, (ofPieces ps).rest⟩
  | .variable name :: ps => ⟨[], (name, (ofPieces ps).first) :: (ofPieces ps).rest⟩

end Reading

/-- What makes stretches and occurrences the reading of a text. -/
structure IsReading (s : List Char) (r : Reading) : Prop where
  /-- Nothing is lost. -/
  source_eq : r.source = s
  /-- What occurs is a name. -/
  isName : ∀ p ∈ r.rest, IsName p.1
  plain_first : IsPlain r.first
  plain_rest : ∀ p ∈ r.rest, IsPlain p.2

/-! ## Occurrences -/

/-- The only dollar sign of an occurrence is its first character. -/
theorem dollar_not_mem {name : List Char} (h : IsName name) :
    '$' ∉ '\x7b' :: name ++ ['\x7d'] := by
  intro hmem
  rcases List.mem_append.mp hmem with hmem | hmem
  · rcases List.mem_cons.mp hmem with heq | hmem
    · cases heq
    · exact absurd (h.isWordChar _ hmem) (by decide)
  · cases List.mem_singleton.mp hmem

theorem occurrence_append (name rest : List Char) :
    occurrence name ++ rest = '$' :: '\x7b' :: (name ++ '\x7d' :: rest) := by
  simp [occurrence]

theorem braced?_eq_some_iff {s name rest : List Char} :
    braced? s = some (name, rest) ↔ s = '\x7b' :: (name ++ '\x7d' :: rest) ∧ IsName name := by
  constructor
  · intro h
    unfold braced? at h
    split at h
    · split at h
      · rename_i found after hfound
        obtain ⟨rfl, hname, -⟩ := Template.name?_eq_some_iff.mp hfound
        cases h
        exact ⟨rfl, hname⟩
      · cases h
    · cases h
  · rintro ⟨rfl, hname⟩
    have hends : Template.EndsName ('\x7d' :: rest) := by
      intro c hc
      cases hc
      decide
    have hfound : Template.name? (name ++ '\x7d' :: rest) = some (name, '\x7d' :: rest) :=
      Template.name?_eq_some_iff.mpr ⟨rfl, hname, hends⟩
    rw [braced?]
    simp only [hfound]

theorem isPlain_nil : IsPlain [] := by
  rintro name - ⟨u, v, h⟩
  simp [occurrence] at h

/-- A text in which nothing occurs, but for what may start with its first character. -/
theorem isPlain_cons_iff {c : Char} {s : List Char} : IsPlain (c :: s) ↔
    (∀ name, IsName name → ¬ occurrence name <+: c :: s) ∧ IsPlain s := by
  constructor
  · intro h
    exact ⟨fun name hname hstarts => h name hname hstarts.isInfix,
      fun name hname hwithin => h name hname (hwithin.trans (List.suffix_cons c s).isInfix)⟩
  · rintro ⟨hfirst, hrest⟩ name hname hwithin
    rcases List.infix_cons_iff.mp hwithin with hstarts | hwithin
    · exact hfirst name hname hstarts
    · exact hrest name hname hwithin

/-- An occurrence cannot go on from a stretch into the next occurrence, as it would have to go over
its dollar sign. -/
theorem prefix_of_prefix_append {c : Char} {name s rest : List Char} (hname : IsName name)
    (hrest : ∀ d ∈ rest.head?, d = '$') (h : occurrence name <+: c :: (s ++ rest)) :
    occurrence name <+: c :: s := by
  cases rest with
  | nil => rwa [List.append_nil] at h
  | cons d rest =>
    cases hrest d rfl
    obtain ⟨after, hafter⟩ := h
    obtain ⟨rfl, htail⟩ := List.cons.inj hafter
    obtain ⟨s', rfl, -⟩ := Template.exists_of_append_eq (dollar_not_mem hname) htail
    exact ⟨s', rfl⟩

/-! ## What the scanner does -/

theorem pieces_nil : pieces [] = [] := by
  rw [pieces]

theorem pieces_occurrence {name rest : List Char} (h : IsName name) :
    pieces (occurrence name ++ rest) = .variable name :: pieces rest := by
  have hbraced : braced? ('\x7b' :: (name ++ '\x7d' :: rest)) = some (name, rest) :=
    braced?_eq_some_iff.mpr ⟨rfl, h⟩
  rw [occurrence_append, pieces, if_pos rfl]
  split
  · rename_i found after hfound
    cases hbraced.symm.trans hfound
    rfl
  · rename_i hnone
    cases hbraced.symm.trans hnone

theorem pieces_char {c : Char} {s : List Char}
    (h : ∀ name, IsName name → ¬ occurrence name <+: c :: s) :
    pieces (c :: s) = .char c :: pieces s := by
  rw [pieces]
  split
  · rename_i hdollar
    subst hdollar
    split
    · rename_i name rest hfound
      obtain ⟨rfl, hname⟩ := braced?_eq_some_iff.mp hfound
      exact absurd ⟨rest, occurrence_append name rest⟩ (h name hname)
    · rfl
  · rfl

/-- What holds if an occurrence is read, and if a character is read with which none starts, holds of
every text. -/
theorem pieces_induction {motive : List Char → List Piece → Prop} (nil : motive [] [])
    (occurs : ∀ name rest, IsName name → motive rest (pieces rest) →
      motive (occurrence name ++ rest) (.variable name :: pieces rest))
    (char : ∀ c s, (∀ name, IsName name → ¬ occurrence name <+: c :: s) →
      motive s (pieces s) → motive (c :: s) (.char c :: pieces s))
    (s : List Char) : motive s (pieces s) := by
  induction hn : s.length using Nat.strong_induction_on generalizing s with
  | _ n ih =>
    subst hn
    cases s with
    | nil =>
      rw [pieces_nil]
      exact nil
    | cons c tail =>
      by_cases h : ∃ name, IsName name ∧ occurrence name <+: c :: tail
      · obtain ⟨name, hname, rest, hrest⟩ := h
        rw [← hrest] at ih ⊢
        rw [pieces_occurrence hname]
        refine occurs name rest hname (ih rest.length ?_ rest rfl)
        simp only [occurrence, List.length_append, List.length_cons]
        omega
      · have hnone : ∀ name, IsName name → ¬ occurrence name <+: c :: tail :=
          fun name hname hstarts => h ⟨name, hname, hstarts⟩
        rw [pieces_char hnone]
        exact char c tail hnone (ih tail.length (Nat.lt_succ_self _) tail rfl)

/-- A stretch is read character by character, whether it ends the text or an occurrence follows. -/
theorem pieces_append {s rest : List Char} (h : IsPlain s) (hrest : ∀ c ∈ rest.head?, c = '$') :
    pieces (s ++ rest) = s.map .char ++ pieces rest := by
  induction s with
  | nil => rfl
  | cons c s ih =>
    obtain ⟨hfirst, hplain⟩ := isPlain_cons_iff.mp h
    have hnone : ∀ name, IsName name → ¬ occurrence name <+: c :: (s ++ rest) :=
      fun name hname hstarts => hfirst name hname (prefix_of_prefix_append hname hrest hstarts)
    rw [List.cons_append, pieces_char hnone, ih hplain]
    rfl

/-! ## The scanner finds the one reading -/

/-- The scanner finds the pieces of every reading. -/
theorem IsReading.pieces_eq {s : List Char} {r : Reading} (h : IsReading s r) :
    pieces s = r.pieces := by
  obtain ⟨first, rest⟩ := r
  obtain ⟨rfl, hnames, hfirst, hrest⟩ := h
  simp only [Reading.source, Reading.pieces]
  -- Behind an occurrence stands a reading again, whose first stretch is the one that follows it.
  induction rest generalizing first with
  | nil =>
    rw [List.flatMap_nil, List.flatMap_nil, pieces_append hfirst (by simp), pieces_nil]
  | cons p rest ih =>
    obtain ⟨hname, hnames⟩ := List.forall_mem_cons.mp hnames
    obtain ⟨hplain, hplains⟩ := List.forall_mem_cons.mp hrest
    rw [List.flatMap_cons, List.flatMap_cons, List.append_assoc, pieces_append hfirst,
      pieces_occurrence hname, ih p.2 hnames hplain hplains, List.cons_append]
    rintro c hc
    cases hc
    rfl

theorem ofPieces_append (s : List Char) (ps : List Piece) :
    Reading.ofPieces (s.map .char ++ ps) =
      ⟨s ++ (Reading.ofPieces ps).first, (Reading.ofPieces ps).rest⟩ := by
  induction s with
  | nil => rfl
  | cons c s ih => rw [List.map_cons, List.cons_append, Reading.ofPieces, ih, List.cons_append]

/-- The pieces tell the reading. -/
theorem ofPieces_pieces (r : Reading) : Reading.ofPieces r.pieces = r := by
  obtain ⟨first, rest⟩ := r
  induction rest generalizing first with
  | nil => rw [Reading.pieces, ofPieces_append, List.flatMap_nil, Reading.ofPieces, List.append_nil]
  | cons p rest ih =>
    have hrest := ih p.2
    rw [Reading.pieces] at hrest ⊢
    rw [ofPieces_append, List.flatMap_cons, List.cons_append, Reading.ofPieces, hrest,
      List.append_nil]

theorem isReading_ofPieces (s : List Char) : IsReading s (Reading.ofPieces (pieces s)) := by
  induction s using pieces_induction with
  | nil => exact ⟨rfl, nofun, isPlain_nil, nofun⟩
  | occurs name rest hname ih =>
    refine ⟨?_, List.forall_mem_cons.mpr ⟨hname, ih.isName⟩, isPlain_nil,
      List.forall_mem_cons.mpr ⟨ih.plain_first, ih.plain_rest⟩⟩
    have hsource := ih.source_eq
    rw [Reading.source] at hsource ⊢
    rw [Reading.ofPieces, List.flatMap_cons, List.nil_append, List.append_assoc, hsource]
  | char c s hnone ih =>
    have hsource := ih.source_eq
    refine ⟨congrArg (c :: ·) hsource, ih.isName, isPlain_cons_iff.mpr ⟨?_, ih.plain_first⟩,
      ih.plain_rest⟩
    intro name hname hstarts
    -- An occurrence at the start of the first stretch would be one at the start of the text.
    refine hnone name hname (hstarts.trans ?_)
    exact List.cons_prefix_cons.mpr ⟨rfl, ⟨_, hsource⟩⟩

/-- Every text has one reading, and it is the one that the scanner finds. -/
theorem isReading_iff {s : List Char} {r : Reading} :
    IsReading s r ↔ r = Reading.ofPieces (pieces s) := by
  constructor
  · intro h
    rw [h.pieces_eq, ofPieces_pieces]
  · rintro rfl
    exact isReading_ofPieces s

/-! ## What is put in -/

theorem expand_variable (outer : Surroundings) (name : List Char) :
    (Piece.variable name).expand outer =
      (outer (.ofList name)).elim (occurrence name) String.toList := by
  rw [Piece.expand]
  cases outer (.ofList name) <;> rfl

theorem flatMap_expand_char (outer : Surroundings) (s : List Char) :
    (s.map Piece.char).flatMap (Piece.expand outer) = s := by
  rw [List.flatMap_map]
  exact List.flatMap_singleton' s

/-- The values are put in for the occurrences of the reading. -/
theorem IsReading.expandText_eq {s : String} {r : Reading} (h : IsReading s.toList r)
    (outer : Surroundings) : expandText outer s = String.ofList (r.filled outer) := by
  rw [expandText, h.pieces_eq, Reading.pieces, Reading.filled, List.flatMap_append,
    flatMap_expand_char, List.flatMap_assoc]
  congr 3
  funext p
  rw [List.flatMap_cons, expand_variable, flatMap_expand_char]

/-! ## Values and environments -/

/-- The rules by which a value becomes another one.  Only texts change: the names of fields, the
order of items and fields, and every value that is not a text are kept. -/
inductive Expanded (outer : Surroundings) : Value → Value → Prop
  | text {s : String} {r : Reading} (hr : IsReading s.toList r) :
      Expanded outer (.string s) (.string (.ofList (r.filled outer)))
  | items {items items' : List Value} (h : List.Forall₂ (Expanded outer) items items') :
      Expanded outer (.array items) (.array items')
  | fields {fields fields' : List (String × Value)}
      (hnames : fields'.map (·.1) = fields.map (·.1))
      (h : List.Forall₂ (Expanded outer) (fields.map (·.2)) (fields'.map (·.2))) :
      Expanded outer (.object fields) (.object fields')
  | null : Expanded outer .null .null
  | bool (b : Bool) : Expanded outer (.bool b) (.bool b)
  | number (n : Number) : Expanded outer (.number n) (.number n)

mutual

theorem expanded_expand (outer : Surroundings) (v : Value) : Expanded outer v (v.expand outer) := by
  cases v with
  | string s =>
    have hr : IsReading s.toList _ := isReading_ofPieces s.toList
    rw [Value.expand, hr.expandText_eq]
    exact .text hr
  | array vs =>
    rw [Value.expand]
    exact .items (forall₂_expandItems outer vs)
  | object fs =>
    rw [Value.expand]
    exact .fields (Value.names_expandFields outer fs) (forall₂_expandFields outer fs)
  | null => exact .null
  | bool b => exact .bool b
  | number n => exact .number n

theorem forall₂_expandItems (outer : Surroundings) (vs : List Value) :
    List.Forall₂ (Expanded outer) vs (Value.expandItems outer vs) := by
  cases vs with
  | nil => exact .nil
  | cons v vs => exact .cons (expanded_expand outer v) (forall₂_expandItems outer vs)

theorem forall₂_expandFields (outer : Surroundings) (fs : List (String × Value)) :
    List.Forall₂ (Expanded outer) (fs.map (·.2)) ((Value.expandFields outer fs).map (·.2)) := by
  cases fs with
  | nil => exact .nil
  | cons f fs => exact .cons (expanded_expand outer f.2) (forall₂_expandFields outer fs)

end

end Expansion

open Expansion

/-- Whether the rules make one environment set of another.  The environments keep their names and
their order, and so do the variables in each of them. -/
def EnvironmentSet.ExpandedTo (outer : Surroundings) (raw set : EnvironmentSet) : Prop :=
  List.Forall₂ (fun env env' => env'.1 = env.1 ∧ Expanded outer (.object env.2) (.object env'.2))
    raw.entries set.entries

theorem EnvironmentSet.expandedTo_expand (outer : Surroundings) (raw : EnvironmentSet) :
    raw.ExpandedTo outer (raw.expand outer) := by
  rw [ExpandedTo, expand, List.forall₂_map_right_iff, List.forall₂_same]
  rintro env -
  have henv := expanded_expand outer (.object env.2)
  rw [Value.expand] at henv
  exact ⟨rfl, henv⟩

/-- **Outer variables in a variable file.**  Every text has one reading as stretches and
occurrences of names.  Where the file can be read, what is used of it is what is written in it with
the occurrences of that reading filled in, in every text of every value at any depth; and a file
that cannot be read is refused as it would be without outer variables. -/
theorem EnvironmentSet.ofText_expanded (outer : Surroundings) :
    (∀ s : String, ∃! r, IsReading s.toList r) ∧
    (∀ (s : String) r, IsReading s.toList r →
      expandText outer s = String.ofList (r.filled outer)) ∧
    ∀ format content,
      (∀ e, read format content = .error e → ofText outer format content = .error e) ∧
      ∀ raw, read format content = .ok raw → ∃ set, ofText outer format content = .ok set ∧
        raw.ExpandedTo outer set := by
  refine ⟨fun s => ?_, fun s r hr => hr.expandText_eq outer, fun format content => ⟨?_, ?_⟩⟩
  · exact ⟨_, isReading_ofPieces s.toList, fun r hr => isReading_iff.mp hr⟩
  · intro e he
    rw [ofText, he]
    rfl
  · intro raw hraw
    refine ⟨raw.expand outer, ?_, raw.expandedTo_expand outer⟩
    rw [ofText, hraw]
    rfl

/-- A variable whose value has an occurrence of another one. -/
def nestedOuter : Surroundings := fun name =>
  if name = "A" then some "$\x7bB\x7d" else if name = "B" then some "b" else none

/-- An occurrence in a key, and braces in braces. -/
def nestedFile : String :=
  "dev:\n  $\x7bA\x7d:\n  - 1\n  - $$\x7bA\x7d $\x7b$\x7bA\x7d\x7d $\x7bA$\x7bB\x7d $(A)\n"

/-- What is left of the file. -/
def nestedEntries : List (String × Environment) :=
  [("dev", [("$\x7bA\x7d", .array [.number (.int 1),
    .string "$$\x7bB\x7d $\x7b$\x7bB\x7d\x7d $\x7bAb $(A)"])])]

/-- The value of one variable is not searched for the other, and the key stays as it is. -/
theorem EnvironmentSet.ofText_expanded_nested :
    ∃ raw set, read .yaml nestedFile = .ok raw ∧ ofText nestedOuter .yaml nestedFile = .ok set ∧
      raw.ExpandedTo nestedOuter set ∧ set.entries = nestedEntries := by
  obtain ⟨-, -, hfiles⟩ := ofText_expanded nestedOuter
  have hread : (read .yaml nestedFile).isOk = true := by decide +kernel
  have hentries : (ofText nestedOuter .yaml nestedFile).toOption.map (·.entries) =
      some nestedEntries := by decide +kernel
  rcases hraw : read .yaml nestedFile with e | raw
  · rw [hraw] at hread
    cases hread
  · obtain ⟨set, hset, hexpanded⟩ := (hfiles .yaml nestedFile).2 raw hraw
    rw [hset] at hentries
    exact ⟨raw, set, rfl, hset, hexpanded, Option.some.inj hentries⟩

end RequestSuite
