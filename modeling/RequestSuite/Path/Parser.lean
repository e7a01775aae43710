import RequestSuite.Path.Basic
import RequestSuite.Text.Blank
import RequestSuite.Text.Integer

/-!
# The notation of paths

A path is written `$` followed by segments: `.name`, `.*`, `['name']`, `["name"]`, `[*]` and
`[-1]`.  Blanks around the whole path do not count.  A name after a point reaches up to the next
point or opening bracket; a quoted name reaches up to the next quotation mark of its kind, which
has to stand directly before the closing bracket.
-/

namespace RequestSuite

/-- Why a text is not a path. -/
inductive PathError where
  | missingRoot (path : String)
  | emptySegment (path : String) (position : Nat)
  | unexpectedChar (path : String) (found : Char) (position : Nat)
  | unclosedBracket (path : String)
  | invalidIndex (path : String) (index : String)
deriving DecidableEq, Repr

/-- What a refused path is reported as. -/
def PathError.message : PathError → String
  | .missingRoot path => "JSON path must start with '$': " ++ path
  | .emptySegment path position =>
    "Empty segment in JSON path at position " ++ toString position ++ ": " ++ path
  | .unexpectedChar path found position =>
    "Unexpected character '" ++ String.singleton found ++ "' at position " ++ toString position ++
      " in JSON path: " ++ path
  | .unclosedBracket path => "Unclosed bracket in JSON path: " ++ path
  | .invalidIndex path index => "Invalid array index '" ++ index ++ "' in JSON path: " ++ path

namespace Path

/-- The characters of a name after a point. -/
def isNameChar (c : Char) : Bool :=
  c != '.' && c != '['

/-- The step that an unquoted bracket holds: a wildcard or an index, with blanks around it. -/
def bracketStep? (inner : List Char) : Option Step :=
  let inner := Text.trimChars inner
  if inner = ['*'] then some .wildcard else (Text.readInt64? inner).map .index

/-- The segment at the start of a text that follows an opening bracket, and the rest after the
closing bracket. -/
def bracket (path : List Char) (s : List Char) : Except PathError (Step × List Char) :=
  let unclosed := .error (.unclosedBracket (String.ofList path))
  let unquoted :=
    match s.dropWhile (· != ']') with
    | [] => unclosed
    | _ :: rest =>
      let inner := s.takeWhile (· != ']')
      match bracketStep? inner with
      | some step => .ok (step, rest)
      | none =>
        .error (.invalidIndex (String.ofList path) (String.ofList (Text.trimChars inner)))
  match s with
  | [] => unclosed
  | quote :: rest =>
    if quote = '\'' ∨ quote = '"' then
      match rest.dropWhile (· != quote) with
      | _ :: ']' :: after => .ok (.key (String.ofList (rest.takeWhile (· != quote))), after)
      | _ => unclosed
    else unquoted

theorem bracket_length {path s rest : List Char} {step : Step}
    (h : bracket path s = .ok (step, rest)) : rest.length < s.length := by
  have drop_le (p : Char → Bool) (l : List Char) : (l.dropWhile p).length ≤ l.length :=
    (List.dropWhile_sublist p).length_le
  unfold bracket at h
  cases s with
  | nil => simp at h
  | cons quote tail =>
    simp only at h
    split at h
    · split at h
      · rename_i after heq
        have := drop_le (· != quote) tail
        rw [heq] at this
        simp only [Except.ok.injEq, Prod.mk.injEq] at h
        simp only [List.length_cons] at this ⊢
        rw [← h.2]
        omega
      · simp at h
    · split at h
      · simp at h
      · rename_i head after heq
        have := drop_le (· != ']') (quote :: tail)
        rw [heq] at this
        split at h
        · simp only [Except.ok.injEq, Prod.mk.injEq] at h
          simp only [List.length_cons] at this ⊢
          rw [← h.2]
          omega
        · simp at h

/-- The segment at the start of a text, given as its first character and the rest, and what comes
after the segment.  Positions in errors count from the start of the whole path. -/
def segment (path : List Char) (c : Char) (s : List Char) :
    Except PathError (Step × List Char) :=
  if c = '.' then
    match s with
    | '*' :: rest => .ok (.wildcard, rest)
    | s =>
      if (s.takeWhile isNameChar).isEmpty then
        .error (.emptySegment (String.ofList path) (path.length - s.length))
      else
        .ok (.key (String.ofList (s.takeWhile isNameChar)), s.dropWhile isNameChar)
  else if c = '[' then bracket path s
  else .error (.unexpectedChar (String.ofList path) c (path.length - (s.length + 1)))

theorem segment_length {path s rest : List Char} {c : Char} {step : Step}
    (h : segment path c s = .ok (step, rest)) : rest.length ≤ s.length := by
  unfold segment at h
  split at h
  · split at h
    · cases h
      exact Nat.le_succ _
    · split at h
      · cases h
      · cases h
        exact (List.dropWhile_sublist isNameChar).length_le
  · split at h
    · exact Nat.le_of_lt (bracket_length h)
    · cases h

/-- The steps that a text of segments stands for. -/
def segments (path : List Char) : List Char → Except PathError (List Step)
  | [] => .ok []
  | c :: s =>
    match _h : segment path c s with
    | .error e => .error e
    | .ok (step, rest) => (segments path rest).map (step :: ·)
termination_by s => s.length
decreasing_by
  have := segment_length _h
  simp only [List.length_cons]
  omega

@[simp] theorem segments_nil (path : List Char) : segments path [] = .ok [] := by
  rw [segments]

theorem segments_cons (path : List Char) (c : Char) (s : List Char) :
    segments path (c :: s) =
      (segment path c s).bind fun first => (segments path first.2).map (first.1 :: ·) := by
  rw [segments]
  split <;> simp [*, Except.bind]

/-- The steps that a text stands for. -/
def parse (text : String) : Except PathError (List Step) :=
  let path := Text.trimChars text.toList
  match path with
  | '$' :: rest => segments path rest
  | _ => .error (.missingRoot (String.ofList path))

/-- What a written path finds in a value. -/
def query (v : Value) (text : String) : Except PathError (Option Value) :=
  (parse text).map fun steps => find? steps v

end Path

end RequestSuite
