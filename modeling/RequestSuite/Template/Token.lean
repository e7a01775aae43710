/-!
# Templates

A template is a text with placeholders, written `$name` or `$(name)`.  A name starts with a letter
or an underscore and goes on with letters, digits and underscores, and a bare name is as long as it
can be.  A backslash directly before a placeholder takes away its meaning; the backslash itself is
not part of the text.  Every other backslash and dollar sign stands for itself.
-/

namespace RequestSuite

namespace Template

/-- A piece of a template. -/
inductive Token where
  /-- Text that stands for itself. -/
  | text (chars : List Char)
  /-- A dollar sign with a backslash before it. -/
  | escape
  /-- A placeholder, in parentheses or bare. -/
  | variable (name : String) (delimited : Bool)
deriving DecidableEq, Repr

/-- The characters with which a name starts. -/
def isNameStart (c : Char) : Bool :=
  c.isAlpha || c == '_'

/-- The characters with which a name goes on. -/
def isWordChar (c : Char) : Bool :=
  c.isAlphanum || c == '_'

/-- The longest name at the start of a text, and the rest. -/
def name? : List Char → Option (List Char × List Char)
  | c :: rest =>
    if isNameStart c then some (c :: rest.takeWhile isWordChar, rest.dropWhile isWordChar)
    else none
  | [] => none

/-- A placeholder's name and whether it is in parentheses. -/
structure Placeholder where
  name : List Char
  delimited : Bool

/-- The placeholder whose text after the dollar sign starts here, and the rest. -/
def placeholder? : List Char → Option (Placeholder × List Char)
  | '(' :: rest =>
    match name? rest with
    | some (name, ')' :: rest) => some (⟨name, true⟩, rest)
    | _ => none
  | s => (name? s).map fun (name, rest) => (⟨name, false⟩, rest)

theorem name?_length {s name rest : List Char} (h : name? s = some (name, rest)) :
    rest.length < s.length := by
  cases s with
  | nil => simp [name?] at h
  | cons c tail =>
    have := (List.dropWhile_sublist (l := tail) isWordChar).length_le
    simp only [name?] at h
    split at h
    · simp only [Option.some.injEq, Prod.mk.injEq] at h
      simp only [List.length_cons]
      rw [← h.2]
      omega
    · simp at h

theorem placeholder?_length {s rest : List Char} {p : Placeholder}
    (h : placeholder? s = some (p, rest)) : rest.length < s.length := by
  unfold placeholder? at h
  split at h
  · split at h
    · rename_i heq
      have := name?_length heq
      simp only [Option.some.injEq, Prod.mk.injEq] at h
      simp only [List.length_cons] at this ⊢
      rw [← h.2]
      omega
    · simp at h
  · simp only [Option.map_eq_some_iff, Prod.mk.injEq] at h
    obtain ⟨⟨name, tail⟩, heq, -, rfl⟩ := h
    exact name?_length heq

/-- Puts a character in front of a list of tokens, joining it to a text that starts the list. -/
def pushChar (c : Char) : List Token → List Token
  | .text cs :: rest => .text (c :: cs) :: rest
  | tokens => .text [c] :: tokens

/-- The tokens of a template. -/
def scan (s : List Char) : List Token :=
  match s with
  | [] => []
  | '\\' :: '$' :: rest =>
    if (placeholder? rest).isSome then .escape :: scan rest
    else pushChar '\\' (scan ('$' :: rest))
  | c :: rest =>
    if c = '$' then
      match _h : placeholder? rest with
      | some (p, rest') => .variable (String.ofList p.name) p.delimited :: scan rest'
      | none => pushChar c (scan rest)
    else pushChar c (scan rest)
termination_by s.length
decreasing_by
  all_goals simp only [List.length_cons]
  all_goals try have := placeholder?_length _h
  all_goals omega

/-- The tokens of a template. -/
def tokens (s : String) : List Token :=
  scan s.toList

/-- The text of a placeholder. -/
def placeholderChars (name : String) (delimited : Bool) : List Char :=
  if delimited then '$' :: '(' :: name.toList ++ [')'] else '$' :: name.toList

/-- The text that a token was read from. -/
def Token.source : Token → List Char
  | .text cs => cs
  | .escape => ['\\', '$']
  | .variable name delimited => placeholderChars name delimited

end Template

end RequestSuite
