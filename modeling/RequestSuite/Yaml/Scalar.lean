import RequestSuite.Text.Percent
import RequestSuite.Yaml.Cursor

/-!
# Scalars in YAML texts

The three ways to write a text: plain, quoted, and as a block of lines.  In plain and quoted texts
a single line break stands for a blank, and of several line breaks the first one does not count.
-/

namespace RequestSuite.Yaml

/-! ## Gaps between words -/

/-- Blanks and line breaks between two words of a scalar. -/
structure Gap where
  /-- Whether there was a line break. -/
  broken : Bool := false
  /-- The blanks before the first line break, last one first. -/
  blanks : List Char := []
  /-- The first line break. -/
  firstBreak : Option Char := none
  /-- The other line breaks, last one first. -/
  moreBreaks : List Char := []

namespace Gap

/-- What the gap stands for, last character first. -/
def folded (g : Gap) : List Char :=
  if g.broken then
    match g.firstBreak with
    | some '\n' => if g.moreBreaks.isEmpty then [' '] else g.moreBreaks
    | some c => g.moreBreaks ++ [c]
    | none => g.moreBreaks
  else g.blanks

/-- The gap with one more blank or line break. -/
def push (g : Gap) (c : Char) : Gap :=
  if isBreak c then
    if g.broken then { g with moreBreaks := c :: g.moreBreaks }
    else { broken := true, firstBreak := some c }
  else if g.broken then g
  else { g with blanks := c :: g.blanks }

/-- The gap that goes on here, and the cursor behind it.  With an indentation, tabs may not stand
left of it. -/
def read (indent : Option Int) : Nat → Cursor → Gap → Except Fault (Gap × Cursor)
  | 0, c, g => .ok (g, c)
  | n + 1, c, g =>
    match c.at? 0 with
    | some ch =>
      if isSpace ch then
        if ch == '\t' && g.broken && indent.any fun i => (c.column : Int) < i then
          .error .tabIndentation
        else read indent n c.skip (g.push ch)
      else .ok (g, c)
    | none => .ok (g, c)

end Gap

/-! ## Plain scalars -/

/-- The rest of a plain scalar.  `fresh` tells that a line or a gap has just ended; `done` holds
what was read, last character first.  The last part tells whether a line break came after it. -/
def plainRest (flow : Bool) (indent : Int) : Nat → Bool → Cursor → List Char → Gap →
    Except Fault (List Char × Cursor × Bool)
  | 0, _, c, done, gap => .ok (done.reverse, c, gap.broken)
  | n + 1, fresh, c, done, gap =>
    match c.at? 0 with
    | none => .ok (done.reverse, c, gap.broken)
    | some ch =>
      if fresh && (c.seesMark || ch == '#') then .ok (done.reverse, c, gap.broken)
      else if isSpace ch then do
        let (gap, c) ← Gap.read (some indent) c.rest.length c gap
        if !flow && (c.column : Int) < indent then return (done.reverse, c, gap.broken)
        else plainRest flow indent n true c done gap
      else if flow && ch == ':' && (c.at? 1).any fun d => d == '?' || isFlowIndicator d then
        .error (.unexpectedChar ':')
      else if (ch == ':' && c.seesGap 1) || (flow && isFlowIndicator ch) then
        .ok (done.reverse, c, gap.broken)
      else plainRest flow indent n false c.skip (ch :: (gap.folded ++ done)) {}

/-- A plain scalar, the cursor behind it and the gap after it, and whether that gap has a line
break. -/
def plainScalar (flow : Bool) (indent : Int) (c : Cursor) :
    Except Fault (String × Cursor × Bool) := do
  let (text, c, broken) ← plainRest flow (indent + 1) (2 * c.rest.length + 1) true c [] {}
  return (String.ofList text, c, broken)

/-! ## Quoted scalars -/

/-- The value of a hexadecimal numeral. -/
def hexNumber? (digits : List Char) : Option Nat :=
  digits.foldlM (fun n c => (Text.hexDigitValue? c).map fun d => n * 16 + d) 0

/-- The characters that single letters after a backslash stand for. -/
def letterEscapes : List (Char × Char) :=
  [('0', '\u0000'), ('a', '\u0007'), ('b', '\u0008'), ('t', '\t'), ('\t', '\t'), ('n', '\n'),
   ('v', '\u000b'), ('f', '\u000c'), ('r', '\r'), ('e', '\u001b'), (' ', ' '), ('"', '"'),
   ('/', '/'), ('\\', '\\'), ('N', '\u0085'), ('_', '\u00a0'), ('L', '\u2028'), ('P', '\u2029')]

/-- The number of hexadecimal digits after a letter. -/
def hexEscapes : List (Char × Nat) :=
  [('x', 2), ('u', 4), ('U', 8)]

/-- The character of an escape whose letter stands at the cursor, and the cursor behind it. -/
def escape (c : Cursor) : Except Fault (Char × Cursor) :=
  match c.at? 0 with
  | none => .error .badEscape
  | some letter =>
    match letterEscapes.lookup letter, hexEscapes.lookup letter with
    | some ch, _ => .ok (ch, c.skip)
    | none, some size =>
      let digits := (c.rest.drop 1).take size
      match hexNumber? digits with
      | some n =>
        if digits.length = size ∧ (n < 0xD800 ∨ (0xE000 ≤ n ∧ n ≤ 0x10FFFF)) then
          .ok (Char.ofNat n, c.skipMany (size + 1))
        else .error .badEscape
      | none => .error .badEscape
    | none, none => .error .badEscape

/-- The rest of a quoted scalar up to its closing quotation mark. -/
def quotedRest (quote : Char) : Nat → Bool → Cursor → List Char →
    Except Fault (List Char × Cursor)
  | 0, _, _, _ => .error .unexpectedEnd
  | n + 1, fresh, c, done =>
    match c.at? 0 with
    | none => .error .unexpectedEnd
    | some ch =>
      if fresh && c.seesMark then .error .markInQuotes
      else if isSpace ch then do
        let (gap, c) ← Gap.read none c.rest.length c {}
        quotedRest quote n true c (gap.folded ++ done)
      else if ch == quote then
        if quote == '\'' && c.sees quote 1 then
          quotedRest quote n false (c.skipMany 2) (quote :: done)
        else .ok (done.reverse, c.skip)
      else if quote == '"' && ch == '\\' then
        if (c.at? 1).any isBreak then do
          let (gap, c) ← Gap.read none c.rest.length (c.skipMany 2) { broken := true }
          quotedRest quote n true c (gap.folded ++ done)
        else do
          let (ch, c) ← escape c.skip
          quotedRest quote n false c (ch :: done)
      else quotedRest quote n false c.skip (ch :: done)

/-- A scalar in quotation marks, and the cursor behind it. -/
def quotedScalar (c : Cursor) : Except Fault (String × Cursor) := do
  let quote := (c.at? 0).getD '"'
  let (text, c) ← quotedRest quote (c.rest.length + 1) true c.skip []
  return (String.ofList text, c)

/-! ## Blocks of lines -/

/-- What becomes of the line breaks at the end of a block. -/
inductive Chomping where
  /-- One line break stays. -/
  | clip
  /-- None stays. -/
  | strip
  /-- All stay. -/
  | keep
deriving DecidableEq

/-- The indentation that a digit of a block's header adds. -/
def indentDigit (c : Cursor) : Except Fault (Nat × Cursor) :=
  match c.at? 0 with
  | some ch =>
    if ch == '0' then .error .badBlockHeader
    else if ch.isDigit then .ok (ch.toNat - '0'.toNat, c.skip)
    else .ok (0, c)
  | none => .ok (0, c)

/-- The sign of a block's header. -/
def chompingSign (c : Cursor) : Chomping × Cursor :=
  match c.at? 0 with
  | some '+' => (.keep, c.skip)
  | some '-' => (.strip, c.skip)
  | _ => (.clip, c)

/-- The header of a block after its indicator: a sign and a digit in either order, and nothing
but a comment after them. -/
def blockHeader (c : Cursor) : Except Fault (Chomping × Nat × Cursor) := do
  let (chomping, c) := chompingSign c
  let (digit, c) ← indentDigit c
  let (chomping, c) := if chomping = .clip ∧ digit ≠ 0 then chompingSign c else (chomping, c)
  let c := c.skipWhile isBlank
  let c := if c.sees '#' 0 then c.toLineEnd else c
  match c.at? 0 with
  | none => return (chomping, digit, c)
  | some ch => if isBreak ch then return (chomping, digit, c.skip) else throw .badBlockHeader

/-- Empty lines at the start of a block or between its lines: the line breaks, last one first, the
widest indentation among them, and the cursor behind the next line's indentation.  Without a given
indentation all blanks count. -/
def emptyLines (indent : Option Nat) : Nat → Cursor → List Char → Nat →
    Except Fault (List Char × Nat × Cursor)
  | 0, c, breaks, widest => .ok (breaks, widest, c)
  | n + 1, c, breaks, widest =>
    let room := match indent with
      | some i => i - c.column
      | none => c.rest.length
    let blanks := (c.rest.take room).takeWhile (· == ' ')
    let c : Cursor :=
      ⟨c.rest.drop blanks.length, c.line, c.column + blanks.length, c.index + blanks.length⟩
    let widest := max widest c.column
    match c.at? 0 with
    | none => .ok (breaks, widest, c)
    | some ch =>
      if ch == '\t' && indent.all fun i => c.column < i then .error .tabIndentation
      else if isBreak ch then emptyLines indent n c.skip (ch :: breaks) widest
      else .ok (breaks, widest, c)

/-- Whether a cursor stands at a blank. -/
def atBlank (c : Cursor) : Bool :=
  (c.at? 0).any isBlank

/-- The lines of a block.  `lastBreak` is the break after the line before, `breaks` those of the
empty lines after it, and `indented` tells whether that line started with a blank. -/
def blockLines (literal : Bool) (indent : Nat) : Nat → Cursor → List Char → Option Char →
    List Char → Bool → Except Fault (List Char × Option Char × List Char × Cursor)
  | 0, c, done, lastBreak, breaks, _ => .ok (done, lastBreak, breaks, c)
  | n + 1, c, done, lastBreak, breaks, indented => do
    if c.column = indent ∧ !c.rest.isEmpty then
      let blank := atBlank c
      let joint :=
        if !literal && lastBreak == some '\n' && !indented && !blank then
          if breaks.isEmpty then [' '] else breaks
        else breaks ++ lastBreak.toList
      let (text, c) := c.span fun ch => !isBreak ch
      let (more, _, next) ← emptyLines (some indent) c.rest.length c.skip [] 0
      blockLines literal indent n next (text.reverse ++ (joint ++ done)) (c.at? 0) more blank
    else
      return (done, lastBreak, breaks, c)

/-- A block of lines, whose indicator stands at the cursor. -/
def blockScalar (parentIndent : Int) (c : Cursor) : Except Fault (String × Cursor) := do
  let literal := c.sees '|' 0
  let (chomping, digit, c) ← blockHeader c.skip
  let given : Option Nat :=
    if digit = 0 then none else some ((max parentIndent 0).toNat + digit)
  let (breaks, widest, c) ← emptyLines given (c.rest.length + 1) c [] 0
  let indent := given.getD (max widest (max (parentIndent + 1).toNat 1))
  let (done, lastBreak, breaks, c) ←
    blockLines literal indent (c.rest.length + 1) c [] none breaks false
  let done := if chomping = .strip then done else lastBreak.toList ++ done
  let done := if chomping = .keep then breaks ++ done else done
  return (String.ofList done.reverse, c)

end RequestSuite.Yaml
