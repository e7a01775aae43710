import RequestSuite.Distinct
import RequestSuite.Pattern.Charset

/-!
# Patterns

Regular expressions over characters, with conditions on the place in the text, and whether one
matches somewhere in a text.  A pattern is matched by its derivatives: `Pattern.after` gives the
patterns of which one has to match the rest of the text once a character has been read.  They are
kept without repetitions, so the work grows with the length of the text and never backtracks.
-/

namespace RequestSuite

/-- A condition on a place in a text. -/
inductive Anchor where
  | textStart
  | textEnd
  /-- The start of a line; with `crlf` a carriage return ends lines as well. -/
  | lineStart (crlf : Bool)
  /-- The end of a line. -/
  | lineEnd (crlf : Bool)
  /-- Between a word character and another one, or an end of the text. -/
  | wordBoundary (unicode : Bool)
  | notWordBoundary (unicode : Bool)
  | wordStart (unicode : Bool)
  | wordEnd (unicode : Bool)
  | wordStartHalf (unicode : Bool)
  | wordEndHalf (unicode : Bool)
deriving DecidableEq, Repr

namespace Anchor

/-- Whether the character is there and belongs to a word. -/
def isWord (unicode : Bool) (c : Option Char) : Bool :=
  c.any (Charset.word unicode).contains

/-- Whether the condition holds between two characters, either of which may be missing. -/
def holds (before after : Option Char) : Anchor → Bool
  | .textStart => before.isNone
  | .textEnd => after.isNone
  | .lineStart false => before.all (· == '\n')
  | .lineStart true => before.all fun c => c == '\n' || (c == '\r' && after != some '\n')
  | .lineEnd false => after.all (· == '\n')
  | .lineEnd true => after.all fun c => c == '\r' || (c == '\n' && before != some '\r')
  | .wordBoundary u => isWord u before != isWord u after
  | .notWordBoundary u => isWord u before == isWord u after
  | .wordStart u => !isWord u before && isWord u after
  | .wordEnd u => isWord u before && !isWord u after
  | .wordStartHalf u => !isWord u before
  | .wordEndHalf u => !isWord u after

end Anchor

/-- A regular expression. -/
inductive Pattern where
  /-- The empty text. -/
  | empty
  /-- One character of a set. -/
  | one (set : Charset)
  /-- The empty text at a place where a condition holds. -/
  | anchor (a : Anchor)
  /-- One pattern after the other. -/
  | seq (a b : Pattern)
  /-- Either of two patterns. -/
  | alt (a b : Pattern)
  /-- A pattern repeated at least `min` times and at most `max` times. -/
  | repeated (a : Pattern) (min : Nat) (max : Option Nat)
deriving DecidableEq, Repr

namespace Pattern

/-- One pattern after the other, without an empty one in front. -/
def followedBy : Pattern → Pattern → Pattern
  | .empty, b => b
  | a, b => .seq a b

/-- Whether the empty text between two characters matches. -/
def matchesEmpty (before after : Option Char) : Pattern → Bool
  | .empty => true
  | .one _ => false
  | .anchor a => a.holds before after
  | .seq a b => a.matchesEmpty before after && b.matchesEmpty before after
  | .alt a b => a.matchesEmpty before after || b.matchesEmpty before after
  | .repeated a min _ => min == 0 || a.matchesEmpty before after

/-- The patterns of which one has to match what follows the character `c`. -/
def after (before : Option Char) (c : Char) : Pattern → List Pattern
  | .empty => []
  | .one set => if set.contains c then [.empty] else []
  | .anchor _ => []
  | .seq a b =>
    (a.after before c).map (followedBy · b) ++
      if a.matchesEmpty before (some c) then b.after before c else []
  | .alt a b => a.after before c ++ b.after before c
  | .repeated a min max =>
    if max == some 0 then []
    else
      let least := if a.matchesEmpty before (some c) then 0 else min - 1
      (a.after before c).map (followedBy · (.repeated a least (max.map (· - 1))))

/-- Whether one of the patterns matches here, or the pattern `p` somewhere further on. -/
def search (p : Pattern) (before : Option Char) (states : List Pattern) : List Char → Bool
  | [] => states.any (matchesEmpty before none)
  | c :: rest =>
    states.any (matchesEmpty before (some c)) ||
      search p (some c) (distinct (states.flatMap (after before c) ++ [p])) rest

/-- Whether a pattern matches somewhere in a text. -/
def matchesIn (p : Pattern) (text : String) : Bool :=
  search p none [p] text.toList

end Pattern

end RequestSuite
