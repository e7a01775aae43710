/-!
# Operators of tests

An expected value that is a map names, with each of its keys, an operator by which the received
value is compared.
-/

namespace RequestSuite

/-- How a received value is compared with an expected one. -/
inductive Operator where
  | equal
  | notEqual
  | less
  | greater
  | atMost
  | atLeast
  /-- By the number of items, fields or characters. -/
  | size
  /-- By whether there is a value at all. -/
  | presence
  /-- By the name of its kind. -/
  | kind
  /-- By a pattern that has to match somewhere in its text. -/
  | pattern
deriving DecidableEq, Repr

namespace Operator

/-- How an operator is written. -/
def key : Operator → String
  | equal => "$eq"
  | notEqual => "$ne"
  | less => "$lt"
  | greater => "$gt"
  | atMost => "$lte"
  | atLeast => "$gte"
  | size => "$size"
  | presence => "$exists"
  | kind => "$type"
  | pattern => "$regex"

/-- The key of a pattern's flags, which belong to the operator of the pattern. -/
def flagsKey : String := "$options"

/-- All operators. -/
def all : List Operator :=
  [equal, notEqual, less, greater, atMost, atLeast, size, presence, kind, pattern]

/-- The operator that a key names. -/
def ofKey? (s : String) : Option Operator :=
  if s = flagsKey then some pattern else all.find? fun op => op.key == s

/-- Whether a key belongs to a pattern, being its own key or that of its flags. -/
def isPatternKey (s : String) : Bool :=
  s == pattern.key || s == flagsKey

/-! ## What a key names -/

theorem key_of_ofKey? {s : String} {op : Operator} (h : ofKey? s = some op)
    (hs : isPatternKey s = false) : op.key = s := by
  rw [ofKey?, if_neg (by simp_all [isPatternKey])] at h
  simpa using List.find?_some h

/-- An operator is named by the key with which it is written. -/
@[simp] theorem ofKey?_key (op : Operator) : ofKey? op.key = some op := by
  cases op <;> rfl

theorem ofKey?_of_isPatternKey {s : String} (h : isPatternKey s = true) :
    ofKey? s = some pattern := by
  simp only [isPatternKey, Bool.or_eq_true, beq_iff_eq] at h
  rcases h with rfl | rfl
  · rfl
  · rfl

theorem isPatternKey_of_ofKey? {s : String} (h : ofKey? s = some pattern) :
    isPatternKey s = true := by
  by_cases hs : isPatternKey s = true
  · exact hs
  · have hkey : pattern.key = s := key_of_ofKey? h (by simpa using hs)
    exact absurd (by simp [isPatternKey, ← hkey]) hs

end Operator

end RequestSuite
