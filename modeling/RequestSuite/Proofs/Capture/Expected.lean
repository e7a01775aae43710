import RequestSuite.Capture.Basic
import RequestSuite.Proofs.Template.Alone
import RequestSuite.Request.Resolve

/-!
# Expecting what was captured

A value goes from a response into a variable, from the variable into an expected value, and back to
the place in the response that it came from.  `Capture.applyAll_expecting` says that it comes back
as it was: a placeholder that stands alone becomes the value itself, which is not read again, and
captures and tests find the same values at the same places.
-/

namespace RequestSuite

/-! ## A placeholder that stands alone -/

namespace Template

variable {name : String}

theorem resolve_bare {lookup : Lookup} {v : Value} (h : IsName name.toList)
    (hv : lookup name = some v) : resolve lookup ("$" ++ name) = v :=
  resolve_of_isAlone ⟨h, .inl rfl⟩ hv

end Template

/-! ## One capture -/

theorem Store.get?_capture (s : Store) (target key : String) (v : Value) :
    (s.capture target v).get? key = if target = key then some v else s.get? key := by
  rw [Store.get?, Store.capture, Table.get?_insert]
  split
  · rfl
  · rfl

theorem Capture.applyAll_singleton {c : Capture} {r : Response} {v : Value}
    (h : c.extract r = .ok v) (s : Store) : applyAll r [c] s = (s.capture c.target v, []) := by
  simp only [applyAll, h]

/-! ## One test -/

/-- The place at which a test of a place looks: the names of headers are put in lower case. -/
def Source.tested : Source → Source
  | header name => header (Text.lower name)
  | source => source

/-- The tests that expect something at one place and nothing else. -/
def TestSection.expecting (expected : Value) : Source → TestSection
  | .status => { status := some expected }
  | .body => { body := some expected }
  | .header name => { headers := [(name, expected)] }
  | .json path => { json := [(path, expected)] }

/-- The assertion that an expected value was found at a place. -/
def Assertion.found (source : Source) (v : Value) : Assertion :=
  success source Operator.equal.key v (some v)

/-- An expected value with the operator `$eq`. -/
def Value.equalTo (expected : Value) : Value :=
  .object [(Operator.equal.key, expected)]

theorem Response.header?_lower (r : Response) (name : String) :
    r.header? (Text.lower name) = r.header? name := by
  simp only [Response.header?, Text.sameIgnoringCase, Text.lower_lower]

/-- Tests look up headers in lower case, and find them all the same. -/
theorem Source.tested_extract (source : Source) (r : Response) :
    source.tested.extract r = source.extract r := by
  cases source with
  | header name => simp only [tested, extract, Response.header?_lower]
  | _ => rfl

/-- A capture takes the value that a test finds, and fails where a test finds none. -/
theorem Capture.extract_eq_ok_iff {target : String} {source : Source} {r : Response} {v : Value} :
    (Capture.mk target source).extract r = .ok v ↔ source.extract r = .ok (some v) := by
  cases source with
  | status => cases hstatus : r.status? <;> simp [Capture.extract, Source.extract, hstatus]
  | body => simp [Capture.extract, Source.extract]
  | header name =>
    cases hheader : r.header? name <;> simp [Capture.extract, Source.extract, hheader]
  | json path =>
    cases hjson : r.json with
    | error fault => simp [Capture.extract, Source.extract, hjson]
    | ok document =>
      rcases hquery : Path.query document path with error | found
      · simp [Capture.extract, Source.extract, hjson, hquery]
      · cases found <;> simp [Capture.extract, Source.extract, hjson, hquery]

/-- Tests find what captures find. -/
theorem Source.extract_tested {target : String} {source : Source} {r : Response} {v : Value}
    (h : (Capture.mk target source).extract r = .ok v) :
    source.tested.extract r = .ok (some v) := by
  rw [tested_extract]
  exact Capture.extract_eq_ok_iff.mp h

namespace TestSection

theorem resolve_expecting (lookup : Lookup) (expected : Value) (source : Source) :
    (expecting expected source).resolve lookup = expecting (expected.resolve lookup) source := by
  cases source <;> rfl

theorem run_expecting (expected : Value) (source : Source) (stopOnFailure : Bool) (r : Response) :
    (expecting expected source).run stopOnFailure r = Report.empty.pushAll
      (Assertion.evaluate source.tested expected (source.tested.extract r)) := by
  cases source with
  | status =>
    -- No test comes after that of the status, whether it failed or not.
    rw [run]
    split
    · rfl
    · rfl
  | body => cases stopOnFailure <;> rfl
  | header name => cases stopOnFailure <;> rfl
  | json path => cases stopOnFailure <;> rfl

end TestSection

/-! ## There and back -/

theorem Assertion.ofOperator_equal_self (source : Source) (v : Value) :
    ofOperator source .equal v (some v) = found source v := by
  have hequal : compares .equal v (some v) = .ok true := by
    simp only [compares, Value.textOf, beq_self_eq_true]
  rw [ofOperator, hequal]
  rfl

namespace Capture

variable {x : String} {source : Source} {r : Response} {v : Value}

/-- **A captured value is what a test of its place expects.**  The value may be any text, also one
with placeholders, escapes or the names of operators in it.  Only a map with fields cannot be
expected as it is, because its keys would be read as operators. -/
theorem applyAll_expecting (hx : Template.IsName x.toList)
    (hv : (Capture.mk x source).extract r = .ok v) (s : Store) (stopOnFailure : Bool) :
    (applyAll r [⟨x, source⟩] s).2 = [] ∧ (Assertion.found source.tested v).passed = true ∧
      ((TestSection.expecting (.equalTo (.string ("$" ++ x))) source).resolve
          (applyAll r [⟨x, source⟩] s).1.get?).run stopOnFailure r =
        ⟨[.found source.tested v], 1, 0⟩ ∧
      ((∀ field rest, v ≠ .object (field :: rest)) →
        ((TestSection.expecting (.string ("$" ++ x)) source).resolve
            (applyAll r [⟨x, source⟩] s).1.get?).run stopOnFailure r =
          ⟨[.found source.tested v], 1, 0⟩) := by
  have hlookup : (applyAll r [⟨x, source⟩] s).1.get? x = some v := by
    rw [applyAll_singleton hv, Store.get?_capture, if_pos rfl]
  -- The value stands where the placeholder stood, whatever it looks like.
  have hfilled : Template.resolve (applyAll r [⟨x, source⟩] s).1.get? ("$" ++ x) = v :=
    Template.resolve_bare hx hlookup
  have hextract : source.tested.extract r = .ok (some v) := Source.extract_tested hv
  refine ⟨?_, rfl, ?_, fun hplain => ?_⟩
  · rw [applyAll_singleton hv]
  · rw [TestSection.resolve_expecting, TestSection.run_expecting, hextract, Value.equalTo,
      Value.resolve, Value.resolveFields, Value.resolveFields, Value.resolve, hfilled,
      Assertion.evaluate_operator _ (by decide), Assertion.ofOperator_equal_self]
    rfl
  · rw [TestSection.resolve_expecting, TestSection.run_expecting, hextract, Value.resolve, hfilled,
      Assertion.evaluate_plain _ _ hplain, Assertion.ofOperator_equal_self]
    rfl

/-- A body that looks like a template comes back as it was. -/
theorem applyAll_expecting_template :
    let r := Response.answered (.ofLines ⟨200, by decide, by decide⟩ "HTTP/1.1" [] "$x \\$y $eq") 0
    let after := (applyAll r [⟨"x", .body⟩] .empty).1
    let met : Report := ⟨[.found .body (.string "$x \\$y $eq")], 1, 0⟩
    Template.IsName "x".toList ∧
      (Capture.mk "x" .body).extract r = .ok (.string "$x \\$y $eq") ∧
      ((TestSection.expecting (.equalTo (.string "$x")) .body).resolve after.get?).run true r =
        met ∧
      ((TestSection.expecting (.string "$x") .body).resolve after.get?).run true r = met := by
  intro r after met
  have hx : Template.IsName "x".toList := ⟨by decide, fun _ hd => by cases hd⟩
  have hv : (Capture.mk "x" .body).extract r = .ok (.string "$x \\$y $eq") := rfl
  obtain ⟨-, -, hequal, hplain⟩ := applyAll_expecting hx hv .empty true
  exact ⟨hx, hv, hequal, hplain nofun⟩

end Capture

end RequestSuite
