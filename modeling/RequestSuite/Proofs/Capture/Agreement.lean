import RequestSuite.Proofs.Assertion.Equality
import RequestSuite.Proofs.Assertion.Tally
import RequestSuite.Proofs.Capture.Expected
import RequestSuite.Proofs.Path.Selection

/-!
# What captures and tests see

Captures and tests look at the same places of a response, but each in its own way: to a capture a
missing value is an error like any other, to a test it is a value that does not exist.  Beyond that
they see the same (`Capture.extract_agrees`): what one finds the other finds, and a test that a
value exists passes just if a capture of it sets its variable.
-/

namespace RequestSuite

/-- Places that differ in nothing but the case of a header's name hold the same. -/
theorem Source.extract_of_tested_eq {source place : Source} (h : source.tested = place.tested)
    (r : Response) : source.extract r = place.extract r := by
  rw [← tested_extract source, h, tested_extract]

/-- Nothing but a path can fail to be looked at. -/
theorem Source.extract_fails_iff {source : Source} {r : Response} :
    (∃ fault, source.extract r = .error fault) ↔ ∃ path, source = .json path ∧
      ((∃ fault, r.json = .error fault) ∨ ∃ e, Path.parse path = .error e) := by
  constructor
  · rintro ⟨fault, hfault⟩
    obtain ⟨path, rfl, ⟨f, hbody, -⟩ | ⟨document, e, -, hpath, -⟩⟩ :=
      Assertion.extract_eq_error hfault
    · exact ⟨path, rfl, .inl ⟨f, hbody⟩⟩
    · exact ⟨path, rfl, .inr ⟨e, (Path.query_eq_error_iff document).mp hpath⟩⟩
  · rintro ⟨path, rfl, hfails⟩
    rcases hbody : r.json with f | document
    · exact ⟨.invalidBody f.message, by simp only [extract, hbody]⟩
    · obtain ⟨f, hf⟩ | ⟨e, hpath⟩ := hfails
      · rw [hbody] at hf
        cases hf
      · refine ⟨.invalidPath e.message, ?_⟩
        simp only [extract, hbody, (Path.query_eq_error_iff document).mpr hpath]

namespace Assertion

/-- The test that there is a value at a place passes. -/
def ExistsAt (place : Source) (r : Response) : Prop :=
  ∃ a, evaluate place (.object [(Operator.presence.key, .bool true)]) (place.extract r) = [a] ∧
    a.passed = true

theorem passes_presence_iff {source : Source} {received : Option Value} :
    Passes source .presence received (.bool true) ↔ ∃ v, received = some v := by
  rw [passes_iff .presence nofun, ← Option.isSome_iff_exists]
  simp [compares]

theorem existsAt_iff {place : Source} {r : Response} :
    ExistsAt place r ↔ ∃ v, place.extract r = .ok (some v) := by
  unfold ExistsAt
  rcases place.extract r with fault | received
  · constructor
    -- The only assertion is that the place cannot be looked at.
    · rintro ⟨a, ha, hpassed⟩
      obtain rfl := (List.cons.inj ha).1
      cases hpassed
    · rintro ⟨v, hv⟩
      cases hv
  · refine passes_presence_iff.trans ?_
    simp

end Assertion

namespace Capture

open Assertion (ExistsAt)

variable {source place : Source}

/-- **Captures and tests see the same.**  Whatever the response is, a capture takes a value from a
place just if a test finds it there, and a test that there is a value passes just if a capture of
the place sets its variable; where it fails, the capture changes nothing.  To look at a place is an
error just if it is a path and the body is no document or the path cannot be read. -/
theorem extract_agrees (hplace : source.tested = place.tested) (r : Response) (x : String)
    (s : Store) :
    (∀ v, (Capture.mk x source).extract r = .ok v ↔ place.extract r = .ok (some v)) ∧
    (ExistsAt place r ↔ ∃ v, place.extract r = .ok (some v) ∧
      applyAll r [⟨x, source⟩] s = (s.capture x v, [])) ∧
    (¬ ExistsAt place r → ∃ fault, applyAll r [⟨x, source⟩] s = (s, [⟨⟨x, source⟩, fault⟩])) ∧
    ((∃ fault, place.extract r = .error fault) ↔ ∃ path, place = .json path ∧
      ((∃ fault, r.json = .error fault) ∨ ∃ e, Path.parse path = .error e)) := by
  have hextract : source.extract r = place.extract r := Source.extract_of_tested_eq hplace r
  have htaken (v : Value) :
      (Capture.mk x source).extract r = .ok v ↔ place.extract r = .ok (some v) := by
    rw [extract_eq_ok_iff, hextract]
  refine ⟨htaken, ?_, fun hnone => ?_, Source.extract_fails_iff⟩
  · rw [Assertion.existsAt_iff]
    constructor
    · rintro ⟨v, hv⟩
      exact ⟨v, hv, applyAll_singleton ((htaken v).mpr hv) s⟩
    · rintro ⟨v, hv, -⟩
      exact ⟨v, hv⟩
  · rcases hfails : (Capture.mk x source).extract r with fault | v
    · exact ⟨fault, by simp only [applyAll, hfails]⟩
    · exact absurd (Assertion.existsAt_iff.mpr ⟨v, (htaken v).mp hfails⟩) hnone

/-- A header is found in any case, and a path that does not start at the root is an error. -/
theorem extract_agrees_token :
    let r := Response.answered (.ofLines ⟨200, by decide, by decide⟩ "HTTP/1.1"
      [("X-Token", "abc")] "") 0
    (Source.header "X-Token").tested = (Source.header "x-token").tested ∧
      (Capture.mk "token" (.header "X-Token")).extract r = .ok (.string "abc") ∧
      ExistsAt (.header "x-token") r ∧ (∃ fault, (Source.json "user.id").extract r = .error fault) ∧
      ¬ ExistsAt (.json "user.id") r := by
  intro r
  have hplace : (Source.header "X-Token").tested = (Source.header "x-token").tested := by decide
  have hfound : (Source.header "x-token").extract r = .ok (some (.string "abc")) := by decide
  obtain ⟨hextract, hexists, -, -⟩ := extract_agrees hplace r "token" .empty
  have hsame : (Source.json "user.id").tested = (Source.json "user.id").tested := rfl
  obtain ⟨-, hexists', -, hfails⟩ := extract_agrees hsame r "id" .empty
  have hcapture := (hextract _).mpr hfound
  have hpath : Path.parse "user.id" = .error (.missingRoot "user.id") := by decide
  obtain ⟨fault, hfault⟩ := hfails.mpr ⟨"user.id", rfl, .inr ⟨_, hpath⟩⟩
  refine ⟨hplace, hcapture, hexists.mpr ⟨_, hfound, applyAll_singleton hcapture _⟩, ⟨fault, hfault⟩,
    fun h => ?_⟩
  obtain ⟨v, hv, -⟩ := hexists'.mp h
  exact absurd (hfault.symm.trans hv) nofun

end Capture

end RequestSuite
