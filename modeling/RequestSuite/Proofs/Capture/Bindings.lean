import RequestSuite.Capture.Basic
import RequestSuite.Proofs.Request.Overlay

/-!
# What captures bind

Captures read nothing but the response, so applying a list of rules comes to writing down what the
rules that succeed take from it, one after the other, and reporting the others (`applyAll_eq`).
`Capture.applyAll_bindings` says what that means for errors and for each variable, for lists of
rules that are put together, and for rules in another order.
-/

namespace RequestSuite.Capture

/-! ## Rules that succeed and rules that fail -/

/-- The variables that are captured from a response, with their values. -/
def taken (r : Response) (rules : List Capture) : List (String × Value) :=
  rules.filterMap fun c =>
    match c.extract r with
    | .ok v => some (c.target, v)
    | .error _ => none

/-- The errors of the captures that fail on a response. -/
def errors (r : Response) (rules : List Capture) : List CaptureError :=
  rules.filterMap fun c =>
    match c.extract r with
    | .ok _ => none
    | .error fault => some ⟨c, fault⟩

variable {r : Response} {rules : List Capture}

theorem mem_taken {e : String × Value} :
    e ∈ taken r rules ↔ ∃ c ∈ rules, c.target = e.1 ∧ c.extract r = .ok e.2 := by
  constructor
  · intro h
    obtain ⟨c, hc, heq⟩ := List.mem_filterMap.mp h
    rcases hextract : c.extract r with fault | v
    · rw [hextract] at heq
      cases heq
    · rw [hextract] at heq
      cases heq
      exact ⟨c, hc, rfl, hextract⟩
  · obtain ⟨key, v⟩ := e
    rintro ⟨c, hc, rfl, hextract⟩
    refine List.mem_filterMap.mpr ⟨c, hc, ?_⟩
    rw [hextract]

theorem mem_errors {e : CaptureError} :
    e ∈ errors r rules ↔ e.capture ∈ rules ∧ e.capture.extract r = .error e.fault := by
  constructor
  · intro h
    obtain ⟨c, hc, heq⟩ := List.mem_filterMap.mp h
    rcases hextract : c.extract r with fault | v
    · rw [hextract] at heq
      cases heq
      exact ⟨hc, hextract⟩
    · rw [hextract] at heq
      cases heq
  · obtain ⟨c, fault⟩ := e
    rintro ⟨hc, hextract⟩
    refine List.mem_filterMap.mpr ⟨c, hc, ?_⟩
    rw [hextract]

/-- The rules that fail are reported, each once and in their order. -/
theorem map_capture_errors (r : Response) (rules : List Capture) :
    (errors r rules).map CaptureError.capture = rules.filter fun c => !(c.extract r).isOk := by
  induction rules with
  | nil => rfl
  | cons c rest ih =>
    rw [errors, List.filterMap_cons]
    rcases hextract : c.extract r with fault | v
    · rw [List.filter_cons_of_pos (by simp [hextract, Except.isOk, Except.toBool]), ← ih]
      rfl
    · rw [List.filter_cons_of_neg (by simp [hextract, Except.isOk, Except.toBool]), ← ih]
      rfl

theorem taken_append (r : Response) (rules rules' : List Capture) :
    taken r (rules ++ rules') = taken r rules ++ taken r rules' :=
  List.filterMap_append

theorem errors_append (r : Response) (rules rules' : List Capture) :
    errors r (rules ++ rules') = errors r rules ++ errors r rules' :=
  List.filterMap_append

/-- Rules for distinct variables take values for distinct variables. -/
theorem nodup_names_taken (h : (rules.map Capture.target).Nodup) :
    ((taken r rules).map (·.1)).Nodup := by
  have hsublist : ((taken r rules).map (·.1)).Sublist (rules.map Capture.target) := by
    induction rules with
    | nil => exact List.Sublist.refl _
    | cons c rest ih =>
      have hrest := ih (List.nodup_cons.mp h).2
      rw [taken, List.filterMap_cons]
      rcases c.extract r with fault | v
      · exact hrest.cons _
      · exact hrest.cons_cons _
  exact h.sublist hsublist

/-! ## Applying rules -/

/-- To apply rules is to write down what those that succeed take, and to report the others. -/
theorem applyAll_eq (r : Response) (rules : List Capture) (s : Store) :
    applyAll r rules s =
      ({ s with captured := s.captured.insertAll (taken r rules) }, errors r rules) := by
  induction rules generalizing s with
  | nil => rfl
  | cons c rest ih =>
    rw [applyAll, taken, errors, List.filterMap_cons, List.filterMap_cons]
    rcases c.extract r with fault | v
    · simp only [ih]
      rfl
    · exact ih (s.capture c.target v)

theorem errors_applyAll (r : Response) (rules : List Capture) (s : Store) :
    (applyAll r rules s).2 = errors r rules := by
  rw [applyAll_eq]

theorem base_applyAll (r : Response) (rules : List Capture) (s : Store) :
    (applyAll r rules s).1.base = s.base := by
  rw [applyAll_eq]

theorem get?_captured_applyAll (r : Response) (rules : List Capture) (s : Store) (key : String) :
    (applyAll r rules s).1.captured.get? key =
      (lastValue key (taken r rules)).or (s.captured.get? key) := by
  rw [applyAll_eq]
  exact Table.get?_insertAll_lastValue _ _ _

theorem applyAll_append (r : Response) (rules rules' : List Capture) (s : Store) :
    applyAll r (rules ++ rules') s =
      ((applyAll r rules' (applyAll r rules s).1).1,
        (applyAll r rules s).2 ++ (applyAll r rules' (applyAll r rules s).1).2) := by
  have hwrite : s.captured.insertAll (taken r rules ++ taken r rules') =
      (s.captured.insertAll (taken r rules)).insertAll (taken r rules') := List.foldl_append
  rw [applyAll_eq r rules, applyAll_eq r rules', applyAll_eq, taken_append, errors_append, hwrite]

/-! ## Variables -/

/-- No value is taken for a variable if all rules that name it fail. -/
theorem lastValue_taken_eq_none {key : String}
    (h : ∀ c ∈ rules, c.target = key → ∃ fault, c.extract r = .error fault) :
    lastValue key (taken r rules) = none := by
  refine lastValue_eq_none fun e he hkey => ?_
  obtain ⟨c, hc, htarget, hextract⟩ := mem_taken.mp he
  obtain ⟨fault, hfault⟩ := h c hc (htarget.trans hkey)
  cases hextract.symm.trans hfault

/-- The value of a variable is what the last rule takes for it that does not fail. -/
theorem lastValue_taken_eq_some {before after : List Capture} {c : Capture} {v : Value}
    (hv : c.extract r = .ok v)
    (hafter : ∀ d ∈ after, d.target = c.target → ∃ fault, d.extract r = .error fault) :
    lastValue c.target (taken r (before ++ c :: after)) = some v := by
  have hone : taken r [c] = [(c.target, v)] := by
    rw [taken, List.filterMap_cons, hv]
    rfl
  rw [← List.singleton_append, taken_append, taken_append, lastValue_append, lastValue_append,
    lastValue_taken_eq_none hafter, hone]
  simp [lastValue]

theorem lastValue_taken_perm {rules' : List Capture} (hperm : rules.Perm rules')
    (h : (rules.map Capture.target).Nodup) (key : String) :
    lastValue key (taken r rules) = lastValue key (taken r rules') :=
  lastValue_perm (hperm.filterMap _) (nodup_names_taken h)

/-- **What captures bind.**  Each rule that fails is reported once, in the order of the rules, and
the base variables stay as they are.  A variable takes what the last rule for it finds that does not
fail, and keeps its captured value if there is no such rule.  So two lists of rules may be applied
together or one after the other, and rules for distinct variables in any order. -/
theorem applyAll_bindings (r : Response) (rules : List Capture) (s : Store) :
    (applyAll r rules s).2.map CaptureError.capture =
        (rules.filter fun c => !(c.extract r).isOk) ∧
    (∀ e ∈ (applyAll r rules s).2, e.capture.extract r = .error e.fault) ∧
    (applyAll r rules s).1.base = s.base ∧
    (∀ before c after v, rules = before ++ c :: after → c.extract r = .ok v →
      (∀ d ∈ after, d.target = c.target → ∃ fault, d.extract r = .error fault) →
      (applyAll r rules s).1.captured.get? c.target = some v) ∧
    (∀ key, (∀ c ∈ rules, c.target = key → ∃ fault, c.extract r = .error fault) →
      (applyAll r rules s).1.captured.get? key = s.captured.get? key) ∧
    (∀ rules', applyAll r (rules ++ rules') s =
      ((applyAll r rules' (applyAll r rules s).1).1,
        (applyAll r rules s).2 ++ (applyAll r rules' (applyAll r rules s).1).2)) ∧
    ∀ rules', rules.Perm rules' → (rules.map Capture.target).Nodup →
      (applyAll r rules' s).1.base = (applyAll r rules s).1.base ∧
      (∀ key, (applyAll r rules' s).1.captured.get? key =
        (applyAll r rules s).1.captured.get? key) ∧
      (s.captured.names.Nodup →
        (applyAll r rules' s).1.captured.Perm (applyAll r rules s).1.captured) := by
  refine ⟨?_, fun e he => ?_, base_applyAll r rules s, ?_, fun key hfail => ?_,
    fun rules' => applyAll_append r rules rules' s, fun rules' hperm hdistinct => ?_⟩
  · rw [errors_applyAll, map_capture_errors]
  · rw [errors_applyAll] at he
    exact (mem_errors.mp he).2
  · rintro before c after v rfl hv hafter
    rw [get?_captured_applyAll, lastValue_taken_eq_some hv hafter]
    rfl
  · rw [get?_captured_applyAll, lastValue_taken_eq_none hfail]
    rfl
  · have hget (key : String) : (applyAll r rules' s).1.captured.get? key =
        (applyAll r rules s).1.captured.get? key := by
      rw [get?_captured_applyAll, get?_captured_applyAll, lastValue_taken_perm hperm hdistinct]
    refine ⟨?_, hget, fun hnames => ?_⟩
    · rw [base_applyAll, base_applyAll]
    · rw [applyAll_eq, applyAll_eq] at hget ⊢
      exact Table.perm_of_get? (Table.nodup_names_insertAll hnames)
        (Table.nodup_names_insertAll hnames) hget

/-- A rule that fails leaves the value alone that a rule before it has taken, and rules for two
variables may change places. -/
theorem applyAll_bindings_token :
    let r := Response.answered (.ofLines ⟨200, by decide, by decide⟩ "HTTP/1.1" [] "c0ffee") 0
    let rules := [Capture.mk "x" .body, ⟨"x", .header "token"⟩]
    (applyAll r rules .empty).1.captured.get? "x" = some (.string "c0ffee") ∧
      (applyAll r rules .empty).2.map CaptureError.capture = [⟨"x", .header "token"⟩] ∧
      ∀ key, (applyAll r [⟨"y", .status⟩, ⟨"x", .body⟩] .empty).1.captured.get? key =
        (applyAll r [⟨"x", .body⟩, ⟨"y", .status⟩] .empty).1.captured.get? key := by
  intro r rules
  obtain ⟨herrors, -, -, hlast, -⟩ := applyAll_bindings r rules .empty
  obtain ⟨-, -, -, -, -, -, hperm⟩ :=
    applyAll_bindings r [⟨"x", .body⟩, ⟨"y", .status⟩] .empty
  have hfails : ∀ d ∈ [Capture.mk "x" (.header "token")], d.target = "x" →
      ∃ fault, d.extract r = .error fault := by
    intro d hd _
    obtain rfl := List.mem_singleton.mp hd
    exact ⟨.noHeader "token", rfl⟩
  refine ⟨hlast [] ⟨"x", .body⟩ _ _ rfl rfl hfails, herrors, ?_⟩
  exact (hperm _ (List.Perm.swap _ _ _) (by decide)).2.1

end RequestSuite.Capture
