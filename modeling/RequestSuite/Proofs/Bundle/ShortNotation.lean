import Mathlib.Data.Multiset.ZeroCons
import RequestSuite.Proofs.Bundle.Collecting
import RequestSuite.Proofs.Bundle.Declared
import RequestSuite.Proofs.Capture.Expected

/-!
# The short notation of places

A place in a response has a short notation, which captures read as a descriptor, tests as a key, and
errors print.  All of them follow the same grammar: a text is in the short notation just if it is
the descriptor of a place that has one (`Source.HasDescriptor`).  So what is printed is read again
as the same, and captures and tests take a text for the same place, or both refuse it
(`Bundle.readSetvar_agrees`).
-/

namespace RequestSuite

/-! ## Blanks and letter case -/

namespace Text

theorem isBlank_of_le {c : Char} (hlow : 33 ≤ c.toNat) (hhigh : c.toNat ≤ 126) :
    isBlank c = false := by
  simp only [isBlank, Bool.or_eq_false_iff, Bool.and_eq_false_iff, decide_eq_false_iff_not,
    beq_eq_false_iff_ne]
  omega

theorem isBlank_toLower (c : Char) : isBlank c.toLower = isBlank c := by
  unfold Char.toLower
  split
  · rename_i h
    obtain ⟨hlow, hhigh⟩ : 65 ≤ c.toNat ∧ c.toNat ≤ 90 := h
    have hlower : (c.val + ('a'.val - 'A'.val)).toNat = c.toNat + 32 := by
      refine (UInt32.toNat_add _ _).trans (Nat.mod_eq_of_lt ?_)
      change c.toNat + 32 < 2 ^ 32
      omega
    rw [isBlank_of_le (c := c) (by omega) (by omega)]
    refine isBlank_of_le ?_ ?_
    · rw [Char.toNat, hlower]
      omega
    · rw [Char.toNat, hlower]
      omega
  · rfl

theorem trim_lower (s : String) : trim (lower s) = lower (trim s) := by
  have hblank : isBlank ∘ Char.toLower = isBlank := funext isBlank_toLower
  simp only [trim, lower, trimChars, trimEndChars, String.toList_ofList, ← List.map_reverse,
    List.dropWhile_map, hblank]

end Text

/-! ## Descriptors -/

namespace Source

/-- Whether a place has a short notation.  That of a header without a name is not read. -/
inductive HasDescriptor : Source → Prop
  | status : HasDescriptor .status
  | body : HasDescriptor .body
  | header {name : String} (h : name ≠ "") : HasDescriptor (.header name)
  | json {path : String} (h : isPathText path.toList = true) : HasDescriptor (.json path)

theorem toList_descriptor_header (name : String) :
    (header name).descriptor.toList = '$' :: 'h' :: '.' :: name.toList :=
  String.toList_append

theorem descriptor_header_ofList {text : String} {name : List Char}
    (h : text.toList = '$' :: 'h' :: '.' :: name) :
    (header (String.ofList name)).descriptor = text := by
  rw [← String.toList_inj, toList_descriptor_header, String.toList_ofList, h]

theorem hasDescriptor_header_ofList {name : List Char} (h : ¬ name.isEmpty = true) :
    (header (String.ofList name)).HasDescriptor := by
  refine .header fun hempty => h ?_
  rwa [String.ofList_eq_empty_iff, ← List.isEmpty_iff] at hempty

theorem ofDescriptor_eq_ok_iff {text : String} {source : Source} :
    ofDescriptor text = .ok source ↔
      ∃ place : Source, place.HasDescriptor ∧ place.descriptor = Text.trim text ∧
        place.tested = source := by
  unfold ofDescriptor
  generalize Text.trim text = text
  dsimp only
  constructor
  · intro h
    split at h
    · rename_i htext
      cases h
      exact ⟨.status, .status, htext.symm, rfl⟩
    split at h
    · rename_i htext
      cases h
      exact ⟨.body, .body, htext.symm, rfl⟩
    split at h
    · rename_i name hname
      split at h
      · cases h
      · rename_i hne
        cases h
        exact ⟨_, hasDescriptor_header_ofList hne, descriptor_header_ofList hname, rfl⟩
    · split at h
      · rename_i hpath
        cases h
        exact ⟨.json text, .json hpath, rfl, rfl⟩
      · cases h
  · rintro ⟨place, hplace, rfl, rfl⟩
    cases hplace with
    | status => rfl
    | body => rfl
    | @header name hname =>
      -- The dollar sign tells it from the two words.
      have h := toList_descriptor_header name
      rw [if_neg, if_neg]
      · simp only [h]
        rw [if_neg, String.ofList_toList]
        · rfl
        · rwa [List.isEmpty_iff, String.toList_eq_nil_iff]
      · intro hbody
        rw [hbody] at h
        cases h
      · intro hstatus
        rw [hstatus] at h
        cases h
    | @json path hpath =>
      rw [descriptor, if_neg, if_neg]
      · split
        · rename_i heq
          rw [heq] at hpath
          cases hpath
        · rw [if_pos hpath]
          rfl
      · rintro rfl
        cases hpath
      · rintro rfl
        cases hpath

/-- A header keeps its short notation in lower case. -/
theorem HasDescriptor.tested {place : Source} (h : place.HasDescriptor) :
    place.tested.HasDescriptor := by
  cases h with
  | status => exact .status
  | body => exact .body
  | @header name h =>
    refine .header fun hlower => h ?_
    rw [← String.toList_eq_nil_iff] at hlower ⊢
    rw [Text.lower, String.toList_ofList] at hlower
    exact List.map_eq_nil_iff.mp hlower
  | json h => exact .json h

@[simp] theorem tested_tested (place : Source) : place.tested.tested = place.tested := by
  cases place with
  | header name => exact congrArg header (Text.lower_lower name)
  | _ => rfl

theorem trim_descriptor_tested {place : Source}
    (h : Text.trim place.descriptor = place.descriptor) :
    Text.trim place.tested.descriptor = place.tested.descriptor := by
  cases place with
  | header name =>
    have hlower : (header name).tested.descriptor = Text.lower (header name).descriptor := by
      rw [← String.toList_inj, tested, toList_descriptor_header, Text.lower, Text.lower,
        String.toList_ofList, String.toList_ofList, toList_descriptor_header]
      rfl
    rw [hlower, Text.trim_lower, h]
  | _ => exact h

/-- What is printed of a place that was read is read as the same. -/
theorem ofDescriptor_descriptor {text : String} {source : Source}
    (h : ofDescriptor text = .ok source) : ofDescriptor source.descriptor = .ok source := by
  obtain ⟨place, hplace, htext, rfl⟩ := ofDescriptor_eq_ok_iff.mp h
  have htrim : Text.trim place.descriptor = place.descriptor := by rw [htext, Text.trim_trim]
  exact ofDescriptor_eq_ok_iff.mpr
    ⟨place.tested, hplace.tested, (trim_descriptor_tested htrim).symm, tested_tested place⟩

end Source

open Reading TestSection

/-! ## Keys of tests -/

namespace TestSection

theorem followedBy_assoc (t u w : TestSection) :
    (t.followedBy u).followedBy w = t.followedBy (u.followedBy w) := by
  simp [followedBy, Option.or_assoc]

/-- Whether tests gain one at a place, with an expected value, while the others stay as they are. -/
def Gains (t t' : TestSection) (leaf : Source × Value) : Prop :=
  ∃ before after, t.leaves = before ++ after ∧ t'.leaves = before ++ leaf :: after

theorem Gains.perm {t t' : TestSection} {leaf : Source × Value} (h : t.Gains t' leaf) :
    t'.leaves.Perm (leaf :: t.leaves) := by
  obtain ⟨before, after, ht, ht'⟩ := h
  rw [ht, ht']
  exact List.perm_middle

theorem Gains.unique {t t' : TestSection} {leaf leaf' : Source × Value} (h : t.Gains t' leaf)
    (h' : t.Gains t' leaf') : leaf = leaf' := by
  have hperm := h.perm.symm.trans h'.perm
  rwa [← Multiset.coe_eq_coe, ← Multiset.cons_coe, ← Multiset.cons_coe,
    Multiset.cons_inj_left] at hperm

/-- A test at a place is gained among others, if there is no other one of the status or the body. -/
theorem gains_expecting {t u : TestSection} {place : Source}
    (hstatus : place = .status → t.status = none ∧ u.status = none)
    (hbody : place = .body → t.body = none ∧ u.body = none) (v : Value) :
    (t.followedBy u).Gains (t.followedBy ((expecting v place).followedBy u)) (place.tested, v) := by
  cases place with
  | status =>
    obtain ⟨ht, hu⟩ := hstatus rfl
    refine ⟨[], (t.followedBy u).leaves, rfl, ?_⟩
    simp [leaves, afterStatus, followedBy, expecting, Source.tested, ht, hu]
  | body =>
    obtain ⟨ht, hu⟩ := hbody rfl
    refine ⟨((t.followedBy u).status.map (Source.status, ·)).toList, ?_⟩
    simp [leaves, afterStatus, followedBy, expecting, Source.tested, ht, hu]
  | header name =>
    refine ⟨((t.followedBy u).status.map (Source.status, ·)).toList ++
      ((t.followedBy u).body.map (Source.body, ·)).toList ++
      t.headers.map (fun h => (.header (Text.lower h.1), h.2)), ?_⟩
    simp [leaves, afterStatus, followedBy, expecting, Source.tested]
  | json path =>
    refine ⟨((t.followedBy u).status.map (Source.status, ·)).toList ++
      ((t.followedBy u).body.map (Source.body, ·)).toList ++
      (t.followedBy u).headers.map (fun h => (.header (Text.lower h.1), h.2)) ++
      t.json.map (fun p => (.json p.1, p.2)), ?_⟩
    simp [leaves, afterStatus, followedBy, expecting, Source.tested]

end TestSection

namespace Bundle

/-- A key adds its tests to those that are there, without looking at them. -/
theorem readTest_eq (place : Place) (t : TestSection) (entry : String × Value) :
    readTest place t entry = readTest place {} entry >>= fun u => pure (t.followedBy u) := by
  obtain ⟨key, v⟩ := entry
  unfold readTest
  dsimp only
  split
  · simp [followedBy]
  · simp [followedBy]
  · simp [followedBy]
  · simp [followedBy]
  · split
    · split
      · rfl
      · simp [followedBy]
    · split
      · simp [followedBy]
      · rfl

theorem foldlM_readTest (place : Place) (t : TestSection) (entries : Table Value) :
    entries.foldlM (readTest place) t =
      entries.foldlM (readTest place) {} >>= fun u => pure (t.followedBy u) := by
  induction entries generalizing t with
  | nil => simp [followedBy]
  | cons entry rest ih =>
    rw [List.foldlM_cons, List.foldlM_cons, readTest_eq place t]
    simp only [bind_assoc, pure_bind]
    congr 1
    funext u
    rw [ih (t.followedBy u), ih u]
    simp only [bind_assoc, pure_bind, followedBy_assoc]

/-- The tests of a map are those of its first part and then those of its second. -/
theorem readTests_append (place : Place) (entries entries' : Table Value) :
    readTests place (.object (entries ++ entries')) = do
      let t ← readTests place (.object entries)
      let u ← readTests place (.object entries')
      return t.followedBy u := by
  have hread (entries : Table Value) :
      readTests place (.object entries) = entries.foldlM (readTest place) {} := rfl
  simp only [hread]
  rw [List.foldlM_append]
  congr 1
  funext t
  exact foldlM_readTest place t entries'

theorem readTests_singleton (place : Place) (entry : String × Value) :
    readTests place (.object [entry]) = readTest place {} entry := by
  change [entry].foldlM (readTest place) {} = _
  rw [List.foldlM_cons]
  exact bind_pure _

/-- A key that is the short notation of a place is a test of that place. -/
theorem readTest_descriptor {source : Source} (h : source.HasDescriptor) (place : Place)
    (v : Value) : readTest place {} (source.descriptor, v) = pure (expecting v source) := by
  cases h with
  | status => rfl
  | body => rfl
  | @header name hname =>
    have hkey := Source.toList_descriptor_header name
    generalize (Source.header name).descriptor = key at hkey
    unfold readTest
    dsimp only
    split
    · cases hkey
    · cases hkey
    · cases hkey
    · cases hkey
    · simp only [hkey]
      rw [if_neg, String.ofList_toList]
      · rfl
      · rwa [List.isEmpty_iff, String.toList_eq_nil_iff]
  | @json path hpath =>
    unfold readTest
    dsimp only [Source.descriptor]
    split
    · cases hpath
    · cases hpath
    · cases hpath
    · cases hpath
    · split
      · rename_i heq
        rw [heq] at hpath
        cases hpath
      · rw [if_pos hpath]
        rfl

/-- Every other key is refused, those of the two sections aside. -/
theorem readTest_of_not_descriptor {key : String} (hheaders : key ≠ "headers")
    (hjson : key ≠ "json")
    (h : ∀ source : Source, source.HasDescriptor → source.descriptor ≠ key) (place : Place)
    (v : Value) : ∃ problem, readTest place {} (key, v) = refuse (place.key key) problem := by
  unfold readTest
  dsimp only
  split
  · exact (h .status .status rfl).elim
  · exact (h .body .body rfl).elim
  · exact (hheaders rfl).elim
  · exact (hjson rfl).elim
  · split
    · rename_i name hname
      split
      · exact ⟨_, rfl⟩
      · rename_i hne
        exact (h _ (Source.hasDescriptor_header_ofList hne)
          (Source.descriptor_header_ofList hname)).elim
    · split
      · rename_i hpath
        exact (h (.json key) (.json hpath) rfl).elim
      · exact ⟨_, rfl⟩

/-! ## Maps with a key among others -/

section

variable {place : Place} {before after : Table Value} {t t' : TestSection} {key : String}
  {v : Value}

theorem gives_readTests_append_iff :
    (readTests place (.object (before ++ after))).Gives t ↔
      ∃ t₁ t₂, (readTests place (.object before)).Gives t₁ ∧
        (readTests place (.object after)).Gives t₂ ∧ t₁.followedBy t₂ = t := by
  simp only [readTests_append, gives_bind_iff, gives_pure, exists_and_left]

theorem gives_readTests_insert_iff :
    (readTests place (.object (before ++ (key, v) :: after))).Gives t' ↔
      ∃ t₁ u t₂, (readTests place (.object before)).Gives t₁ ∧
        (readTest place {} (key, v)).Gives u ∧
        (readTests place (.object after)).Gives t₂ ∧ t₁.followedBy (u.followedBy t₂) = t' := by
  rw [← List.singleton_append]
  simp only [gives_readTests_append_iff, readTests_singleton]
  constructor
  · rintro ⟨t₁, _, hbefore, ⟨u, t₂, hu, hafter, rfl⟩, rfl⟩
    exact ⟨t₁, u, t₂, hbefore, hu, hafter, rfl⟩
  · rintro ⟨t₁, u, t₂, hbefore, hu, hafter, rfl⟩
    exact ⟨t₁, _, hbefore, ⟨u, t₂, hu, hafter, rfl⟩, rfl⟩

/-- Only its own key declares a test of the status or of the body. -/
theorem eq_descriptor_of_mem_declared {source : Source} {w : Value}
    (h : (source, w) ∈ declared key v) (hsource : source = .status ∨ source = .body) :
    key = source.descriptor := by
  unfold declared at h
  split at h
  · cases List.mem_singleton.mp h
    rfl
  · cases List.mem_singleton.mp h
    rfl
  · obtain ⟨header, -, heq⟩ := List.mem_map.mp h
    cases heq
    simp at hsource
  · obtain ⟨path, -, heq⟩ := List.mem_map.mp h
    cases heq
    simp at hsource
  · split at h
    · cases List.mem_singleton.mp h
      simp at hsource
    · split at h
      · cases List.mem_singleton.mp h
        simp at hsource
      · cases h

theorem lastValue_declaredIn {entries : Table Value} {source : Source}
    (h : source.descriptor ∉ Table.names entries) (hsource : source = .status ∨ source = .body) :
    lastValue source (declaredIn (.object entries)) = none := by
  refine lastValue_eq_none fun leaf hleaf => ?_
  rintro rfl
  obtain ⟨entry, hentry, hleaf⟩ := List.mem_flatMap.mp hleaf
  exact h (eq_descriptor_of_mem_declared hleaf hsource ▸ List.mem_map_of_mem hentry)

/-- The short notation of a place adds the test of this place to those of the other keys. -/
theorem exists_gains_of_descriptor {source : Source} (hsource : source.HasDescriptor)
    (hkey : source.descriptor ∉ Table.names (before ++ after))
    (hothers : (readTests place (.object (before ++ after))).Gives t) (v : Value) :
    ∃ t', (readTests place (.object (before ++ (source.descriptor, v) :: after))).Gives t' ∧
      t.Gains t' (source.tested, v) := by
  obtain ⟨t₁, t₂, hbefore, hafter, rfl⟩ := gives_readTests_append_iff.mp hothers
  rw [Table.names, List.map_append, List.mem_append, not_or] at hkey
  refine ⟨t₁.followedBy ((expecting v source).followedBy t₂), ?_, gains_expecting ?_ ?_ v⟩
  · have hread : (readTest place {} (source.descriptor, v)).Gives (expecting v source) := by
      rw [readTest_descriptor hsource, gives_pure]
    exact gives_readTests_insert_iff.mpr ⟨t₁, _, t₂, hbefore, hread, hafter, rfl⟩
  -- The status and the body have one key each, so no other key is a test of them.
  · rintro rfl
    rw [(holds_readTests hbefore).status, (holds_readTests hafter).status]
    exact ⟨lastValue_declaredIn hkey.1 (.inl rfl), lastValue_declaredIn hkey.2 (.inl rfl)⟩
  · rintro rfl
    rw [(holds_readTests hbefore).body, (holds_readTests hafter).body]
    exact ⟨lastValue_declaredIn hkey.1 (.inr rfl), lastValue_declaredIn hkey.2 (.inr rfl)⟩

theorem exists_gives_others
    (h : (readTests place (.object (before ++ (key, v) :: after))).Gives t') :
    ∃ t, (readTests place (.object (before ++ after))).Gives t := by
  obtain ⟨t₁, _, t₂, hbefore, -, hafter, -⟩ := gives_readTests_insert_iff.mp h
  exact ⟨_, gives_readTests_append_iff.mpr ⟨t₁, t₂, hbefore, hafter, rfl⟩⟩

/-- A map is refused because of a key that is no short notation, whatever the other keys are. -/
theorem exists_descriptor_of_gives (hheaders : key ≠ "headers") (hjson : key ≠ "json")
    (h : (readTests place (.object (before ++ (key, v) :: after))).Gives t') :
    ∃ source : Source, source.HasDescriptor ∧ source.descriptor = key := by
  by_contra hnone
  push Not at hnone
  obtain ⟨_, u, _, -, hu, -, -⟩ := gives_readTests_insert_iff.mp h
  obtain ⟨problem, hproblem⟩ := readTest_of_not_descriptor hheaders hjson hnone place v
  rw [hproblem] at hu
  exact not_gives_refuse hu

/-- The tests before a key are read before it is refused. -/
theorem outcome_readTests_of_refused {problem : Problem}
    (hbefore : (readTests place (.object before)).outcome.1 = .ok t)
    (hkey : readTest place {} (key, v) = refuse (place.key key) problem) :
    (readTests place (.object (before ++ (key, v) :: after))).outcome.1 =
      .error ⟨place.key key, problem⟩ := by
  have hrest : (readTests place (.object ((key, v) :: after))).outcome =
      (.error ⟨place.key key, problem⟩, []) := by
    rw [← List.singleton_append, readTests_append, readTests_singleton, hkey]
    rfl
  rw [readTests_append]
  exact congrArg Prod.fst (outcome_bind_ok (Prod.ext hbefore rfl) (outcome_bind_error hrest))

end

/-! ## Captures and tests -/

section

variable {place : Place} {before after : Table Value} {key : String} (htrim : Text.trim key = key)
  (hkey : key ∉ Table.names (before ++ after)) (hheaders : key ≠ "headers") (hjson : key ≠ "json")

include htrim

theorem ofDescriptor_eq_ok_iff_of_trim {source : Source} : Source.ofDescriptor key = .ok source ↔
    ∃ written : Source, written.HasDescriptor ∧ written.descriptor = key ∧
      written.tested = source := by
  rw [Source.ofDescriptor_eq_ok_iff, htrim]

include hkey hheaders hjson

/-- A descriptor of a place is, as a key, a test of that place, and no other key is. -/
theorem ofDescriptor_eq_ok_iff_gains {t : TestSection}
    (hothers : (readTests place (.object (before ++ after))).Gives t) (v : Value)
    {source : Source} :
    Source.ofDescriptor key = .ok source ↔
      ∃ t', (readTests place (.object (before ++ (key, v) :: after))).Gives t' ∧
        t.Gains t' (source, v) := by
  rw [ofDescriptor_eq_ok_iff_of_trim htrim]
  constructor
  · rintro ⟨written, hwritten, rfl, rfl⟩
    exact exists_gains_of_descriptor hwritten hkey hothers v
  · rintro ⟨t', hgives, hgains⟩
    obtain ⟨written, hwritten, rfl⟩ := exists_descriptor_of_gives hheaders hjson hgives
    obtain ⟨u, hu, hgains'⟩ := exists_gains_of_descriptor hwritten hkey hothers v
    obtain rfl : u = t' :=
      Except.ok.inj ((outcome_eq_ok_iff.mpr hu).symm.trans (outcome_eq_ok_iff.mpr hgives))
    exact ⟨written, hwritten, rfl, congrArg Prod.fst (hgains'.unique hgains)⟩

theorem exists_gives_readTests_iff (v : Value) :
    (∃ t', (readTests place (.object (before ++ (key, v) :: after))).Gives t') ↔
      (∃ source, Source.ofDescriptor key = .ok source) ∧
        ∃ t, (readTests place (.object (before ++ after))).Gives t := by
  constructor
  · rintro ⟨t', h⟩
    obtain ⟨t, hothers⟩ := exists_gives_others h
    obtain ⟨written, hwritten, hkey⟩ := exists_descriptor_of_gives hheaders hjson h
    exact ⟨⟨_, (ofDescriptor_eq_ok_iff_of_trim htrim).mpr ⟨written, hwritten, hkey, rfl⟩⟩,
      t, hothers⟩
  · rintro ⟨⟨source, hsource⟩, t, hothers⟩
    obtain ⟨t', h, -⟩ :=
      (ofDescriptor_eq_ok_iff_gains htrim hkey hheaders hjson hothers v).mp hsource
    exact ⟨t', h⟩

end

/-- A capture in the short notation is read just if its descriptor is. -/
theorem gives_readSetvar_iff {place : Place} {name text : String} {c : Capture} :
    (readSetvar place (name, .string text)).Gives c ↔
      ∃ source, Source.ofDescriptor text = .ok source ∧ Capture.mk name source = c := by
  have hstring (place : Place) : Reading.string place (.string text) = pure text := rfl
  unfold readSetvar
  dsimp only
  rw [hstring, pure_bind]
  rcases Source.ofDescriptor text with e | source
  · simp
  · simp

/-- **Captures and tests have the same short notation.**  What is printed of a captured place is a
descriptor of the same capture.  A text without blanks at its ends that is no name of a section of
tests is the descriptor of a place just if it is, as a key among others, a test of that place, and
otherwise both are refused.  A header without a name has no short notation. -/
theorem readSetvar_agrees (name text : String) (place place' : Place) :
    (∀ c, (readSetvar place (name, .string text)).outcome.1 = .ok c →
      (readSetvar place (name, .string c.source.descriptor)).outcome.1 = .ok c) ∧
    (Text.trim text = text → text ≠ "headers" → text ≠ "json" →
      ∀ (before after : Table Value) (v : Value), text ∉ Table.names (before ++ after) →
        let captured := (readSetvar place (name, .string text)).outcome.1
        let others := (readTests place' (.object (before ++ after))).outcome.1
        let tests := (readTests place' (.object (before ++ (text, v) :: after))).outcome.1
        (∀ t source, others = .ok t →
          (captured = .ok ⟨name, source⟩ ↔ ∃ t', tests = .ok t' ∧ t.Gains t' (source, v))) ∧
        tests.isOk = (captured.isOk && others.isOk)) ∧
    (readSetvar place (name, .string "$h.")).outcome.1 =
      .error ⟨place.key name, .badDescriptor .emptyHeaderName⟩ ∧
    ∀ (before after : Table Value) (v : Value) (t : TestSection),
      (readTests place' (.object before)).outcome.1 = .ok t →
      (readTests place' (.object (before ++ ("$h.", v) :: after))).outcome.1 =
        .error ⟨place'.key "$h.", .emptyHeaderName⟩ := by
  simp only [outcome_eq_ok_iff, gives_readSetvar_iff]
  refine ⟨?_, fun htrim hheaders hjson before after v hkey => ⟨?_, ?_⟩, rfl, ?_⟩
  · rintro _ ⟨source, hsource, rfl⟩
    exact ⟨source, Source.ofDescriptor_descriptor hsource, rfl⟩
  · intro t source hothers
    rw [← ofDescriptor_eq_ok_iff_gains htrim hkey hheaders hjson hothers v]
    simp
  · rw [Bool.eq_iff_iff, Bool.and_eq_true]
    simp only [isOk_outcome_iff, gives_readSetvar_iff]
    rw [exists_gives_readTests_iff htrim hkey hheaders hjson v]
    simp
  · intro before after v t hbefore
    exact outcome_readTests_of_refused (outcome_eq_ok_iff.mpr hbefore) rfl

/-- Both find a header in any case, and neither takes a path that does not start at the root. -/
theorem readSetvar_agrees_token :
    let before : Table Value := [("status", .number (.int 200))]
    let after : Table Value := [("$.id", .number (.int 3))]
    let others : TestSection :=
      { status := some (.number (.int 200)), json := [("$.id", .number (.int 3))] }
    Text.trim "$h.X-Token" = "$h.X-Token" ∧ "$h.X-Token" ∉ Table.names (before ++ after) ∧
      (readTests [] (.object (before ++ after))).outcome.1 = .ok others ∧
      (readSetvar [] ("token", .string "$h.X-Token")).outcome.1 = .ok ⟨"token", .header "x-token"⟩ ∧
      (readSetvar [] ("token", .string "$h.x-token")).outcome.1 = .ok ⟨"token", .header "x-token"⟩ ∧
      (∃ t', (readTests [] (.object
          (before ++ ("$h.X-Token", .string "abc") :: after))).outcome.1 = .ok t' ∧
        others.Gains t' (.header "x-token", .string "abc")) ∧
      (readTests [] (.object (before ++ ("user.id", .null) :: after))).outcome.1.isOk = false ∧
      (readTests [] (.object (before ++ ("$h.", .null) :: after))).outcome.1 =
        .error ⟨[.key "$h."], .emptyHeaderName⟩ := by
  intro before after others
  have htrim : Text.trim "$h.X-Token" = "$h.X-Token" := by decide
  have hkey : "$h.X-Token" ∉ Table.names (before ++ after) := by decide
  have hothers : (readTests [] (.object (before ++ after))).outcome.1 = .ok others := by rfl
  have hcaptured : (readSetvar [] ("token", .string "$h.X-Token")).outcome.1 =
      .ok ⟨"token", .header "x-token"⟩ := by rfl
  have hbefore : (readTests [] (.object before)).outcome.1 =
      .ok { status := some (.number (.int 200)) } := by rfl
  obtain ⟨hprinted, halike, -, hnameless⟩ := readSetvar_agrees "token" "$h.X-Token" [] []
  obtain ⟨hgains, -⟩ := halike htrim (by decide) (by decide) before after (.string "abc") hkey
  have hunknown : (readSetvar [] ("id", .string "user.id")).outcome.1.isOk = false := by rfl
  obtain ⟨-, halike', -⟩ := readSetvar_agrees "id" "user.id" [] []
  obtain ⟨-, hrefused⟩ := halike' (by decide) (by decide) (by decide) before after .null (by decide)
  rw [hunknown, Bool.false_and] at hrefused
  have hreread := hprinted _ hcaptured
  have hdescriptor : (Source.header "x-token").descriptor = "$h.x-token" := by decide
  rw [hdescriptor] at hreread
  exact ⟨htrim, hkey, hothers, hcaptured, hreread, (hgains _ _ hothers).mp hcaptured, hrefused,
    hnameless before after .null _ hbefore⟩

end Bundle

end RequestSuite
