import RequestSuite.Proofs.Capture.Bindings
import RequestSuite.Proofs.Request.Named

/-!
# Whose captures win

Captures are merged by slots: by the places from which they take values or, in the short notation,
by the variables that take them.  A request wins the slots that it uses.  A variable, however, may
be named in several slots, and there the last rule wins, be it of the request or common.  The short
notation stands last and has a slot for each variable, so in it the request always wins.
`CaptureSection.run_merge` says which rules there are after merging, which of them a variable goes
by, and when this is one of the request.
-/

namespace RequestSuite

/-! ## Slots -/

/-- What a capture is merged by. -/
inductive CaptureSlot where
  | place (source : Source)
  /-- The variable of a capture in the short notation. -/
  | shorthand (target : String)
deriving DecidableEq, Repr

/-- The number of the section that a slot is in. -/
def CaptureSlot.rank : CaptureSlot → Nat
  | .place .status => 0
  | .place .body => 1
  | .place (.header _) => 2
  | .place (.json _) => 3
  | .shorthand _ => 4

theorem CaptureSlot.rank_mem (slot : CaptureSlot) : slot.rank ∈ [0, 1, 2, 3, 4] := by
  rcases slot with (_ | _ | _ | _) | _ <;> simp [rank]

namespace CaptureSection

/-- The capture at a place, for a variable that may be missing, with its slot. -/
def onlyRule (source : Source) (target : Option String) : List (CaptureSlot × Capture) :=
  (target.map fun v => (.place source, ⟨v, source⟩)).toList

/-- The capture of a header with its slot. -/
def headerRule (h : String × String) : CaptureSlot × Capture :=
  (.place (.header (Text.lower h.1)), .ofHeader h.1 h.2)

/-- The capture of what a path finds with its slot. -/
def pathRule (p : String × String) : CaptureSlot × Capture :=
  (.place (.json p.1), .ofPath p.1 p.2)

/-- A capture in the short notation with its slot. -/
def shortRule (c : Capture) : CaptureSlot × Capture :=
  (.shorthand c.target, c)

/-- The captures with their slots, section by section in the order in which they are applied. -/
def sections (s : CaptureSection) : List (List (CaptureSlot × Capture)) :=
  [onlyRule .status s.status, onlyRule .body s.body, s.headers.map headerRule,
   s.json.map pathRule, s.setvars.map shortRule]

/-- The captures with their slots, in the order in which they are applied. -/
def slotted (s : CaptureSection) : List (CaptureSlot × Capture) :=
  s.sections.flatten

theorem map_snd_slotted (s : CaptureSection) : s.slotted.map (·.2) = s.rules := by
  simp [slotted, sections, onlyRule, headerRule, pathRule, shortRule, rules, Function.comp_def,
    ← Option.toList_map]

/-- Each section has the slots of its own rank. -/
theorem ranked_slotted (s : CaptureSection) :
    [0, 1, 2, 3, 4].map (fun n => ranked CaptureSlot.rank n s.slotted) = s.sections := by
  obtain ⟨status, body, headers, json, setvars⟩ := s
  rcases status with _ | status <;> rcases body with _ | body <;>
    simp [slotted, sections, onlyRule, headerRule, pathRule, shortRule, ranked, CaptureSlot.rank,
      List.filter_map, Function.comp_def]

/-! ## Merged captures -/

theorem overlay_onlyRule (source : Source) (common request : Option String) :
    Overlay (onlyRule source (request.or common))
      (onlyRule source common ++ onlyRule source request) := by
  rcases common with _ | c <;> rcases request with _ | r <;>
    exact ⟨by simp [onlyRule, distinct], by simp [onlyRule, lastValue]⟩

theorem overlay_headerRule (common request : List (String × String)) :
    Overlay ((mergeHeaders common request).map headerRule)
      (common.map headerRule ++ request.map headerRule) := by
  rw [← List.map_append]
  exact overlay_mergeHeaders (f := fun name => CaptureSlot.place (.header name))
    (by rintro _ _ ⟨⟩; rfl) (fun name v => (⟨v, .header name⟩ : Capture)) common request

theorem overlay_pathRule (common request : List (String × String)) :
    Overlay ((mergeEntries common request).map pathRule)
      (common.map pathRule ++ request.map pathRule) := by
  rw [← List.map_append]
  exact (Table.overlay_ofPairs (common ++ request)).map
    (f := fun path => CaptureSlot.place (.json path)) (by rintro _ _ ⟨⟩; rfl) Capture.ofPath

theorem overlay_shortRule (common request : CaptureSection) :
    Overlay ((common.merge request).setvars.map shortRule)
      (common.setvars.map shortRule ++ request.setvars.map shortRule) := by
  have hrules := (Table.overlay_ofPairs (Capture.byTarget (common.setvars ++ request.setvars))).map
    (f := CaptureSlot.shorthand) (fun _ _ => CaptureSlot.shorthand.inj) fun _ c => c
  rw [← Capture.byTarget_merge, Capture.byTarget, Capture.byTarget, List.map_map, List.map_map]
    at hrules
  rw [← List.map_append]
  exact hrules

variable (common request : CaptureSection)

theorem ranked_slotted_append (n : Fin 5) :
    ranked CaptureSlot.rank n (common.slotted ++ request.slotted) =
      common.sections.getD n [] ++ request.sections.getD n [] := by
  have hsection (s : CaptureSection) :
      ranked CaptureSlot.rank n s.slotted = s.sections.getD n [] := by
    rw [← ranked_slotted]
    match n with
    | 0 => rfl
    | 1 => rfl
    | 2 => rfl
    | 3 => rfl
    | 4 => rfl
  rw [← hsection, ← hsection, ranked_append]

/-- Captures are merged section by section. -/
theorem inSections_merge : InSections CaptureSlot.rank (common.slotted ++ request.slotted)
    [0, 1, 2, 3, 4] (common.merge request).sections := by
  have hranked := ranked_slotted_append common request
  refine .cons ?_ (.cons ?_ (.cons ?_ (.cons ?_ (.cons ?_ .nil))))
  · exact hranked 0 ▸ overlay_onlyRule .status common.status request.status
  · exact hranked 1 ▸ overlay_onlyRule .body common.body request.body
  · exact hranked 2 ▸ overlay_headerRule common.headers request.headers
  · exact hranked 3 ▸ overlay_pathRule common.json request.json
  · exact hranked 4 ▸ overlay_shortRule common request

/-- After merging there is a rule for each slot, section by section and in the order in which the
slots come first. -/
theorem slots_merge : (common.merge request).slotted.map (·.1) =
    keysByRank CaptureSlot.rank [0, 1, 2, 3, 4] (common.slotted ++ request.slotted) :=
  (inSections_merge common request).keys

variable {common request}

/-- The rule of a slot is the last one of the request, if it uses the slot, and of the common ones
otherwise. -/
theorem rule_merge {e : CaptureSlot × Capture} (he : e ∈ (common.merge request).slotted) :
    (lastValue e.1 request.slotted).or (lastValue e.1 common.slotted) = some e.2 := by
  rw [← lastValue_append]
  exact (inSections_merge common request).values he

theorem mem_slotted_merge {slot : CaptureSlot} {c : Capture}
    (h : lastValue slot request.slotted = some c) : (slot, c) ∈ (common.merge request).slotted := by
  have hslot : slot ∈ (common.merge request).slotted.map (·.1) := by
    rw [slots_merge, mem_keysByRank CaptureSlot.rank_mem]
    exact List.mem_map_of_mem (List.mem_append_right _ (mem_of_lastValue h))
  obtain ⟨e, he, rfl⟩ := List.mem_map.mp hslot
  have hrule := rule_merge he
  rw [h, Option.some_or] at hrule
  exact Option.some.inj hrule ▸ he

/-- A merged rule whose slot the request uses is a rule of the request. -/
theorem mem_rules_of_used {e : CaptureSlot × Capture} (he : e ∈ (common.merge request).slotted)
    (hused : e.1 ∈ request.slotted.map (·.1)) : e.2 ∈ request.rules := by
  rw [← map_snd_slotted]
  rcases Option.or_eq_some_iff.mp (rule_merge he) with hrule | ⟨hnone, -⟩
  · exact List.mem_map_of_mem (mem_of_lastValue hrule)
  · obtain ⟨d, hd, hslot⟩ := List.mem_map.mp hused
    exact absurd (hslot ▸ hd) (not_mem_of_lastValue hnone d.2)

/-! ## The last rule for a variable -/

/-- A list with an element of some kind has a last one. -/
theorem exists_last {α : Type} {p : α → Prop} {l : List α} (h : ∃ a ∈ l, p a) :
    ∃ before a after, l = before ++ a :: after ∧ p a ∧ ∀ b ∈ after, ¬ p b := by
  induction l with
  | nil =>
    obtain ⟨_, ha, -⟩ := h
    cases ha
  | cons b rest ih =>
    by_cases hrest : ∃ a ∈ rest, p a
    · obtain ⟨before, a, after, rfl, ha, hafter⟩ := ih hrest
      exact ⟨b :: before, a, after, rfl, ha, hafter⟩
    · obtain ⟨a, hmem, ha⟩ := h
      have hnone : ∀ c ∈ rest, ¬ p c := fun c hc hp => hrest ⟨c, hc, hp⟩
      rcases List.mem_cons.mp hmem with rfl | hmem
      · exact ⟨[], a, rest, rfl, ha, hnone⟩
      · exact absurd ha (hnone a hmem)

/-- Whether no rule fails on a response. -/
def Succeeds (captures : CaptureSection) (r : Response) : Prop :=
  ∀ c ∈ captures.rules, ∃ v, c.extract r = .ok v

/-- Whether a variable holds what one of some rules takes from a response. -/
def HoldsFrom (rules : List Capture) (r : Response) (s : Store) (name : String) : Prop :=
  ∃ c ∈ rules, c.target = name ∧ ∃ v, c.extract r = .ok v ∧ s.get? name = some v

variable {captures : CaptureSection} {r : Response} {s : Store}

/-- Where no rule fails, a variable holds what the last rule for it takes. -/
theorem get?_run_of_last (hall : captures.Succeeds r)
    {before after : List Capture} {c : Capture} (hrules : captures.rules = before ++ c :: after)
    (hlast : ∀ d ∈ after, d.target ≠ c.target) :
    ∃ v, c.extract r = .ok v ∧ (captures.run r s).1.get? c.target = some v := by
  obtain ⟨v, hv⟩ := hall c (hrules ▸ List.mem_append_right _ List.mem_cons_self)
  refine ⟨v, hv, ?_⟩
  rw [run, hrules, Store.get?, Capture.get?_captured_applyAll,
    Capture.lastValue_taken_eq_some hv fun d hd heq => absurd heq (hlast d hd)]
  rfl

theorem rules_of_slotted {before after : List (CaptureSlot × Capture)} {e : CaptureSlot × Capture}
    (h : captures.slotted = before ++ e :: after) :
    captures.rules = before.map (·.2) ++ e.2 :: after.map (·.2) := by
  rw [← map_snd_slotted, h, List.map_append, List.map_cons]

theorem slotted_eq (s : CaptureSection) :
    s.slotted = (onlyRule .status s.status ++ onlyRule .body s.body ++ s.headers.map headerRule ++
      s.json.map pathRule) ++ s.setvars.map shortRule := by
  simp [slotted, sections]

theorem mem_setvars_of_mem_slotted {target : String} {c : Capture}
    (h : (.shorthand target, c) ∈ captures.slotted) : c ∈ captures.setvars ∧ c.target = target := by
  rw [slotted_eq] at h
  rcases List.mem_append.mp h with h | h
  · simp [onlyRule, headerRule, pathRule] at h
  · obtain ⟨d, hd, heq⟩ := List.mem_map.mp h
    obtain ⟨hslot, rfl⟩ := Prod.mk.inj heq
    exact ⟨hd, CaptureSlot.shorthand.inj hslot⟩

/-- Behind a merged rule in the short notation there is no other one for its variable. -/
theorem exists_shorthand_last {target : String} {c : Capture}
    (h : (.shorthand target, c) ∈ (common.merge request).slotted) :
    ∃ before after, (common.merge request).rules = before ++ c :: after ∧
      ∀ d ∈ after, d.target ≠ c.target := by
  obtain ⟨hc, -⟩ := mem_setvars_of_mem_slotted h
  obtain ⟨before, after, hsplit⟩ := List.append_of_mem hc
  have hnodup : ((common.merge request).setvars.map Capture.target).Nodup := by
    simpa [Capture.byTarget, Function.comp_def] using (mergedBy_setvars common request).nodup
  rw [hsplit, List.map_append, List.map_cons] at hnodup
  obtain ⟨hhead, -⟩ := List.nodup_cons.mp hnodup.of_append_right
  obtain ⟨front, hfront⟩ : ∃ front, (common.merge request).rules =
      front ++ (common.merge request).setvars := ⟨_, rfl⟩
  refine ⟨front ++ before, after, ?_, fun d hd heq => hhead (heq ▸ List.mem_map_of_mem hd)⟩
  rw [hfront, hsplit, List.append_assoc]

/-- A variable that a rule of the request names holds what a rule of the request takes, unless a
later rule for it is in a slot that the request does not use. -/
theorem holdsFrom_request (hall : (common.merge request).Succeeds r)
    {before after : List (CaptureSlot × Capture)} {slot : CaptureSlot} {c : Capture}
    (hsplit : (common.merge request).slotted = before ++ (slot, c) :: after)
    (hslot : slot ∈ request.slotted.map (·.1))
    (hafter : ∀ d ∈ after, d.2.target = c.target → d.1 ∈ request.slotted.map (·.1)) :
    HoldsFrom request.rules r ((common.merge request).run r s).1 c.target := by
  -- The last rule for the variable is the one in question or one behind it.
  obtain ⟨between, e, rest, hfrom, htarget, hrest⟩ :=
    exists_last (l := (slot, c) :: after) (p := (·.2.target = c.target))
      ⟨(slot, c), List.mem_cons_self, rfl⟩
  have hmem : e ∈ (slot, c) :: after := hfrom ▸ List.mem_append_right _ List.mem_cons_self
  have hmerged : e ∈ (common.merge request).slotted := hsplit ▸ List.mem_append_right _ hmem
  have hused : e.1 ∈ request.slotted.map (·.1) := by
    rcases List.mem_cons.mp hmem with rfl | hlater
    · exact hslot
    · exact hafter e hlater htarget
  have hrules : (common.merge request).rules =
      (before ++ between).map (·.2) ++ e.2 :: rest.map (·.2) := by
    refine rules_of_slotted ?_
    rw [hsplit, hfrom, List.append_assoc]
  have hlast : ∀ d ∈ rest.map (·.2), d.target ≠ e.2.target := by
    intro d hd heq
    obtain ⟨d', hd', rfl⟩ := List.mem_map.mp hd
    exact hrest d' hd' (heq.trans htarget)
  obtain ⟨v, hv, hholds⟩ := get?_run_of_last hall hrules hlast
  exact ⟨e.2, mem_rules_of_used hmerged hused, htarget, v, hv, htarget ▸ hholds⟩

/-- **Whose captures win.**  Captures are merged slot by slot, and the rule that is left for a slot
is the last one of the request, if it uses the slot, and of the common ones otherwise.  If no rule
fails, a variable holds what the last rule for it takes.  In the short notation this is the rule of
the request.  For any other rule of the request it is a rule of the request, too, unless a later
rule for the variable is in a slot that only common captures use. -/
theorem run_merge (common request : CaptureSection) :
    let merged := common.merge request
    (∀ captures : CaptureSection, captures.slotted.map (·.2) = captures.rules) ∧
    merged.slotted.map (·.1) =
      keysByRank CaptureSlot.rank [0, 1, 2, 3, 4] (common.slotted ++ request.slotted) ∧
    (∀ e ∈ merged.slotted,
      (lastValue e.1 request.slotted).or (lastValue e.1 common.slotted) = some e.2) ∧
    (∀ slot c, lastValue slot request.slotted = some c → (slot, c) ∈ merged.slotted) ∧
    ∀ r s, merged.Succeeds r →
      let store := (merged.run r s).1
      (∀ before c after, merged.rules = before ++ c :: after →
        (∀ d ∈ after, d.target ≠ c.target) →
        ∃ v, c.extract r = .ok v ∧ store.get? c.target = some v) ∧
      (∀ target c, lastValue (.shorthand target) request.slotted = some c →
        ∃ v, c.extract r = .ok v ∧ store.get? target = some v) ∧
      ∀ before slot c after, merged.slotted = before ++ (slot, c) :: after →
        slot ∈ request.slotted.map (·.1) →
        (∀ d ∈ after, d.2.target = c.target → d.1 ∈ request.slotted.map (·.1)) →
        HoldsFrom request.rules r store c.target := by
  intro merged
  refine ⟨map_snd_slotted, slots_merge common request, fun e he => rule_merge he,
    fun slot c hc => mem_slotted_merge hc, fun r s hall => ?_⟩
  refine ⟨fun before c after hrules hlast => get?_run_of_last hall hrules hlast,
    fun target c hc => ?_,
    fun before slot c after hsplit hslot hafter => holdsFrom_request hall hsplit hslot hafter⟩
  obtain ⟨before, after, hrules, hlast⟩ := exists_shorthand_last (mem_slotted_merge hc)
  obtain ⟨-, rfl⟩ := mem_setvars_of_mem_slotted (mem_of_lastValue hc)
  exact get?_run_of_last hall hrules hlast

/-- A response with two headers. -/
def tokenResponse : Response :=
  .answered (.ofLines ⟨200, Nat.le_of_ble_eq_true rfl, Nat.le_of_ble_eq_true rfl⟩ "HTTP/1.1"
    [("x-id", "7"), ("x-token", "old")] "new") 0

/-- The body is captured as a token, and a header as an identity in the short notation. -/
def tokenCommon : CaptureSection :=
  { body := some "token", setvars := [⟨"id", .header "x-id"⟩] }

/-- The token is taken from a header, and the status is captured as identity. -/
def tokenRequest : CaptureSection :=
  { headers := [("X-Token", "token")], setvars := [⟨"id", .status⟩] }

/-- Both variables go by the rules of the request: the one for the token stands behind the common
one, and the one for the identity has taken its place. -/
theorem run_merge_token : (tokenCommon.merge tokenRequest).Succeeds tokenResponse ∧
    let store := ((tokenCommon.merge tokenRequest).run tokenResponse .empty).1
    HoldsFrom tokenRequest.rules tokenResponse store "token" ∧
      ∃ v, Capture.extract ⟨"id", .status⟩ tokenResponse = .ok v ∧ store.get? "id" = some v := by
  have hall : (tokenCommon.merge tokenRequest).Succeeds tokenResponse := by
    have hrules : (tokenCommon.merge tokenRequest).rules =
        [⟨"token", .body⟩, ⟨"token", .header "x-token"⟩, ⟨"id", .status⟩] := rfl
    rw [Succeeds, hrules]
    simp only [List.forall_mem_cons]
    exact ⟨⟨_, rfl⟩, ⟨_, rfl⟩, ⟨_, rfl⟩, nofun⟩
  obtain ⟨-, -, -, -, hrun⟩ := run_merge tokenCommon tokenRequest
  obtain ⟨-, hshort, hrequest⟩ := hrun tokenResponse .empty hall
  refine ⟨hall, ?_, hshort "id" ⟨"id", .status⟩ rfl⟩
  exact hrequest [_] (.place (.header "x-token")) ⟨"token", .header "x-token"⟩ [_] rfl
    (by decide) (by decide)

/-- A request that captures the body as a token. -/
def bodyRequest : CaptureSection :=
  { body := some "token" }

/-- A common capture of the token in the short notation, which stands later. -/
def headerCommon : CaptureSection :=
  { setvars := [⟨"token", .header "x-token"⟩] }

/-- A request that captures a header twice, into two variables. -/
def twiceRequest : CaptureSection :=
  { headers := [("X-Token", "token"), ("x-token", "other")] }

/-- A request does not win over a common capture that stands later, and a rule of a request does not
count if a later one takes its slot. -/
theorem not_holdsFrom_request :
    (headerCommon.merge bodyRequest).Succeeds tokenResponse ∧
    (¬ ∀ c ∈ bodyRequest.rules, HoldsFrom bodyRequest.rules tokenResponse
      ((headerCommon.merge bodyRequest).run tokenResponse .empty).1 c.target) ∧
    (CaptureSection.merge {} twiceRequest).Succeeds tokenResponse ∧
    ¬ ∀ c ∈ twiceRequest.rules, HoldsFrom twiceRequest.rules tokenResponse
      ((CaptureSection.merge {} twiceRequest).run tokenResponse .empty).1 c.target := by
  have hbody : (headerCommon.merge bodyRequest).rules =
      [⟨"token", .body⟩, ⟨"token", .header "x-token"⟩] := rfl
  have htwice : (CaptureSection.merge {} twiceRequest).rules = [⟨"other", .header "x-token"⟩] := rfl
  refine ⟨?_, fun h => ?_, ?_, fun h => ?_⟩
  · rw [Succeeds, hbody]
    simp only [List.forall_mem_cons]
    exact ⟨⟨_, rfl⟩, ⟨_, rfl⟩, nofun⟩
  · obtain ⟨c, hc, -, v, hv, hholds⟩ := h ⟨"token", .body⟩ List.mem_cons_self
    obtain rfl := List.mem_singleton.mp hc
    have hnew : v = .string "new" := (Except.ok.inj hv).symm
    have hold : v = .string "old" := (Option.some.inj hholds).symm
    exact absurd (hnew.symm.trans hold) (by simp)
  · rw [Succeeds, htwice]
    simp only [List.forall_mem_cons]
    exact ⟨⟨_, rfl⟩, nofun⟩
  · obtain ⟨_, -, -, _, -, hholds⟩ := h ⟨"token", .header "x-token"⟩ List.mem_cons_self
    cases hholds

end CaptureSection

end RequestSuite
