import RequestSuite.Request.Merge

/-!
# Merged parameters

Parameters may be repeated, so they are not merged one by one: where the request uses a name, all
common parameters of this name give way to it, however many there are on either side.
`RequestLayer.merge_params` says this for every name at once, together with the order of what is
left, and that nothing else than the merged list is so.
-/

namespace RequestSuite

/-! ## A list told by its names -/

/-- A part of a list that leaves out no entry of any name is the whole list. -/
theorem eq_of_sublist_of_filter {α κ : Type} [DecidableEq α] [DecidableEq κ] (name : α → κ)
    {part whole : List α} (hpart : part.Sublist whole)
    (hnames : ∀ k, part.filter (name · = k) = whole.filter (name · = k)) : part = whole := by
  have hcount (a : α) : part.count a = whole.count a := by
    have hself : decide (name a = name a) = true := decide_eq_true rfl
    rw [← List.count_filter (p := (name · = name a)) hself, hnames,
      List.count_filter (p := (name · = name a)) hself]
  exact hpart.eq_of_length (List.perm_iff_count.mpr hcount).length_eq

/-! ## What parameters are after merging -/

/-- Whether a list of parameters is what common ones and those of a request come to. -/
structure Param.LaidOver (common request params : List Param) : Prop where
  /-- The parameters of a name are all those of the request, if it uses the name, and all common
  ones otherwise. -/
  named : ∀ name, params.filter (·.name = name) =
    if ∃ p ∈ request, p.name = name then request.filter (·.name = name)
    else common.filter (·.name = name)
  /-- Some common parameters come first, in their order, and then all those of the request. -/
  split : ∃ kept, kept.Sublist common ∧ params = kept ++ request

variable {common request : List Param}

/-- A common parameter gives way just if the request uses its name. -/
theorem gives_way_iff {c : Param} :
    (!request.any fun r => r.name == c.name) = true ↔ ¬ ∃ p ∈ request, p.name = c.name := by
  rw [Bool.not_eq_true', ← Bool.not_eq_true, List.any_eq_true]
  simp only [beq_iff_eq]

theorem filter_eq_nil_of_unused {name : String} (h : ¬ ∃ p ∈ request, p.name = name) :
    request.filter (·.name = name) = [] :=
  List.filter_eq_nil_iff.mpr fun p hp hname => h ⟨p, hp, of_decide_eq_true hname⟩

/-- The common parameters of a name stay together or go together. -/
theorem filter_remaining (name : String) :
    (common.filter fun c => !request.any fun r => r.name == c.name).filter (·.name = name) =
      if ∃ p ∈ request, p.name = name then [] else common.filter (·.name = name) := by
  rw [List.filter_filter]
  split
  · rename_i hused
    refine List.filter_eq_nil_iff.mpr fun c _ hc => ?_
    obtain ⟨hname, hkept⟩ := Bool.and_eq_true_iff.mp hc
    exact gives_way_iff.mp hkept (of_decide_eq_true hname ▸ hused)
  · rename_i hunused
    refine List.filter_congr fun c _ => ?_
    by_cases hname : c.name = name
    · rw [gives_way_iff.mpr (hname ▸ hunused), Bool.and_true]
    · rw [decide_eq_false hname, Bool.false_and]

namespace Param

theorem laidOver_mergeParams (common request : List Param) :
    LaidOver common request (mergeParams common request) where
  named := by
    intro name
    rw [mergeParams, List.filter_append, filter_remaining]
    split
    · rfl
    · rename_i hunused
      rw [filter_eq_nil_of_unused hunused, List.append_nil]
  split := ⟨_, List.filter_sublist, rfl⟩

/-- Among the parameters in front of those of the request, the ones of a name are all or none. -/
theorem LaidOver.filter_kept {kept : List Param} (h : LaidOver common request (kept ++ request))
    (name : String) : kept.filter (·.name = name) =
      if ∃ p ∈ request, p.name = name then [] else common.filter (·.name = name) := by
  have hnamed := h.named name
  rw [List.filter_append] at hnamed
  by_cases hused : ∃ p ∈ request, p.name = name
  · rw [if_pos hused] at hnamed ⊢
    exact List.append_left_eq_self.mp hnamed
  · rw [if_neg hused, filter_eq_nil_of_unused hused, List.append_nil] at hnamed
    rw [if_neg hused, hnamed]

theorem LaidOver.eq_mergeParams {params : List Param} (h : LaidOver common request params) :
    params = mergeParams common request := by
  obtain ⟨kept, hsublist, rfl⟩ := h.split
  rw [mergeParams]
  congr 1
  refine eq_of_sublist_of_filter Param.name ?_ fun name => ?_
  · -- What was kept passes the test of merging, because there is some of its name left.
    have hkept : kept.filter (fun c => !request.any fun r => r.name == c.name) = kept := by
      refine List.filter_eq_self.mpr fun c hc => gives_way_iff.mpr fun hused => ?_
      have hempty := h.filter_kept c.name
      rw [if_pos hused] at hempty
      exact List.filter_eq_nil_iff.mp hempty c hc (decide_eq_true rfl)
    rw [← hkept]
    exact hsublist.filter _
  · rw [h.filter_kept, filter_remaining]

end Param

namespace RequestLayer

/-- **What parameters a merged request has.**  Of each name it has those of the request with their
repetitions, or the common ones if the request does not use the name.  The common ones that are left
come first, and both parts keep their order.  No other list of parameters is like this. -/
theorem merge_params {common : Option CommonLayer} {layer : RequestLayer} {r : Request}
    (h : layer.merge common = .ok r) :
    Param.LaidOver (sharedLayer common).params layer.params r.params ∧
      ∀ params, Param.LaidOver (sharedLayer common).params layer.params params →
        params = r.params := by
  obtain ⟨method, url, -, -, rfl⟩ := merge_eq_ok_iff.mp h
  exact ⟨Param.laidOver_mergeParams _ _, fun params hparams => hparams.eq_mergeParams⟩

/-- Two pages in common, and a name that differs from theirs in one letter only. -/
def pagesCommon : CommonLayer :=
  { method := some "GET"
    params := [⟨"page", .number (.int 1), true⟩, ⟨"Page", .string "x", true⟩,
      ⟨"page", .number (.int 2), true⟩, ⟨"tag", .string "a b", false⟩] }

/-- A request for three other pages, two of them the same. -/
def pagesLayer : RequestLayer :=
  { name := "pages"
    url := some "http://host/"
    params := [⟨"page", .number (.int 7), true⟩, ⟨"to", .null, true⟩,
      ⟨"page", .number (.int 7), true⟩, ⟨"page", .string "8", false⟩] }

/-- Both common pages are gone, and the two equal pages of the request are both there. -/
theorem merge_params_pages : ∃ r, pagesLayer.merge (some pagesCommon) = .ok r ∧
    r.params = [⟨"Page", .string "x", true⟩, ⟨"tag", .string "a b", false⟩,
      ⟨"page", .number (.int 7), true⟩, ⟨"to", .null, true⟩,
      ⟨"page", .number (.int 7), true⟩, ⟨"page", .string "8", false⟩] ∧
    r.params.filter (·.name = "page") = pagesLayer.params.filter (·.name = "page") := by
  have hmerge : pagesLayer.merge (some pagesCommon) =
      .ok (pagesLayer.completed pagesCommon "GET" "http://host/") := rfl
  obtain ⟨hlaid, -⟩ := merge_params hmerge
  exact ⟨_, hmerge, rfl, hlaid.named "page"⟩

end RequestLayer

end RequestSuite
