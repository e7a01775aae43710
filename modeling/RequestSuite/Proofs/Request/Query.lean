import RequestSuite.Request.Basic

/-!
# Reading a query back

A query is read by cutting it at every `&`, each piece at its first `=`, and decoding both sides.
Neither sign can come from a name or a value that was percent-encoded, so a query whose parameters
are all encoded reads back as their names and the texts of their values (`Request.query_decoded`).
-/

namespace RequestSuite

/-! ## Reading -/

/-- The name and the value of a piece of a query, which it has an equals sign between. -/
def readPair? (piece : List Char) : Option (String × String) :=
  match piece.dropWhile (· ≠ '=') with
  | '=' :: value => do
    return (← Text.decodeComponent? (piece.takeWhile (· ≠ '=')), ← Text.decodeComponent? value)
  | _ => none

/-- The names and values of a query, in their order; none for the empty query. -/
def readQuery? (query : String) : Option (List (String × String)) :=
  if query = "" then some [] else (query.toList.splitOn '&').mapM readPair?

/-- The signs that a query consists of. -/
def IsQueryChar (c : Char) : Prop :=
  c.isAlphanum = true ∨ c ∈ ['-', '_', '.', '~', '%', '=', '&']

/-! ## One parameter -/

/-- A parameter as a part of a query, name and value encoded. -/
def pairChars (name value : String) : List Char :=
  (Text.encodeComponent name).toList ++ '=' :: (Text.encodeComponent value).toList

theorem toList_paramText {p : Param} (h : p.encode = true) :
    (Request.paramText false p).toList = pairChars p.name p.value.text := by
  rw [Request.paramText, h]
  simp [pairChars]

theorem ne_of_mem_encodeComponent {s : String} {c : Char}
    (h : c ∈ (Text.encodeComponent s).toList) : c ≠ '=' ∧ c ≠ '&' := by
  rcases Text.isUnreserved_of_mem_encodeComponent h with hc | rfl
  · refine ⟨?_, ?_⟩
    · rintro rfl
      cases hc
    · rintro rfl
      cases hc
  · decide

theorem readPair?_pairChars (name value : String) :
    readPair? (pairChars name value) = some (name, value) := by
  have hname : ∀ c ∈ (Text.encodeComponent name).toList, decide (c ≠ '=') = true :=
    fun c hc => decide_eq_true (ne_of_mem_encodeComponent hc).1
  have hdrop : (pairChars name value).dropWhile (· ≠ '=') =
      '=' :: (Text.encodeComponent value).toList := by
    rw [pairChars, List.dropWhile_append_of_pos hname]
    rfl
  have htake : (pairChars name value).takeWhile (· ≠ '=') = (Text.encodeComponent name).toList := by
    rw [pairChars, List.takeWhile_append_of_pos hname]
    exact List.append_nil _
  rw [readPair?, hdrop, htake]
  simp only [Text.decodeComponent?_encodeComponent]
  rfl

theorem not_mem_pairChars (name value : String) : '&' ∉ pairChars name value := by
  intro h
  rcases List.mem_append.mp h with h | h
  · exact (ne_of_mem_encodeComponent h).2 rfl
  · rcases List.mem_cons.mp h with h | h
    · cases h
    · exact (ne_of_mem_encodeComponent h).2 rfl

theorem isQueryChar_of_mem_encodeComponent {s : String} {c : Char}
    (h : c ∈ (Text.encodeComponent s).toList) : IsQueryChar c := by
  rcases Text.isUnreserved_of_mem_encodeComponent h with hc | rfl
  · simp only [Text.isUnreserved, Bool.or_eq_true, beq_iff_eq] at hc
    rcases hc with (((hc | rfl) | rfl) | rfl) | rfl
    · exact .inl hc
    all_goals exact .inr (by simp)
  · exact .inr (by simp)

theorem isQueryChar_of_mem_pairChars {name value : String} {c : Char}
    (h : c ∈ pairChars name value) : IsQueryChar c := by
  rcases List.mem_append.mp h with h | h
  · exact isQueryChar_of_mem_encodeComponent h
  · rcases List.mem_cons.mp h with rfl | h
    · exact .inr (by simp)
    · exact isQueryChar_of_mem_encodeComponent h

/-! ## The whole query -/

namespace Request

variable {r : Request}

/-- A request whose parameters are all percent-encoded. -/
structure Encoded (r : Request) : Prop where
  encode : ∀ p ∈ r.params, p.encode = true
  rawParams : r.options.rawParams = false

/-- The pieces of the query of a request. -/
def pieces (r : Request) : List (List Char) :=
  r.params.map fun p => pairChars p.name p.value.text

theorem Encoded.toList_query (h : r.Encoded) : r.query.toList = ['&'].intercalate r.pieces := by
  have hpieces : (r.params.map (paramText false)).map String.toList = r.pieces := by
    rw [List.map_map, pieces]
    exact List.map_congr_left fun p hp => toList_paramText (h.encode p hp)
  rw [query, h.rawParams, String.toList_intercalate, hpieces]
  rfl

theorem mapM_readPair? (params : List Param) :
    (params.map fun p => pairChars p.name p.value.text).mapM readPair? =
      some (params.map fun p => (p.name, p.value.text)) := by
  induction params with
  | nil => rfl
  | cons p rest ih =>
    rw [List.map_cons, List.mapM_cons, readPair?_pairChars, ih]
    rfl

/-- Cutting a query at its signs gives back its pieces. -/
theorem Encoded.splitOn_query (h : r.Encoded) (hne : r.params ≠ []) :
    r.query.toList.splitOn '&' = r.pieces := by
  rw [h.toList_query]
  refine List.splitOn_intercalate '&' (fun piece hpiece => ?_) fun hnil => ?_
  · obtain ⟨p, -, rfl⟩ := List.mem_map.mp hpiece
    exact not_mem_pairChars p.name p.value.text
  · exact hne (List.map_eq_nil_iff.mp hnil)

/-- A piece is not empty, for it has an equals sign. -/
theorem Encoded.query_eq_empty_iff (h : r.Encoded) : r.query = "" ↔ r.params = [] := by
  constructor
  · intro hempty
    by_cases hparams : r.params = []
    · exact hparams
    · have hsplit := h.splitOn_query hparams
      rw [hempty] at hsplit
      have hmem : [] ∈ r.pieces := hsplit ▸ List.mem_singleton_self []
      obtain ⟨p, -, hp⟩ := List.mem_map.mp hmem
      exact absurd (List.append_eq_nil_iff.mp hp).2 nofun
  · intro hnil
    rw [query, hnil]
    rfl

theorem isQueryChar_of_mem_intercalate {pieces : List (List Char)} {c : Char}
    (hpieces : ∀ piece ∈ pieces, ∀ d ∈ piece, IsQueryChar d)
    (h : c ∈ ['&'].intercalate pieces) : IsQueryChar c := by
  induction pieces with
  | nil => cases h
  | cons piece rest ih =>
    obtain ⟨hpiece, hrest⟩ := List.forall_mem_cons.mp hpieces
    cases rest with
    | nil =>
      rw [List.intercalate_singleton] at h
      exact hpiece c h
    | cons piece' rest =>
      rw [List.intercalate_cons_cons, List.append_assoc] at h
      rcases List.mem_append.mp h with h | h
      · exact hpiece c h
      · rcases List.mem_cons.mp h with rfl | h
        · exact .inr (by simp)
        · exact ih hrest h

/-- **A query reads back.**  If all parameters are percent-encoded, reading the query gives their
names and the texts of their values, in order and with repetitions.  Only the query without
parameters is empty, and all its signs are letters, digits and a few marks. -/
theorem query_decoded (hencode : ∀ p ∈ r.params, p.encode = true)
    (hraw : r.options.rawParams = false) :
    readQuery? r.query = some (r.params.map fun p => (p.name, p.value.text)) ∧
      (r.query = "" ↔ r.params = []) ∧ ∀ c ∈ r.query.toList, IsQueryChar c := by
  have h : r.Encoded := ⟨hencode, hraw⟩
  refine ⟨?_, h.query_eq_empty_iff, fun c hc => ?_⟩
  · rw [readQuery?]
    split
    · rename_i hempty
      rw [h.query_eq_empty_iff.mp hempty]
      rfl
    · rename_i hne
      have hparams : r.params ≠ [] := fun hnil => hne (h.query_eq_empty_iff.mpr hnil)
      rw [h.splitOn_query hparams]
      exact mapM_readPair? r.params
  · rw [h.toList_query] at hc
    refine isQueryChar_of_mem_intercalate (fun piece hpiece d hd => ?_) hc
    obtain ⟨p, -, rfl⟩ := List.mem_map.mp hpiece
    exact isQueryChar_of_mem_pairChars hd

/-- A request whose parameters hold the signs of a query, letters of several bytes and nothing. -/
def oddRequest : Request :=
  { name := "odd"
    method := "GET"
    baseUrl := none
    url := "http://localhost/"
    headers := []
    params := [⟨"a&b=c", .string "é +%20", true⟩, ⟨"", .array [.number (.int 1), .null], true⟩,
      ⟨"a&b=c", .string "", true⟩]
    body := none
    options := .standard
    tests := {}
    captures := {} }

theorem query_decoded_odd : (∀ p ∈ oddRequest.params, p.encode = true) ∧
    oddRequest.options.rawParams = false ∧
    readQuery? oddRequest.query = some [("a&b=c", "é +%20"), ("", "[1,null]"), ("a&b=c", "")] ∧
    oddRequest.query ≠ "" ∧ ∀ c ∈ oddRequest.query.toList, IsQueryChar c := by
  have hencode : ∀ p ∈ oddRequest.params, p.encode = true := by simp [oddRequest]
  obtain ⟨hread, hempty, hchars⟩ := query_decoded hencode rfl
  exact ⟨hencode, rfl, hread, fun h => absurd (hempty.mp h) nofun, hchars⟩

end Request

end RequestSuite
