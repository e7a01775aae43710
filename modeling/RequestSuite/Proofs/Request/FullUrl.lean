import Mathlib.Data.List.DropRight
import RequestSuite.Proofs.Request.Query

/-!
# Parameters in the whole address

The parameters of a request are put at the end of its address, after a question mark or, if there is
one already, after an ampersand.  `Request.fullUrl_query` says what this comes to by the syntax of
addresses: without a fragment the parameters end the query, and a server reads all of them back.
With a fragment they end the fragment, and the query is what it was before.
-/

namespace RequestSuite

/-! ## The query of an address -/

/-- What stands after the first question mark. -/
def afterMark? (s : List Char) : Option (List Char) :=
  match s.dropWhile (· ≠ '?') with
  | '?' :: rest => some rest
  | _ => none

/-- The query of an address: what stands after its first question mark, up to the fragment. -/
def queryPart? (address : List Char) : Option (List Char) :=
  afterMark? (address.takeWhile (· ≠ '#'))

variable {s t q : List Char}

theorem afterMark?_append_of_not_mem (h : '?' ∉ s) (t : List Char) :
    afterMark? (s ++ '?' :: t) = some t := by
  have hs : ∀ c ∈ s, decide (c ≠ '?') = true := by
    intro c hc
    exact decide_eq_true (ne_of_mem_of_not_mem hc h)
  rw [afterMark?, List.dropWhile_append_of_pos hs]
  rfl

theorem exists_afterMark?_of_mem (h : '?' ∈ s) :
    ∃ rest, afterMark? s = some rest ∧ ∀ t, afterMark? (s ++ t) = some (rest ++ t) := by
  obtain ⟨before, rest, rfl, hbefore⟩ := List.eq_append_cons_of_mem h
  refine ⟨rest, afterMark?_append_of_not_mem hbefore rest, fun t => ?_⟩
  rw [List.append_assoc, List.cons_append]
  exact afterMark?_append_of_not_mem hbefore (rest ++ t)

theorem afterMark?_of_not_mem (h : '?' ∉ s) : afterMark? s = none := by
  have hs : s.dropWhile (· ≠ '?') = [] := by
    refine List.dropWhile_eq_nil_iff.mpr fun c hc => ?_
    exact decide_eq_true (ne_of_mem_of_not_mem hc h)
  rw [afterMark?, hs]

/-- What follows in the fragment of an address is no part of its query. -/
theorem queryPart?_append_of_mem (h : '#' ∈ s) (t : List Char) :
    queryPart? (s ++ t) = queryPart? s := by
  obtain ⟨before, rest, rfl, hbefore⟩ := List.eq_append_cons_of_mem h
  have hall : ∀ c ∈ before, decide (c ≠ '#') = true := by
    intro c hc
    exact decide_eq_true (ne_of_mem_of_not_mem hc hbefore)
  rw [queryPart?, queryPart?, List.append_assoc, List.takeWhile_append_of_pos hall,
    List.takeWhile_append_of_pos hall]
  rfl

theorem queryPart?_of_not_mem (h : '#' ∉ s) : queryPart? s = afterMark? s := by
  have hall : s.takeWhile (· ≠ '#') = s := by
    refine List.takeWhile_eq_self_iff.mpr fun c hc => ?_
    exact decide_eq_true (ne_of_mem_of_not_mem hc h)
  rw [queryPart?, hall]

namespace Request

variable {r : Request}

/-! ## The address and the sign after it -/

/-- What stands before the parameters: the address of a request itself or, if that begins with a
slash and there is a common start, this start without the slashes at its end, and then the
address. -/
inductive Begins (r : Request) : List Char → Prop
  | itself (h : r.baseUrl = none ∨ r.url.toList.head? ≠ some '/') : Begins r r.url.toList
  | joined {base : String} {stem : List Char} {slashes : Nat} (hbase : r.baseUrl = some base)
    (hurl : r.url.toList.head? = some '/')
    (hstem : base.toList = stem ++ List.replicate slashes '/') (hend : stem.getLast? ≠ some '/') :
    Begins r (stem ++ r.url.toList)

/-- Only slashes are cut off, and all that there are. -/
theorem exists_withoutSlashes (s : String) : ∃ slashes,
    s.toList = (withoutSlashes s).toList ++ List.replicate slashes '/' ∧
      (withoutSlashes s).toList.getLast? ≠ some '/' := by
  have hkept : (withoutSlashes s).toList = s.toList.rdropWhile (· == '/') := by
    rw [withoutSlashes, String.toList_ofList]
    rfl
  have hslashes : ∀ c ∈ s.toList.rtakeWhile (· == '/'), c = '/' := by
    intro c hc
    simpa using List.mem_rtakeWhile_imp hc
  refine ⟨(s.toList.rtakeWhile (· == '/')).length, ?_, fun hlast => ?_⟩
  · rw [hkept, ← List.eq_replicate_of_mem hslashes, List.rdropWhile_append_rtakeWhile]
  · have hfirst := List.head?_dropWhile_not (· == '/') s.toList.reverse
    rw [hkept, List.rdropWhile, List.getLast?_reverse] at hlast
    rw [hlast] at hfirst
    cases hfirst

theorem begins_address (r : Request) : r.Begins r.address.toList := by
  unfold address
  split
  · rename_i base hbase
    split
    · rename_i hurl
      obtain ⟨slashes, hstem, hend⟩ := exists_withoutSlashes base
      rw [String.toList_append]
      exact .joined hbase hurl hstem hend
    · rename_i hurl
      exact .itself (.inr hurl)
  · rename_i hbase
    exact .itself (.inl hbase)

/-- The sign between the address and the parameters. -/
def sign (r : Request) : Char :=
  if '?' ∈ r.address.toList then '&' else '?'

theorem toList_fullUrl (h : r.query ≠ "") :
    r.fullUrl.toList = r.address.toList ++ r.sign :: r.query.toList := by
  rw [fullUrl]
  simp only [if_neg h, sign, List.contains_iff_mem]
  split
  · simp
  · simp

/-! ## The query of the whole address -/

/-- Without a fragment the parameters follow the query that the address has, if it has one. -/
theorem queryPart?_fullUrl (h : r.query ≠ "") (hquery : '#' ∉ r.query.toList)
    (hmark : '#' ∉ r.address.toList) : queryPart? r.fullUrl.toList =
      some (((queryPart? r.address.toList).elim [] fun old => old ++ ['&']) ++ r.query.toList) := by
  have hsign : '#' ≠ r.sign := by
    unfold sign
    split
    · decide
    · decide
  have hwhole : '#' ∉ r.address.toList ++ r.sign :: r.query.toList := by
    simp only [List.mem_append, List.mem_cons, not_or]
    exact ⟨hmark, hsign, hquery⟩
  rw [toList_fullUrl h, queryPart?_of_not_mem hwhole, queryPart?_of_not_mem hmark, sign]
  split
  · rename_i hold
    obtain ⟨old, hold, happend⟩ := exists_afterMark?_of_mem hold
    rw [happend, hold]
    simp
  · rename_i hnone
    rw [afterMark?_append_of_not_mem hnone, afterMark?_of_not_mem hnone]
    rfl

/-- With a fragment the query is that of the address alone. -/
theorem queryPart?_fullUrl_of_fragment (h : r.query ≠ "") (hmark : '#' ∈ r.address.toList) :
    queryPart? r.fullUrl.toList = queryPart? r.address.toList := by
  rw [toList_fullUrl h, queryPart?_append_of_mem hmark]

/-- A query whose last pieces are the parameters reads back as them. -/
theorem Encoded.exists_pieces (h : r.Encoded) (hne : r.params ≠ []) (old : Option (List Char)) :
    ∃ kept sent, ((old.elim [] fun q => q ++ ['&']) ++ r.query.toList).splitOn '&' = kept ++ sent ∧
      sent.mapM readPair? = some (r.params.map fun p => (p.name, p.value.text)) := by
  cases old with
  | none =>
    refine ⟨[], r.pieces, ?_, mapM_readPair? r.params⟩
    exact h.splitOn_query hne
  | some q =>
    refine ⟨q.splitOn '&', r.pieces, ?_, mapM_readPair? r.params⟩
    rw [← h.splitOn_query hne, Option.elim_some, List.append_assoc, List.singleton_append]
    exact List.splitOnP_append_cons q r.query.toList rfl

/-- No encoded parameter can start a fragment. -/
theorem Encoded.not_mem_query (h : r.Encoded) : '#' ∉ r.query.toList := by
  intro hmem
  rw [h.toList_query] at hmem
  have hchar : IsQueryChar '#' := by
    refine isQueryChar_of_mem_intercalate (fun piece hpiece d hd => ?_) hmem
    obtain ⟨p, -, rfl⟩ := List.mem_map.mp hpiece
    exact isQueryChar_of_mem_pairChars hd
  rcases hchar with hletter | hmark
  · exact absurd hletter (by decide)
  · exact absurd hmark (by decide)

/-- **The parameters in the whole address.**  If all parameters are percent-encoded, they stand at
the end of the whole address, with a sign between them and the address.  They end the query just if
the address has no fragment, or has a query that ends with them already.  Without a fragment reading
the query gives them back, after the pieces that the address has in its query.  With a fragment the
query is that of the address alone. -/
theorem fullUrl_query (hparams : r.params ≠ []) (hencode : ∀ p ∈ r.params, p.encode = true)
    (hraw : r.options.rawParams = false) :
    r.Begins r.address.toList ∧
      (∃ sign, (sign = '?' ∨ sign = '&') ∧
        r.fullUrl.toList = r.address.toList ++ sign :: r.query.toList) ∧
      ((∃ before, queryPart? r.fullUrl.toList = some (before ++ r.query.toList)) ↔
        '#' ∉ r.address.toList ∨
          ∃ before, queryPart? r.address.toList = some (before ++ r.query.toList)) ∧
      ('#' ∉ r.address.toList → ∃ query kept sent, queryPart? r.fullUrl.toList = some query ∧
        query.splitOn '&' = kept ++ sent ∧
        sent.mapM readPair? = some (r.params.map fun p => (p.name, p.value.text))) ∧
      ('#' ∈ r.address.toList → queryPart? r.fullUrl.toList = queryPart? r.address.toList) := by
  have h : r.Encoded := ⟨hencode, hraw⟩
  have hne : r.query ≠ "" := fun hempty => hparams (h.query_eq_empty_iff.mp hempty)
  refine ⟨r.begins_address, ⟨r.sign, ?_, toList_fullUrl hne⟩, ⟨?_, ?_⟩, ?_,
    queryPart?_fullUrl_of_fragment hne⟩
  · unfold sign
    split
    · exact .inr rfl
    · exact .inl rfl
  · intro hends
    by_cases hmark : '#' ∈ r.address.toList
    · rw [queryPart?_fullUrl_of_fragment hne hmark] at hends
      exact .inr hends
    · exact .inl hmark
  · intro hends
    by_cases hmark : '#' ∈ r.address.toList
    · rw [queryPart?_fullUrl_of_fragment hne hmark]
      exact hends.resolve_left (not_not_intro hmark)
    · exact ⟨_, queryPart?_fullUrl hne h.not_mem_query hmark⟩
  · intro hmark
    obtain ⟨kept, sent, hsplit, hread⟩ := h.exists_pieces hparams (queryPart? r.address.toList)
    exact ⟨_, kept, sent, queryPart?_fullUrl hne h.not_mem_query hmark, hsplit, hread⟩

/-- A request with a parameter and with an address on a common start. -/
def listRequest (url : String) : Request :=
  { name := "list"
    method := "GET"
    baseUrl := some "http://localhost//"
    url := url
    headers := []
    params := [⟨"q", .string "a b", true⟩]
    body := none
    options := .standard
    tests := {}
    captures := {} }

/-- The parameter ends the query after another one, and does not end it before a fragment. -/
theorem fullUrl_query_list : (∀ url, (listRequest url).params ≠ [] ∧
      (∀ p ∈ (listRequest url).params, p.encode = true) ∧
      (listRequest url).options.rawParams = false) ∧
    (∃ before, queryPart? (listRequest "/list?page=1").fullUrl.toList =
      some (before ++ (listRequest "/list?page=1").query.toList)) ∧
    ¬ ∃ before, queryPart? (listRequest "/list?page=1#top").fullUrl.toList =
      some (before ++ (listRequest "/list?page=1#top").query.toList) := by
  have hencode (url : String) : ∀ p ∈ (listRequest url).params, p.encode = true := by
    simp [listRequest]
  have hparams (url : String) : (listRequest url).params ≠ [] := List.cons_ne_nil _ _
  refine ⟨fun url => ⟨hparams url, hencode url, rfl⟩, ?_, fun hends => ?_⟩
  · obtain ⟨-, -, hiff, -⟩ := fullUrl_query (hparams "/list?page=1") (hencode _) rfl
    exact hiff.mpr (.inl (by decide))
  · obtain ⟨-, -, hiff, -⟩ := fullUrl_query (hparams "/list?page=1#top") (hencode _) rfl
    rcases hiff.mp hends with hmark | ⟨before, hquery⟩
    · exact absurd hmark (by decide)
    · have hpage : queryPart? (listRequest "/list?page=1#top").address.toList =
          some "page=1".toList := by decide
      have hlong : (listRequest "/list?page=1#top").query.toList.length = 7 := by decide
      rw [hpage] at hquery
      have hlength := congrArg List.length (Option.some.inj hquery)
      rw [List.length_append, hlong] at hlength
      have hshort : "page=1".toList.length = 6 := by decide
      omega

/-- The parameters of a request need not be in the query of its whole address: here they are in the
fragment, and there is no query. -/
theorem not_fullUrl_query_fragment : ¬ ∀ r : Request, r.params ≠ [] →
    (∀ p ∈ r.params, p.encode = true) → r.options.rawParams = false →
      ∃ before, queryPart? r.fullUrl.toList = some (before ++ r.query.toList) := by
  intro h
  have hencode : ∀ p ∈ (listRequest "/list#top").params, p.encode = true := by simp [listRequest]
  obtain ⟨before, hends⟩ := h (listRequest "/list#top") (List.cons_ne_nil _ _) hencode rfl
  have hnone : queryPart? (listRequest "/list#top").address.toList = none := by decide
  rw [queryPart?_fullUrl_of_fragment (by decide) (by decide), hnone] at hends
  cases hends

end Request

end RequestSuite
