import RequestSuite.Http.Outgoing
import RequestSuite.Proofs.Request.Named
import RequestSuite.Request.Resolve

/-!
# Which requests can be sent, and as what

A request is fit to be sent if its address is a URL and all its headers may be sent.  What a URL is
depends on the reader of URLs, about which nothing is assumed.  The headers of a request that is fit
are written into a table one after the other, and none is lost there, because merging leaves
distinct names in lower case and filling in changes no name.  `Outgoing.ofRequest_merged` says what
is sent for a merged request and which merged requests are refused.
-/

namespace RequestSuite

namespace Outgoing

/-! ## Headers that may be sent -/

/-- Whether a header may be sent. -/
def IsFit (header : String × Value) : Prop :=
  isHeaderName header.1 = true ∧ isHeaderValue header.2.text = true

instance : DecidablePred IsFit := fun _ => inferInstanceAs (Decidable (_ ∧ _))

/-- Headers as they are sent, with the texts of their values. -/
def texts (headers : List (String × Value)) : Table String :=
  headers.map fun h => (h.1, h.2.text)

theorem not_isFit_iff {header : String × Value} : ¬ IsFit header ↔
    isHeaderName header.1 = false ∨ isHeaderValue header.2.text = false := by
  rw [IsFit, Classical.not_and_iff_not_or_not, Bool.not_eq_true, Bool.not_eq_true]

section

variable {t : Table String} {headers : List (String × Value)}

theorem addHeader_of_isFit {header : String × Value} (h : IsFit header) :
    addHeader t header = .ok (t.insert (Text.lower header.1) header.2.text) := by
  obtain ⟨hname, hvalue⟩ := h
  simp [addHeader, hname, hvalue]

theorem exists_addHeader_eq_error {header : String × Value} (h : ¬ IsFit header) :
    ∃ f, addHeader t header = .error f := by
  rcases not_isFit_iff.mp h with hname | hvalue
  · exact ⟨_, by simp only [addHeader, hname]; rfl⟩
  · rcases hname : isHeaderName header.1 with _ | _
    · exact ⟨_, by simp only [addHeader, hname]; rfl⟩
    · exact ⟨_, by simp only [addHeader, hname, hvalue]; rfl⟩

/-- Headers that may be sent are all written into the table. -/
theorem foldlM_addHeader_of_isFit (h : ∀ e ∈ headers, IsFit e) :
    headers.foldlM addHeader t =
      .ok (t.insertAll (headers.map fun e => (Text.lower e.1, e.2.text))) := by
  induction headers generalizing t with
  | nil => rfl
  | cons header rest ih =>
    obtain ⟨hheader, hrest⟩ := List.forall_mem_cons.mp h
    rw [List.foldlM_cons, addHeader_of_isFit hheader]
    exact ih hrest

/-- One header that may not be sent is enough to refuse all of them. -/
theorem exists_foldlM_addHeader_eq_error (h : ∃ e ∈ headers, ¬ IsFit e) :
    ∃ f, headers.foldlM addHeader t = .error f := by
  induction headers generalizing t with
  | nil =>
    obtain ⟨e, he, -⟩ := h
    cases he
  | cons header rest ih =>
    rw [List.foldlM_cons]
    by_cases hheader : IsFit header
    · rw [addHeader_of_isFit hheader]
      obtain ⟨e, he, hunfit⟩ := h
      rcases List.mem_cons.mp he with rfl | he
      · exact absurd hheader hunfit
      · exact ih ⟨e, he, hunfit⟩
    · obtain ⟨f, hf⟩ := exists_addHeader_eq_error (t := t) hheader
      exact ⟨f, by rw [hf]; rfl⟩

end

/-! ## What can come of a request -/

/-- A request as it is sent to a URL. -/
def built (auto : Bool) (r : Request) (url : Url) : Outgoing :=
  { method := (Method.ofTextOrGet r.method).1
    url := url
    headers := withContentType auto r.body
      (Table.ofPairs (r.headers.map fun h => (Text.lower h.1, h.2.text)))
    body := bodyText r.body
    follow := r.options.follow
    verifySSL := r.options.verifySSL }

/-- A request has an address that is no URL, or a header that may not be sent, or it is built. -/
theorem ofRequest_cases (readUrl : UrlReader) (auto : Bool) (r : Request) :
    (∃ fault, readUrl (Text.trim r.fullUrl) = .error fault ∧
      ∃ f, ofRequest readUrl auto r = .error f) ∨
    ((∃ h ∈ r.headers, ¬ IsFit h) ∧ ∃ f, ofRequest readUrl auto r = .error f) ∨
    ∃ url, readUrl (Text.trim r.fullUrl) = .ok url ∧ (∀ h ∈ r.headers, IsFit h) ∧
      ofRequest readUrl auto r = .ok (built auto r url) := by
  rcases hurl : readUrl (Text.trim r.fullUrl) with fault | url
  · refine .inl ⟨fault, rfl,
      refused ("invalid URL '" ++ r.fullUrl ++ "': " ++ fault.message), ?_⟩
    simp only [ofRequest, hurl]
    rfl
  · by_cases hheaders : ∃ h ∈ r.headers, ¬ IsFit h
    · obtain ⟨f, hf⟩ := exists_foldlM_addHeader_eq_error (t := []) hheaders
      refine .inr (.inl ⟨hheaders, f, ?_⟩)
      simp only [ofRequest, hurl, hf]
      rfl
    · have hfit : ∀ h ∈ r.headers, IsFit h := by
        intro h hh
        by_contra hunfit
        exact hheaders ⟨h, hh, hunfit⟩
      refine .inr (.inr ⟨url, rfl, hfit, ?_⟩)
      simp only [ofRequest, hurl, foldlM_addHeader_of_isFit hfit]
      rfl

theorem ofRequest_eq_ok_iff {readUrl : UrlReader} {auto : Bool} {r : Request} {o : Outgoing} :
    ofRequest readUrl auto r = .ok o ↔ ∃ url, readUrl (Text.trim r.fullUrl) = .ok url ∧
      (∀ h ∈ r.headers, IsFit h) ∧ o = built auto r url := by
  constructor
  · intro h
    rcases ofRequest_cases readUrl auto r with ⟨-, -, f, hf⟩ | ⟨-, f, hf⟩ |
      ⟨url, hurl, hfit, hbuilt⟩
    · cases hf.symm.trans h
    · cases hf.symm.trans h
    · exact ⟨url, hurl, hfit, Except.ok.inj (h.symm.trans hbuilt)⟩
  · rintro ⟨url, hurl, hfit, rfl⟩
    rcases ofRequest_cases readUrl auto r with ⟨fault, hfault, -⟩ | ⟨⟨h, hh, hunfit⟩, -⟩ |
      ⟨url', hurl', -, hbuilt⟩
    · cases hfault.symm.trans hurl
    · exact absurd (hfit h hh) hunfit
    · cases hurl'.symm.trans hurl
      exact hbuilt

theorem exists_ofRequest_eq_error_iff {readUrl : UrlReader} {auto : Bool} {r : Request} :
    (∃ f, ofRequest readUrl auto r = .error f) ↔
      (∃ fault, readUrl (Text.trim r.fullUrl) = .error fault) ∨ ∃ h ∈ r.headers, ¬ IsFit h := by
  constructor
  · rintro ⟨f, hf⟩
    rcases ofRequest_cases readUrl auto r with ⟨fault, hfault, -⟩ | ⟨hheaders, -⟩ |
      ⟨url, -, -, hbuilt⟩
    · exact .inl ⟨fault, hfault⟩
    · exact .inr hheaders
    · cases hf.symm.trans hbuilt
  · intro h
    rcases ofRequest_cases readUrl auto r with ⟨-, -, hf⟩ | ⟨-, hf⟩ | ⟨url, hurl, hfit, -⟩
    · exact hf
    · exact hf
    · rcases h with ⟨fault, hfault⟩ | ⟨h, hh, hunfit⟩
      · cases hfault.symm.trans hurl
      · exact absurd (hfit h hh) hunfit

/-! ## The headers that are sent -/

/-- Whether the kind of the body is added to the headers of a request. -/
structure AddsKind (auto : Bool) (r : Request) : Prop where
  auto : auto = true
  body : (∃ items, r.body = some (.array items)) ∨ ∃ fields, r.body = some (.object fields)
  /-- No header tells the kind already. -/
  missing : r.header? contentType = none

/-- What merging leaves and filling in keeps: distinct names of headers, in lower case. -/
structure HasLowerNames (r : Request) : Prop where
  nodup : Table.names r.headers |>.Nodup
  lower : ∀ h ∈ r.headers, Text.lower h.1 = h.1

theorem hasLowerNames_resolve {common : Option CommonLayer} {layer : RequestLayer} {m : Request}
    (h : layer.merge common = .ok m) (lookup : Lookup) : HasLowerNames (m.resolve lookup) := by
  obtain ⟨method, url, -, -, rfl⟩ := RequestLayer.merge_eq_ok_iff.mp h
  have hmerged := mergedBy_mergeHeaders (sharedLayer common).headers layer.headers
  refine ⟨?_, fun e he => ?_⟩
  · rw [Table.names, Request.resolve, resolveEntries, List.map_map]
    exact hmerged.nodup
  · obtain ⟨d, hd, rfl⟩ := List.mem_map.mp he
    exact hmerged.lower_name d hd

section

variable {auto : Bool} {r : Request}

theorem ofPairs_lowered (h : HasLowerNames r) :
    Table.ofPairs (r.headers.map fun e => (Text.lower e.1, e.2.text)) = texts r.headers := by
  have hsame : r.headers.map (fun e => (Text.lower e.1, e.2.text)) = texts r.headers :=
    List.map_congr_left fun e he => by rw [h.lower e he]
  have hnames : Table.names (texts r.headers) = Table.names r.headers := by
    rw [Table.names, texts, List.map_map]
    rfl
  rw [hsame, Table.ofPairs_eq_self (hnames ▸ h.nodup)]

theorem get?_texts (headers : Table Value) (name : String) :
    Table.get? (texts headers) name = (headers.get? name).map Value.text := by
  induction headers with
  | nil => rfl
  | cons e rest ih =>
    obtain ⟨k, v⟩ := e
    by_cases hk : k = name
    · subst hk
      simp [texts, Table.get?]
    · simpa [texts, Table.get?, hk] using ih

theorem header?_contentType (h : HasLowerNames r) :
    r.header? contentType = r.headers.get? contentType := by
  have hlower : Text.lower contentType = contentType := by decide
  rw [Request.header?_eq_get? h.lower, hlower]

theorem withContentType_of_addsKind (h : HasLowerNames r) (hadds : AddsKind auto r) :
    withContentType auto r.body (texts r.headers) =
      texts r.headers ++ [(contentType, jsonType)] := by
  have hmissing : Table.get? (texts r.headers) contentType = none := by
    rw [get?_texts, ← header?_contentType h, hadds.missing]
    rfl
  have hstructured : r.body.any Value.isStructured = true := by
    rcases hadds.body with ⟨items, hbody⟩ | ⟨fields, hbody⟩ <;> rw [hbody] <;> rfl
  rw [withContentType, hadds.auto, hstructured, Table.has, hmissing]
  exact Table.insert_of_get?_eq_none hmissing jsonType

theorem withContentType_of_not_addsKind (h : HasLowerNames r) (hadds : ¬ AddsKind auto r) :
    withContentType auto r.body (texts r.headers) = texts r.headers := by
  rw [withContentType, if_neg]
  intro hall
  obtain ⟨hboth, hmissing⟩ := Bool.and_eq_true_iff.mp hall
  obtain ⟨hauto, hstructured⟩ := Bool.and_eq_true_iff.mp hboth
  refine hadds ⟨hauto, ?_, ?_⟩
  · rcases hbody : r.body with _ | v
    · rw [hbody] at hstructured
      cases hstructured
    · rw [hbody] at hstructured
      cases v with
      | array items => exact .inl ⟨items, rfl⟩
      | object fields => exact .inr ⟨fields, rfl⟩
      | _ => cases hstructured
  · rw [header?_contentType h]
    rcases hget : Table.get? r.headers contentType with _ | v
    · rfl
    · rw [Table.has, get?_texts, hget] at hmissing
      cases hmissing

end

/-! ## The body that is sent -/

theorem bodyText_eq_none_iff {body : Option Value} :
    bodyText body = none ↔ body = none ∨ body = some .null := by
  rcases body with _ | v
  · simp [bodyText]
  · cases v <;> simp [bodyText]

theorem bodyText_of_ne_null {v : Value} (h : v ≠ .null) : bodyText (some v) = some v.text := by
  cases v with
  | null => exact absurd rfl h
  | _ => rfl

/-! ## Merged requests -/

/-- What is sent for a request whose address is read by `readUrl`. -/
structure Sends (readUrl : UrlReader) (auto : Bool) (r : Request) (o : Outgoing) : Prop where
  url : readUrl (Text.trim r.fullUrl) = .ok o.url
  /-- Each header of the request is sent once, with the text of its value. -/
  headers : ¬ AddsKind auto r → o.headers = texts r.headers
  /-- The kind of the body comes after the headers of the request. -/
  added : AddsKind auto r → o.headers = texts r.headers ++ [(contentType, jsonType)]
  /-- No name is sent twice. -/
  nodup : o.headers.names.Nodup
  /-- A kind that the request tells is sent as it is. -/
  supplied : ∀ v, r.header? contentType = some v → o.headers.get? contentType = some v.text
  noBody : o.body = none ↔ r.body = none ∨ r.body = some .null
  textBody : ∀ s, r.body = some (.string s) → o.body = some s
  body : ∀ v, r.body = some v → v ≠ .null → o.body = some v.text
  follow : o.follow = r.options.follow
  verifySSL : o.verifySSL = r.options.verifySSL

theorem sends_built {readUrl : UrlReader} {auto : Bool} {r : Request} {url : Url}
    (h : HasLowerNames r) (hurl : readUrl (Text.trim r.fullUrl) = .ok url) :
    Sends readUrl auto r (built auto r url) where
  url := hurl
  headers := fun hadds => by
    rw [built, ofPairs_lowered h, withContentType_of_not_addsKind h hadds]
  added := fun hadds => by
    rw [built, ofPairs_lowered h, withContentType_of_addsKind h hadds]
  nodup := by
    rw [built, withContentType]
    split
    · exact Table.nodup_names_insert Table.nodup_names_ofPairs
    · exact Table.nodup_names_ofPairs
  supplied := fun v hv => by
    have hkeeps : ¬ AddsKind auto r := fun hadds => by cases hadds.missing.symm.trans hv
    rw [header?_contentType h] at hv
    rw [built, ofPairs_lowered h, withContentType_of_not_addsKind h hkeeps, get?_texts, hv]
    rfl
  noBody := bodyText_eq_none_iff
  textBody := fun s hs => (congrArg bodyText hs).trans rfl
  body := fun v hv hne => (congrArg bodyText hv).trans (bodyText_of_ne_null hne)
  follow := rfl
  verifySSL := rfl

/-- **What is sent for a merged request.**  Where it can be sent, each of its headers is sent once
with the text of its value, and the kind of a JSON body is added if that is wanted and no header
tells it; its body is sent as a text, unless it is null or missing.  Whatever reader of URLs there
is, the request is refused if and only if its address is no URL to that reader or some header may
not be sent, and always as invalid. -/
theorem ofRequest_merged {common : Option CommonLayer} {layer : RequestLayer} {m : Request}
    (h : layer.merge common = .ok m) (lookup : Lookup) (readUrl : UrlReader) (auto : Bool) :
    let r := m.resolve lookup
    (∀ o, ofRequest readUrl auto r = .ok o → Sends readUrl auto r o) ∧
      ((∃ f, ofRequest readUrl auto r = .error f) ↔
        (∃ fault, readUrl (Text.trim r.fullUrl) = .error fault) ∨
          ∃ e ∈ r.headers, isHeaderName e.1 = false ∨ isHeaderValue e.2.text = false) ∧
      ∀ f, ofRequest readUrl auto r = .error f → f.kind = .invalidRequest := by
  intro r
  have hnames : HasLowerNames r := hasLowerNames_resolve h lookup
  refine ⟨fun o ho => ?_, ?_, fun f => kind_of_ofRequest⟩
  · obtain ⟨url, hurl, -, rfl⟩ := ofRequest_eq_ok_iff.mp ho
    exact sends_built hnames hurl
  · simp only [exists_ofRequest_eq_error_iff, not_isFit_iff]

/-- Headers and a method in common. -/
def noteCommon (headers : List (String × Value)) : CommonLayer :=
  { method := some "post", headers := headers }

/-- A request with a list for its body and a header in capitals. -/
def noteLayer (url : String) : RequestLayer :=
  { name := "note"
    url := some url
    headers := [("x-ID", .string "$(id)0")]
    body := some (.array [.string "$(id)", .null]) }

/-- A number for the variable. -/
def noteLookup : Lookup := fun name => if name = "id" then some (.number (.int 7)) else none

/-- The request with headers in common, filled in. -/
def note (url : String) (headers : List (String × Value)) : Request :=
  ((noteLayer url).completed (some (noteCommon headers)) "post" url).resolve noteLookup

/-- A reader that knows one address, with its host in capitals and the usual port. -/
def noteReader : UrlReader := fun text =>
  if text = "http://Localhost:80/notes" then
    .ok ⟨"http", some ⟨"", "", "localhost", none⟩, "/notes", none, none⟩
  else .error .noScheme

/-- The kind that is told in common stays although the body is a list; where none is told, that of
JSON is added; and neither a name with a blank in it nor an address without a scheme can be sent. -/
theorem ofRequest_merged_note :
    let sent (url : String) (headers : List (String × Value)) :=
      ofRequest noteReader true (note url headers)
    let address := "http://Localhost:80/notes"
    (∃ o, sent address [("X-Id", .null), ("Content-Type", .string "text/plain")] = .ok o ∧
      o.url.text = "http://localhost/notes" ∧
      o.headers = [("x-id", "70"), ("content-type", "text/plain")] ∧ o.body = some "[7,null]") ∧
    (∃ o, sent address [] = .ok o ∧
      o.headers = [("x-id", "70"), ("content-type", "application/json")]) ∧
    (∃ f, sent address [("X Id", .null)] = .error f ∧ f.kind = .invalidRequest) ∧
    ∃ f, sent "notes" [] = .error f ∧ f.kind = .invalidRequest := by
  intro sent address
  have hmerge : ∀ url headers, nonBlank (some url) = some url →
      (noteLayer url).merge (some (noteCommon headers)) =
        .ok ((noteLayer url).completed (some (noteCommon headers)) "post" url) :=
    fun url headers hurl => RequestLayer.merge_eq_ok_iff.mpr ⟨"post", url, rfl, hurl, rfl⟩
  have haddress : nonBlank (some address) = some address := by decide +kernel
  have hurl : noteReader (Text.trim (note address []).fullUrl) =
      .ok ⟨"http", some ⟨"", "", "localhost", none⟩, "/notes", none, none⟩ := by decide +kernel
  -- The address does not depend on the headers.
  have hsent : ∀ headers, (∀ e ∈ (note address headers).headers, IsFit e) →
      ∃ o, sent address headers = .ok o :=
    fun headers hfit => ⟨_, ofRequest_eq_ok_iff.mpr ⟨_, hurl, hfit, rfl⟩⟩
  refine ⟨?_, ?_, ?_, ?_⟩
  · obtain ⟨hsends, -, -⟩ := ofRequest_merged
      (hmerge address [("X-Id", .null), ("Content-Type", .string "text/plain")] haddress)
      noteLookup noteReader true
    obtain ⟨o, ho⟩ := hsent [("X-Id", .null), ("Content-Type", .string "text/plain")]
      (by decide +kernel)
    refine ⟨o, ho, ?_, ?_, ?_⟩
    · rw [← Except.ok.inj (hurl.symm.trans (hsends o ho).url)]
      decide +kernel
    · rw [(hsends o ho).headers fun hadds => absurd hadds.missing (by decide +kernel)]
      decide +kernel
    · rw [(hsends o ho).body (.array [.number (.int 7), .null]) (by decide +kernel) nofun]
      decide +kernel
  · obtain ⟨hsends, -, -⟩ :=
      ofRequest_merged (hmerge address [] haddress) noteLookup noteReader true
    obtain ⟨o, ho⟩ := hsent [] (by decide +kernel)
    refine ⟨o, ho, ?_⟩
    rw [(hsends o ho).added
      ⟨rfl, .inl ⟨[.number (.int 7), .null], by decide +kernel⟩, by decide +kernel⟩]
    decide +kernel
  · obtain ⟨-, hrefused, hkind⟩ :=
      ofRequest_merged (hmerge address [("X Id", .null)] haddress) noteLookup noteReader true
    obtain ⟨f, hf⟩ := hrefused.mpr
      (.inr ⟨("x id", .null), by decide +kernel, .inl (by decide +kernel)⟩)
    exact ⟨f, hf, hkind f hf⟩
  · obtain ⟨-, hrefused, hkind⟩ :=
      ofRequest_merged (hmerge "notes" [] rfl) noteLookup noteReader true
    obtain ⟨f, hf⟩ := hrefused.mpr (.inl ⟨.noScheme, by decide +kernel⟩)
    exact ⟨f, hf, hkind f hf⟩

end Outgoing

end RequestSuite
