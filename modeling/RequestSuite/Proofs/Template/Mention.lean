import RequestSuite.Request.Resolve

/-!
# What templates mention

Filling in a template asks for no variable that the template does not mention.  So two look-ups
that agree on the names in a template, a value or a request fill it in in the same way
(`Request.resolve_congr`), and leave the same names undefined (`Request.undefinedNames_congr`).
-/

namespace RequestSuite

/-- Two look-ups have the same values for some names. -/
def AgreeOn (names : List String) (lookup₁ lookup₂ : Lookup) : Prop :=
  ∀ name ∈ names, lookup₁ name = lookup₂ name

section

variable {lookup₁ lookup₂ : Lookup}

theorem AgreeOn.mono {names part : List String} (h : AgreeOn names lookup₁ lookup₂)
    (hpart : part ⊆ names) : AgreeOn part lookup₁ lookup₂ :=
  fun name hname => h name (hpart hname)

theorem AgreeOn.left {first rest : List String}
    (h : AgreeOn (first ++ rest) lookup₁ lookup₂) : AgreeOn first lookup₁ lookup₂ :=
  h.mono (List.subset_append_left first rest)

theorem AgreeOn.right {first rest : List String}
    (h : AgreeOn (first ++ rest) lookup₁ lookup₂) : AgreeOn rest lookup₁ lookup₂ :=
  h.mono (List.subset_append_right first rest)

theorem AgreeOn.of_mem_flatMap {α : Type} {names : α → List String} {items : List α} {item : α}
    (h : AgreeOn (items.flatMap names) lookup₁ lookup₂) (hitem : item ∈ items) :
    AgreeOn (names item) lookup₁ lookup₂ :=
  h.mono fun _ hname => List.mem_flatMap.mpr ⟨item, hitem, hname⟩

/-- The names without a value are the same, too. -/
theorem AgreeOn.filter_isNone {names : List String} (h : AgreeOn names lookup₁ lookup₂) :
    (names.filter fun name => (lookup₁ name).isNone) =
      names.filter fun name => (lookup₂ name).isNone :=
  List.filter_congr fun name hname => by rw [h name hname]

/-! ## Templates -/

namespace Template

theorem namesIn_cons (token : Token) (rest : List Token) :
    namesIn (token :: rest) = namesIn [token] ++ namesIn rest := by
  cases token <;> rfl

theorem Token.fill_congr {token : Token} (h : AgreeOn (namesIn [token]) lookup₁ lookup₂) :
    token.fill lookup₁ = token.fill lookup₂ := by
  rcases token with cs | _ | ⟨name, delimited⟩
  · rfl
  · rfl
  · rw [fill, fill, h name List.mem_cons_self]

theorem flatMap_fill_congr {tokens : List Token} (h : AgreeOn (namesIn tokens) lookup₁ lookup₂) :
    tokens.flatMap (Token.fill lookup₁) = tokens.flatMap (Token.fill lookup₂) := by
  induction tokens with
  | nil => rfl
  | cons token rest ih =>
    rw [namesIn_cons] at h
    rw [List.flatMap_cons, List.flatMap_cons, Token.fill_congr h.left, ih h.right]

theorem resolveText_congr {s : String} (h : AgreeOn (names s) lookup₁ lookup₂) :
    resolveText lookup₁ s = resolveText lookup₂ s :=
  congrArg String.ofList (flatMap_fill_congr h)

theorem resolve_congr {s : String} (h : AgreeOn (names s) lookup₁ lookup₂) :
    resolve lookup₁ s = resolve lookup₂ s := by
  rw [resolve, resolve, resolveText_congr h]
  split
  · rename_i name delimited htokens
    have hname : name ∈ names s := by
      rw [names, htokens]
      exact List.mem_cons_self
    rw [h name hname]
  · rfl

end Template

/-! ## Values -/

namespace Value

mutual

/-- Filling in a value asks for the names in it only. -/
theorem resolve_congr (v : Value) (h : AgreeOn v.templateNames lookup₁ lookup₂) :
    v.resolve lookup₁ = v.resolve lookup₂ := by
  cases v with
  | string s => exact Template.resolve_congr h
  | array items => exact congrArg array (resolveItems_congr items h)
  | object fields => exact congrArg object (resolveFields_congr fields h)
  | null => rfl
  | bool b => rfl
  | number n => rfl

theorem resolveItems_congr (items : List Value)
    (h : AgreeOn (templateNamesOfItems items) lookup₁ lookup₂) :
    resolveItems lookup₁ items = resolveItems lookup₂ items := by
  cases items with
  | nil => rfl
  | cons v rest =>
    rw [resolveItems, resolveItems, resolve_congr v h.left, resolveItems_congr rest h.right]

theorem resolveFields_congr (fields : List (String × Value))
    (h : AgreeOn (templateNamesOfFields fields) lookup₁ lookup₂) :
    resolveFields lookup₁ fields = resolveFields lookup₂ fields := by
  cases fields with
  | nil => rfl
  | cons field rest =>
    rw [resolveFields, resolveFields, resolve_congr field.2 h.left,
      resolveFields_congr rest h.right]

end

theorem undefinedNames_congr {v : Value} (h : AgreeOn v.templateNames lookup₁ lookup₂) :
    v.undefinedNames lookup₁ = v.undefinedNames lookup₂ :=
  congrArg distinct h.filter_isNone

end Value

/-! ## Requests -/

/-- The names in the templates of a request, with repetitions. -/
def Request.names (r : Request) : List String :=
  r.templates.flatMap Value.templateNames

theorem resolveEntries_congr {entries : List (String × Value)}
    (h : ∀ e ∈ entries, AgreeOn e.2.templateNames lookup₁ lookup₂) :
    resolveEntries lookup₁ entries = resolveEntries lookup₂ entries :=
  List.map_congr_left fun e he => by rw [Value.resolve_congr e.2 (h e he)]

theorem resolve_option_congr {v : Option Value}
    (h : ∀ w, v = some w → AgreeOn w.templateNames lookup₁ lookup₂) :
    v.map (Value.resolve lookup₁) = v.map (Value.resolve lookup₂) :=
  Option.map_congr fun w hw => Value.resolve_congr w (h w hw)

theorem TestSection.mem_templates {t : TestSection} {v : Value} : v ∈ t.templates ↔
    t.status = some v ∨ t.body = some v ∨ (∃ e ∈ t.headers, e.2 = v) ∨
      ∃ e ∈ t.json, e.2 = v := by
  simp only [templates, List.mem_append, Option.mem_toList, List.mem_map, or_assoc]

theorem TestSection.resolve_congr {t : TestSection}
    (h : ∀ v ∈ t.templates, AgreeOn v.templateNames lookup₁ lookup₂) :
    t.resolve lookup₁ = t.resolve lookup₂ := by
  have hstatus : t.status.map (Value.resolve lookup₁) = t.status.map (Value.resolve lookup₂) :=
    resolve_option_congr fun v hv => h v (mem_templates.mpr (.inl hv))
  have hbody : t.body.map (Value.resolve lookup₁) = t.body.map (Value.resolve lookup₂) :=
    resolve_option_congr fun v hv => h v (mem_templates.mpr (.inr (.inl hv)))
  have hheaders : resolveEntries lookup₁ t.headers = resolveEntries lookup₂ t.headers :=
    resolveEntries_congr fun e he =>
      h e.2 (mem_templates.mpr (.inr (.inr (.inl ⟨e, he, rfl⟩))))
  have hjson : resolveEntries lookup₁ t.json = resolveEntries lookup₂ t.json :=
    resolveEntries_congr fun e he =>
      h e.2 (mem_templates.mpr (.inr (.inr (.inr ⟨e, he, rfl⟩))))
  rw [resolve, resolve, hstatus, hbody, hheaders, hjson]

theorem Request.mem_templates {r : Request} {v : Value} : v ∈ r.templates ↔
    v = .string r.method ∨ (∃ base, r.baseUrl = some base ∧ .string base = v) ∨
      v = .string r.url ∨ (∃ e ∈ r.headers, e.2 = v) ∨ (∃ p ∈ r.params, p.value = v) ∨
      r.body = some v ∨ v ∈ r.tests.templates := by
  simp only [templates, List.cons_append, List.mem_append, List.mem_cons, Option.mem_toList,
    Option.map_eq_some_iff, List.mem_map, or_assoc]

/-- Filling in a request asks for the names in it only. -/
theorem Request.resolve_congr {r : Request} (h : AgreeOn r.names lookup₁ lookup₂) :
    r.resolve lookup₁ = r.resolve lookup₂ := by
  have hmem : ∀ v ∈ r.templates, AgreeOn v.templateNames lookup₁ lookup₂ :=
    fun v hv => h.of_mem_flatMap hv
  simp only [mem_templates] at hmem
  have hmethod := Template.resolveText_congr (hmem _ (.inl rfl))
  have hbase : r.baseUrl.map (Template.resolveText lookup₁) =
      r.baseUrl.map (Template.resolveText lookup₂) :=
    Option.map_congr fun base hbase =>
      Template.resolveText_congr (hmem _ (.inr (.inl ⟨base, hbase, rfl⟩)))
  have hurl := Template.resolveText_congr (hmem _ (.inr (.inr (.inl rfl))))
  have hheaders : resolveEntries lookup₁ r.headers = resolveEntries lookup₂ r.headers :=
    resolveEntries_congr fun e he => hmem _ (.inr (.inr (.inr (.inl ⟨e, he, rfl⟩))))
  have hparams : (r.params.map fun p => { p with value := p.value.resolve lookup₁ }) =
      r.params.map fun p => { p with value := p.value.resolve lookup₂ } :=
    List.map_congr_left fun p hp => by
      rw [Value.resolve_congr p.value
        (hmem _ (.inr (.inr (.inr (.inr (.inl ⟨p, hp, rfl⟩))))))]
  have hbody : r.body.map (Value.resolve lookup₁) = r.body.map (Value.resolve lookup₂) :=
    resolve_option_congr fun v hv =>
      hmem v (.inr (.inr (.inr (.inr (.inr (.inl hv))))))
  have htests := TestSection.resolve_congr fun v hv =>
    hmem v (.inr (.inr (.inr (.inr (.inr (.inr hv))))))
  rw [resolve, resolve, hmethod, hbase, hurl, hheaders, hparams, hbody, htests]

theorem Request.undefinedNames_congr {r : Request} (h : AgreeOn r.names lookup₁ lookup₂) :
    r.undefinedNames lookup₁ = r.undefinedNames lookup₂ :=
  congrArg distinct h.filter_isNone

end

end RequestSuite
