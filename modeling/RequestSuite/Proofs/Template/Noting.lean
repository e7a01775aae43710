import RequestSuite.Proofs.Template.Tokens
import RequestSuite.Variable.Store

/-!
# Filling in with one list of names

Templates may be filled in and the names without a value be noted in the same pass, with one list of
names that is handed on from template to template.  This is the same as filling in first and asking
for the names afterwards (`Value.fill_notes`): what is noted are the names in document order, each
at its first occurrence (`noteAll_nil`, `Value.run_fill`).
-/

namespace RequestSuite

/-- A computation that hands on a list of names. -/
abbrev Noting := StateM (List String)

namespace Noting

/-- A list of names with one more name, unless it is there already. -/
def withName (noted : List String) (name : String) : List String :=
  if name ∈ noted then noted else noted ++ [name]

/-- Notes a name. -/
def note (name : String) : Noting Unit :=
  modify fun noted => withName noted name

/-- A list of names with more names. -/
def noteAll (noted names : List String) : List String :=
  names.foldl withName noted

theorem noteAll_append (noted names names' : List String) :
    noteAll noted (names ++ names') = noteAll (noteAll noted names) names' :=
  List.foldl_append

/-- Names that are noted one after the other are kept at their first occurrences. -/
theorem noteAll_nil (names : List String) : noteAll [] names = distinct names := by
  induction names using List.reverseRecOn with
  | nil => rfl
  | append_singleton names name ih =>
    rw [noteAll_append, ih, distinct_concat]
    simp only [noteAll, List.foldl_cons, List.foldl_nil, withName, mem_distinct]

/-- Whether a computation has a result and notes some names, whatever has been noted before. -/
def Notes {α : Type} (x : Noting α) (a : α) (names : List String) : Prop :=
  ∀ noted, x.run noted = (a, noteAll noted names)

section

variable {α β : Type}

theorem notes_pure (a : α) : Notes (pure a) a [] :=
  fun _ => rfl

theorem notes_note (name : String) : Notes (note name) () [name] :=
  fun _ => rfl

theorem Notes.bind {x : Noting α} {a : α} {names names' : List String} {f : α → Noting β} {b : β}
    (hx : Notes x a names) (hf : Notes (f a) b names') : Notes (x >>= f) b (names ++ names') := by
  intro noted
  rw [StateT.run_bind, hx noted, noteAll_append]
  exact hf _

theorem Notes.map {x : Noting α} {a : α} {names : List String} (hx : Notes x a names)
    (f : α → β) : Notes (f <$> x) (f a) names := by
  intro noted
  rw [StateT.run_map, hx noted]
  rfl

theorem Notes.mapM {f : α → Noting β} {g : α → β} {names : α → List String}
    (h : ∀ a, Notes (f a) (g a) (names a)) (items : List α) :
    Notes (items.mapM f) (items.map g) (items.flatMap names) := by
  induction items with
  | nil => exact notes_pure []
  | cons a rest ih =>
    rw [List.mapM_cons, List.flatMap_cons]
    have hrest := ih.map (g a :: ·)
    simp only [map_eq_pure_bind] at hrest
    exact (h a).bind hrest

theorem Notes.option {f : α → Noting β} {g : α → β} {names : α → List String}
    (h : ∀ a, Notes (f a) (g a) (names a)) (item : Option α) :
    Notes (item.mapM f) (item.map g) (item.toList.flatMap names) := by
  cases item with
  | none => exact notes_pure none
  | some a =>
    rw [Option.mapM_some, Option.toList_some, List.flatMap_singleton]
    exact (h a).map some

end

end Noting

open Noting

/-! ## Templates -/

namespace Template

/-- What a token becomes, noting its name if there is no value. -/
def Token.fillNoting (lookup : Lookup) : Token → Noting (List Char)
  | .text cs => pure cs
  | .escape => pure ['$']
  | .variable name delimited =>
    match lookup name with
    | some v => pure v.text.toList
    | none => do
      note name
      return placeholderChars name delimited

/-- A template filled in as a text, noting names without a value. -/
def fillText (lookup : Lookup) (s : String) : Noting String := do
  return String.ofList (← (tokens s).mapM (Token.fillNoting lookup)).flatten

/-- A template filled in as a value, noting names without a value. -/
def fill (lookup : Lookup) (s : String) : Noting Value :=
  match tokens s with
  | [.variable name delimited] =>
    match lookup name with
    | some v => pure v
    | none => do
      note name
      return .string (String.ofList (placeholderChars name delimited))
  | _ => Value.string <$> fillText lookup s

variable (lookup : Lookup)

theorem namesIn_eq_flatMap (ts : List Token) : namesIn ts = ts.flatMap fun t => namesIn [t] := by
  induction ts with
  | nil => rfl
  | cons t ts ih =>
    rw [List.flatMap_cons, ← ih]
    cases t <;> rfl

theorem notes_fillToken (t : Token) :
    Notes (t.fillNoting lookup) (t.fill lookup)
      ((namesIn [t]).filter fun name => (lookup name).isNone) := by
  rcases t with cs | _ | ⟨name, delimited⟩
  · exact notes_pure cs
  · exact notes_pure ['$']
  · rw [Token.fillNoting, Token.fill, namesIn, namesIn]
    rcases hname : lookup name with _ | v
    · simp only [List.filter_cons, hname, Option.isNone_none, if_true, List.filter_nil]
      exact (notes_note name).bind (notes_pure _)
    · simp only [List.filter_cons, hname, Option.isNone_some, Bool.false_eq_true, if_false,
        List.filter_nil]
      exact notes_pure _

theorem notes_fillText (s : String) :
    Notes (fillText lookup s) (resolveText lookup s) (undefinedNames lookup s) := by
  have htokens := Notes.mapM (notes_fillToken lookup) (tokens s)
  have hnames : (tokens s).flatMap
      (fun t => (namesIn [t]).filter fun name => (lookup name).isNone) =
      undefinedNames lookup s := by
    rw [undefinedNames, names, namesIn_eq_flatMap, List.filter_flatMap]
  rw [hnames] at htokens
  exact htokens.map fun parts => String.ofList parts.flatten

theorem notes_fill (s : String) :
    Notes (fill lookup s) (resolve lookup s) (undefinedNames lookup s) := by
  rw [fill]
  split
  · rename_i name delimited htokens
    -- The text of the only placeholder is the whole template.
    have hsource : placeholderChars name delimited = s.toList := (toList_of_tokens htokens).symm
    rw [resolve, undefinedNames, names, htokens, namesIn, namesIn]
    rcases hname : lookup name with _ | v
    · simp only [hsource, String.ofList_toList, List.filter_cons, hname, Option.isNone_none,
        if_true, List.filter_nil]
      exact (notes_note name).bind (notes_pure _)
    · simp only [List.filter_cons, hname, Option.isNone_some, Bool.false_eq_true, if_false,
        List.filter_nil]
      exact notes_pure v
  · rename_i hnot
    rw [resolve_eq_string hnot]
    exact (notes_fillText lookup s).map Value.string

end Template

/-! ## Values -/

namespace Value

mutual

/-- A value with the templates in it filled in, noting names without a value. -/
def fill (lookup : Lookup) : Value → Noting Value
  | .string s => Template.fill lookup s
  | .array items => array <$> fillItems lookup items
  | .object fields => object <$> fillFields lookup fields
  | .null => pure .null
  | .bool b => pure (.bool b)
  | .number n => pure (.number n)

/-- Fills in the templates of each item. -/
def fillItems (lookup : Lookup) : List Value → Noting (List Value)
  | [] => pure []
  | v :: rest => do
    let v ← fill lookup v
    (v :: ·) <$> fillItems lookup rest

/-- Fills in the templates of each field's value. -/
def fillFields (lookup : Lookup) : List (String × Value) → Noting (List (String × Value))
  | [] => pure []
  | (k, v) :: rest => do
    let v ← fill lookup v
    ((k, v) :: ·) <$> fillFields lookup rest

end

variable (lookup : Lookup)

mutual

theorem fill_notes (v : Value) : Notes (v.fill lookup) (v.resolve lookup)
    (v.templateNames.filter fun name => (lookup name).isNone) := by
  cases v with
  | string s => exact Template.notes_fill lookup s
  | array items => exact (fillItems_notes items).map array
  | object fields => exact (fillFields_notes fields).map object
  | null => exact notes_pure Value.null
  | bool b => exact notes_pure (Value.bool b)
  | number n => exact notes_pure (Value.number n)

theorem fillItems_notes (items : List Value) :
    Notes (fillItems lookup items) (resolveItems lookup items)
      ((templateNamesOfItems items).filter fun name => (lookup name).isNone) := by
  cases items with
  | nil => exact notes_pure []
  | cons v rest =>
    rw [templateNamesOfItems, List.filter_append]
    exact (fill_notes v).bind ((fillItems_notes rest).map _)

theorem fillFields_notes (fields : List (String × Value)) :
    Notes (fillFields lookup fields) (resolveFields lookup fields)
      ((templateNamesOfFields fields).filter fun name => (lookup name).isNone) := by
  cases fields with
  | nil => exact notes_pure []
  | cons field rest =>
    rw [templateNamesOfFields, List.filter_append]
    exact (fill_notes field.2).bind ((fillFields_notes rest).map _)

end

/-- A value filled in with the variables of a store, and the names in it without a value. -/
def filled (store : Store) (v : Value) : Value × List String :=
  (v.resolve store.get?, v.undefinedNames store.get?)

/-- A pass that starts without names fills in a value and notes each name without a value once. -/
theorem run_fill (store : Store) (v : Value) : (v.fill store.get?).run [] = v.filled store := by
  rw [fill_notes store.get? v [], noteAll_nil]
  rfl

end Value

end RequestSuite
