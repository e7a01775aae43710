import RequestSuite.Proofs.Template.Alone
import RequestSuite.Proofs.Template.Mention
import RequestSuite.Proofs.Template.Occurrence

/-!
# What is put in for placeholders

What a value becomes is said by rules (`FilledIn`), one for each kind of value.  The value of a
variable is put in as it is by them and not looked at, so that no placeholder in it can ask for
another variable.  Filling in follows these rules and no others, and so depends on nothing but the
variables that are named in the value itself (`Value.filled_of_agreeOn`).
-/

namespace RequestSuite

/-- The rules by which a value becomes another one.  The names of fields and the order of items and
fields are kept, and so is every value that is not a text. -/
inductive FilledIn (lookup : Lookup) : Value → Value → Prop
  /-- A placeholder that stands alone becomes the variable's value. -/
  | alone {name s : String} {v : Value} (hs : Template.IsAlone name s)
      (hv : lookup name = some v) : FilledIn lookup (.string s) v
  /-- In any other text, what was read is put together again with the texts of the values. -/
  | text {s : String} {ts : List Template.Token} (hts : Template.IsReading s.toList ts)
      (hs : ∀ name, Template.IsAlone name s → lookup name = none) :
      FilledIn lookup (.string s) (.string (.ofList (ts.flatMap (Template.Token.fill lookup))))
  | items {items items' : List Value} (h : List.Forall₂ (FilledIn lookup) items items') :
      FilledIn lookup (.array items) (.array items')
  | fields {fields fields' : List (String × Value)}
      (hnames : fields'.map (·.1) = fields.map (·.1))
      (h : List.Forall₂ (FilledIn lookup) (fields.map (·.2)) (fields'.map (·.2))) :
      FilledIn lookup (.object fields) (.object fields')
  | null : FilledIn lookup .null .null
  | bool (b : Bool) : FilledIn lookup (.bool b) (.bool b)
  | number (n : Number) : FilledIn lookup (.number n) (.number n)

namespace FilledIn

variable {lookup : Lookup}

theorem string_iff {s : String} {w : Value} :
    FilledIn lookup (.string s) w ↔ w = Template.resolve lookup s := by
  constructor
  · intro h
    cases h with
    | alone hs hv => exact (Template.resolve_of_isAlone hs hv).symm
    | text hts hs => rw [Template.resolve_of_not_isAlone hs, hts.eq_scan]; rfl
  · rintro rfl
    rcases Template.isAlone_cases lookup s with ⟨name, v, hs, hv⟩ | hs
    · rw [Template.resolve_of_isAlone hs hv]
      exact alone hs hv
    · rw [Template.resolve_of_not_isAlone hs]
      exact text (Template.isReading_scan s.toList) hs

mutual

/-- The rules leave one way to fill in a value, and it is the one that is taken. -/
theorem iff_resolve (v w : Value) : FilledIn lookup v w ↔ w = v.resolve lookup := by
  cases v with
  | string s => exact string_iff
  | array vs =>
    rw [Value.resolve]
    constructor
    · intro h
      cases h with
      | items h => rw [(forall₂_iff_resolveItems vs _).mp h]
    · rintro rfl
      exact items ((forall₂_iff_resolveItems vs _).mpr rfl)
  | object fs =>
    rw [Value.resolve]
    constructor
    · intro h
      cases h with
      | fields hnames h => rw [(forall₂_iff_resolveFields fs _).mp ⟨hnames, h⟩]
    · rintro rfl
      obtain ⟨hnames, h⟩ := (forall₂_iff_resolveFields fs _).mpr rfl
      exact fields hnames h
  | null => exact ⟨fun h => by cases h; rfl, fun h => h ▸ null⟩
  | bool b => exact ⟨fun h => by cases h; rfl, fun h => h ▸ bool b⟩
  | number n => exact ⟨fun h => by cases h; rfl, fun h => h ▸ number n⟩

theorem forall₂_iff_resolveItems (vs ws : List Value) :
    List.Forall₂ (FilledIn lookup) vs ws ↔ ws = Value.resolveItems lookup vs := by
  cases vs with
  | nil => rw [Value.resolveItems, List.forall₂_nil_left_iff]
  | cons v vs =>
    rw [List.forall₂_cons_left_iff, Value.resolveItems]
    constructor
    · rintro ⟨w, ws, hw, hws, rfl⟩
      rw [(iff_resolve v w).mp hw, (forall₂_iff_resolveItems vs ws).mp hws]
    · rintro rfl
      exact ⟨_, _, (iff_resolve v _).mpr rfl, (forall₂_iff_resolveItems vs _).mpr rfl, rfl⟩

theorem forall₂_iff_resolveFields (fs gs : List (String × Value)) :
    gs.map (·.1) = fs.map (·.1) ∧
      List.Forall₂ (FilledIn lookup) (fs.map (·.2)) (gs.map (·.2)) ↔
    gs = Value.resolveFields lookup fs := by
  cases fs with
  | nil => simp [Value.resolveFields]
  | cons f fs =>
    rw [Value.resolveFields, List.map_cons, List.map_cons]
    constructor
    · rintro ⟨hnames, h⟩
      cases gs with
      | nil => cases hnames
      | cons g gs =>
        obtain ⟨hname, hrest⟩ := List.cons.inj hnames
        obtain ⟨hvalue, hvalues⟩ := List.forall₂_cons.mp h
        rw [← (forall₂_iff_resolveFields fs gs).mp ⟨hrest, hvalues⟩,
          ← (iff_resolve f.2 g.2).mp hvalue, ← hname]
    · rintro rfl
      obtain ⟨hnames, h⟩ := (forall₂_iff_resolveFields fs _).mpr rfl
      exact ⟨congrArg (f.1 :: ·) hnames, .cons ((iff_resolve f.2 _).mpr rfl) h⟩

end

end FilledIn

/-- **Only what is named counts.**  Two stores that agree on the names of the placeholders in a value
fill it in in the same way and leave the same names without a value.  What other variables the
stores have does not matter, not even if the values that are put in name them, and neither does the
layer in which a variable is: the value that comes out is the one that the rules give. -/
theorem Value.filled_of_agreeOn (v : Value) (store₁ store₂ : Store)
    (h : AgreeOn v.met store₁.get? store₂.get?) :
    (v.fill store₁.get?).run [] = v.filled store₁ ∧
      (v.fill store₂.get?).run [] = v.filled store₂ ∧
      v.filled store₁ = v.filled store₂ ∧
      ∀ w, FilledIn store₁.get? v w ↔ w = (v.filled store₁).1 := by
  rw [← templateNames_eq_met] at h
  refine ⟨v.run_fill store₁, v.run_fill store₂, ?_, FilledIn.iff_resolve v⟩
  rw [filled, filled, resolve_congr v h, undefinedNames_congr h]

/-- The value that is put in names a variable that one of the stores has and the other has not. -/
theorem Value.filled_of_agreeOn_secret :
    let v : Value := .object [("text", .string "$(user): \\$secret"), ("value", .string "$user")]
    let user : Value := .array [.string "$secret \\$user"]
    let store₁ := (Store.empty.insert "user" user).insert "secret" (.bool true)
    let store₂ := Store.empty.capture "user" user
    AgreeOn v.met store₁.get? store₂.get? ∧
      v.filled store₁ = (.object [("text", .string "[\"$secret \\\\$user\"]: $secret"),
        ("value", user)], []) ∧
      v.filled store₁ = v.filled store₂ := by
  intro v user store₁ store₂
  have hagree : AgreeOn v.met store₁.get? store₂.get? := by
    have hmet : v.met = ["user", "user"] := by decide
    rw [hmet]
    exact List.forall_mem_cons.mpr ⟨rfl, List.forall_mem_singleton.mpr rfl⟩
  obtain ⟨-, -, hfilled, -⟩ := v.filled_of_agreeOn store₁ store₂ hagree
  exact ⟨hagree, by decide +kernel, hfilled⟩

end RequestSuite
