import Mathlib.Data.List.Induction
import Mathlib.Data.List.Nodup
import Mathlib.Logic.Function.Basic
import RequestSuite.Distinct
import RequestSuite.Table

/-!
# Entries laid over others

Where entries with the same key are laid over each other, a key keeps its first place and takes its
last value.  `Overlay` says this of any two lists of entries, and `Table.overlay_ofPairs` says that
the table of a list of entries is such a list.  `InSections` says it of a list that has a section
for the keys of each rank.
-/

namespace RequestSuite

variable {κ ι α β : Type} [DecidableEq κ] [DecidableEq ι]

/-! ## The last value of a key -/

/-- The value of the last entry with a key. -/
def lastValue (key : κ) (entries : List (κ × α)) : Option α :=
  (entries.filterMap fun e => if e.1 = key then some e.2 else none).getLast?

theorem lastValue_append (key : κ) (l l' : List (κ × α)) :
    lastValue key (l ++ l') = (lastValue key l').or (lastValue key l) := by
  rw [lastValue, List.filterMap_append, List.getLast?_append]
  rfl

theorem lastValue_concat (key : κ) (l : List (κ × α)) (e : κ × α) :
    lastValue key (l ++ [e]) = if e.1 = key then some e.2 else lastValue key l := by
  rw [lastValue_append]
  by_cases h : e.1 = key <;> simp [lastValue, h]

theorem lastValue_eq_none {key : κ} {l : List (κ × α)} (h : ∀ e ∈ l, e.1 ≠ key) :
    lastValue key l = none := by
  have hempty : l.filterMap (fun e => if e.1 = key then some e.2 else none) = [] :=
    List.filterMap_eq_nil_iff.mpr fun e he => if_neg (h e he)
  rw [lastValue, hempty]
  rfl

theorem mem_of_lastValue {key : κ} {l : List (κ × α)} {v : α} (h : lastValue key l = some v) :
    (key, v) ∈ l := by
  obtain ⟨e, he, hv⟩ := List.mem_filterMap.mp (List.mem_of_getLast? h)
  by_cases hkey : e.1 = key
  · rw [if_pos hkey] at hv
    obtain rfl := Option.some.inj hv
    exact hkey ▸ he
  · rw [if_neg hkey] at hv
    cases hv

/-- A last value has a place behind which nothing more is said about its key. -/
theorem exists_of_lastValue {key : κ} {l : List (κ × α)} {v : α} (h : lastValue key l = some v) :
    ∃ before after, l = before ++ (key, v) :: after ∧ ∀ e ∈ after, e.1 ≠ key := by
  induction l using List.reverseRecOn with
  | nil => cases h
  | append_singleton init e ih =>
    rw [lastValue_concat] at h
    by_cases hkey : e.1 = key
    · rw [if_pos hkey] at h
      obtain rfl := Option.some.inj h
      exact ⟨init, [], by rw [← hkey], by simp⟩
    · rw [if_neg hkey] at h
      obtain ⟨before, after, rfl, hafter⟩ := ih h
      refine ⟨before, after ++ [e], by simp, fun d hd => ?_⟩
      rcases List.mem_append.mp hd with hd | hd
      · exact hafter d hd
      · exact List.mem_singleton.mp hd ▸ hkey

theorem not_mem_of_lastValue {key : κ} {l : List (κ × α)} (h : lastValue key l = none) (v : α) :
    (key, v) ∉ l := by
  intro hmem
  have hvalue : v ∈ l.filterMap fun e => if e.1 = key then some e.2 else none :=
    List.mem_filterMap.mpr ⟨(key, v), hmem, if_pos rfl⟩
  rw [List.getLast?_eq_none_iff.mp h] at hvalue
  cases hvalue

/-- A last value was said above, or it was said below and nothing about its key above. -/
theorem mem_of_lastValue_append {key : κ} {below above : List (κ × α)} {v : α}
    (h : lastValue key (below ++ above) = some v) :
    (key, v) ∈ above ∨ ((key, v) ∈ below ∧ ∀ w, (key, w) ∉ above) := by
  rw [lastValue_append] at h
  rcases Option.or_eq_some_iff.mp h with habove | ⟨hnone, hbelow⟩
  · exact .inl (mem_of_lastValue habove)
  · exact .inr ⟨mem_of_lastValue hbelow, not_mem_of_lastValue hnone⟩

/-- Where keys are distinct, the last value of a key is the only one. -/
theorem lastValue_eq_some_iff {key : κ} {l : List (κ × α)} (h : (l.map (·.1)).Nodup) {v : α} :
    lastValue key l = some v ↔ (key, v) ∈ l := by
  refine ⟨mem_of_lastValue, fun hmem => ?_⟩
  rcases hlast : lastValue key l with _ | w
  · exact absurd hmem (not_mem_of_lastValue hlast v)
  · have hsame : (key, w) = (key, v) :=
      List.inj_on_of_nodup_map h (mem_of_lastValue hlast) hmem rfl
    rw [(Prod.mk.inj hsame).2]

/-- Where keys are distinct, their last values do not depend on the order of the entries. -/
theorem lastValue_perm {key : κ} {l l' : List (κ × α)} (h : l.Perm l')
    (hnodup : (l.map (·.1)).Nodup) : lastValue key l = lastValue key l' := by
  have hnodup' : (l'.map (·.1)).Nodup := (h.map _).nodup_iff.mp hnodup
  ext v
  rw [lastValue_eq_some_iff hnodup, lastValue_eq_some_iff hnodup', h.mem_iff]

/-- Entries with other keys do not matter. -/
theorem lastValue_filter {p : κ → Bool} {key : κ} (hp : p key = true) (l : List (κ × α)) :
    lastValue key (l.filter fun e => p e.1) = lastValue key l := by
  rw [lastValue, List.filterMap_filter, lastValue]
  congr 2
  funext e
  by_cases h : e.1 = key
  · simp [h, hp]
  · simp [h]

/-- Keys may be renamed, and values changed along with them. -/
theorem lastValue_map {f : κ → ι} (hf : f.Injective) (g : κ → α → β) (key : κ)
    (l : List (κ × α)) :
    lastValue (f key) (l.map fun e => (f e.1, g e.1 e.2)) = (lastValue key l).map (g key) := by
  have hvalue : (fun e : ι × β => if e.1 = f key then some e.2 else none) ∘
      (fun e : κ × α => (f e.1, g e.1 e.2)) =
        fun e => (if e.1 = key then some e.2 else none).map (g key) := by
    funext e
    by_cases h : e.1 = key <;> simp [hf.eq_iff, h]
  rw [lastValue, List.filterMap_map, hvalue, ← List.map_filterMap, List.getLast?_map, lastValue]

theorem distinct_map {f : κ → ι} (hf : f.Injective) (l : List κ) :
    distinct (l.map f) = (distinct l).map f := by
  induction l with
  | nil => rfl
  | cons a rest ih =>
    have hne : (fun b => decide (b ≠ f a)) ∘ f = fun b => decide (b ≠ a) := by
      funext b
      simp [hf.eq_iff]
    rw [List.map_cons, distinct, distinct, ih, List.filter_map, hne, List.map_cons]

/-! ## First places and last values -/

/-- Whether a list has each key of a list of entries once, in the first place and with the last
value of the key. -/
structure Overlay (list entries : List (κ × α)) : Prop where
  keys : list.map (·.1) = distinct (entries.map (·.1))
  values : ∀ e ∈ list, lastValue e.1 entries = some e.2

theorem Overlay.map {f : κ → ι} (hf : f.Injective) (g : κ → α → β)
    {list entries : List (κ × α)} (h : Overlay list entries) :
    Overlay (list.map fun e => (f e.1, g e.1 e.2)) (entries.map fun e => (f e.1, g e.1 e.2)) where
  keys := by
    have hkeys (l : List (κ × α)) :
        (l.map fun e => (f e.1, g e.1 e.2)).map (·.1) = (l.map (·.1)).map f := by
      simp [List.map_map, Function.comp_def]
    rw [hkeys, hkeys, distinct_map hf, h.keys]
  values := by
    intro e' he'
    obtain ⟨e, he, rfl⟩ := List.mem_map.mp he'
    rw [lastValue_map hf, h.values e he]
    rfl

/-- Of entries that all have one key, the last one is what is left. -/
theorem overlay_lastValue {key : κ} {entries : List (κ × α)} (h : ∀ e ∈ entries, e.1 = key) :
    Overlay ((lastValue key entries).map (key, ·)).toList entries := by
  rcases List.eq_nil_or_concat entries with rfl | ⟨init, e, rfl⟩
  · exact ⟨rfl, fun _ he => by cases he⟩
  · rw [List.concat_eq_append] at h ⊢
    have hkey : e.1 = key := h e (by simp)
    have hlast : lastValue key (init ++ [e]) = some e.2 := by
      rw [lastValue_concat, if_pos hkey]
    rw [hlast]
    refine ⟨?_, fun e' he' => ?_⟩
    · have hall : ∀ k ∈ (init ++ [e]).map (·.1), k = key := by
        intro k hk
        obtain ⟨e', he', rfl⟩ := List.mem_map.mp hk
        exact h e' he'
      exact (distinct_eq_singleton (by simp) hall).symm
    · obtain rfl := List.mem_singleton.mp he'
      exact hlast

/-! ## Lists in sections -/

/-- The entries whose keys have a rank. -/
def ranked (rank : κ → Nat) (n : Nat) (entries : List (κ × α)) : List (κ × α) :=
  entries.filter fun e => rank e.1 = n

section

variable {rank : κ → Nat} {entries : List (κ × α)} {ranks : List Nat}
  {sections : List (List (κ × α))}

omit [DecidableEq κ] in
theorem rank_of_mem_ranked {n : Nat} {key : κ} (h : key ∈ (ranked rank n entries).map (·.1)) :
    rank key = n := by
  obtain ⟨e, he, rfl⟩ := List.mem_map.mp h
  exact of_decide_eq_true (List.mem_filter.mp he).2

omit [DecidableEq κ] in
theorem ranked_append (rank : κ → Nat) (n : Nat) (entries entries' : List (κ × α)) :
    ranked rank n (entries ++ entries') = ranked rank n entries ++ ranked rank n entries' :=
  List.filter_append entries entries'

theorem lastValue_ranked (rank : κ → Nat) (key : κ) (entries : List (κ × α)) :
    lastValue key (ranked rank (rank key) entries) = lastValue key entries :=
  lastValue_filter (p := fun k => decide (rank k = rank key)) (decide_eq_true rfl) entries

/-- The keys of entries, rank by rank and each in its first place. -/
def keysByRank (rank : κ → Nat) (ranks : List Nat) (entries : List (κ × α)) : List κ :=
  ranks.flatMap fun n => distinct ((ranked rank n entries).map (·.1))

/-- Whether each section of a list has the entries of one rank, laid over each other. -/
def InSections (rank : κ → Nat) (entries : List (κ × α)) (ranks : List Nat)
    (sections : List (List (κ × α))) : Prop :=
  List.Forall₂ (fun n part => Overlay part (ranked rank n entries)) ranks sections

theorem InSections.keys (h : InSections rank entries ranks sections) :
    sections.flatten.map (·.1) = keysByRank rank ranks entries := by
  induction h with
  | nil => rfl
  | cons hfirst _ ih =>
    rw [List.flatten_cons, List.map_append, hfirst.keys, ih]
    rfl

theorem InSections.values (h : InSections rank entries ranks sections) {e : κ × α}
    (he : e ∈ sections.flatten) : lastValue e.1 entries = some e.2 := by
  induction h with
  | nil => cases he
  | cons hfirst _ ih =>
    rcases List.mem_append.mp he with he | he
    · have hkey : e.1 ∈ distinct _ := hfirst.keys ▸ List.mem_map_of_mem he
      rw [← lastValue_ranked rank, rank_of_mem_ranked (mem_distinct.mp hkey)]
      exact hfirst.values e he
    · exact ih he

theorem mem_keysByRank (hranks : ∀ key : κ, rank key ∈ ranks) {key : κ} :
    key ∈ keysByRank rank ranks entries ↔ key ∈ entries.map (·.1) := by
  simp only [keysByRank, List.mem_flatMap, mem_distinct]
  constructor
  · rintro ⟨n, -, h⟩
    obtain ⟨e, he, rfl⟩ := List.mem_map.mp h
    exact List.mem_map_of_mem (List.mem_filter.mp he).1
  · intro h
    obtain ⟨e, he, rfl⟩ := List.mem_map.mp h
    exact ⟨rank e.1, hranks e.1,
      List.mem_map_of_mem (List.mem_filter.mpr ⟨he, decide_eq_true rfl⟩)⟩

theorem nodup_keysByRank (hranks : ranks.Nodup) : (keysByRank rank ranks entries).Nodup := by
  refine List.nodup_flatMap.mpr ⟨fun n _ => nodup_distinct _, ?_⟩
  refine List.Pairwise.imp (fun hne key h h' => hne ?_) hranks
  exact (rank_of_mem_ranked (mem_distinct.mp h)).symm.trans
    (rank_of_mem_ranked (mem_distinct.mp h'))

end

namespace Table

theorem names_ofPairs (pairs : List (String × α)) :
    (ofPairs pairs).names = distinct (names pairs) := by
  -- From the right, because the last pair is written last.
  induction pairs using List.reverseRecOn with
  | nil => rfl
  | append_singleton pairs p ih =>
    have hnames : names (pairs ++ [p]) = names pairs ++ [p.1] := List.map_append
    rw [ofPairs_concat, names_insert, hnames, distinct_concat, ih]
    simp only [mem_distinct]

/-- The last value that is written under a name is found there, or else what was there before. -/
theorem get?_insertAll_lastValue (t : Table α) (pairs : List (String × α)) (name : String) :
    (t.insertAll pairs).get? name = (lastValue name pairs).or (t.get? name) := by
  induction pairs using List.reverseRecOn with
  | nil => rfl
  | append_singleton pairs p ih =>
    have hlast : t.insertAll (pairs ++ [p]) = (t.insertAll pairs).insert p.1 p.2 :=
      List.foldl_append
    rw [hlast, get?_insert, lastValue_concat, ih]
    split
    · rfl
    · rfl

theorem get?_ofPairs (pairs : List (String × α)) (name : String) :
    (ofPairs pairs).get? name = lastValue name pairs := by
  rw [ofPairs, get?_insertAll_lastValue, get?_nil, Option.or_none]

theorem overlay_ofPairs (pairs : List (String × α)) : Overlay (ofPairs pairs) pairs where
  keys := names_ofPairs pairs
  values := fun e he => by
    rw [← get?_ofPairs]
    exact get?_of_mem nodup_names_ofPairs he

theorem mem_of_mem_ofPairs {pairs : List (String × α)} {e : String × α} (h : e ∈ ofPairs pairs) :
    e ∈ pairs :=
  mem_of_lastValue ((overlay_ofPairs pairs).values e h)

/-! ### Laying a table over what it was made from -/

/-- A table that was laid over some pairs stays the same when it is laid over them again. -/
theorem ofPairs_append_ofPairs (below above : List (String × α)) :
    ofPairs (below ++ ofPairs (below ++ above)) = ofPairs (below ++ above) := by
  refine ext_get? nodup_names_ofPairs ?_ fun name => ?_
  · have hnames (l : List (String × α)) : names (below ++ l) = names below ++ names l :=
      List.map_append
    rw [names_ofPairs, hnames, names_ofPairs, hnames, distinct_append_distinct]
  · have hsplit : ofPairs (below ++ ofPairs (below ++ above)) =
        (ofPairs below).insertAll (ofPairs (below ++ above)) := List.foldl_append
    rw [hsplit, get?_insertAll nodup_names_ofPairs, get?_ofPairs, get?_ofPairs, lastValue_append,
      Option.or_assoc, Option.or_self]

/-- The same for items that are turned into pairs and back. -/
theorem ofPairs_map_absorb {β : Type} (pair : β → String × α) (item : String × α → β)
    (h : ∀ b, pair (item (pair b)) = pair b) (below above : List β) :
    ofPairs ((below ++ (ofPairs ((below ++ above).map pair)).map item).map pair) =
      ofPairs ((below ++ above).map pair) := by
  have hback : ((ofPairs ((below ++ above).map pair)).map item).map pair =
      ofPairs ((below ++ above).map pair) := by
    rw [List.map_map]
    refine (List.map_congr_left fun e he => ?_).trans (List.map_id _)
    obtain ⟨b, -, rfl⟩ := List.mem_map.mp (mem_of_mem_ofPairs he)
    exact h b
  rw [List.map_append, hback, List.map_append, ofPairs_append_ofPairs]

/-! ### Tables in another order -/

/-- Two tables have the same entries, in whatever order, if they have the same values. -/
theorem perm_of_get? {t t' : Table α} (h : t.names.Nodup) (h' : t'.names.Nodup)
    (hget : ∀ name, t.get? name = t'.get? name) : t.Perm t' := by
  have hnodup : t.Nodup := .of_map _ h
  have hnodup' : t'.Nodup := .of_map _ h'
  refine (List.perm_ext_iff_of_nodup hnodup hnodup').mpr fun e => ⟨fun he => ?_, fun he => ?_⟩
  · exact mem_of_get? ((hget e.1).symm.trans (get?_of_mem h he))
  · exact mem_of_get? ((hget e.1).trans (get?_of_mem h' he))

/-! ### Writing whole tables -/

theorem ofPairs_append (below above : List (String × α)) :
    ofPairs (below ++ above) = (ofPairs below).insertAll above :=
  List.foldl_append

theorem ofPairs_eq_self {t : Table α} (h : t.names.Nodup) : ofPairs t = t := by
  refine ext_get? h ?_ fun name => ?_
  · rw [names_ofPairs, distinct_eq_self h]
  · rw [ofPairs, get?_insertAll h, get?_nil, Option.or_none]

theorem insertAll_eq_ofPairs {t : Table α} (h : t.names.Nodup) (pairs : List (String × α)) :
    t.insertAll pairs = ofPairs (t ++ pairs) := by
  rw [ofPairs_append, ofPairs_eq_self h]

theorem names_insertAll {t : Table α} (h : t.names.Nodup) (pairs : List (String × α)) :
    (t.insertAll pairs).names = distinct (t.names ++ names pairs) := by
  have hnames : names (t ++ pairs) = t.names ++ names pairs := List.map_append
  rw [insertAll_eq_ofPairs h, names_ofPairs, hnames]

/-- Tables that are written one after the other may be gathered from the end. -/
theorem insertAll_assoc {t u v : Table α} (ht : t.names.Nodup) (hu : u.names.Nodup)
    (hv : v.names.Nodup) : (t.insertAll u).insertAll v = t.insertAll (u.insertAll v) := by
  have hall : (u.insertAll v).names.Nodup := nodup_names_insertAll hu
  refine ext_get? (nodup_names_insertAll ht) ?_ fun name => ?_
  · rw [names_insertAll (nodup_names_insertAll ht), names_insertAll ht, names_insertAll ht,
      names_insertAll hu, distinct_distinct_append, distinct_append_distinct_right,
      List.append_assoc]
  · rw [get?_insertAll hv, get?_insertAll hu, get?_insertAll hall, get?_insertAll hv,
      Option.or_assoc]

end Table

end RequestSuite
