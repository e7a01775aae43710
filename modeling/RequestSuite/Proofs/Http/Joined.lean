import Mathlib.Data.List.Induction
import Mathlib.Data.List.Nodup
import RequestSuite.Http.Response
import RequestSuite.Proofs.Request.Named

/-!
# Joined headers

The headers of a reply are gathered from its header lines one line after the other: the value of a
line is put behind what is known under its name, or starts a new header.  What comes of this is said
without the gathering (`Reply.JoinedFrom`): each name once, in lower case and at its first place,
with the values of all its lines joined in their order.  `Reply.headers_ofLines` says that the
headers of every reply are so, that they are found under any spelling and shown line by line, and
that gathering them once more changes nothing.
-/

namespace RequestSuite

/-! ## Elements by their keys -/

/-- Elements that are taken key by key, for distinct keys, are those that have one of the keys. -/
theorem flatMap_filter_perm {κ α : Type} [DecidableEq κ] (key : α → κ) {keys : List κ}
    (h : keys.Nodup) (l : List α) :
    (keys.flatMap fun k => l.filter (key · = k)).Perm (l.filter (key · ∈ keys)) := by
  induction keys with
  | nil => simp
  | cons k rest ih =>
    obtain ⟨hk, hrest⟩ := List.nodup_cons.mp h
    have hfirst : (l.filter (key · ∈ k :: rest)).filter (key · = k) = l.filter (key · = k) := by
      rw [List.filter_filter]
      refine List.filter_congr fun a _ => ?_
      by_cases ha : key a = k <;> simp [ha]
    -- The keys are distinct, so what has another key has one of the rest.
    have hothers : (l.filter (key · ∈ k :: rest)).filter (fun a => !decide (key a = k)) =
        l.filter (key · ∈ rest) := by
      rw [List.filter_filter]
      refine List.filter_congr fun a _ => ?_
      by_cases ha : key a = k
      · subst ha
        simp [hk]
      · simp [ha]
    have hsplit := List.filter_append_perm (key · = k) (l.filter (key · ∈ k :: rest))
    rw [hfirst, hothers] at hsplit
    rw [List.flatMap_cons]
    exact ((ih hrest).append_left _).trans hsplit

namespace Reply

/-! ## What headers are after joining -/

/-- The values of the header lines with a name in any letter case, in the order of the lines. -/
def valuesOf (name : String) (lines : List (String × String)) : List String :=
  (lines.filter fun line => Text.sameIgnoringCase line.1 name).map (·.2)

/-- Whether headers are what header lines come to where lines with the same name are joined. -/
structure JoinedFrom (lines : List (String × String)) (headers : Table String) : Prop where
  /-- All names are in lower case. -/
  lower : ∀ h ∈ headers, Text.lower h.1 = h.1
  /-- No name comes twice. -/
  nodup : headers.names.Nodup
  /-- The names stand in the order in which they come first. -/
  order : headers.names = distinct (lines.map fun line => Text.lower line.1)
  /-- A value is made of the values of all lines with its name, in their order. -/
  value : ∀ h ∈ headers, h.2 = ", ".intercalate (valuesOf h.1 lines)
  /-- Nothing is lost: taken header by header, the values are those of all lines. -/
  complete : (headers.flatMap fun h => valuesOf h.1 lines).Perm (lines.map (·.2))

theorem valuesOf_concat (name : String) (lines : List (String × String)) (line : String × String) :
    valuesOf name (lines ++ [line]) =
      if Text.sameIgnoringCase line.1 name then valuesOf name lines ++ [line.2]
      else valuesOf name lines := by
  rw [valuesOf, List.filter_append, List.map_append, List.filter_singleton, ← valuesOf]
  cases Text.sameIgnoringCase line.1 name
  · exact List.append_nil _
  · rfl

/-- The value that some values of a header are joined to; nothing if there are none. -/
def joined? (values : List String) : Option String :=
  if values = [] then none else some (", ".intercalate values)

/-- What is known under a name with one more value put behind it. -/
def extended (known : Option String) (value : String) : String :=
  known.elim value (· ++ ", " ++ value)

theorem joined?_concat (values : List String) (value : String) :
    joined? (values ++ [value]) = some (extended (joined? values) value) := by
  have hne : values ++ [value] ≠ [] := List.append_ne_nil_of_right_ne_nil _ (List.cons_ne_nil _ _)
  rw [joined?, if_neg hne]
  by_cases h : values = []
  · subst h
    rfl
  · rw [joined?, if_neg h, extended, Option.elim_some,
      String.intercalate_append_of_ne_nil h (List.cons_ne_nil _ _), String.intercalate_singleton]

/-! ## One line -/

section

variable {headers : Table String} {line : String × String} {name : String}

/-- A line changes nothing but the value under its own name. -/
theorem addHeader_eq (headers : Table String) (line : String × String) :
    addHeader headers line = headers.insert (Text.lower line.1)
      (extended (headers.get? (Text.lower line.1)) line.2) := by
  rw [addHeader]
  rcases hget : headers.get? (Text.lower line.1) with _ | known
  · exact (Table.insert_of_get?_eq_none hget line.2).symm
  · rfl

theorem names_addHeader : (addHeader headers line).names =
    if Text.lower line.1 ∈ headers.names then headers.names
    else headers.names ++ [Text.lower line.1] := by
  rw [addHeader_eq, Table.names_insert]

theorem get?_addHeader : (addHeader headers line).get? name =
    if Text.lower line.1 = name then some (extended (headers.get? name) line.2)
    else headers.get? name := by
  rw [addHeader_eq, Table.get?_insert]
  by_cases h : Text.lower line.1 = name
  · rw [if_pos h, if_pos h, h]
  · rw [if_neg h, if_neg h]

end

/-! ## All lines -/

section

variable (lines : List (String × String))

theorem mergeHeaders_concat (line : String × String) :
    mergeHeaders (lines ++ [line]) = addHeader (mergeHeaders lines) line :=
  List.foldl_append

theorem names_mergeHeaders :
    (mergeHeaders lines).names = distinct (lines.map fun line => Text.lower line.1) := by
  -- From the right, because the last line is added last.
  induction lines using List.reverseRecOn with
  | nil => rfl
  | append_singleton lines line ih =>
    rw [mergeHeaders_concat, names_addHeader, ih, List.map_append, List.map_singleton,
      distinct_concat]
    simp only [mem_distinct]

theorem get?_mergeHeaders {name : String} (hname : Text.lower name = name) :
    (mergeHeaders lines).get? name = joined? (valuesOf name lines) := by
  induction lines using List.reverseRecOn with
  | nil => rfl
  | append_singleton lines line ih =>
    have hsame : Text.sameIgnoringCase line.1 name = true ↔ Text.lower line.1 = name := by
      rw [Text.sameIgnoringCase, hname, beq_iff_eq]
    rw [mergeHeaders_concat, get?_addHeader, ih, valuesOf_concat]
    by_cases h : Text.lower line.1 = name
    · rw [if_pos h, if_pos (hsame.mpr h), joined?_concat]
    · rw [if_neg h, if_neg fun hline => h (hsame.mp hline)]

theorem nodup_names_mergeHeaders : (mergeHeaders lines).names.Nodup := by
  rw [names_mergeHeaders]
  exact nodup_distinct _

theorem lower_name_mergeHeaders : ∀ h ∈ mergeHeaders lines, Text.lower h.1 = h.1 := by
  intro h hh
  have hmem : h.1 ∈ (mergeHeaders lines).names := List.mem_map_of_mem hh
  rw [names_mergeHeaders, mem_distinct] at hmem
  obtain ⟨line, -, hline⟩ := List.mem_map.mp hmem
  rw [← hline, Text.lower_lower]

/-- Gathering header by header takes every line just once. -/
theorem flatMap_valuesOf_mergeHeaders :
    ((mergeHeaders lines).flatMap fun h => valuesOf h.1 lines).Perm (lines.map (·.2)) := by
  have hvalues : (mergeHeaders lines).flatMap (fun h => valuesOf h.1 lines) =
      ((mergeHeaders lines).names.flatMap fun name =>
        lines.filter fun line => Text.lower line.1 = name).map (·.2) := by
    rw [Table.names, List.flatMap_map, List.map_flatMap]
    refine List.flatMap_congr fun h hh => ?_
    rw [valuesOf]
    congr 1
    refine List.filter_congr fun line _ => ?_
    rw [Text.sameIgnoringCase, lower_name_mergeHeaders lines h hh]
    rfl
  have hall : lines.filter (fun line => Text.lower line.1 ∈ (mergeHeaders lines).names) = lines := by
    refine List.filter_eq_self.mpr fun line hline => decide_eq_true ?_
    rw [names_mergeHeaders, mem_distinct]
    exact List.mem_map_of_mem hline
  have hperm := flatMap_filter_perm (fun line : String × String => Text.lower line.1)
    (nodup_names_mergeHeaders lines) lines
  rw [hall] at hperm
  rw [hvalues]
  exact hperm.map _

theorem joinedFrom_mergeHeaders : JoinedFrom lines (mergeHeaders lines) where
  lower := lower_name_mergeHeaders lines
  nodup := nodup_names_mergeHeaders lines
  order := names_mergeHeaders lines
  value := by
    intro h hh
    have hget := Table.get?_of_mem (nodup_names_mergeHeaders lines) hh
    rw [get?_mergeHeaders lines (lower_name_mergeHeaders lines h hh), joined?] at hget
    split at hget
    · cases hget
    · exact (Option.some.inj hget).symm
  complete := flatMap_valuesOf_mergeHeaders lines

/-- Headers with distinct names in lower case are left as they are. -/
theorem mergeHeaders_eq_self {headers : Table String} (hnodup : headers.names.Nodup)
    (hlower : ∀ h ∈ headers, Text.lower h.1 = h.1) : mergeHeaders headers = headers := by
  induction headers using List.reverseRecOn with
  | nil => rfl
  | append_singleton before h ih =>
    have hnames : Table.names (before ++ [h]) = Table.names before ++ [h.1] := List.map_append
    rw [hnames] at hnodup
    obtain ⟨hbefore, -, hdisjoint⟩ := List.nodup_append.mp hnodup
    have hnew : h.1 ∉ Table.names before := fun hmem =>
      hdisjoint _ hmem _ (List.mem_singleton_self _) rfl
    rw [mergeHeaders_concat, ih hbefore fun e he => hlower e (List.mem_append_left _ he), addHeader,
      hlower h (List.mem_append_right _ (List.mem_singleton_self _)),
      Table.get?_eq_none_iff.mpr hnew]

end

/-! ## What is shown -/

/-- A header as a line. -/
def lineText (h : String × String) : String :=
  h.1 ++ ": " ++ h.2

theorem foldl_lines (start : String) (headers : Table String) :
    headers.foldl (fun out h => out ++ "\n" ++ h.1 ++ ": " ++ h.2) start =
      "\n".intercalate (start :: headers.map lineText) := by
  induction headers generalizing start with
  | nil => simp
  | cons h rest ih =>
    rw [List.foldl_cons, ih, List.map_cons, String.intercalate_cons_cons, lineText]
    simp only [String.append_assoc, String.intercalate_cons_append]

/-! ## Whole replies -/

/-- **The headers of a reply.**  They are the joined header lines; each is found under every
spelling of its name, and nothing is found under a name that no line has.  What is shown is the
version with the status and then one line for each header.  Headers that are taken for header lines
again stay the same. -/
theorem headers_ofLines (status : Status) (version : String) (lines : List (String × String))
    (body : String) (duration : Nat) :
    let r := Response.answered (ofLines status version lines body) duration
    JoinedFrom lines r.headers ∧
      (∀ h ∈ r.headers, ∀ name, Text.sameIgnoringCase h.1 name = true →
        r.header? name = some h.2) ∧
      (∀ name, r.header? name = none ↔
        ∀ line ∈ lines, Text.sameIgnoringCase line.1 name = false) ∧
      r.headerBlock =
        "\n".intercalate ((version ++ " " ++ status.text) :: r.headers.map lineText) ∧
      ofLines status version r.headers body = ofLines status version lines body := by
  intro r
  have hjoined : JoinedFrom lines r.headers := joinedFrom_mergeHeaders lines
  have hheader (name : String) : r.header? name = r.headers.get? (Text.lower name) :=
    Table.find?_eq_get?_lower hjoined.lower name
  refine ⟨hjoined, fun h hh name hname => ?_, fun name => ?_, foldl_lines _ _, ?_⟩
  · rw [hheader, ← eq_of_beq hname, hjoined.lower h hh]
    exact Table.get?_of_mem hjoined.nodup hh
  · rw [hheader, Table.get?_eq_none_iff, hjoined.order, mem_distinct]
    simp [Text.sameIgnoringCase]
  · exact congrArg (Reply.mk status version · body)
      (mergeHeaders_eq_self hjoined.nodup hjoined.lower)

/-- Two headers in several spellings, one of them with an empty value in front. -/
def cookieLines : List (String × String) :=
  [("Set-Cookie", "a=1"), ("Via", ""), ("set-COOKIE", "b=2"), ("VIA", "1.1 x"), ("set-cookie", "")]

theorem headers_ofLines_cookies :
    let r := Response.answered (ofLines ⟨200, by decide, by decide⟩ "HTTP/1.1" cookieLines "") 0
    r.headers = [("set-cookie", "a=1, b=2, "), ("via", ", 1.1 x")] ∧
      valuesOf "set-cookie" cookieLines = ["a=1", "b=2", ""] ∧
      r.header? "SET-cookie" = some "a=1, b=2, " ∧ r.header? "cookie" = none ∧
      r.headerBlock = "HTTP/1.1 200 OK\nset-cookie: a=1, b=2, \nvia: , 1.1 x" ∧
      mergeHeaders r.headers = r.headers := by
  intro r
  have hheaders : r.headers = [("set-cookie", "a=1, b=2, "), ("via", ", 1.1 x")] := rfl
  obtain ⟨-, hfound, hmissing, hblock, hagain⟩ :=
    headers_ofLines ⟨200, by decide, by decide⟩ "HTTP/1.1" cookieLines "" 0
  refine ⟨hheaders, rfl, ?_, (hmissing "cookie").mpr (by decide), ?_,
    congrArg Reply.headers hagain⟩
  · exact hfound ("set-cookie", "a=1, b=2, ") (by decide) "SET-cookie" (by decide)
  · exact hblock.trans (by decide +kernel)

end Reply

end RequestSuite
