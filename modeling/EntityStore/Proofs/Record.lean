import EntityStore.Record
import Mathlib.Data.List.Induction

/-!
# Looking up what was set

What a record holds in a column after others were set or removed. Tables by name are set the
same way, so the replacement in a list of named things is treated first.
-/

namespace EntityStore

section

variable {α : Type} {entries : List (String × α)} {c d : String} {v : α}

/-- Replacing what stands under a name is seen under that name only. -/
theorem find?_replace (entries : List (String × α)) (c d : String) (v : α) :
    (entries.map fun e => if e.1 = c then (c, v) else e).find? (·.1 = d) =
      if c = d then (entries.find? (·.1 = c)).map fun _ => (c, v)
      else entries.find? (·.1 = d) := by
  induction entries with
  | nil => split <;> rfl
  | cons e es ih =>
    by_cases same : c = d
    · subst same
      by_cases here : e.1 = c
      · simp [here]
      · simpa [here] using ih
    · have apart : e.1 = d → e.1 ≠ c := fun wanted here => same (here.symm.trans wanted)
      by_cases here : e.1 = c
      · simp [here, same, ih]
      · simp [List.find?_cons, here, same, ih]

theorem find?_append_of_any_eq_false (absent : entries.any (·.1 = c) = false) :
    (entries ++ [(c, v)]).find? (·.1 = d) =
      if c = d then some (c, v) else entries.find? (·.1 = d) := by
  rw [List.find?_append]
  by_cases same : c = d
  · subst same
    have none : entries.find? (·.1 = c) = none := by
      rw [List.find?_eq_none]
      intro e member
      exact ne_true_of_eq_false (List.any_eq_false.mp absent e member |> eq_false_of_ne_true)
    simp [none]
  · simp [same]

theorem find?_of_any_eq_true (present : entries.any (·.1 = c) = true) :
    ∃ v, entries.find? (·.1 = c) = some (c, v) := by
  obtain ⟨e, member, named⟩ := List.any_eq_true.mp present
  obtain ⟨first, found⟩ := Option.isSome_iff_exists.mp
    (List.find?_isSome (p := (·.1 = c)) |>.mpr ⟨e, member, named⟩)
  have same : first.1 = c := by simpa using List.find?_some found
  exact ⟨first.2, by rw [found, ← same]⟩

theorem find?_filter_ne (entries : List (String × α)) (c d : String) :
    (entries.filter (·.1 ≠ c)).find? (·.1 = d) =
      if c = d then none else entries.find? (·.1 = d) := by
  rw [List.find?_filter]
  split
  · rename_i same
    rw [List.find?_eq_none]
    intro e _
    simp [same]
  · rename_i apart
    congr 1
    funext e
    by_cases here : e.1 = d
    · simp [here, Ne.symm apart]
    · simp [here]

end

section

variable {α : Type} {xs : List α} {name : α → String} {c : String}

theorem findRev?_eq_none : xs.findRev? (name · = c) = none ↔ ∀ x ∈ xs, name x ≠ c := by
  rw [List.findRev?_eq_find?_reverse, List.find?_eq_none]
  simp

theorem of_findRev?_eq_some {x : α} (found : xs.findRev? (name · = c) = some x) :
    x ∈ xs ∧ name x = c := by
  rw [List.findRev?_eq_find?_reverse] at found
  refine ⟨List.mem_reverse.mp (List.mem_of_find?_eq_some found), ?_⟩
  simpa using List.find?_some found

end

namespace Record

variable {r : Record} {c d : String} {v : Value}

theorem contains_eq_isSome (r : Record) (c : String) : r.contains c = (r.get? c).isSome := by
  rw [contains, get?, Option.isSome_map, List.isSome_find?]

theorem mem_columns {r : Record} {c : String} : c ∈ r.columns ↔ (r.get? c).isSome = true := by
  rw [← contains_eq_isSome, contains, columns]
  simp

theorem contains_iff_mem : r.contains c = true ↔ c ∈ r.columns := by
  rw [contains_eq_isSome, mem_columns]

/-- A column that does not read as null is there. -/
theorem get?_of_getD (held : r.getD c ≠ .null) : r.get? c = some (r.getD c) := by
  rw [getD] at held ⊢
  cases there : r.get? c with
  | none =>
    rw [there] at held
    exact absurd rfl held
  | some v => rfl

theorem get?_set (r : Record) (c d : String) (v : Value) :
    (r.set c v).get? d = if c = d then some v else r.get? d := by
  unfold set
  split
  · rename_i present
    obtain ⟨w, found⟩ := find?_of_any_eq_true present
    rw [get?, find?_replace, found]
    split <;> rfl
  · rename_i absent
    rw [get?, find?_append_of_any_eq_false (eq_false_of_ne_true absent)]
    split <;> rfl

theorem getD_set_self (r : Record) (c : String) (v : Value) : (r.set c v).getD c = v := by
  rw [getD, get?_set, if_pos rfl]
  rfl

theorem getD_set_of_ne (apart : c ≠ d) : (r.set c v).getD d = r.getD d := by
  rw [getD, get?_set, if_neg apart, getD]

theorem get?_remove (r : Record) (c d : String) :
    (r.remove c).get? d = if c = d then none else r.get? d := by
  rw [get?, remove, find?_filter_ne]
  split <;> rfl

/-- A column keeps its value unless it is among those that are set. -/
theorem get?_setAll_of_notMem {pairs : List (String × Value)} (apart : ∀ p ∈ pairs, p.1 ≠ d) :
    (r.setAll pairs).get? d = r.get? d := by
  induction pairs generalizing r with
  | nil => rfl
  | cons p ps ih =>
    have rest : ((r.set p.1 p.2).setAll ps).get? d = (r.set p.1 p.2).get? d :=
      ih fun q member => apart q (List.mem_cons_of_mem p member)
    rw [get?_set, if_neg (apart p List.mem_cons_self)] at rest
    exact rest

/-- A column holds what it held or what was set there. -/
theorem get?_setAll (r : Record) (pairs : List (String × Value)) (d : String) :
    (r.setAll pairs).get? d = r.get? d ∨
      ∃ p ∈ pairs, p.1 = d ∧ (r.setAll pairs).get? d = some p.2 := by
  induction pairs generalizing r with
  | nil => exact .inl rfl
  | cons p ps ih =>
    rcases ih (r.set p.1 p.2) with kept | ⟨q, member, named, given⟩
    · rw [get?_set] at kept
      by_cases here : p.1 = d
      · rw [if_pos here] at kept
        exact .inr ⟨p, List.mem_cons_self, here, kept⟩
      · rw [if_neg here] at kept
        exact .inl kept
    · exact .inr ⟨q, List.mem_cons_of_mem p member, named, given⟩

theorem setAll_concat (r : Record) (pairs : List (String × Value)) (p : String × Value) :
    r.setAll (pairs ++ [p]) = (r.setAll pairs).set p.1 p.2 := List.foldl_append

/-- What was set in a column is there, and what was there stays where nothing was set. -/
theorem get?_setAll_eq_or (r : Record) (pairs : List (String × Value)) (d : String) :
    (r.setAll pairs).get? d = ((ofPairs pairs).get? d).or (r.get? d) := by
  rw [ofPairs]
  induction pairs using List.reverseRecOn with
  | nil => exact Option.none_or.symm
  | append_singleton pairs p ih =>
    rw [setAll_concat, setAll_concat, get?_set, get?_set]
    by_cases here : p.1 = d
    · rw [if_pos here, if_pos here, Option.some_or]
    · rw [if_neg here, if_neg here]
      exact ih

/-- Of columns that are set twice the later value is kept. -/
theorem get?_ofPairs_append (front back : List (String × Value)) (d : String) :
    (ofPairs (front ++ back)).get? d = ((ofPairs back).get? d).or ((ofPairs front).get? d) := by
  have behind : ofPairs (front ++ back) = (ofPairs front).setAll back := List.foldl_append
  rw [behind, get?_setAll_eq_or]

theorem get?_ofPairs_of_notMem {pairs : List (String × Value)} (absent : d ∉ pairs.map (·.1)) :
    (ofPairs pairs).get? d = none := by
  apply get?_setAll_of_notMem
  intro p member same
  exact absent (List.mem_map.mpr ⟨p, member, same⟩)

theorem get?_ofPairs_cons (p : String × Value) (pairs : List (String × Value)) (d : String) :
    (ofPairs (p :: pairs)).get? d =
      ((ofPairs pairs).get? d).or (if p.1 = d then some p.2 else none) := by
  have first : (ofPairs [p]).get? d = if p.1 = d then some p.2 else none :=
    get?_set .empty p.1 d p.2
  rw [← List.singleton_append, get?_ofPairs_append, first]

theorem exists_get?_ofPairs {pairs : List (String × Value)} (present : d ∈ pairs.map (·.1)) :
    ∃ v, (ofPairs pairs).get? d = some v := by
  induction pairs with
  | nil => cases present
  | cons p ps ih =>
    rw [get?_ofPairs_cons]
    by_cases later : d ∈ ps.map (·.1)
    · obtain ⟨v, held⟩ := ih later
      exact ⟨v, by rw [held, Option.some_or]⟩
    · have here : p.1 = d := by simpa [later, eq_comm] using present
      exact ⟨p.2, by rw [get?_ofPairs_of_notMem later, Option.none_or, if_pos here]⟩

/-- Of columns that differ each one holds what it was given. -/
theorem get?_ofPairs_of_mem {pairs : List (String × Value)} (distinct : (pairs.map (·.1)).Nodup)
    {p : String × Value} (member : p ∈ pairs) : (ofPairs pairs).get? p.1 = some p.2 := by
  obtain ⟨front, back, rfl⟩ := List.append_of_mem member
  have behind : p.1 ∉ back.map (·.1) := by
    rw [List.map_append, List.map_cons] at distinct
    exact (List.nodup_cons.mp (List.nodup_append.mp distinct).2.1).1
  rw [get?_ofPairs_append, get?_ofPairs_cons, get?_ofPairs_of_notMem behind, Option.none_or,
    if_pos rfl, Option.some_or]

/-- Columns that differ are recorded one after the other. -/
theorem entries_ofPairs {pairs : List (String × Value)} (distinct : (pairs.map (·.1)).Nodup) :
    (ofPairs pairs).entries = pairs := by
  rw [ofPairs]
  induction pairs using List.reverseRecOn with
  | nil => rfl
  | append_singleton pairs p ih =>
    rw [List.map_append, List.nodup_append] at distinct
    obtain ⟨before, -, apart⟩ := distinct
    have new : (empty.setAll pairs).contains p.1 = false := by
      rw [contains, ih before, List.any_eq_false]
      intro q member same
      exact apart q.1 (List.mem_map_of_mem member) p.1 (by simp) (by simpa using same)
    rw [setAll_concat, set, new, if_neg Bool.false_ne_true, ih before]

theorem columns_set (r : Record) (c : String) (v : Value) :
    (r.set c v).columns = if r.contains c then r.columns else r.columns ++ [c] := by
  rw [set]
  split
  · rw [columns, columns, List.map_map]
    refine List.map_congr_left fun e _ => ?_
    by_cases here : e.1 = c
    · simp [here]
    · simp [here]
  · simp [columns]

theorem nodup_columns_set (distinct : r.columns.Nodup) (c : String) (v : Value) :
    (r.set c v).columns.Nodup := by
  rw [columns_set]
  split
  · exact distinct
  · rename_i absent
    rw [contains_iff_mem] at absent
    exact List.nodup_append.mpr ⟨distinct, List.nodup_cons.mpr ⟨List.not_mem_nil, .nil⟩,
      fun d member e new same => absent (by rwa [← List.mem_singleton.mp new, ← same])⟩

/-- No column is recorded twice, whatever is set. -/
theorem nodup_columns_ofPairs (pairs : List (String × Value)) : (ofPairs pairs).columns.Nodup := by
  rw [ofPairs]
  induction pairs using List.reverseRecOn with
  | nil => exact List.nodup_nil
  | append_singleton pairs p ih =>
    rw [setAll_concat]
    exact nodup_columns_set ih p.1 p.2

theorem columns_ofPairs {pairs : List (String × Value)} (distinct : (pairs.map (·.1)).Nodup) :
    (ofPairs pairs).columns = pairs.map (·.1) := by
  rw [columns, entries_ofPairs distinct]

/-- Setting what a record holds apart from one column leaves that column. -/
theorem get?_setAll_remove {given : Record} (distinct : given.columns.Nodup) (r : Record)
    (c d : String) : (r.setAll (given.remove c).entries).get? d =
      if c = d then r.get? d else (given.get? d).or (r.get? d) := by
  have rest : ((given.remove c).entries.map (·.1)).Nodup :=
    (List.filter_sublist.map Prod.fst).nodup distinct
  have same : ofPairs (given.remove c).entries = given.remove c :=
    congrArg Record.mk (entries_ofPairs rest)
  rw [get?_setAll_eq_or, same, get?_remove]
  split <;> rfl

/-- A projection keeps what a row holds in the named columns. -/
theorem get?_project (r : Record) (columns : List String) (d : String) :
    (r.project columns).get? d = if d ∈ columns then r.get? d else none := by
  rw [project]
  induction columns with
  | nil => rfl
  | cons c columns ih =>
    cases held : r.get? c with
    | none =>
      rw [List.filterMap_cons_none (by rw [held]; rfl), ih]
      by_cases here : d = c
      · subst here
        simp [held]
      · simp [here]
    | some v =>
      rw [List.filterMap_cons_some (by rw [held]; rfl), get?_ofPairs_cons, ih]
      by_cases here : d = c
      · subst here
        split <;> simp [held]
      · simp [here, Ne.symm here]

theorem getD_setAll (r : Record) (pairs : List (String × Value)) (d : String) :
    (r.setAll pairs).getD d = ((ofPairs pairs).get? d).getD (r.getD d) := by
  rw [getD, get?_setAll_eq_or]
  cases (ofPairs pairs).get? d <;> rfl

end Record

end EntityStore
