import EntityStore.Proofs.Record
import Mathlib.Data.List.InsertIdx
import Mathlib.Data.List.Nodup

/-!
# Records after any history

A record that has gone through settings, removals, projections and collections. It is told twice:
as one list of entries, and as two lists, the names and the values, that are only tied together by
their places. The two stay in step, no name is there twice, and what a column holds can be read off
what was done to it last.
-/

namespace EntityStore

section

variable {entries : List (String × Value)} {c : String} {v : Value}

/-- Where names differ, the value under a name is replaced at its place. -/
theorem replace_eq_set (distinct : (entries.map (·.1)).Nodup) :
    (entries.map fun e => if e.1 = c then (c, v) else e) =
      entries.set ((entries.map (·.1)).idxOf c) (c, v) := by
  induction entries with
  | nil => rfl
  | cons e es ih =>
    obtain ⟨new, distinct⟩ := List.nodup_cons.mp distinct
    rw [List.map_cons, List.map_cons]
    by_cases here : e.1 = c
    · have others : (es.map fun e => if e.1 = c then (c, v) else e) = es := by
        refine (List.map_congr_left fun f member => ?_).trans (List.map_id es)
        exact if_neg fun same => new (List.mem_map.mpr ⟨f, member, same.trans here.symm⟩)
      rw [if_pos here, others, List.idxOf_cons_eq _ here, List.set_cons_zero]
    · rw [if_neg here, List.idxOf_cons_ne _ here, List.set_cons_succ, ih distinct]

/-- Where names differ, what stands under a name is removed at its place. -/
theorem filter_ne_eq_eraseIdx (distinct : (entries.map (·.1)).Nodup) :
    entries.filter (·.1 ≠ c) = entries.eraseIdx ((entries.map (·.1)).idxOf c) := by
  induction entries with
  | nil => rfl
  | cons e es ih =>
    obtain ⟨new, distinct⟩ := List.nodup_cons.mp distinct
    rw [List.map_cons]
    by_cases here : e.1 = c
    · have others : es.filter (·.1 ≠ c) = es := by
        rw [List.filter_eq_self]
        intro f member
        exact decide_eq_true fun same =>
          new (List.mem_map.mpr ⟨f, member, same.trans here.symm⟩)
      rw [List.filter_cons_of_neg (by simpa using here), others, List.idxOf_cons_eq _ here,
        List.eraseIdx_cons_zero]
    · rw [List.filter_cons_of_pos (by simpa using here), List.idxOf_cons_ne _ here,
        List.eraseIdx_cons_succ, ih distinct]

theorem idxOf?_eq_ite (names : List String) (c : String) :
    names.idxOf? c = if c ∈ names then some (names.idxOf c) else none := by
  induction names with
  | nil => rfl
  | cons n names ih =>
    rw [List.idxOf?_cons, ih]
    by_cases here : n = c
    · simp [here]
    · rw [List.idxOf_cons_ne _ here]
      by_cases later : c ∈ names <;> simp [here, Ne.symm here, later]

end

namespace Record

/-! ## Names and values apart -/

/-- The names and the values of a record; what belongs together has the same place. -/
structure Halves where
  columns : List String
  values : List Value

namespace Halves

def empty : Halves := ⟨[], []⟩

def get? (h : Halves) (column : String) : Option Value :=
  (h.columns.idxOf? column).bind (h.values[·]?)

def set (h : Halves) (column : String) (value : Value) : Halves :=
  match h.columns.idxOf? column with
  | some i => { h with values := h.values.set i value }
  | none => ⟨h.columns ++ [column], h.values ++ [value]⟩

def remove (h : Halves) (column : String) : Halves :=
  match h.columns.idxOf? column with
  | some i => ⟨h.columns.eraseIdx i, h.values.eraseIdx i⟩
  | none => h

def ofPairs (pairs : List (String × Value)) : Halves := pairs.foldl (fun h p => h.set p.1 p.2) empty

/-- Copies the named columns one after the other. -/
def project (h : Halves) (columns : List String) : Halves :=
  columns.foldl
    (fun copy c => match h.get? c with
      | some v => copy.set c v
      | none => copy)
    empty

end Halves

def halves (r : Record) : Halves := ⟨r.columns, r.values⟩

/-! ## Histories -/

inductive Edit where
  | set (column : String) (value : Value)
  | remove (column : String)
  | project (columns : List String)
  /-- Starts over with these pairs. -/
  | collect (pairs : List (String × Value))

namespace Edit

def apply (r : Record) : Edit → Record
  | .set c v => r.set c v
  | .remove c => r.remove c
  | .project cs => r.project cs
  | .collect ps => ofPairs ps

def applyHalves (h : Halves) : Edit → Halves
  | .set c v => h.set c v
  | .remove c => h.remove c
  | .project cs => h.project cs
  | .collect ps => .ofPairs ps

/-- What becomes of a column, in order: a value that is set, or nothing where it is removed. -/
def marks (c : String) : Edit → List (Option Value)
  | .set d v => if d = c then [some v] else []
  | .remove d => if d = c then [none] else []
  | .project ds => if c ∈ ds then [] else [none]
  | .collect ps => none :: (ps.filter (·.1 = c)).map fun p => some p.2

end Edit

def edited (edits : List Edit) : Record := edits.foldl Edit.apply empty

def Halves.edited (edits : List Edit) : Halves := edits.foldl Edit.applyHalves .empty

/-! ## The two in step -/

section

variable {r : Record} {c : String} {v : Value}

theorem halves_get? (r : Record) (c : String) : r.halves.get? c = r.get? c := by
  have found (entries : List (String × Value)) :
      ((entries.map (·.1)).idxOf? c).bind ((entries.map (·.2))[·]?) =
        (entries.find? (·.1 = c)).map (·.2) := by
    induction entries with
    | nil => rfl
    | cons e es ih =>
      rw [List.map_cons, List.map_cons, List.idxOf?_cons, List.find?_cons]
      by_cases here : e.1 = c
      · simp [here]
      · simpa [here, Option.bind_map, Function.comp_def] using ih
  exact found r.entries

theorem Halves.set_eq_ite (h : Halves) (c : String) (v : Value) :
    h.set c v =
      if c ∈ h.columns then ⟨h.columns, h.values.set (h.columns.idxOf c) v⟩
      else ⟨h.columns ++ [c], h.values ++ [v]⟩ := by
  rw [set, idxOf?_eq_ite]
  by_cases present : c ∈ h.columns
  · simp only [if_pos present]
  · simp only [if_neg present]

/-- Behind the last place nothing is removed. -/
theorem Halves.remove_eq {h : Halves} (length : h.columns.length = h.values.length) (c : String) :
    h.remove c = ⟨h.columns.erase c, h.values.eraseIdx (h.columns.idxOf c)⟩ := by
  rw [remove, idxOf?_eq_ite, ← List.eraseIdx_idxOf_eq_erase]
  by_cases present : c ∈ h.columns
  · simp only [if_pos present]
  · have behind : h.columns.idxOf c = h.columns.length := List.idxOf_eq_length present
    rw [List.eraseIdx_of_length_le (Nat.le_of_eq behind.symm),
      List.eraseIdx_of_length_le (Nat.le_of_eq (length.symm.trans behind.symm))]
    simp only [if_neg present]

theorem length_columns (r : Record) : r.columns.length = r.values.length := by
  rw [columns, Record.values, List.length_map, List.length_map]

theorem columns_remove (distinct : r.columns.Nodup) (c : String) :
    (r.remove c).columns = r.columns.erase c := by
  rw [columns, columns, remove, filter_ne_eq_eraseIdx distinct, ← List.eraseIdx_map,
    List.eraseIdx_idxOf_eq_erase]

theorem halves_set (distinct : r.columns.Nodup) (c : String) (v : Value) :
    (r.set c v).halves = r.halves.set c v := by
  rw [Halves.set_eq_ite, halves, halves, columns_set]
  by_cases present : c ∈ r.columns
  · have values : (r.set c v).values = r.values.set (r.columns.idxOf c) v := by
      rw [set, if_pos (contains_iff_mem.mpr present), Record.values, replace_eq_set distinct,
        List.map_set]
      rfl
    rw [values, if_pos (contains_iff_mem.mpr present), if_pos present]
  · have values : (r.set c v).values = r.values ++ [v] := by
      rw [set, if_neg (contains_iff_mem.not.mpr present), Record.values, List.map_append]
      rfl
    rw [values, if_neg (contains_iff_mem.not.mpr present), if_neg present]

theorem halves_remove (distinct : r.columns.Nodup) (c : String) :
    (r.remove c).halves = r.halves.remove c := by
  have values : (r.remove c).values = r.values.eraseIdx (r.columns.idxOf c) := by
    rw [Record.values, remove, filter_ne_eq_eraseIdx distinct, ← List.eraseIdx_map]
    rfl
  rw [Halves.remove_eq (length_columns r), halves, halves, columns_remove distinct, values]

theorem halves_ofPairs (pairs : List (String × Value)) :
    (ofPairs pairs).halves = Halves.ofPairs pairs := by
  induction pairs using List.reverseRecOn with
  | nil => rfl
  | append_singleton pairs p ih =>
    have last : ofPairs (pairs ++ [p]) = (ofPairs pairs).set p.1 p.2 := setAll_concat ..
    have lastHalves : Halves.ofPairs (pairs ++ [p]) = (Halves.ofPairs pairs).set p.1 p.2 :=
      List.foldl_append
    rw [last, lastHalves, halves_set (nodup_columns_ofPairs pairs), ih]

theorem halves_project (r : Record) (names : List String) :
    (r.project names).halves = r.halves.project names := by
  rw [project, halves_ofPairs, Halves.ofPairs, Halves.project, List.foldl_filterMap]
  congr 1
  funext copy c
  rw [halves_get?]
  cases r.get? c <;> rfl

/-- Of the values collected for a column the last one is kept. -/
theorem get?_ofPairs (pairs : List (String × Value)) (c : String) :
    (ofPairs pairs).get? c = ((pairs.filter (·.1 = c)).getLast?).map (·.2) := by
  induction pairs with
  | nil => rfl
  | cons p ps ih =>
    rw [get?_ofPairs_cons, ih]
    by_cases here : p.1 = c
    · rw [List.filter_cons_of_pos (by simpa using here), List.getLast?_cons, if_pos here]
      cases (ps.filter (·.1 = c)).getLast? <;> rfl
    · rw [List.filter_cons_of_neg (by simpa using here), if_neg here, Option.or_none]

end

namespace Edit

variable {r : Record}

/-- No edit makes a name stand twice. -/
theorem nodup_apply (distinct : r.columns.Nodup) (e : Edit) : (e.apply r).columns.Nodup := by
  cases e with
  | set c v => exact nodup_columns_set distinct c v
  | remove c =>
    rw [apply, columns_remove distinct]
    exact distinct.erase c
  | project cs => exact nodup_columns_ofPairs _
  | collect ps => exact nodup_columns_ofPairs ps

/-- An edit does the same to the two lists as to the list of entries. -/
theorem halves_apply (distinct : r.columns.Nodup) (e : Edit) :
    (e.apply r).halves = e.applyHalves r.halves := by
  cases e with
  | set c v => exact halves_set distinct c v
  | remove c => exact halves_remove distinct c
  | project cs => exact halves_project r cs
  | collect ps => exact halves_ofPairs ps

/-- A column holds what became of it last, or what it held where nothing became of it. -/
theorem get?_apply (r : Record) (e : Edit) (c : String) :
    (e.apply r).get? c = (e.marks c).getLast?.getD (r.get? c) := by
  cases e with
  | set d v =>
    rw [apply, get?_set, marks]
    split <;> rfl
  | remove d =>
    rw [apply, get?_remove, marks]
    split <;> rfl
  | project ds =>
    rw [apply, get?_project, marks]
    split <;> rfl
  | collect ps =>
    rw [apply, get?_ofPairs, marks, List.getLast?_cons, List.getLast?_map]
    cases (ps.filter (·.1 = c)).getLast? <;> rfl

end Edit

/-! ## The laws -/

theorem edited_concat (edits : List Edit) (e : Edit) :
    edited (edits ++ [e]) = e.apply (edited edits) := List.foldl_append

theorem Halves.edited_concat (edits : List Edit) (e : Edit) :
    Halves.edited (edits ++ [e]) = e.applyHalves (Halves.edited edits) := List.foldl_append

theorem nodup_edited (edits : List Edit) : (edited edits).columns.Nodup := by
  induction edits using List.reverseRecOn with
  | nil => exact List.nodup_nil
  | append_singleton edits e ih =>
    rw [edited_concat]
    exact e.nodup_apply ih

theorem halves_edited (edits : List Edit) : (edited edits).halves = Halves.edited edits := by
  induction edits using List.reverseRecOn with
  | nil => rfl
  | append_singleton edits e ih =>
    rw [Halves.edited_concat, ← ih, ← e.halves_apply (nodup_edited edits), edited_concat]

theorem get?_edited (edits : List Edit) (c : String) :
    (edited edits).get? c = (edits.flatMap (Edit.marks c)).getLast?.join := by
  induction edits using List.reverseRecOn with
  | nil => rfl
  | append_singleton edits e ih =>
    rw [edited_concat, Edit.get?_apply, ih, List.flatMap_append, List.flatMap_singleton,
      List.getLast?_append]
    cases (e.marks c).getLast? <;> rfl

/-- Pairs are collected under their names in the order of first mention. -/
theorem columns_ofPairs_eq (pairs : List (String × Value)) :
    (ofPairs pairs).columns = (pairs.map (·.1)).eraseDups := by
  induction pairs using List.reverseRecOn with
  | nil => rfl
  | append_singleton pairs p ih =>
    have last : ofPairs (pairs ++ [p]) = (ofPairs pairs).set p.1 p.2 := setAll_concat ..
    have known : (ofPairs pairs).contains p.1 = (pairs.map (·.1)).contains p.1 := by
      rw [Bool.eq_iff_iff, contains_iff_mem, ih, List.mem_eraseDups, List.contains_iff_mem]
    rw [last, columns_set, known, ih, List.map_append, List.eraseDups_append, List.map_singleton,
      List.removeAll, List.filter_singleton, List.elem_eq_contains]
    cases (pairs.map (·.1)).contains p.1
    · rfl
    · exact (List.append_nil _).symm

theorem columns_project (r : Record) (names : List String) :
    (r.project names).columns = (names.filter (· ∈ r.columns)).eraseDups := by
  rw [project, columns_ofPairs_eq]
  congr 1
  induction names with
  | nil => rfl
  | cons c names ih =>
    cases held : r.get? c with
    | none =>
      have absent : c ∉ r.columns := by rw [mem_columns, held]; exact Bool.false_ne_true
      rw [List.filterMap_cons_none (by rw [held]; rfl), ih,
        List.filter_cons_of_neg (by simpa using absent)]
    | some v =>
      have present : c ∈ r.columns := by rw [mem_columns, held]; rfl
      rw [List.filterMap_cons_some (by rw [held]; rfl), List.map_cons, ih,
        List.filter_cons_of_pos (by simpa using present)]

/-- Whatever was done to a record, its names and values are two lists of one length, no name is
there twice, and a column holds what was last set there, unless it was removed since. From such a
record on, a value that is set replaces the one at the place of its name, or is appended with a new
name; removing a column keeps the others in order; a projection has the columns that are there in
the order in which they are named first, as a collection has those of its pairs; and what other
columns hold is left alone. -/
theorem edited_as_ordered_map (edits : List Edit) :
    let r := edited edits
    (Halves.edited edits = ⟨r.columns, r.values⟩ ∧ r.columns.length = r.values.length ∧
      r.columns.Nodup) ∧
    (∀ c, r.get? c = (edits.flatMap (Edit.marks c)).getLast?.join ∧
      (Halves.edited edits).get? c = r.get? c) ∧
    (∀ c v, (r.set c v).halves =
      if c ∈ r.columns then ⟨r.columns, r.values.set (r.columns.idxOf c) v⟩
      else ⟨r.columns ++ [c], r.values ++ [v]⟩) ∧
    (∀ c, (r.remove c).halves = ⟨r.columns.erase c, r.values.eraseIdx (r.columns.idxOf c)⟩) ∧
    (∀ cs, (r.project cs).columns = (cs.filter (· ∈ r.columns)).eraseDups) ∧
    (∀ ps, (ofPairs ps).columns = (ps.map (·.1)).eraseDups) ∧
    (∀ c d v, (r.set c v).get? d = if c = d then some v else r.get? d) ∧
    (∀ c d, (r.remove c).get? d = if c = d then none else r.get? d) ∧
    (∀ cs d, (r.project cs).get? d = if d ∈ cs then r.get? d else none) := by
  intro r
  have distinct : r.columns.Nodup := nodup_edited edits
  have inStep : r.halves = Halves.edited edits := halves_edited edits
  refine ⟨⟨inStep.symm, length_columns r, distinct⟩, ?_, ?_, ?_, columns_project r,
    columns_ofPairs_eq, get?_set r, get?_remove r, get?_project r⟩
  · intro c
    exact ⟨get?_edited edits c, by rw [← inStep, halves_get?]⟩
  · intro c v
    rw [halves_set distinct, Halves.set_eq_ite]
    rfl
  · intro c
    rw [halves_remove distinct, Halves.remove_eq (length_columns r)]
    rfl

end Record

end EntityStore
