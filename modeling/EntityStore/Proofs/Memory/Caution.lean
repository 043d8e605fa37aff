import EntityStore.Proofs.Memory.Counter
import EntityStore.Proofs.Memory.Refusal
import EntityStore.Proofs.Repository.Caution

/-!
# Caution in memory

A request to the store in memory that only reads changes nothing, and one that is refused leaves
the tables and the transactions as they were. Inserts and the ends of transactions fail with errors
of the store's own, which refuse no input.
-/

namespace EntityStore.Memory

theorem Table.insert_not_refuses {t : Table} {name : String} {rows : List Record}
    {returning : List String} {e : StoreError} (failed : t.insert name rows returning = .error e) :
    ¬e.Refuses := by
  rcases error_of_bind failed with unmade | ⟨made, -, rest⟩
  · obtain ⟨text, rfl⟩ := Table.other_of_newRows unmade
    exact nofun
  · rcases error_of_bind rest with repeated | ⟨⟨⟩, -, done⟩
    · obtain ⟨key, -, rfl, -⟩ := checkKeys_eq_error repeated
      exact nofun
    · cases done

theorem Tables.get_not_refuses {ts : Tables} {name : String} {e : StoreError}
    (failed : ts.get name = .error e) : ¬e.Refuses := by
  unfold get at failed
  split at failed
  · cases failed
  · cases failed
    exact nofun

/-- What only reads answers with the tables as they are. -/
theorem Tables.answer_of_reads {α : Type} {ts ts' : Tables} {r : Request α} {x : α}
    (reads : r.ReadOnly) (answered : ts.answer r = .ok (x, ts')) : ts' = ts := by
  cases r with
  | select name q | count name q | tableColumns name =>
    obtain ⟨y, -, same⟩ := exists_of_map answered
    cases same
    rfl
  | hasTable name | hasIndex table name | ping =>
    cases answered
    rfl
  | _ => cases reads

namespace Store

variable {α : Type} {s : Store} {scope : Scope} {e : StoreError}

theorem openTransaction_not_refuses {id : Nat} (failed : s.openTransaction id = .error e) :
    ¬e.Refuses := by
  unfold openTransaction at failed
  split at failed
  · split at failed
    · cases failed
      exact nofun
    · cases failed
  · cases failed
    exact nofun

theorem tablesOf_not_refuses (failed : s.tablesOf scope = .error e) : ¬e.Refuses := by
  cases scope with
  | direct => cases failed
  | tx id =>
    change (s.openTransaction id).map Transaction.working = .error e at failed
    cases opened : s.openTransaction id with
    | ok t =>
      rw [opened] at failed
      cases failed
    | error e' =>
      rw [opened] at failed
      cases failed
      exact openTransaction_not_refuses opened

/-- A request is refused by the tables, if it is. -/
theorem exists_refused_of_answer {r : Request α} (failed : (s.answer scope r).1 = .error e)
    (refuses : e.Refuses) : ∃ ts : Tables, ts.answer r = .error e := by
  cases tables : s.tablesOf scope with
  | error e' =>
    rw [answer_of_closed tables] at failed
    cases failed
    exact absurd refuses (tablesOf_not_refuses tables)
  | ok ts =>
    cases answered : ts.answer r with
    | error e' =>
      rw [answer_of_error tables answered] at failed
      cases failed
      exact ⟨ts, answered⟩
    | ok found =>
      rw [answer_of_ok tables answered] at failed
      cases failed

theorem insert_not_refuses {table : String} {rows : List Record} {returning : List String}
    (failed : (s.perform scope (.insert table rows returning)).1 = .error e) : ¬e.Refuses := by
  intro refuses
  obtain ⟨ts, refused⟩ := exists_refused_of_answer failed refuses
  rcases error_of_bind refused with missing | ⟨t, -, rest⟩
  · exact Tables.get_not_refuses missing refuses
  · rcases error_of_bind rest with unwritten | ⟨written, -, done⟩
    · exact Table.insert_not_refuses unwritten refuses
    · cases done

theorem commit_not_refuses {id : Nat} (failed : (s.control id .commit).1 = .error e) :
    ¬e.Refuses := by
  unfold control at failed
  cases opened : s.openTransaction id with
  | error e' =>
    rw [opened] at failed
    cases failed
    exact openTransaction_not_refuses opened
  | ok t =>
    rw [opened] at failed
    cases failed

theorem Alike.refl (s : Store) : Alike s s := ⟨rfl, rfl⟩

theorem Alike.trans {s' s'' : Store} (h : Alike s s') (h' : Alike s' s'') : Alike s s'' :=
  ⟨h.tables.trans h'.tables, h.transactions.trans h'.transactions⟩

/-- Scripted answers are not about the tables. -/
theorem alike_perform_of_raw {r : Request α} (raw : ¬r.Structured) :
    Alike s (s.perform scope r).2 := by
  cases r with
  | rawQuery sql args | rawExec sql args =>
    rw [perform]
    cases s.tablesOf scope with
    | error e' => exact .refl s
    | ok ts => exact ⟨rfl, rfl⟩
  | _ => exact absurd trivial raw

theorem alike_perform_of_reads {r : Request α} (reads : r.ReadOnly) :
    Alike s (s.perform scope r).2 := by
  have answer : (s.perform scope r).2 = (s.answer scope r).2 := by
    cases r with
    | insert | rawQuery | rawExec => cases reads
    | _ => rfl
  rw [answer]
  cases tables : s.tablesOf scope with
  | error e' =>
    rw [answer_of_closed tables]
    exact .refl s
  | ok ts =>
    cases answered : ts.answer r with
    | error e' =>
      rw [answer_of_error tables answered]
      exact .refl s
    | ok found =>
      rw [answer_of_ok tables answered, Tables.answer_of_reads reads answered, setTables_self tables]
      exact .refl s

theorem alike_perform_of_refused {r : Request α} (refused : (s.perform scope r).1 = .error e) :
    Alike s (s.perform scope r).2 := by
  by_cases structured : r.Structured
  · rw [perform_refused structured refused]
    exact ⟨rfl, rfl⟩
  · exact alike_perform_of_raw structured

theorem cautious : Cautious Alike where
  refl := .refl
  trans := Alike.trans
  reads reads _ _ := alike_perform_of_reads reads
  refuses _ failed _ := alike_perform_of_refused failed
  inserts _ _ _ failed := insert_not_refuses failed
  opens failed := nomatch failed
  commits failed := commit_not_refuses failed
  brackets := .inr insert_not_refuses

end Store

end EntityStore.Memory
