import EntityStore.Proofs.Memory.Step
import EntityStore.Proofs.Memory.Uniqueness
import EntityStore.Proofs.Session

/-!
# Inserts in parts

Rows may be inserted by one request or by several, each for some of them. Keys are drawn one row
after the other, so that the second part goes on with the counter that the first one left; and the
check of the whole table covers the tables on the way, because none of their rows is gone at the
end.
-/

namespace EntityStore.Memory

/-! ## Tables -/

section

variable {t t' : Table} {name : String} {A B answers : List Record} {returning : List String}

theorem newRows_append (lastId : Int64) :
    t.newRows (A ++ B) lastId = (do
      let (first, mid) ← t.newRows A lastId
      let (second, last) ← t.newRows B mid
      return (first ++ second, last)) := by
  induction A generalizing lastId with
  | nil =>
    change t.newRows B lastId = (t.newRows B lastId >>= fun made => pure made)
    rw [bind_pure]
  | cons row A ih =>
    rw [List.cons_append, Table.newRows, Table.newRows]
    simp only [bind_assoc, pure_bind, ih, List.cons_append]

/-- The table with rows behind its own, and the last key that was drawn for them. -/
def Table.grown (t : Table) (fulls : List Record) (lastId : Int64) : Table :=
  { t with rows := t.rows ++ fulls, lastId := lastId }

theorem Table.grown_grown (fulls fulls' : List Record) (lastId lastId' : Int64) :
    (t.grown fulls lastId).grown fulls' lastId' = t.grown (fulls ++ fulls') lastId' :=
  congrArg (fun rows => { t with rows := rows, lastId := lastId' }) (List.append_assoc ..)

/-- A new row depends on the fields of a table only. -/
theorem newRows_grown (fulls : List Record) (lastId : Int64) :
    (t.grown fulls lastId).newRows = t.newRows := by
  funext rows
  induction rows with
  | nil => rfl
  | cons row rows ih =>
    funext last
    rw [Table.newRows, ih]
    rfl

theorem insert_eq_ok {rows : List Record} :
    t.insert name rows returning = .ok (t', answers) ↔
      ∃ fulls lastId, t.newRows rows t.lastId = .ok (fulls, lastId) ∧
        checkKeys name (t.rows ++ fulls) t.keys = .ok () ∧
        t' = t.grown fulls lastId ∧ answers = fulls.map (·.project returning) := by
  constructor
  · intro done
    obtain ⟨⟨fulls, lastId⟩, made, done⟩ := exists_of_bind done
    obtain ⟨_, checked, done⟩ := exists_of_bind done
    obtain ⟨rfl, rfl⟩ := Prod.mk.inj (Except.ok.inj done)
    exact ⟨fulls, lastId, made, checked, rfl, rfl⟩
  · rintro ⟨fulls, lastId, made, checked, rfl, rfl⟩
    rw [Table.insert, made]
    change (checkKeys name (t.rows ++ fulls) t.keys >>= fun _ => _) = _
    rw [checked]
    rfl

/-- Where no rows agree on a key, none of the first of them do. -/
theorem checkKeys_of_append {rows more : List Record} {keys : List (List String)}
    (checked : checkKeys name (rows ++ more) keys = .ok ()) :
    checkKeys name rows keys = .ok () := by
  rw [checkKeys_eq_ok] at checked ⊢
  exact fun key member => (checked key member).sublist (List.sublist_append_left rows more)

/-- Two lists are inserted at once where they are inserted one after the other. -/
theorem insert_append : t.insert name (A ++ B) returning = .ok (t', answers) ↔
    ∃ mid first second, t.insert name A returning = .ok (mid, first) ∧
      mid.insert name B returning = .ok (t', second) ∧ answers = first ++ second := by
  constructor
  · intro done
    obtain ⟨fulls, last, made, checked, rfl, rfl⟩ := insert_eq_ok.mp done
    rw [newRows_append] at made
    obtain ⟨⟨first, mid⟩, madeA, made⟩ := exists_of_bind made
    obtain ⟨⟨second, last'⟩, madeB, made⟩ := exists_of_bind made
    obtain ⟨rfl, rfl⟩ := Prod.mk.inj (Except.ok.inj made)
    rw [← List.append_assoc] at checked
    refine ⟨t.grown first mid, _, second.map (·.project returning),
      insert_eq_ok.mpr ⟨first, mid, madeA, checkKeys_of_append checked, rfl, rfl⟩,
      insert_eq_ok.mpr ⟨second, last', ?_, checked, ?_, rfl⟩, List.map_append⟩
    · rw [newRows_grown]
      exact madeB
    · rw [Table.grown_grown]
  · rintro ⟨mid, first, second, doneA, doneB, rfl⟩
    obtain ⟨fullsA, lastA, madeA, checkedA, rfl, rfl⟩ := insert_eq_ok.mp doneA
    obtain ⟨fullsB, lastB, madeB, checkedB, rfl, rfl⟩ := insert_eq_ok.mp doneB
    rw [newRows_grown] at madeB
    refine insert_eq_ok.mpr ⟨fullsA ++ fullsB, lastB, ?_, ?_, ?_, List.map_append.symm⟩
    · rw [newRows_append, madeA]
      exact congrArg (· >>= fun made => pure (fullsA ++ made.1, made.2)) madeB
    · rw [← List.append_assoc]
      exact checkedB
    · rw [Table.grown_grown]

end

/-! ## Stores -/

namespace Store

section

variable {s after : Store} {scope : Scope} {table : String} {ts ts₁ ts₂ : Tables}
  {A B answers : List Record} {returning : List String}

/-- The store with another count of inserts. -/
def recounted (s : Store) (n : Nat) : Store := { s with insertCalls := n }

theorem setTables_setTables (tables : s.tablesOf scope = .ok ts) :
    (s.setTables scope ts₁).setTables scope ts₂ = s.setTables scope ts₂ := by
  cases scope with
  | direct => rfl
  | tx id =>
    obtain ⟨t, opened, -⟩ := exists_of_map tables
    obtain ⟨there, -⟩ := openTransaction_eq_ok.mp opened
    obtain ⟨below, -⟩ := List.getElem?_eq_some_iff.mp there
    have again : (s.setTransaction id { t with working := ts₁ }).transactions[id]? =
        some { t with working := ts₁ } := List.getElem?_set_self below
    rw [setTables_tx opened, setTables_tx opened, setTables, again]
    exact congrArg (fun all => { s with transactions := all }) (List.set_set ..)

theorem setTables_recounted (s : Store) (n : Nat) (scope : Scope) (ts : Tables) :
    (s.recounted n).setTables scope ts = (s.setTables scope ts).recounted n := by
  cases scope with
  | direct => rfl
  | tx id =>
    unfold setTables recounted
    dsimp only
    split <;> rfl

theorem tablesOf_recounted (s : Store) (n : Nat) (scope : Scope) :
    (s.recounted n).tablesOf scope = s.tablesOf scope := tablesOf_counted s n scope

theorem perform_insert_eq_ok {rows : List Record} :
    s.perform scope (.insert table rows returning) = (.ok answers, after) ↔
      ∃ ts t t', s.tablesOf scope = .ok ts ∧ ts.get? table = some t ∧
        t.insert table rows returning = .ok (t', answers) ∧
        after = (s.setTables scope (ts.set table t')).recounted (s.insertCalls + 1) := by
  change (s.recounted (s.insertCalls + 1)).answer scope (.insert table rows returning) = _ ↔ _
  simp only [← setTables_recounted]
  constructor
  · intro answered
    obtain ⟨ts, ts', tables, written, rfl⟩ := answer_eq_ok answered
    obtain ⟨t, t', found, inserted, rfl⟩ := Tables.insert_of_answer written
    exact ⟨ts, t, t', tablesOf_recounted s _ scope ▸ tables, found, inserted, rfl⟩
  · rintro ⟨ts, t, t', tables, found, inserted, rfl⟩
    refine answer_of_ok ((tablesOf_recounted s _ scope).trans tables) ?_
    rw [Tables.answer, Tables.get_eq_ok.mpr found]
    exact congrArg (· >>= fun done => pure (done.2, ts.set table done.1)) inserted

/-- Rows are inserted by one request where they are inserted by two, and but for the count of
inserts the store is left the same. -/
theorem perform_insert_append :
    s.perform scope (.insert table (A ++ B) returning) = (.ok answers, after) ↔
      ∃ mid first second, s.perform scope (.insert table A returning) = (.ok first, mid) ∧
        mid.perform scope (.insert table B returning) =
          (.ok second, after.recounted (s.insertCalls + 2)) ∧
        answers = first ++ second ∧ after.insertCalls = s.insertCalls + 1 := by
  constructor
  · intro done
    obtain ⟨ts, t, t', tables, found, inserted, rfl⟩ := perform_insert_eq_ok.mp done
    obtain ⟨t₁, first, second, insertedA, insertedB, rfl⟩ := insert_append.mp inserted
    refine ⟨_, first, second, perform_insert_eq_ok.mpr ⟨ts, t, t₁, tables, found, insertedA, rfl⟩,
      perform_insert_eq_ok.mpr ⟨ts.set table t₁, t₁, t', ?_, ?_, insertedB, ?_⟩, rfl, rfl⟩
    · rw [tablesOf_recounted]
      exact tablesOf_setTables tables
    · rw [Tables.get?_set, if_pos rfl]
    · rw [setTables_recounted, setTables_setTables tables, Tables.set_set]
      rfl
  · rintro ⟨mid, first, second, doneA, doneB, rfl, counted⟩
    obtain ⟨ts, t, t₁, tables, found, insertedA, rfl⟩ := perform_insert_eq_ok.mp doneA
    obtain ⟨ts', t₁', t', tables', found', insertedB, same⟩ := perform_insert_eq_ok.mp doneB
    rw [tablesOf_recounted, tablesOf_setTables tables] at tables'
    obtain rfl := Except.ok.inj tables'
    rw [Tables.get?_set, if_pos rfl] at found'
    obtain rfl := Option.some.inj found'
    rw [setTables_recounted, setTables_setTables tables, Tables.set_set] at same
    refine perform_insert_eq_ok.mpr ⟨ts, t, t', tables, found,
      insert_append.mpr ⟨t₁, first, second, insertedA, insertedB, rfl⟩, ?_⟩
    have settled := congrArg (Store.recounted · (s.insertCalls + 1)) same
    rw [← counted] at settled ⊢
    exact settled

theorem insertCalls_of_insert {rows : List Record}
    (done : s.perform scope (.insert table rows returning) = (.ok answers, after)) :
    after.insertCalls = s.insertCalls + 1 := by
  obtain ⟨_, _, _, -, -, -, rfl⟩ := perform_insert_eq_ok.mp done
  rfl

theorem exists_run_request {α : Type} {r : Request α} {x : α} {s : Session Store}
    (performed : s.store.perform scope r = (.ok x, after)) :
    ∃ s', (EntityStore.Store.request scope r).run.run s = (.ok x, s') ∧ s'.store = after := by
  refine ⟨_, (run_reply ..).trans (congrArg (·, _) ?_), ?_⟩
  · exact congrArg (·.1) performed
  · exact congrArg (·.2) performed

theorem perform_of_run_request {α : Type} {r : Request α} {x : α} {s s' : Session Store}
    (ran : (EntityStore.Store.request scope r).run.run s = (.ok x, s')) :
    s.store.perform scope r = (.ok x, s'.store) := by
  obtain ⟨result, rfl⟩ := Prod.mk.inj ((run_reply ..).symm.trans ran)
  exact Prod.ext result rfl

end

/-- Rows are inserted by one request where they are inserted by several, one for each of the lists
that they are cut into. The answers are the same, one after the other, and so is the store, in its
rows, their order and the last keys, but for the count of inserts. -/
theorem insert_in_parts (scope : Scope) (table : String) (returning : List String)
    (first : List Record) (rest : List (List Record)) (session : Session Store)
    (answers : List Record) (after : Store) :
    session.store.perform scope (.insert table (first :: rest).flatten returning) =
        (.ok answers, after) ↔
      ∃ pieces session',
        ((first :: rest).mapM fun rows =>
          Store.request scope (.insert table rows returning)).run.run session =
            (.ok pieces, session') ∧
        pieces.flatten = answers ∧
        session'.store = { after with
          insertCalls := session.store.insertCalls + (first :: rest).length } ∧
        after.insertCalls = session.store.insertCalls + 1 := by
  induction rest generalizing first session answers after with
  | nil =>
    rw [List.flatten_singleton, List.mapM_cons, List.mapM_nil]
    constructor
    · intro done
      obtain ⟨s', ran, kept⟩ := exists_run_request done
      have counted := insertCalls_of_insert done
      refine ⟨[answers], s', ?_, List.flatten_singleton, ?_, counted⟩
      · rw [run_bind_ok ran]
        rfl
      · rw [kept, List.length_singleton, ← counted]
    · rintro ⟨pieces, s', ran, rfl, kept, counted⟩
      obtain ⟨piece, mid, asked, last⟩ := exists_of_run_bind ran
      obtain ⟨same, rfl⟩ := Prod.mk.inj last
      obtain rfl := Except.ok.inj same
      have done := perform_of_run_request asked
      rw [kept, List.length_singleton, ← counted] at done
      rwa [List.flatten_singleton]
  | cons second rest ih =>
    rw [List.flatten_cons, perform_insert_append, List.mapM_cons, List.length_cons]
    constructor
    · rintro ⟨mid, a, b, doneA, doneB, rfl, counted⟩
      obtain ⟨s₁, ran, rfl⟩ := exists_run_request doneA
      have between := insertCalls_of_insert doneA
      obtain ⟨pieces, s', later, rfl, kept, -⟩ := (ih second s₁ b _).mp doneB
      refine ⟨a :: pieces, s', ?_, List.flatten_cons, ?_, counted⟩
      · rw [run_bind_ok ran, run_bind_ok later]
        rfl
      · rw [kept, between, Nat.add_right_comm, Nat.add_assoc]
        rfl
    · rintro ⟨pieces, s', ran, rfl, kept, counted⟩
      obtain ⟨a, s₁, asked, last⟩ := exists_of_run_bind ran
      obtain ⟨others, s₂, later, last⟩ := exists_of_run_bind last
      obtain ⟨same, rfl⟩ := Prod.mk.inj last
      obtain rfl := Except.ok.inj same
      have doneA := perform_of_run_request asked
      have between := insertCalls_of_insert doneA
      refine ⟨s₁.store, a, others.flatten, doneA, ?_, List.flatten_cons, counted⟩
      refine (ih second s₁ _ _).mpr ⟨others, s₂, later, rfl, ?_, ?_⟩
      · rw [kept, between, Nat.add_right_comm, Nat.add_assoc]
        rfl
      · rw [between]
        rfl

/-- An empty table of members whose numbers are drawn. -/
def club : Store :=
  Step.after ∅ [.ask .direct (.createTable ⟨"members",
    [{ Field.ofType "id" .bigInt with primaryKey := true, autoIncrement := true },
      Field.ofType "name" .text]⟩)]

/-- The number of the last member is drawn behind the one that was given, also where that came with
the request before. -/
theorem members_inserted_in_parts :
    let members : List (List Record) :=
      [[.ofPairs [("name", .text "Ann")], .ofPairs [("id", .int 7), ("name", .text "Ben")]],
        [.ofPairs [("name", .text "Cid")]]]
    (club.perform .direct (.insert "members" members.flatten ["id"])).1 =
        .ok [.ofPairs [("id", .int 1)], .ofPairs [("id", .int 7)], .ofPairs [("id", .int 8)]] ∧
      ∃ pieces session', (members.mapM fun rows =>
          EntityStore.Store.request .direct (.insert "members" rows ["id"])).run.run
            (Session.start club) = (.ok pieces, session') ∧
        pieces.flatten =
          [.ofPairs [("id", .int 1)], .ofPairs [("id", .int 7)], .ofPairs [("id", .int 8)]] := by
  intro members
  have whole : (club.perform .direct (.insert "members" members.flatten ["id"])).1 = .ok _ := rfl
  obtain ⟨pieces, session', ran, same, -, -⟩ :=
    (insert_in_parts .direct "members" ["id"] _ _ (Session.start club) _ _).mp (Prod.ext whole rfl)
  exact ⟨whole, pieces, session', ran, same⟩

end Store

end EntityStore.Memory
