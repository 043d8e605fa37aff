import EntityStore.Entity.Layout
import EntityStore.Proofs.Outcome

/-!
# Cells and attachments of an entity

What holds of each cell of an entity, by the column that it belongs to, and what becomes of an
entity when rows are attached to it.
-/

namespace EntityStore

namespace Cells

/-- Each cell has a property, which may depend on its column. -/
def Each (P : (c : ColumnSpec) → c.type.Carrier → Prop) : (cs : List ColumnSpec) → Cells cs → Prop
  | [], _ => True
  | c :: cs, (x, xs) => P c x ∧ Each P cs xs

variable {P Q : (c : ColumnSpec) → c.type.Carrier → Prop} {cs : List ColumnSpec} {xs : Cells cs}

theorem Each.imp (sub : ∀ c ∈ cs, ∀ x, P c x → Q c x) (each : Each P cs xs) : Each Q cs xs := by
  induction cs with
  | nil => trivial
  | cons c cs ih =>
    obtain ⟨here, rest⟩ := each
    refine ⟨sub c List.mem_cons_self _ here, ih ?_ rest⟩
    intro other member
    exact sub other (List.mem_cons_of_mem c member)

theorem each_mem_toPairs (cs : List ColumnSpec) (xs : Cells cs) :
    Each (fun c x => (c.column, Column.toValue x) ∈ toPairs cs xs) cs xs := by
  induction cs with
  | nil => trivial
  | cons c cs ih =>
    refine ⟨List.mem_cons_self, (ih xs.2).imp ?_⟩
    exact fun _ _ _ member => List.mem_cons_of_mem _ member

/-- What holds of every cell holds of the one that is the key. -/
theorem Each.key (each : Each P cs xs) {key : Field}
    (first : (cs.map (·.field)).find? (·.primaryKey) = some key) :
    ∃ (c : ColumnSpec) (x : c.type.Carrier),
      c.field = key ∧ P c x ∧ Cells.key cs xs = Column.toValue x := by
  induction cs with
  | nil => cases first
  | cons c cs ih =>
    obtain ⟨here, rest⟩ := each
    rw [List.map_cons, List.find?_cons] at first
    have same : c.field.primaryKey = c.primaryKey := rfl
    rw [same] at first
    rw [Cells.key]
    cases primary : c.primaryKey with
    | true =>
      rw [primary] at first
      cases first
      exact ⟨c, xs.1, rfl, here, if_pos rfl⟩
    | false =>
      rw [primary] at first
      obtain ⟨d, x, named, held, value⟩ := ih rest first
      exact ⟨d, x, named, held, (if_neg Bool.false_ne_true).trans value⟩

/-- Cells that were read from a row decode from it, column by column. -/
theorem each_of_ofRecord {row : Record} (read : ofRecord row cs = .ok xs) :
    Each (fun c x => row.decodeD c.column c.type.default = .ok x) cs xs := by
  induction cs with
  | nil => trivial
  | cons c cs ih =>
    obtain ⟨x, here, read⟩ := exists_of_bind read
    obtain ⟨rest, later, read⟩ := exists_of_bind read
    cases read
    exact ⟨here, ih later⟩

theorem ofRecord_of_each {row : Record}
    (each : Each (fun c x => row.decodeD c.column c.type.default = .ok x) cs xs) :
    ofRecord row cs = .ok xs := by
  induction cs with
  | nil => rfl
  | cons c cs ih =>
    rw [ofRecord, each.1, ih each.2]
    rfl

end Cells

/-! ## Attachments -/

/-- Rows are attached for each relation on its own: this leaves the row of the entity alone,
changes nothing when it is repeated, and can be done for two relations in either order. -/
structure Entity.LawfulAttach (α : Type) [Entity α] : Prop where
  record : ∀ {name : String} {rows : List Record} {e e' : α},
    Entity.attach name rows e = .ok e' → Entity.toRecord e' = Entity.toRecord e
  again : ∀ {name : String} {rows : List Record} {e e' : α},
    Entity.attach name rows e = .ok e' → Entity.attach name rows e' = .ok e'
  swap : ∀ {m n : String} {rows rows' : List Record} {e e' e'' : α}, m ≠ n →
    Entity.attach m rows e = .ok e' → Entity.attach n rows' e' = .ok e'' →
      ∃ mid, Entity.attach n rows' e = .ok mid ∧ Entity.attach m rows mid = .ok e''

/-- Rows stay attached when others are attached for another relation. -/
theorem Entity.LawfulAttach.kept {α : Type} [Entity α] (lawful : Entity.LawfulAttach α)
    {m n : String} {rows rows' : List Record} {e e' : α} (apart : m ≠ n)
    (held : Entity.attach m rows e = .ok e) (attached : Entity.attach n rows' e = .ok e') :
    Entity.attach m rows e' = .ok e' := by
  obtain ⟨mid, early, late⟩ := lawful.swap apart held attached
  cases attached.symm.trans early
  exact late

namespace Attachments

variable {name m n : String} {rows rows' : List Record} {rs : List RelationSpec}
  {xs ys zs : Attachments rs}

/-- What is attached is loaded from the rows, in the place of the first relation of the name. -/
theorem attach_cons_of_eq {r : RelationSpec} (here : r.relation.name = name) (x : r.Loaded)
    (xs : Attachments rs) :
    attach name rows (r :: rs) (x, xs) =
      ((r.load rows).map fun x => (x, xs)).mapError StoreError.classify := by
  rw [attach, if_pos here]
  cases r.load rows <;> rfl

theorem attach_cons_of_ne {r : RelationSpec} (other : r.relation.name ≠ name) (x : r.Loaded)
    (xs : Attachments rs) :
    attach name rows (r :: rs) (x, xs) = (attach name rows rs xs).map (x, ·) := by
  rw [attach, if_neg other]

/-- What is there for the first relation of a name is what was loaded from the rows. -/
def From (name : String) (rows : List Record) : (rs : List RelationSpec) → Attachments rs → Prop
  | [], _ => False
  | r :: rs, (x, xs) => if r.relation.name = name then r.load rows = .ok x else From name rows rs xs

/-- To attach the same rows once more changes nothing. -/
theorem from_of_attach_self (attached : attach name rows rs xs = .ok xs) : From name rows rs xs := by
  induction rs with
  | nil => cases attached
  | cons r rs ih =>
    obtain ⟨x, xs⟩ := xs
    unfold From
    by_cases here : r.relation.name = name
    · rw [attach_cons_of_eq here] at attached
      obtain ⟨y, loaded, same⟩ := exists_of_map (ok_of_mapError attached)
      cases same
      rw [if_pos here]
      exact loaded
    · rw [attach_cons_of_ne here] at attached
      obtain ⟨rest, behind, same⟩ := exists_of_map attached
      cases same
      rw [if_neg here]
      exact ih behind

theorem attach_again (attached : attach name rows rs xs = .ok ys) :
    attach name rows rs ys = .ok ys := by
  induction rs with
  | nil => cases attached
  | cons r rs ih =>
    obtain ⟨x, xs⟩ := xs
    by_cases here : r.relation.name = name
    · rw [attach_cons_of_eq here] at attached
      obtain ⟨y, loaded, rfl⟩ := exists_of_map (ok_of_mapError attached)
      rw [attach_cons_of_eq here, loaded]
      rfl
    · rw [attach_cons_of_ne here] at attached
      obtain ⟨rest, behind, rfl⟩ := exists_of_map attached
      rw [attach_cons_of_ne here, ih behind]
      rfl

theorem attach_swap (apart : m ≠ n) (first : attach m rows rs xs = .ok ys)
    (second : attach n rows' rs ys = .ok zs) :
    ∃ mid, attach n rows' rs xs = .ok mid ∧ attach m rows rs mid = .ok zs := by
  induction rs with
  | nil => cases first
  | cons r rs ih =>
    obtain ⟨x, xs⟩ := xs
    by_cases here : r.relation.name = m
    · have other : r.relation.name ≠ n := fun same => apart (here.symm.trans same)
      rw [attach_cons_of_eq here] at first
      obtain ⟨y, loaded, rfl⟩ := exists_of_map (ok_of_mapError first)
      rw [attach_cons_of_ne other] at second
      obtain ⟨rest, attached, rfl⟩ := exists_of_map second
      refine ⟨(x, rest), ?_, ?_⟩
      · rw [attach_cons_of_ne other, attached]
        rfl
      · rw [attach_cons_of_eq here, loaded]
        rfl
    · rw [attach_cons_of_ne here] at first
      obtain ⟨rest, attached, rfl⟩ := exists_of_map first
      by_cases there : r.relation.name = n
      · rw [attach_cons_of_eq there] at second
        obtain ⟨y, loaded, rfl⟩ := exists_of_map (ok_of_mapError second)
        refine ⟨(y, xs), ?_, ?_⟩
        · rw [attach_cons_of_eq there, loaded]
          rfl
        · rw [attach_cons_of_ne here, attached]
          rfl
      · rw [attach_cons_of_ne there] at second
        obtain ⟨last, attached', rfl⟩ := exists_of_map second
        obtain ⟨mid, first, second⟩ := ih attached attached'
        refine ⟨(x, mid), ?_, ?_⟩
        · rw [attach_cons_of_ne there, first]
          rfl
        · rw [attach_cons_of_ne here, second]
          rfl

end Attachments

namespace Layout

variable {l : Layout} {Extra : Type}

/-- What is loaded for a relation leaves the cells as they are. -/
theorem Item.cells_attach {name : String} {rows : List Record} {e e' : l.Item Extra}
    (attached : e.attach name rows = .ok e') : e'.cells = e.cells := by
  obtain ⟨loaded, -, rfl⟩ := exists_of_map attached
  rfl

theorem Item.from_of_attach_self {name : String} {rows : List Record} {e : l.Item Extra}
    (attached : e.attach name rows = .ok e) : Attachments.From name rows l.relations e.loaded := by
  obtain ⟨loaded, within, same⟩ := exists_of_map attached
  rw [← congrArg Item.loaded same]
  exact Attachments.from_of_attach_self (Attachments.attach_again within)

/-- Entities with a layout attach rows relation by relation. -/
theorem lawfulAttach [Inhabited Extra] (hooks : Hooks (l.Item Extra)) :
    letI := l.entity hooks
    Entity.LawfulAttach (l.Item Extra) := by
  let := l.entity hooks
  constructor
  · intro name rows e e' attached
    exact congrArg (fun cells => Record.ofPairs (Cells.toPairs l.columns cells))
      (Item.cells_attach attached)
  · intro name rows e e' attached
    obtain ⟨loaded, within, rfl⟩ := exists_of_map attached
    change Except.map _ (Attachments.attach name rows l.relations loaded) = _
    rw [Attachments.attach_again within]
    rfl
  · intro m n rows rows' e e' e'' apart first second
    obtain ⟨loaded, inFirst, rfl⟩ := exists_of_map first
    obtain ⟨last, inSecond, rfl⟩ := exists_of_map second
    obtain ⟨mid, early, late⟩ := Attachments.attach_swap apart inFirst inSecond
    refine ⟨{ e with loaded := mid }, ?_, ?_⟩
    · change Except.map _ (Attachments.attach n rows' l.relations e.loaded) = _
      rw [early]
      rfl
    · change Except.map _ (Attachments.attach m rows l.relations mid) = _
      rw [late]
      rfl

/-- What is written back to an entity is written to its cells. -/
theorem Item.cells_applyRecord {row : Record} {e e' : l.Item Extra}
    (applied : Item.applyRecord row e = (.ok (), e')) :
    Cells.apply row l.columns e.cells = (.ok (), e'.cells) ∧ e'.loaded = e.loaded ∧
      e'.extra = e.extra := by
  obtain ⟨done, rfl⟩ := Prod.mk.inj applied
  exact ⟨Prod.ext done rfl, rfl, rfl⟩

end Layout

end EntityStore
