import EntityStore.Proofs.Memory.Isolation
import Mathlib.Data.List.Forall2

/-!
# Two runs side by side

A second run takes the steps of a first one with other requests in the places of theirs. Where the
requests keep a relation between the tables that they find, the two stores stay in it: the committed
tables and, transaction by transaction, the tables that are worked on and those behind savepoints.
-/

namespace EntityStore

/-- The step with another request in the place of the one that it makes. -/
def Step.replace (f : {α : Type} → Request α → Request Unit) : Step → Step
  | .ask scope r => .ask scope (f r)
  | .begin options => .begin options
  | .steer id c => .steer id c
  | .abandon id => .abandon id

namespace Memory

/-- The tables that a request leaves, answered or not. -/
def Tables.left {α : Type} (ts : Tables) (r : Request α) : Tables :=
  match ts.answer r with
  | .ok (_, ts') => ts'
  | .error _ => ts

section

variable {α : Type} {ts ts' : Tables} {r : Request α} {x : α} {e : StoreError}

theorem Tables.left_of_ok (answered : ts.answer r = .ok (x, ts')) : ts.left r = ts' := by
  rw [left, answered]

theorem Tables.left_of_error (refused : ts.answer r = .error e) : ts.left r = ts := by
  rw [left, refused]

end

variable {R : Tables → Tables → Prop}

/-! ## Lists and options in a relation -/

section

variable {α β γ δ : Type} {S : α → β → Prop} {T : γ → δ → Prop} {as : List α} {bs : List β}
  {x : Option α} {y : Option β}

theorem exists_of_rel (both : Option.Rel S x y) {a : α} (there : x = some a) :
    ∃ b, y = some b ∧ S a b := by
  cases both with
  | none => cases there
  | some here =>
    cases there
    exact ⟨_, rfl, here⟩

theorem rel_getD (both : Option.Rel S x y) {a : α} {b : β} (default : S a b) :
    S (x.getD a) (y.getD b) := by
  cases both with
  | none => exact default
  | some here => exact here

theorem rel_bind {f : α → Option γ} {g : β → Option δ} (both : Option.Rel S x y)
    (keeps : ∀ a b, S a b → Option.Rel T (f a) (g b)) : Option.Rel T (x.bind f) (y.bind g) := by
  cases both with
  | none => exact .none
  | some here => exact keeps _ _ here

theorem forall₂_getElem? (each : List.Forall₂ S as bs) (i : Nat) : Option.Rel S as[i]? bs[i]? := by
  induction each generalizing i with
  | nil => exact .none
  | cons here _ ih =>
    cases i with
    | zero => exact .some here
    | succ i => exact ih i

theorem forall₂_modify {f : α → α} {g : β → β} (each : List.Forall₂ S as bs)
    (keeps : ∀ a b, S a b → S (f a) (g b)) (i : Nat) :
    List.Forall₂ S (as.modify i f) (bs.modify i g) := by
  induction each generalizing i with
  | nil =>
    rw [List.modify_nil, List.modify_nil]
    exact .nil
  | cons here rest ih =>
    cases i with
    | zero => exact .cons (keeps _ _ here) rest
    | succ i => exact .cons here (ih i)

theorem forall₂_dropWhile {p : α → Bool} {q : β → Bool} (each : List.Forall₂ S as bs)
    (alike : ∀ a b, S a b → p a = q b) : List.Forall₂ S (as.dropWhile p) (bs.dropWhile q) := by
  induction each with
  | nil => exact .nil
  | cons here rest ih =>
    rw [List.dropWhile_cons, List.dropWhile_cons, alike _ _ here]
    split
    · exact ih
    · exact .cons here rest

end

/-! ## Transactions -/

namespace Transaction

/-- Both are open or closed, and their tables are in the relation, place by place. -/
structure Related (R : Tables → Tables → Prop) (t u : Transaction) : Prop where
  working : R t.working u.working
  savepoints : List.Forall₂ (fun a b => a.1 = b.1 ∧ R a.2 b.2) t.savepoints u.savepoints
  closed : t.closed = u.closed

variable {t u : Transaction}

theorem related_start {ts us : Tables} (h : R ts us) : (start ts).Related R (start us) :=
  ⟨h, .nil, rfl⟩

theorem related_ended (empty : R .empty .empty) : ended.Related R ended := ⟨empty, .nil, rfl⟩

theorem ask_eq_left {α : Type} (t : Transaction) (r : Request α) :
    (t.ask r).2 = if t.closed then t else { t with working := t.working.left r } := by
  unfold ask Tables.left
  split
  · rfl
  · cases t.working.answer r <;> rfl

theorem Related.ask (h : t.Related R u) {α β : Type} {r : Request α} {r' : Request β}
    (keeps : ∀ ts us, R ts us → R (ts.left r) (us.left r')) : (t.ask r).2.Related R (u.ask r').2 := by
  rw [ask_eq_left, ask_eq_left, h.closed]
  split
  · exact h
  · exact ⟨keeps _ _ h.working, h.savepoints, rfl⟩

theorem related_find? {saved saved' : List (String × Tables)} (name : String)
    (each : List.Forall₂ (fun a b => a.1 = b.1 ∧ R a.2 b.2) saved saved') :
    Option.Rel (fun a b => List.Forall₂ (fun a b => a.1 = b.1 ∧ R a.2 b.2) a.1 b.1 ∧ R a.2 b.2)
      (find? name saved) (find? name saved') := by
  have behind := forall₂_dropWhile (p := (·.1 ≠ name)) (q := (·.1 ≠ name))
    (List.forall₂_reverse_iff.mpr each) fun a b same => by rw [same.1]
  unfold find?
  generalize saved.reverse.dropWhile _ = front at behind ⊢
  generalize saved'.reverse.dropWhile _ = back at behind ⊢
  cases behind with
  | nil => exact .none
  | cons here rest => exact .some ⟨List.forall₂_reverse_iff.mpr rest, here.2⟩

theorem Related.rollbackTo (h : t.Related R u) (name : String) :
    Option.Rel (Related R) (t.rollbackTo name).toOption (u.rollbackTo name).toOption := by
  have found := related_find? name h.savepoints
  unfold Transaction.rollbackTo
  generalize find? name t.savepoints = saved at found ⊢
  generalize find? name u.savepoints = saved' at found ⊢
  cases found with
  | none => exact .none
  | some both => exact .some ⟨both.2, List.rel_append both.1 (.cons ⟨rfl, both.2⟩ .nil), h.closed⟩

theorem Related.release (h : t.Related R u) (name : String) :
    Option.Rel (Related R) (t.release name).toOption (u.release name).toOption := by
  have found := related_find? name h.savepoints
  unfold Transaction.release
  generalize find? name t.savepoints = saved at found ⊢
  generalize find? name u.savepoints = saved' at found ⊢
  cases found with
  | none => exact .none
  | some both => exact .some ⟨h.working, both.1, h.closed⟩

/-- What both come to by the same control, which fails on both or on neither. -/
theorem Related.step (h : t.Related R u) (empty : R .empty .empty) (c : Control) :
    Option.Rel (fun a b => a.1.Related R b.1 ∧ Option.Rel R a.2 b.2)
      (Store.step t c).toOption (Store.step u c).toOption := by
  have back {x y : Except StoreError Transaction}
      (related : Option.Rel (Related R) x.toOption y.toOption) :
      Option.Rel (fun a b => a.1.Related R b.1 ∧ Option.Rel R a.2 b.2)
        (x.map (·, (none : Option Tables))).toOption (y.map (·, (none : Option Tables))).toOption := by
    cases x <;> cases y <;> cases related
    · exact .none
    · exact .some ⟨‹_›, .none⟩
  cases c with
  | commit => exact .some ⟨related_ended empty, .some h.working⟩
  | rollback => exact .some ⟨related_ended empty, .none⟩
  | savepoint name =>
    refine .some ⟨⟨h.working, ?_, h.closed⟩, .none⟩
    exact List.rel_append h.savepoints (.cons ⟨rfl, h.working⟩ .nil)
  | rollbackTo name => exact back (h.rollbackTo name)
  | release name => exact back (h.release name)

theorem steer_eq_step (t : Transaction) (c : Control) :
    (t.steer c).2 = if t.closed then (t, none) else (Store.step t c).toOption.getD (t, none) := by
  unfold steer
  split
  · rfl
  · cases Store.step t c <;> rfl

theorem Related.steer (h : t.Related R u) (empty : R .empty .empty) (c : Control) :
    (t.steer c).2.1.Related R (u.steer c).2.1 ∧ Option.Rel R (t.steer c).2.2 (u.steer c).2.2 := by
  rw [steer_eq_step, steer_eq_step, h.closed]
  split
  · exact ⟨h, .none⟩
  · exact rel_getD (h.step empty c) ⟨h, .none⟩

theorem Related.move (h : t.Related R u) (empty : R .empty .empty)
    {f : {α : Type} → Request α → Request Unit}
    (keeps : ∀ {α : Type} (r : Request α) ts us, R ts us → R (ts.left r) (us.left (f r)))
    (st : Step) :
    (move st t).Related R (move (st.replace f) u) ∧
      Option.Rel R (published? st t) (published? (st.replace f) u) := by
  cases st with
  | begin options | abandon id => exact ⟨h, .none⟩
  | ask scope r => exact ⟨h.ask (keeps r), .none⟩
  | steer id c => exact h.steer empty c

end Transaction

/-! ## Stores -/

namespace Store

/-- The committed tables are in the relation, and so are the transactions, one by one. -/
structure Related (R : Tables → Tables → Prop) (s v : Store) : Prop where
  tables : R s.tables v.tables
  transactions : List.Forall₂ (Transaction.Related R) s.transactions v.transactions

theorem owner?_replace (f : {α : Type} → Request α → Request Unit) (st : Step) :
    (st.replace f).owner? = st.owner? := by
  rcases st with _ | ⟨_ | _, _⟩ | _ | _ <;> rfl

theorem next_direct {α : Type} (s : Store) (r : Request α) :
    (Step.next s (.ask .direct r)).tables = s.tables.left r ∧
      (Step.next s (.ask .direct r)).transactions = s.transactions := by
  obtain ⟨tables, transactions⟩ := perform_data s .direct r
  change (s.perform .direct r).2.tables = _ ∧ (s.perform .direct r).2.transactions = _
  rw [tables, transactions]
  cases answered : s.tables.answer r with
  | error e =>
    rw [answer_of_error rfl answered, Tables.left_of_error answered]
    exact ⟨rfl, rfl⟩
  | ok found =>
    rw [answer_of_ok rfl answered, Tables.left_of_ok answered]
    exact ⟨rfl, rfl⟩

variable {s v : Store}

theorem Related.next (h : s.Related R v) (empty : R .empty .empty)
    {f : {α : Type} → Request α → Request Unit}
    (keeps : ∀ {α : Type} (r : Request α) ts us, R ts us → R (ts.left r) (us.left (f r)))
    (st : Step) : (Step.next s st).Related R (Step.next v (st.replace f)) := by
  obtain ⟨committed, each⟩ := h
  cases owner : st.owner? with
  | some id =>
    obtain ⟨tables, transactions⟩ := next_owned owner s
    obtain ⟨tables', transactions'⟩ := next_owned ((owner?_replace f st).trans owner) v
    constructor
    · rw [tables, tables']
      have published := rel_bind (forall₂_getElem? each id) fun t u related =>
        (related.move empty keeps st).2
      exact rel_getD published committed
    · rw [transactions, transactions']
      exact forall₂_modify each (fun t u related => (related.move empty keeps st).1) id
  | none =>
    obtain ⟨options, rfl⟩ | ⟨α, r, rfl⟩ := Step.cases_of_no_owner owner
    · refine ⟨committed, ?_⟩
      exact List.rel_append each (.cons (Transaction.related_start committed) .nil)
    · obtain ⟨tables, transactions⟩ := next_direct s r
      obtain ⟨tables', transactions'⟩ := next_direct v (f r)
      refine ⟨?_, ?_⟩
      · exact tables ▸ tables'.symm ▸ keeps r _ _ committed
      · exact transactions ▸ transactions'.symm ▸ each

theorem Related.after (h : s.Related R v) (empty : R .empty .empty)
    {f : {α : Type} → Request α → Request Unit}
    (keeps : ∀ {α : Type} (r : Request α) ts us, R ts us → R (ts.left r) (us.left (f r)))
    (steps : List Step) :
    (Step.after s steps).Related R (Step.after v (steps.map (Step.replace f))) := by
  induction steps generalizing s v with
  | nil => exact h
  | cons st steps ih => exact ih (h.next empty keeps st)

theorem related_empty (empty : R .empty .empty) : (∅ : Store).Related R ∅ := ⟨empty, .nil⟩

/-! ## Places of tables -/

/-- Where a store keeps tables: as committed, as a transaction works on them, or as one of its
savepoints keeps them. -/
inductive Place where
  | committed
  | working (id : Nat)
  | savepoint (id number : Nat)

def tablesAt? (s : Store) : Place → Option Tables
  | .committed => some s.tables
  | .working id => s.transactions[id]?.bind fun t => some t.working
  | .savepoint id number =>
    s.transactions[id]?.bind fun t => t.savepoints[number]?.bind fun saved => some saved.2

theorem Holds.tablesAt? {P : Tables → Prop} {place : Place} {ts : Tables} (h : s.Holds P)
    (kept : s.tablesAt? place = some ts) : P ts := by
  cases place with
  | committed =>
    cases kept
    exact h.1
  | working id =>
    obtain ⟨t, there, same⟩ := Option.bind_eq_some_iff.mp kept
    cases same
    exact (h.2 t (List.mem_of_getElem? there)).1
  | savepoint id number =>
    obtain ⟨t, there, kept⟩ := Option.bind_eq_some_iff.mp kept
    obtain ⟨saved, inPlace, same⟩ := Option.bind_eq_some_iff.mp kept
    cases same
    exact (h.2 t (List.mem_of_getElem? there)).2 saved (List.mem_of_getElem? inPlace)

theorem Related.tablesAt? (h : s.Related R v) (place : Place) :
    Option.Rel R (s.tablesAt? place) (v.tablesAt? place) := by
  cases place with
  | committed => exact .some h.tables
  | working id =>
    exact rel_bind (forall₂_getElem? h.transactions id) fun t u related => .some related.working
  | savepoint id number =>
    exact rel_bind (forall₂_getElem? h.transactions id) fun t u related =>
      rel_bind (forall₂_getElem? related.savepoints number) fun a b kept => .some kept.2

end Store

end Memory

end EntityStore
