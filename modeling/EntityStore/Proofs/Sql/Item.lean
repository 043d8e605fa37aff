import EntityStore.Sql

/-!
# Statements as items

A statement is a sequence of items: stretches of text, and values in their places. A fragment
is built from items by `push` and `bind`, and everything that is observed of it (its text in
either style, its parameters, its placeholders) is read off the items.
-/

namespace EntityStore.Sql

/-- A stretch of text, or a value in its place. -/
inductive Item where
  | text (s : String)
  | value (v : Value)

namespace Item

def value? : Item → Option Value
  | .text _ => none
  | .value v => some v

/-- The values, from left to right. -/
def values (is : List Item) : List Value := is.filterMap value?

/-- The text with a placeholder for each value; `n` values stand before. -/
def print (style : Placeholder) (n : Nat) : List Item → String
  | [] => ""
  | .text s :: is => s ++ print style n is
  | .value _ :: is => placeholderText style (n + 1) ++ print style (n + 1) is

/-- The text with the values written out in their places. -/
def spell (form : Value → String) : List Item → String
  | [] => ""
  | .text s :: is => s ++ spell form is
  | .value v :: is => form v ++ spell form is

@[simp] theorem values_nil : values [] = [] := rfl

@[simp] theorem values_text (s : String) (is : List Item) :
    values (.text s :: is) = values is := rfl

@[simp] theorem values_value (v : Value) (is : List Item) :
    values (.value v :: is) = v :: values is := rfl

@[simp] theorem values_append (is js : List Item) :
    values (is ++ js) = values is ++ values js := List.filterMap_append

theorem values_flatMap {α : Type} (f : α → List Item) (xs : List α) :
    values (xs.flatMap f) = xs.flatMap fun x => values (f x) := by
  induction xs with
  | nil => rfl
  | cons x xs ih => simp [ih]

theorem print_append (style : Placeholder) (n : Nat) (is js : List Item) :
    print style n (is ++ js) = print style n is ++ print style (n + (values is).length) js := by
  induction is generalizing n with
  | nil => simp [print]
  | cons i is ih =>
    cases i with
    | text s => simp [print, ih, String.append_assoc]
    | value v => simp [print, ih, String.append_assoc, Nat.add_assoc, Nat.add_comm 1]

theorem spell_append (form : Value → String) (is js : List Item) :
    spell form (is ++ js) = spell form is ++ spell form js := by
  induction is with
  | nil => simp [spell]
  | cons i is ih => cases i <;> simp [spell, ih, String.append_assoc]

/-- Question marks do not tell which value they stand for. -/
theorem print_question (n : Nat) (is : List Item) :
    print .question n is = spell (fun _ => "?") is := by
  induction is generalizing n with
  | nil => rfl
  | cons i is ih => cases i <;> simp [print, spell, placeholderText, ih]

/-- The item with null for its value. -/
def blank : Item → Item
  | .text s => .text s
  | .value _ => .value .null

@[simp] theorem blank_comp_blank : blank ∘ blank = blank := by
  funext i
  cases i <;> rfl

/-- The text does not depend on which values there are. -/
theorem print_blank (style : Placeholder) (n : Nat) (is : List Item) :
    print style n (is.map blank) = print style n is := by
  induction is generalizing n with
  | nil => rfl
  | cons i is ih =>
    cases i with
    | text s => simp [print, blank, ih]
    | value v => simp [print, blank, ih]

end Item

/-! ## Building a fragment -/

/-- Appends an item. -/
def add (q : Sql) : Item → Sql
  | .text s => q.push s
  | .value v => q.bind v

def addAll (q : Sql) (is : List Item) : Sql := is.foldl add q

def ofItems (is : List Item) : Sql := empty.addAll is

@[simp] theorem addAll_nil (q : Sql) : q.addAll [] = q := rfl

@[simp] theorem addAll_text (q : Sql) (s : String) (is : List Item) :
    q.addAll (.text s :: is) = (q.push s).addAll is := rfl

@[simp] theorem addAll_value (q : Sql) (v : Value) (is : List Item) :
    q.addAll (.value v :: is) = (q.bind v).addAll is := rfl

theorem addAll_append (q : Sql) (is js : List Item) :
    q.addAll (is ++ js) = (q.addAll is).addAll js := List.foldl_append

/-- A loop that appends items for each element appends all of them. -/
theorem foldl_addAll {α : Type} {step : Sql → α → Sql} {f : α → List Item}
    (h : ∀ q x, step q x = q.addAll (f x)) (xs : List α) (q : Sql) :
    xs.foldl step q = q.addAll (xs.flatMap f) := by
  induction xs generalizing q with
  | nil => rfl
  | cons x xs ih => rw [List.foldl_cons, ih, h, List.flatMap_cons, addAll_append]

/-- The items of a list with a separator between neighbours. -/
def separate {α : Type} (separator : String) (f : α → List Item) : List α → List Item
  | [] => []
  | x :: xs => f x ++ xs.flatMap fun y => .text separator :: f y

theorem separated_eq {α : Type} {write : Sql → α → Sql} {f : α → List Item}
    (h : ∀ q x, write q x = q.addAll (f x)) (separator : String) (q : Sql) (xs : List α) :
    q.separated separator write xs = q.addAll (separate separator f xs) := by
  cases xs with
  | nil => rfl
  | cons x xs =>
    rw [separated, separate, addAll_append, ← h]
    exact foldl_addAll (fun q y => by rw [h]; rfl) xs _

theorem bindList_eq (q : Sql) (v : Value) (vs : List Value) :
    q.bindList (v :: vs) = q.addAll (separate ", " (fun w => [.value w]) (v :: vs)) :=
  foldl_addAll (f := fun w => [.text ", ", .value w]) (fun _ _ => rfl) vs (q.bind v)

theorem values_separate {α : Type} (separator : String) (f : α → List Item) (xs : List α) :
    Item.values (separate separator f xs) = xs.flatMap fun x => Item.values (f x) := by
  cases xs with
  | nil => rfl
  | cons x xs => simp [separate, Item.values_flatMap]

theorem spell_separate {α : Type} (form : Value → String) (separator : String) (f : α → List Item)
    (xs : List α) : Item.spell form (separate separator f xs) =
      separator.intercalate (xs.map fun x => Item.spell form (f x)) := by
  cases xs with
  | nil => simp [separate, Item.spell]
  | cons x xs =>
    rw [separate, Item.spell_append, List.map_cons]
    induction xs generalizing x with
    | nil => simp [Item.spell]
    | cons y xs ih =>
      rw [List.flatMap_cons, Item.spell_append, Item.spell, List.map_cons,
        String.intercalate_cons_cons, ← ih]
      simp [String.append_assoc]

/-! ## What is observed of a fragment -/

/-- How many placeholders the text has. -/
def placeholders (q : Sql) : Nat := q.pieces.countP (· = .param)

/-- Puts texts in the places of the parameters, in order. -/
def substitute : List Piece → List String → String
  | [], _ => ""
  | .text s :: ps, vs => s ++ substitute ps vs
  | .param :: ps, v :: vs => v ++ substitute ps vs
  | .param :: ps, [] => substitute ps []

/-- The statement with the values that it binds written out in the places of their
placeholders. -/
def spell (form : Value → String) (q : Sql) : String :=
  substitute q.pieces (q.params.map form)

section Pieces

variable (s : String) (ps : List Piece)

theorem countP_appendText : (appendText s ps).countP (· = .param) = ps.countP (· = .param) := by
  fun_induction appendText s ps with
  | case1 | case2 | case3 => simp_all
  | case4 p ps _ ih => simp_all [List.countP_cons]

theorem renderFrom_appendText (style : Placeholder) (n : Nat) :
    renderFrom style n (appendText s ps) = renderFrom style n ps ++ s := by
  fun_induction appendText s ps generalizing n with
  | case1 | case2 | case3 => simp_all [renderFrom]
  | case4 p ps _ ih => cases p <;> simp_all [renderFrom, String.append_assoc]

theorem renderFrom_append_param (style : Placeholder) (n : Nat) :
    renderFrom style n (ps ++ [.param]) =
      renderFrom style n ps ++ placeholderText style (n + ps.countP (· = .param) + 1) := by
  induction ps generalizing n with
  | nil => simp [renderFrom]
  | cons p ps ih =>
    cases p with
    | text t => simp [renderFrom, ih, String.append_assoc]
    | param => simp [renderFrom, ih, String.append_assoc, Nat.add_assoc, Nat.add_comm 1]

theorem substitute_appendText (vs : List String) :
    substitute (appendText s ps) vs = substitute ps vs ++ s := by
  fun_induction appendText s ps generalizing vs with
  | case1 | case2 | case3 => simp_all [substitute]
  | case4 p ps _ ih =>
    cases p <;> cases vs <;> simp_all [substitute, String.append_assoc]

theorem substitute_append_param (v : String) (vs : List String)
    (h : ps.countP (· = .param) = vs.length) :
    substitute (ps ++ [.param]) (vs ++ [v]) = substitute ps vs ++ v := by
  induction ps generalizing vs with
  | nil =>
    have : vs = [] := List.length_eq_zero_iff.mp h.symm
    simp [this, substitute]
  | cons p ps ih =>
    cases p with
    | text t => simp_all [substitute, String.append_assoc]
    | param =>
      cases vs with
      | nil => simp at h
      | cons w ws => simp_all [substitute, String.append_assoc]

end Pieces

section Steps

variable (q : Sql) (s : String) (v : Value)

theorem render_push (style : Placeholder) : (q.push s).render style = q.render style ++ s :=
  renderFrom_appendText s q.pieces style 0

theorem render_bind (style : Placeholder) :
    (q.bind v).render style = q.render style ++ placeholderText style (q.placeholders + 1) := by
  simp [render, bind, placeholders, renderFrom_append_param]

theorem placeholders_push : (q.push s).placeholders = q.placeholders :=
  countP_appendText s q.pieces

theorem placeholders_bind : (q.bind v).placeholders = q.placeholders + 1 := by
  simp [placeholders, bind]

@[simp] theorem params_push : (q.push s).params = q.params := rfl

@[simp] theorem params_bind : (q.bind v).params = q.params ++ [v] := rfl

theorem spell_push (form : Value → String) : (q.push s).spell form = q.spell form ++ s :=
  substitute_appendText s q.pieces _

theorem spell_bind (form : Value → String) (h : q.placeholders = q.params.length) :
    (q.bind v).spell form = q.spell form ++ form v := by
  have filled := substitute_append_param q.pieces (form v) (q.params.map form)
    (by rw [List.length_map]; exact h)
  simpa [spell, bind] using filled

end Steps

theorem render_addAll (style : Placeholder) (q : Sql) (is : List Item) :
    (q.addAll is).render style = q.render style ++ Item.print style q.placeholders is := by
  induction is generalizing q with
  | nil => simp [Item.print]
  | cons i is ih =>
    cases i with
    | text s => simp [ih, Item.print, render_push, placeholders_push, String.append_assoc]
    | value v => simp [ih, Item.print, render_bind, placeholders_bind, String.append_assoc]

theorem params_addAll (q : Sql) (is : List Item) :
    (q.addAll is).params = q.params ++ Item.values is := by
  induction is generalizing q with
  | nil => simp
  | cons i is ih =>
    cases i with
    | text s => simp [ih]
    | value v => simp [ih]

theorem placeholders_addAll (q : Sql) (is : List Item) :
    (q.addAll is).placeholders = q.placeholders + (Item.values is).length := by
  induction is generalizing q with
  | nil => simp
  | cons i is ih =>
    cases i with
    | text s => simp [ih, placeholders_push]
    | value v => simp [ih, placeholders_bind, Nat.add_assoc, Nat.add_comm 1]

theorem spell_addAll (form : Value → String) (q : Sql) (is : List Item)
    (h : q.placeholders = q.params.length) :
    (q.addAll is).spell form = q.spell form ++ Item.spell form is := by
  induction is generalizing q with
  | nil => simp [Item.spell]
  | cons i is ih =>
    cases i with
    | text s =>
      have rest := ih (q.push s) ((placeholders_push q s).trans h)
      simp [rest, Item.spell, spell_push, String.append_assoc]
    | value v =>
      have rest := ih (q.bind v) (by simp [placeholders_bind, params_bind, h])
      simp [rest, Item.spell, spell_bind q v form h, String.append_assoc]

/-! A fragment made of items has the text of the items, binds their values in order, and has
one placeholder for each, in the place of its value. -/

theorem render_ofItems (style : Placeholder) (is : List Item) :
    (ofItems is).render style = Item.print style 0 is := by
  rw [ofItems, render_addAll]
  exact String.empty_append

theorem params_ofItems (is : List Item) : (ofItems is).params = Item.values is := by
  rw [ofItems, params_addAll]
  rfl

theorem placeholders_ofItems (is : List Item) :
    (ofItems is).placeholders = (Item.values is).length := by
  rw [ofItems, placeholders_addAll]
  exact Nat.zero_add _

theorem spell_ofItems (form : Value → String) (is : List Item) :
    (ofItems is).spell form = Item.spell form is := by
  rw [ofItems, spell_addAll form empty is rfl]
  simp [spell, empty, substitute]

end EntityStore.Sql
