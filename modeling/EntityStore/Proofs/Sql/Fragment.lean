import EntityStore.Entity
import EntityStore.Proofs.Sql.Item
import Mathlib.Data.List.Chain

/-!
# Fragments that are composed

A fragment is built step by step, and what was built on its own may be appended to it as a whole.
Appending adds the items of the other fragment one by one, so that it does not matter how the steps
were nested. Every step keeps the text in as few pieces as there can be, and one parameter for each
placeholder.
-/

namespace EntityStore.Sql

/-! ## Steps -/

/-- A step of building a fragment. -/
inductive Step where
  | push (s : String)
  | bind (v : Value)
  | bindList (vs : List Value)
  /-- Appends an identifier, if the name is one. -/
  | ident (name : String)

namespace Step

/-- What the step does to a fragment, and whether it fails. -/
def edit : Step → Edit Ident.Fault Sql
  | push s => fun q => (.ok (), q.push s)
  | bind v => fun q => (.ok (), q.bind v)
  | bindList vs => fun q => (.ok (), q.bindList vs)
  | ident name => fun q =>
    match q.ident name with
    | .ok q => (.ok (), q)
    | .error fault => (.error fault, q)

/-- The text that an identifier of the name appends, which is none if there is no such identifier. -/
def identText (name : String) : String :=
  match Ident.parse name with
  | .ok i => i.toSql
  | .error _ => ""

/-- The values that the step binds. -/
def bound : Step → List Value
  | push _ | ident _ => []
  | bind v => [v]
  | bindList vs => vs

/-- The text that the step appends, with its values written out in their places. -/
def spell (form : Value → String) : Step → String
  | push s => s
  | bind v => form v
  | bindList [] => "NULL"
  | bindList (v :: vs) => ", ".intercalate ((v :: vs).map form)
  | ident name => identText name

def items : Step → List Item
  | push s => [.text s]
  | bind v => [.value v]
  | bindList [] => [.text "NULL"]
  | bindList (v :: vs) => separate ", " (fun w => [.value w]) (v :: vs)
  | ident name => [.text (identText name)]

end Step

/-- Takes one step after the other, whether they succeed or not. -/
def build (q : Sql) (steps : List Step) : Sql := steps.foldl (fun q step => (step.edit q).2) q

/-- Steps in the order and nesting in which they are taken. -/
inductive Tree where
  | step (s : Step)
  /-- Builds a fragment of its own and appends that. -/
  | nested (ts : List Tree)

mutual

def Tree.build (q : Sql) : Tree → Sql
  | .step s => (s.edit q).2
  | .nested ts => q ++ buildAll .empty ts

def buildAll (q : Sql) : List Tree → Sql
  | [] => q
  | t :: ts => buildAll (t.build q) ts

end

mutual

/-- The steps of a tree without their nesting. -/
def Tree.flatten : Tree → List Step
  | .step s => [s]
  | .nested ts => flattenAll ts

def flattenAll : List Tree → List Step
  | [] => []
  | t :: ts => t.flatten ++ flattenAll ts

end

/-! ## Appending -/

section

variable (s t : String) (ps : List Piece)

theorem appendText_nil : appendText s [] = if s = "" then [] else [.text s] := by simp [appendText]

/-- Text joins a piece of text at the end. -/
theorem appendText_concat_text : appendText s (ps ++ [.text t]) = ps ++ [.text (t ++ s)] := by
  induction ps with
  | nil => simp [appendText]
  | cons p ps ih => cases ps <;> simp_all [appendText]

/-- Behind a placeholder text is a piece of its own. -/
theorem appendText_concat_param : appendText s (ps ++ [.param]) = ps ++ .param :: appendText s [] := by
  induction ps with
  | nil => simp [appendText]
  | cons p ps ih => cases ps <;> simp_all [appendText]

theorem appendText_empty : appendText "" ps = ps := by
  rcases List.eq_nil_or_concat ps with rfl | ⟨front, t | _, rfl⟩
  · simp [appendText_nil]
  · simp [appendText_concat_text]
  · simp [appendText_concat_param, appendText_nil]

theorem appendText_appendText : appendText t (appendText s ps) = appendText (s ++ t) ps := by
  by_cases none : s = ""
  · simp [none, appendText_empty]
  · have some : s ++ t ≠ "" := by simp [String.append_eq_empty_iff, none]
    rcases List.eq_nil_or_concat ps with rfl | ⟨front, u | _, rfl⟩
    · simpa [appendText_nil, none, some] using appendText_concat_text t s []
    · simp [appendText_concat_text, String.append_assoc]
    · have behind := appendText_concat_text t s (front ++ [.param])
      simpa [appendText_concat_param, appendText_nil, none, some] using behind

theorem foldl_appendText (front : List Piece) :
    (appendText s ps).foldl appendPiece front = appendText s (ps.foldl appendPiece front) := by
  by_cases none : s = ""
  · simp [none, appendText_empty]
  · rcases List.eq_nil_or_concat ps with rfl | ⟨ps, t | _, rfl⟩
    · simp [appendText_nil, none, appendPiece]
    · simp [appendText_concat_text, appendPiece, appendText_appendText]
    · simp [appendText_concat_param, appendText_nil, none, appendPiece]

end

section

variable (q r : Sql)

theorem append_empty : q ++ empty = q := by
  change (⟨q.pieces, q.params ++ []⟩ : Sql) = q
  rw [List.append_nil]

theorem append_push (s : String) : q ++ r.push s = (q ++ r).push s :=
  congrArg (Sql.mk · (q.params ++ r.params)) (foldl_appendText s r.pieces q.pieces)

theorem append_bind (v : Value) : q ++ r.bind v = (q ++ r).bind v := by
  change Sql.mk ((r.pieces ++ [Piece.param]).foldl appendPiece q.pieces) (q.params ++ (r.params ++ [v])) =
    Sql.mk (r.pieces.foldl appendPiece q.pieces ++ [.param]) (q.params ++ r.params ++ [v])
  simp [appendPiece]

/-- The items of a fragment that is appended are added one by one. -/
theorem append_addAll (is : List Item) : q ++ r.addAll is = (q ++ r).addAll is := by
  induction is generalizing r with
  | nil => rfl
  | cons i is ih =>
    cases i with
    | text s => rw [addAll_text, ih, append_push, addAll_text]
    | value v => rw [addAll_value, ih, append_bind, addAll_value]

end

/-! ## What steps build -/

theorem push_empty (q : Sql) : q.push "" = q := by simp [push, appendText_empty]

/-- A step adds its items. -/
theorem edit_eq (q : Sql) (step : Step) : (step.edit q).2 = q.addAll step.items := by
  cases step with
  | push s | bind v => rfl
  | bindList vs =>
    cases vs with
    | nil => rfl
    | cons v vs => exact bindList_eq q v vs
  | ident name =>
    simp only [Step.edit, Step.items, Step.identText, Sql.ident]
    cases Ident.parse name with
    | error fault => exact (push_empty q).symm
    | ok i => rfl

theorem build_eq (q : Sql) (steps : List Step) : build q steps = q.addAll (steps.flatMap Step.items) :=
  foldl_addAll edit_eq steps q

theorem build_append (q : Sql) (first rest : List Step) :
    build q (first ++ rest) = build (build q first) rest := List.foldl_append

mutual

theorem Tree.build_eq (q : Sql) : ∀ t : Tree, t.build q = Sql.build q t.flatten
  | .step _ => rfl
  | .nested ts => by
    rw [Tree.build, Tree.flatten, buildAll_eq .empty ts, Sql.build_eq, append_addAll, append_empty,
      Sql.build_eq]

theorem buildAll_eq (q : Sql) : ∀ ts : List Tree, buildAll q ts = build q (flattenAll ts)
  | [] => rfl
  | t :: ts => by rw [buildAll, t.build_eq q, buildAll_eq _ ts, flattenAll, build_append]

end

theorem values_items (steps : List Step) :
    Item.values (steps.flatMap Step.items) = steps.flatMap Step.bound := by
  rw [Item.values_flatMap]
  congr 1
  funext step
  cases step with
  | push s | bind v | ident name => rfl
  | bindList vs =>
    cases vs with
    | nil => rfl
    | cons v vs => simp [Step.items, Step.bound, values_separate]

theorem spell_items (form : Value → String) (steps : List Step) :
    Item.spell form (steps.flatMap Step.items) = String.join (steps.map (Step.spell form)) := by
  have one (step : Step) : Item.spell form step.items = step.spell form := by
    cases step with
    | push s | bind v | ident name => simp [Step.items, Step.spell, Item.spell]
    | bindList vs =>
      cases vs with
      | nil => simp [Step.items, Step.spell, Item.spell]
      | cons v vs =>
        simp only [Step.items, Step.spell, spell_separate]
        simp [Item.spell]
  induction steps with
  | nil => rfl
  | cons step steps ih =>
    rw [List.flatMap_cons, Item.spell_append, one, ih, List.map_cons, String.join_cons]

/-! ## The form of a fragment -/

/-- The text is in as few pieces as there can be. -/
structure Normal (q : Sql) : Prop where
  filled : ∀ s, .text s ∈ q.pieces → s ≠ ""
  apart : q.pieces.IsChain fun p p' => p = .param ∨ p' = .param

theorem normal_empty : (empty : Sql).Normal := ⟨nofun, .nil⟩

theorem Normal.push {q : Sql} (normal : q.Normal) (s : String) : (q.push s).Normal := by
  obtain ⟨pieces, params⟩ := q
  obtain ⟨filled, apart⟩ := normal
  by_cases none : s = ""
  · rw [none, push_empty]
    exact ⟨filled, apart⟩
  · rcases List.eq_nil_or_concat pieces with rfl | ⟨front, t | _, rfl⟩
    · constructor <;> simp [Sql.push, appendText_nil, none]
    · constructor
      · have some : t ++ s ≠ "" := by simp [String.append_eq_empty_iff, none]
        simp_all [Sql.push, appendText_concat_text, or_imp, forall_and]
      · simp_all [Sql.push, appendText_concat_text, List.isChain_append]
    · constructor
      · simp_all [Sql.push, appendText_concat_param, appendText_nil, or_imp]
      · simp_all [Sql.push, appendText_concat_param, appendText_nil, List.isChain_append]

theorem Normal.bind {q : Sql} (normal : q.Normal) (v : Value) : (q.bind v).Normal := by
  obtain ⟨filled, apart⟩ := normal
  constructor
  · simp_all [Sql.bind]
  · simp_all [Sql.bind, List.isChain_append]

theorem Normal.addAll {q : Sql} (normal : q.Normal) (is : List Item) : (q.addAll is).Normal := by
  induction is generalizing q with
  | nil => exact normal
  | cons i is ih =>
    cases i with
    | text s => exact ih (normal.push s)
    | value v => exact ih (normal.bind v)

/-- The placeholders are numbered from left to right. -/
theorem renderFrom_eq (style : Placeholder) (n : Nat) (ps : List Piece) :
    renderFrom style n ps = substitute ps
      ((List.range' n (ps.countP (· = .param))).map fun k => placeholderText style (k + 1)) := by
  induction ps generalizing n with
  | nil => rfl
  | cons p ps ih =>
    cases p with
    | text s => simp [renderFrom, substitute, ih]
    | param => simp [renderFrom, substitute, ih, List.range'_succ]

theorem render_eq (style : Placeholder) (q : Sql) :
    q.render style = substitute q.pieces
      ((List.range q.placeholders).map fun k => placeholderText style (k + 1)) := by
  rw [render, renderFrom_eq, List.range_eq_range', placeholders]

/-- A fragment that is made by steps, one after the other. -/
structure MadeBy (q : Sql) (steps : List Step) : Prop where
  sequential : q = build .empty steps
  normal : q.Normal
  placeholders : q.placeholders = q.params.length
  /-- Each parameter is a value that was bound, in the order in which they were bound. -/
  params : q.params = steps.flatMap Step.bound
  dollar : q.render .dollar =
    substitute q.pieces ((List.range q.params.length).map fun k => "$" ++ toString (k + 1))
  question : q.render .question = substitute q.pieces (List.replicate q.params.length "?")
  /-- In the places of the placeholders, the parameters stand where they were bound. -/
  inPlace : ∀ form, substitute q.pieces (q.params.map form) = String.join (steps.map (Step.spell form))

theorem madeBy_build (steps : List Step) : (build .empty steps).MadeBy steps := by
  have flat : build .empty steps = ofItems (steps.flatMap Step.items) := build_eq empty steps
  have params : (build .empty steps).params = steps.flatMap Step.bound := by
    rw [flat, params_ofItems, values_items]
  have counted : (build .empty steps).placeholders = (build .empty steps).params.length := by
    rw [flat, placeholders_ofItems, params_ofItems]
  refine ⟨rfl, ?normal, counted, params, ?dollar, ?question, ?inPlace⟩
  case normal =>
    rw [flat]
    exact normal_empty.addAll _
  case dollar =>
    rw [render_eq, counted]
    rfl
  case question =>
    rw [render_eq, counted]
    simp [placeholderText]
  case inPlace =>
    intro form
    rw [← spell_items, ← spell_ofItems, ← flat]
    rfl

/-- What is built does not depend on how the steps are nested: it is made by the steps of the trees,
one after the other. Its text is in pieces that are not empty and of which no two are adjacent, and it
has a parameter for each placeholder, which is numbered or a question mark. A name that is no
identifier leaves the fragment as it was. -/
theorem built_by_steps (ts : List Tree) :
    (buildAll .empty ts).MadeBy (flattenAll ts) ∧
      ∀ (q : Sql) (name : String), (Step.ident name).edit q =
        match Ident.parse name with
        | .ok i => (.ok (), q.push i.toSql)
        | .error fault => (.error fault, q) := by
  constructor
  · rw [buildAll_eq]
    exact madeBy_build (flattenAll ts)
  · intro q name
    simp only [Step.edit, Sql.ident]
    cases Ident.parse name <;> rfl

end EntityStore.Sql
