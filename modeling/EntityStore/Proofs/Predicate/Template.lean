import EntityStore.Proofs.Predicate.Meaning

/-!
# Templates and statements

A predicate is shown by its template and executed as the text that is written for it. Both texts
are put together from those of the comparisons in the same way. They differ in the membership tests
only, for which the template has one placeholder and the statement one for each item, and the
parameters differ accordingly.
-/

namespace EntityStore.Predicate

open Sql (Item separate)

/-! ## Texts of comparisons -/

namespace Leaf

/-- The text of the comparison in a template. -/
def template (l : Leaf) : String := templateCompare l.column l.op

/-- The text of the comparison in a statement: a membership test has a placeholder for each item,
and one without items is constant. -/
def expanded (l : Leaf) : String :=
  if l.op.takesList then
    match items l.value with
    | [] => if l.op = .isIn then falseText else trueText
    | vs => l.column.toSql ++ " " ++ l.op.sql ++ " (" ++ ", ".intercalate (vs.map fun _ => "?") ++ ")"
  else l.template

/-- Whether the comparison is with a value. -/
def hasValue (l : Leaf) : Bool := l.op.takesValue

/-- The values that a statement binds for the one of the comparison. -/
def expandedValue (l : Leaf) : List Value := if l.op.takesList then items l.value else [l.value]

end Leaf

mutual

/-- The template of a predicate with the given texts in the places of its comparisons. -/
def templateWith (text : Leaf → String) : Predicate → String
  | .compare column op value => text ⟨column, op, value⟩
  | .all ps => joinTemplates " AND " trueText (templatesWith text ps)
  | .any ps => joinTemplates " OR " falseText (templatesWith text ps)

def templatesWith (text : Leaf → String) : List Predicate → List String
  | [] => []
  | p :: ps => templateWith text p :: templatesWith text ps

end

mutual

theorem template_eq : ∀ p, template p = templateWith Leaf.template p
  | .compare .. => rfl
  | .all ps | .any ps => by rw [template, templateWith, templates_eq ps]

theorem templates_eq : ∀ ps, templates ps = templatesWith Leaf.template ps
  | [] => rfl
  | p :: ps => by rw [templates, templatesWith, template_eq p, templates_eq ps]

end

/-! ## The text of a statement -/

theorem intercalate_cons (separator s : String) (ss : List String) :
    separator.intercalate (s :: ss) = s ++ String.join (ss.map (separator ++ ·)) := by
  induction ss generalizing s with
  | nil => simp
  | cons t ss ih => simp [ih, String.append_assoc]

theorem joinTemplates_cons (separator empty part : String) (parts : List String) :
    joinTemplates separator empty (part :: parts) =
      "(" ++ part ++ ")" ++ String.join (parts.map fun p => separator ++ ("(" ++ p ++ ")")) := by
  rw [joinTemplates, List.isEmpty_cons, if_neg Bool.false_ne_true, List.map_cons, intercalate_cons,
    List.map_map]
  rfl

/-- The text of a comparison with question marks for its values. -/
theorem spell_compareItems (column : ColumnExpr) (op : Operator) (value : Value) :
    Item.spell (fun _ => "?") (compareItems column op value) = Leaf.expanded ⟨column, op, value⟩ := by
  unfold compareItems Leaf.expanded
  by_cases list : op.takesList = true
  · simp only [list, if_true]
    cases items value with
    | nil => simp [Item.spell]
    | cons v vs =>
      simp only [Item.spell_append, Sql.spell_separate]
      simp [Item.spell, String.append_assoc]
  · simp only [list, if_false, Bool.false_eq_true]
    cases takes : op.takesValue <;>
      simp [Item.spell, Leaf.template, templateCompare, takes, String.append_assoc]

mutual

theorem spell_written :
    ∀ p, Item.spell (fun _ => "?") (written p) = templateWith Leaf.expanded p
  | .compare column op value => spell_compareItems column op value
  | .all [] => by simp [written, Item.spell, templateWith, templatesWith, joinTemplates]
  | .any [] => by simp [written, Item.spell, templateWith, templatesWith, joinTemplates]
  | .all (p :: ps) | .any (p :: ps) => by
    rw [templateWith, templatesWith, joinTemplates_cons, written, Item.spell, Item.spell_append,
      Item.spell, spell_written p, spell_writtenRest]
    simp only [String.append_assoc]

theorem spell_writtenRest (separator : String) :
    ∀ ps, Item.spell (fun _ => "?") (writtenRest separator ps) =
      String.join ((templatesWith Leaf.expanded ps).map fun t => separator ++ ("(" ++ t ++ ")"))
  | [] => rfl
  | p :: ps => by
    rw [templatesWith, List.map_cons, String.join_cons, writtenRest, Item.spell, Item.spell,
      Item.spell_append, Item.spell, spell_written p, spell_writtenRest separator ps]
    simp only [String.append_assoc]

end

/-! ## Parameters -/

theorem takesValue_of_takesList {op : Operator} (list : op.takesList = true) :
    op.takesValue = true := by
  cases op with
  | isIn | notIn => rfl
  | _ => cases list

mutual

theorem params_eq : ∀ p, params p = (p.leaves.filter Leaf.hasValue).map Leaf.value
  | .compare column op value => by
    cases takes : op.takesValue <;> simp [params, leaves, Leaf.hasValue, takes]
  | .all ps | .any ps => by rw [params, leaves, paramsAll_eq ps]

theorem paramsAll_eq :
    ∀ ps, paramsAll ps = ((leavesAll ps).filter Leaf.hasValue).map Leaf.value
  | [] => rfl
  | p :: ps => by simp [paramsAll, leavesAll, params_eq p, paramsAll_eq ps]

end

mutual

theorem bound_eq : ∀ p, bound p = (p.leaves.filter Leaf.hasValue).flatMap Leaf.expandedValue
  | .compare column op value => by
    by_cases list : op.takesList = true
    · simp [bound, boundValues, leaves, Leaf.hasValue, Leaf.expandedValue, list,
        takesValue_of_takesList list]
    · cases takes : op.takesValue <;>
        simp [bound, boundValues, leaves, Leaf.hasValue, Leaf.expandedValue, list, takes]
  | .all ps | .any ps => by rw [bound, leaves, boundAll_eq ps]

theorem boundAll_eq :
    ∀ ps, boundAll ps = ((leavesAll ps).filter Leaf.hasValue).flatMap Leaf.expandedValue
  | [] => rfl
  | p :: ps => by simp [boundAll, leavesAll, bound_eq p, boundAll_eq ps]

end

/-- The text that is written for a predicate is its template with other texts for the membership
tests, and what is bound for it are its parameters with the items in the place of a list. -/
theorem statement_of_template (p : Predicate) (q : Sql) :
    p.template = p.templateWith Leaf.template ∧
      (write q p).render .question = q.render .question ++ p.templateWith Leaf.expanded ∧
      p.params = (p.leaves.filter Leaf.hasValue).map Leaf.value ∧
      (write q p).params = q.params ++ (p.leaves.filter Leaf.hasValue).flatMap Leaf.expandedValue := by
  refine ⟨template_eq p, ?_, params_eq p, ?_⟩
  · rw [write_eq, Sql.render_addAll, Item.print_question, spell_written]
  · rw [write_eq, Sql.params_addAll, values_written, bound_eq]

end EntityStore.Predicate
