import EntityStore.Proofs.Predicate.Rendering

/-!
# The clauses of statements

The WHERE and HAVING clauses of every statement are read back from its text: the filters one
after the other, with nothing but AND between them.
-/

namespace EntityStore

open Sql (Item ofItems Comparison Level Token)
open Sql.Token

/-! ## The end of a clause -/

namespace Sql

/-- How the text behind a clause can start. -/
def endTexts : List String :=
  [" GROUP BY ", " HAVING ", " ORDER BY ", " LIMIT ", " OFFSET ", ") AS t"]

theorem atEnd_word {w : String} (hw : IsText w.toList) (he : w ∈ endWords)
    (style : Placeholder) (params : List Value) (n : Nat) (rest : List Char) :
    Token.atEnd (Token.ofText style params n (' ' :: (w.toList ++ ' ' :: rest))) = true := by
  rw [ofText_blank, ofText_word style params n hw (boundary_cons (by decide) rest),
    String.ofList_toList]
  simpa [Token.atEnd] using he

theorem atEnd_endText {s : String} (h : s ∈ endTexts) (style : Placeholder)
    (params : List Value) (n : Nat) (rest : List Char) :
    Token.atEnd (Token.ofText style params n (s.toList ++ rest)) = true := by
  simp only [endTexts, List.mem_cons, List.not_mem_nil, or_false] at h
  rcases h with rfl | rfl | rfl | rfl | rfl | rfl
  · exact atEnd_word (w := "GROUP") (by decide) (by decide) _ _ _ _
  · exact atEnd_word (w := "HAVING") (by decide) (by decide) _ _ _ _
  · exact atEnd_word (w := "ORDER") (by decide) (by decide) _ _ _ _
  · exact atEnd_word (w := "LIMIT") (by decide) (by decide) _ _ _ _
  · exact atEnd_word (w := "OFFSET") (by decide) (by decide) _ _ _ _
  · change Token.atEnd (Token.ofText style params n (')' :: _)) = true
    rw [ofText_closing]
    rfl

/-- Neither text starts with the other. -/
def Apart (s t : String) : Prop := ¬ s.toList <+: t.toList ∧ ¬ t.toList <+: s.toList

instance (s t : String) : Decidable (Apart s t) := inferInstanceAs (Decidable (_ ∧ _))

/-- The items behind a clause: none, or such as cannot be taken for more of it, or for a clause
with the same keyword. -/
def Stops (keyword : String) (is : List Item) : Prop :=
  is = [] ∨ ∃ s ∈ endTexts, Apart keyword s ∧ ∃ t js, is = .text (s ++ t) :: js

theorem stops_nil (keyword : String) : Stops keyword [] := Or.inl rfl

theorem stops_text {keyword s : String} (h : s ∈ endTexts) (ha : Apart keyword s)
    (is : List Item) : Stops keyword (.text s :: is) :=
  Or.inr ⟨s, h, ha, "", is, by rw [String.append_empty]⟩

theorem stops_append {keyword : String} {is js : List Item} (hi : Stops keyword is)
    (hj : Stops keyword js) : Stops keyword (is ++ js) := by
  rcases hi with rfl | ⟨s, h, ha, t, ks, rfl⟩
  · exact hj
  · exact Or.inr ⟨s, h, ha, t, ks ++ js, rfl⟩

section

variable {keyword : String} {is : List Item} (h : Stops keyword is)

include h

theorem Stops.breaks : Breaks is := by
  rcases h with rfl | ⟨s, hs, -, t, js, rfl⟩
  · exact breaks_nil
  · obtain ⟨c, cs, text, brk⟩ : ∃ c cs, s.toList = c :: cs ∧ isBreak c = true := by
      simp only [endTexts, List.mem_cons, List.not_mem_nil, or_false] at hs
      rcases hs with rfl | rfl | rfl | rfl | rfl | rfl <;> exact ⟨_, _, rfl, by decide⟩
    have head : (s ++ t).toList = c :: (cs ++ t.toList) := by
      rw [String.toList_append, text, List.cons_append]
    exact breaks_text head brk js

theorem Stops.atEnd (style : Placeholder) (params : List Value) (n : Nat) :
    Token.atEnd (Token.ofItems style params n is) = true := by
  rcases h with rfl | ⟨s, hs, -, t, js, rfl⟩
  · rfl
  · rw [ofItems_text, String.toList_append, List.append_assoc]
    exact atEnd_endText hs style params n _

theorem Stops.other (style : Placeholder) (n : Nat) (hk : keyword ≠ "") :
    dropHead? keyword.toList (Item.print style n is).toList = none := by
  rw [dropHead?, if_neg]
  rcases h with rfl | ⟨s, hs, ha, t, js, rfl⟩
  · intro hp
    have empty : keyword.toList = [] := List.prefix_nil.mp hp
    exact hk (String.toList_inj.mp empty)
  · intro hp
    rw [Item.print, String.toList_append, String.toList_append, List.append_assoc] at hp
    rcases List.prefix_or_prefix_of_prefix hp (List.prefix_append _ _) with hp | hp
    · exact ha.1 hp
    · exact ha.2 hp

end

end Sql

/-! ## Filters -/

namespace Predicate

open Sql (Stops readClause dropHead?)

variable {T : Type} [Lattice T] [BoundedOrder T]

/-- What a clause is read as, given the truth values of its comparisons. -/
def clauseValue (truth : Leaf → T) (ps : List Predicate) : T :=
  (ps.foldl (extend truth) .start).value

theorem clauseValue_singleton (truth : Leaf → T) (p : Predicate) :
    clauseValue truth [p] = eval truth p := value_extend_start truth p

variable (style : Placeholder) (truth : Comparison → T) {keyword : String} {after : List Item}

theorem breaks_others (hs : Stops keyword after) (ps : List Predicate) :
    Breaks ((ps.flatMap fun p => .text " AND " :: written p) ++ after) := by
  cases ps with
  | nil => exact hs.breaks
  | cons p ps => exact breaks_text (s := " AND ") rfl (by decide) _

theorem readConnective_others {params : List Value} {n : Nat} {l : Level T}
    {ps : List Predicate} (wf : ∀ p ∈ ps, p.WellFormed) (hs : Stops keyword after)
    (hp : Bound params n (ps.flatMap bound)) :
    readConnective truth [] l (Token.ofItems style params n
        ((ps.flatMap fun p => .text " AND " :: written p) ++ after)) =
      some (ps.foldl (extend (Leaf.read truth)) l).value := by
  induction ps generalizing n l with
  | nil => exact readConnective_end truth l _ (hs.atEnd style params n)
  | cons p ps ih =>
    obtain ⟨first, others⟩ := bound_append hp
    rw [List.flatMap_cons, List.cons_append, List.cons_append, List.append_assoc,
      Predicate.readConnective_and, readsOff (wf p (by simp)) (breaks_others hs ps) first,
      ih (fun q hq => wf q (List.mem_cons_of_mem _ hq)) others]
    rfl

/-- The clause of a statement is read as its filters one after the other. -/
theorem readClause_ofItems {ps : List Predicate} (wf : ∀ p ∈ ps, p.WellFormed)
    (hk : keyword ≠ "") (hs : Stops keyword after) (before : List Item) :
    readClause style truth before keyword
        (ofItems (before ++ (clauseItems keyword ps ++ after))) =
      some (clauseValue (Leaf.read truth) ps) := by
  have params : (ofItems (before ++ (clauseItems keyword ps ++ after))).params =
      Item.values before ++ (ps.flatMap bound ++ Item.values after) := by
    rw [Sql.params_ofItems, Item.values_append, Item.values_append, values_clauseItems]
  rw [readClause, Sql.render_ofItems, Item.print_append, String.toList_append,
    Sql.dropHead?_append, params, Nat.zero_add]
  cases ps with
  | nil =>
    have none := hs.other style (Item.values before).length hk
    simp only [clauseItems, List.nil_append, Option.bind_eq_bind, Option.bind_some, none]
    simp [clauseValue, Level.start, Level.value]
  | cons p ps =>
    have bound : Bound (Item.values before ++ ((p :: ps).flatMap bound ++ Item.values after))
        (Item.values before).length ((p :: ps).flatMap bound) := by
      rw [Bound, List.drop_left]
      exact List.prefix_append _ _
    obtain ⟨first, others⟩ := bound_append bound
    simp only [clauseItems, List.cons_append, Item.print, String.toList_append,
      Sql.dropHead?_append, Option.bind_eq_bind, Option.bind_some, List.append_assoc]
    change readOperand truth [] .start (Token.ofItems style _ _ (written p ++ _)) = _
    rw [readsOff (wf p (by simp)) (breaks_others hs ps) first,
      readConnective_others style truth (fun q hq => wf q (List.mem_cons_of_mem _ hq)) hs others]
    rfl

end Predicate

end EntityStore
