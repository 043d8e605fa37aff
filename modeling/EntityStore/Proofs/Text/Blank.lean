import EntityStore.Text.Blank
import Mathlib.Data.List.TakeWhile

/-!
# Trimming

Trimming takes blanks from both ends, so a text that has none there stays as it is.
-/

namespace EntityStore.Text

/-- No blank stands at either end. -/
def Trimmed (cs : List Char) : Prop :=
  (∀ c ∈ cs.head?, isBlank c = false) ∧ ∀ c ∈ cs.getLast?, isBlank c = false

theorem trimLeft_of_head? {cs : List Char} (start : ∀ c ∈ cs.head?, isBlank c = false) :
    trimLeft cs = cs := by
  cases cs with
  | nil => rfl
  | cons c cs => simp [trimLeft, start c rfl]

theorem trimRight_of_getLast? {cs : List Char} (stop : ∀ c ∈ cs.getLast?, isBlank c = false) :
    trimRight cs = cs := by
  have reversed : trimLeft cs.reverse = cs.reverse := by
    apply trimLeft_of_head?
    rwa [List.head?_reverse]
  rw [trimRight, reversed, List.reverse_reverse]

theorem Trimmed.trim_eq {cs : List Char} (trimmed : Trimmed cs) : trim cs = cs := by
  rw [trim, trimLeft_of_head? trimmed.1, trimRight_of_getLast? trimmed.2]

theorem isBlank_or_mem_trimLeft {cs : List Char} {c : Char} (member : c ∈ cs) :
    isBlank c = true ∨ c ∈ trimLeft cs := by
  rw [← List.takeWhile_append_dropWhile (p := isBlank) (l := cs), List.mem_append] at member
  exact member.imp_left List.mem_takeWhile_imp

/-- Trimming takes nothing but blanks. -/
theorem isBlank_or_mem_trim {cs : List Char} {c : Char} (member : c ∈ cs) :
    isBlank c = true ∨ c ∈ trim cs := by
  rcases isBlank_or_mem_trimLeft member with blank | kept
  · exact .inl blank
  · rw [trim, trimRight, List.mem_reverse]
    exact isBlank_or_mem_trimLeft (List.mem_reverse.mpr kept)

theorem trim_of_blanks {front back cs : List Char} (before : ∀ c ∈ front, isBlank c = true)
    (behind : ∀ c ∈ back, isBlank c = true) (trimmed : Trimmed cs) (ne_nil : cs ≠ []) :
    trim (front ++ (cs ++ back)) = cs := by
  obtain ⟨c, cs, rfl⟩ := List.exists_cons_of_ne_nil ne_nil
  have left : trimLeft (front ++ (c :: cs ++ back)) = c :: cs ++ back :=
    (List.dropWhile_append_of_pos before).trans (trimLeft_of_head? trimmed.1)
  have right : trimLeft (c :: cs ++ back).reverse = trimLeft (c :: cs).reverse := by
    rw [List.reverse_append]
    exact List.dropWhile_append_of_pos fun d member => behind d (List.mem_reverse.mp member)
  rw [trim, left, trimRight, right]
  exact trimRight_of_getLast? trimmed.2

/-- What can be seen in ASCII is no blank. -/
theorem not_isBlank {c : Char} (above : 0x20 < c.toNat) (below : c.toNat < 0x85) :
    isBlank c = false := by
  rw [isBlank, List.any_eq_false]
  intro r member
  simp only [blankRanges, List.mem_cons, List.not_mem_nil, or_false] at member
  rw [Bool.and_eq_true, decide_eq_true_eq, decide_eq_true_eq]
  rcases member with rfl | rfl | rfl | rfl | rfl | rfl | rfl | rfl | rfl | rfl <;> dsimp only <;>
    omega

end EntityStore.Text
