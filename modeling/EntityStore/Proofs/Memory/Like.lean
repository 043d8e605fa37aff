import EntityStore.Memory.Match
import Mathlib.Data.List.Forall2
import Mathlib.Logic.ExistsUnique

/-!
# LIKE

A text matches a pattern when it can be cut into pieces, one for each element of the pattern.
The matcher never cuts: it goes through the text once and keeps, for every prefix of the
pattern, whether that prefix matches what it has seen.
-/

namespace EntityStore.Memory

/-! ## Cutting a text -/

/-- What a pattern's element can stand for. -/
inductive Wildcard.Takes : Wildcard → List Char → Prop
  | anyRun (piece : List Char) : Takes .anyRun piece
  | anyOne (c : Char) : Takes .anyOne [c]
  | literal (c : Char) : Takes (.literal c) [c]

/-- The text can be cut into consecutive pieces, one for each element. -/
inductive Matches : List Wildcard → List Char → Prop
  | nil : Matches [] []
  | cons {w : Wildcard} {piece : List Char} {ws : List Wildcard} {rest : List Char} :
    w.Takes piece → Matches ws rest → Matches (w :: ws) (piece ++ rest)

theorem matches_nil {t : List Char} : Matches [] t ↔ t = [] := by
  constructor
  · rintro ⟨⟩
    rfl
  · rintro rfl
    exact .nil

/-- The last element takes the last piece. -/
theorem matches_concat {ws : List Wildcard} {w : Wildcard} {t : List Char} :
    Matches (ws ++ [w]) t ↔
      ∃ front piece, t = front ++ piece ∧ Matches ws front ∧ w.Takes piece := by
  constructor
  · intro h
    induction ws generalizing t with
    | nil =>
      cases h with
      | cons takes rest =>
        cases rest
        exact ⟨[], _, by simp, .nil, takes⟩
    | cons v ws ih =>
      cases h with
      | cons takes rest =>
        obtain ⟨front, piece, rfl, matched, last⟩ := ih rest
        exact ⟨_, piece, (List.append_assoc ..).symm, .cons takes matched, last⟩
  · rintro ⟨front, piece, rfl, matched, last⟩
    induction matched with
    | nil => simpa using Matches.cons last .nil
    | cons takes _ ih =>
      rw [List.append_assoc]
      exact .cons takes ih

section

variable {pre : List Wildcard} {t : List Char} {c : Char}

theorem matches_concat_nil {w : Wildcard} :
    Matches (pre ++ [w]) [] ↔ Matches pre [] ∧ w = .anyRun := by
  rw [matches_concat]
  constructor
  · rintro ⟨front, piece, empty, matched, takes⟩
    obtain ⟨rfl, rfl⟩ := List.append_eq_nil_iff.mp empty.symm
    cases takes
    exact ⟨matched, rfl⟩
  · rintro ⟨matched, rfl⟩
    exact ⟨[], [], rfl, matched, .anyRun []⟩

theorem matches_concat_one {w : Wildcard} (one : ∀ piece, w.Takes piece → ∃ d, piece = [d]) :
    Matches (pre ++ [w]) (t ++ [c]) ↔ Matches pre t ∧ w.Takes [c] := by
  rw [matches_concat]
  constructor
  · rintro ⟨front, piece, text, matched, takes⟩
    obtain ⟨d, rfl⟩ := one piece takes
    obtain ⟨rfl, last⟩ := List.append_inj' text rfl
    cases last
    exact ⟨matched, takes⟩
  · rintro ⟨matched, takes⟩
    exact ⟨t, [c], rfl, matched, takes⟩

/-- A run takes nothing behind the last character, or it takes that character too. -/
theorem matches_concat_anyRun :
    Matches (pre ++ [.anyRun]) (t ++ [c]) ↔
      Matches pre (t ++ [c]) ∨ Matches (pre ++ [.anyRun]) t := by
  rw [matches_concat, matches_concat]
  constructor
  · rintro ⟨front, piece, text, matched, -⟩
    rcases List.eq_nil_or_concat piece with rfl | ⟨piece', d, rfl⟩
    · rw [List.append_nil] at text
      exact Or.inl (text ▸ matched)
    · rw [List.concat_eq_append, ← List.append_assoc] at text
      obtain ⟨rfl, -⟩ := List.append_inj' text rfl
      exact Or.inr ⟨front, piece', rfl, matched, .anyRun _⟩
  · rintro (matched | ⟨front, piece, rfl, matched, -⟩)
    · exact ⟨t ++ [c], [], (List.append_nil _).symm, matched, .anyRun _⟩
    · exact ⟨front, piece ++ [c], List.append_assoc .., matched, .anyRun _⟩

end

/-! ## The rows of the matcher -/

/-- A row tells of every prefix of a pattern that goes on behind `pre` whether it matches. -/
inductive Tells (t : List Char) : List Wildcard → List Wildcard → List Bool → Prop
  | last {pre : List Wildcard} {b : Bool} (here : b = true ↔ Matches pre t) : Tells t pre [] [b]
  | cons {pre : List Wildcard} {w : Wildcard} {ws : List Wildcard} {b : Bool} {row : List Bool}
    (here : b = true ↔ Matches pre t) (later : Tells t (pre ++ [w]) ws row) :
    Tells t pre (w :: ws) (b :: row)

theorem tells_initialRow {pre ws : List Wildcard} {reached : Bool}
    (h : reached = true ↔ Matches pre []) : Tells [] pre ws (initialRow reached ws) := by
  induction ws generalizing pre reached with
  | nil => exact .last h
  | cons w ws ih =>
    refine .cons h (ih ?_)
    rw [matches_concat_nil, ← h]
    simp

theorem Tells.headD {t : List Char} {pre ws : List Wildcard} {row : List Bool}
    (h : Tells t pre ws row) : row.headD false = true ↔ Matches pre t := by
  cases h with
  | last here => exact here
  | cons here _ => exact here

theorem Tells.getLastD {t : List Char} {pre ws : List Wildcard} {row : List Bool}
    (h : Tells t pre ws row) : row.getLastD false = true ↔ Matches (pre ++ ws) t := by
  induction h with
  | last here =>
    rw [List.append_nil]
    exact here
  | cons here later ih =>
    rw [List.append_assoc] at ih
    cases later with
    | last _ => exact ih
    | cons _ _ => exact ih

/-- The row for one more character. -/
theorem tells_nextRow {t : List Char} {c : Char} {pre ws : List Wildcard} {row : List Bool}
    {here : Bool} (h : Tells t pre ws row) (hh : here = true ↔ Matches pre (t ++ [c])) :
    Tells (t ++ [c]) pre ws (nextRow c here ws row) := by
  induction h generalizing here with
  | last _ => exact .last hh
  | @cons pre w ws before row hb later ih =>
    refine .cons hh (ih ?_)
    cases w with
    | anyRun =>
      rw [matches_concat_anyRun, Bool.or_eq_true, hh, later.headD]
    | anyOne =>
      rw [matches_concat_one fun piece takes => by cases takes; exact ⟨_, rfl⟩, ← hb]
      exact ⟨fun matched => ⟨matched, .anyOne c⟩, And.left⟩
    | literal l =>
      rw [matches_concat_one fun piece takes => by cases takes; exact ⟨_, rfl⟩, ← hb,
        Bool.and_eq_true, decide_eq_true_eq]
      refine and_congr_right fun _ => ⟨?_, ?_⟩
      · rintro rfl
        exact .literal l
      · rintro ⟨⟩
        rfl

theorem tells_foldl (ws : List Wildcard) (front t : List Char) {row : List Bool}
    (h : Tells front [] ws row) :
    Tells (front ++ t) [] ws (t.foldl (fun row c => nextRow c false ws row) row) := by
  induction t generalizing front row with
  | nil => simpa using h
  | cons c t ih =>
    have none : false = true ↔ Matches [] (front ++ [c]) := by simp [matches_nil]
    have further := ih (front ++ [c]) (tells_nextRow h none)
    rwa [List.append_assoc, List.singleton_append] at further

theorem matches_iff (ws : List Wildcard) (t : List Char) :
    (t.foldl (fun row c => nextRow c false ws row) (initialRow true ws)).getLastD false = true ↔
      Matches ws t := by
  have start : Tells [] [] ws (initialRow true ws) := tells_initialRow (by simp [matches_nil])
  exact (tells_foldl ws [] t start).getLastD

/-- The matcher answers whether the text can be cut as the pattern says. -/
theorem like_iff (text pattern : String) :
    like text pattern = true ↔ Matches (wildcards pattern.toList) text.toList :=
  matches_iff _ _

/-! ## Reading a pattern -/

/-- The elements that a pattern is read as, by the first character and, behind a backslash, by
the one after it. -/
inductive Wildcard.Reads : List Char → List Wildcard → Prop
  | nil : Reads [] []
  | anyRun {cs : List Char} {ws : List Wildcard} : Reads cs ws → Reads ('%' :: cs) (.anyRun :: ws)
  | anyOne {cs : List Char} {ws : List Wildcard} : Reads cs ws → Reads ('_' :: cs) (.anyOne :: ws)
  | escaped {c : Char} {cs : List Char} {ws : List Wildcard} :
    Reads cs ws → Reads ('\\' :: c :: cs) (.literal c :: ws)
  /-- A backslash with nothing behind it. -/
  | alone : Reads ['\\'] [.literal '\\']
  | plain {c : Char} {cs : List Char} {ws : List Wildcard} :
    c ≠ '%' → c ≠ '_' → c ≠ '\\' → Reads cs ws → Reads (c :: cs) (.literal c :: ws)

/-- Every pattern is read, and in one way only. -/
theorem reads_iff {cs : List Char} {ws : List Wildcard} :
    Wildcard.Reads cs ws ↔ ws = wildcards cs := by
  constructor
  · intro read
    induction read with
    | nil | alone => rfl
    | anyRun _ ih | anyOne _ ih | escaped _ ih => simp [wildcards, ih]
    | plain noRun noOne noEscape _ ih => simp [wildcards, noRun, noOne, noEscape, ih]
  · rintro rfl
    fun_induction wildcards cs with
    | case1 => exact .nil
    | case2 => exact .alone
    | case3 c cs ih => exact .escaped ih
    | case4 c cs notAlone notEscaped ih =>
      have noEscape : c ≠ '\\' := by
        rintro rfl
        cases cs with
        | nil => exact notAlone rfl rfl
        | cons d ds => exact notEscaped d ds rfl rfl
      split
      · subst c
        exact .anyRun ih
      · split
        · subst c
          exact .anyOne ih
        · exact .plain ‹_› ‹_› noEscape ih

/-- A text that is cut up is made of the pieces. -/
theorem matches_iff_pieces {ws : List Wildcard} {t : List Char} :
    Matches ws t ↔ ∃ pieces, List.Forall₂ Wildcard.Takes ws pieces ∧ pieces.flatten = t := by
  constructor
  · intro matched
    induction matched with
    | nil => exact ⟨[], .nil, rfl⟩
    | @cons w piece ws rest takes _ ih =>
      obtain ⟨pieces, taken, rfl⟩ := ih
      exact ⟨piece :: pieces, .cons takes taken, rfl⟩
  · rintro ⟨pieces, taken, rfl⟩
    induction taken with
    | nil => exact .nil
    | cons takes _ ih => exact .cons takes ih

/-- A pattern is read as one sequence of elements, and the matcher answers whether the text can be
cut into consecutive pieces, one for each of them: any piece for `%`, one character for `_`, and for
every other element the character that it stands for. -/
theorem like_iff_cut (text pattern : String) :
    (∃! ws, Wildcard.Reads pattern.toList ws) ∧
      (like text pattern = true ↔ ∃ ws pieces, Wildcard.Reads pattern.toList ws ∧
        List.Forall₂ Wildcard.Takes ws pieces ∧ pieces.flatten = text.toList) := by
  constructor
  · refine ⟨wildcards pattern.toList, reads_iff.mpr rfl, ?_⟩
    intro ws read
    exact reads_iff.mp read
  · rw [like_iff, matches_iff_pieces]
    constructor
    · rintro ⟨pieces, taken, whole⟩
      exact ⟨_, pieces, reads_iff.mpr rfl, taken, whole⟩
    · rintro ⟨ws, pieces, read, taken, whole⟩
      obtain rfl := reads_iff.mp read
      exact ⟨pieces, taken, whole⟩

end EntityStore.Memory
