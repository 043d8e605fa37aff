import EntityStore.Proofs.Outcome
import EntityStore.Proofs.Sql.Token
import EntityStore.Query.Compiled
import Mathlib.Data.List.TakeWhile

/-!
# Names in statements

Which identifiers and column expressions there are: those that some text is read as. Written
into a statement they are words, or words around one pair of parentheses, and none of them can
be taken for a placeholder or for a constant.
-/

namespace EntityStore

/-! ## Well-formed names -/

namespace Ident

/-- A quoted part can have any name; a plain one keeps to its characters. -/
def Part.WellFormed : Part → Prop
  | .plain s => ∃ c cs, s.toList = c :: cs ∧ isStart c ∧ ∀ d ∈ cs, isContinue d
  | .quoted _ => True

structure WellFormed (i : Ident) : Prop where
  ne_nil : i.parts ≠ []
  parts : ∀ p ∈ i.parts, p.WellFormed

theorem wellFormed_of_plainFault? {cs : List Char} (h : plainFault? cs = none) :
    (Part.plain (String.ofList cs)).WellFormed := by
  cases cs with
  | nil => cases h
  | cons c cs =>
    rw [plainFault?] at h
    split at h
    case isFalse => cases h
    case isTrue start =>
      rw [Option.map_eq_none_iff, List.find?_eq_none] at h
      exact ⟨c, cs, String.toList_ofList, start, fun d hd => by simpa using h d hd⟩

theorem wellFormed_of_readPlain {cs rest : List Char} {p : Part}
    (h : readPlain cs = .ok (p, rest)) : p.WellFormed := by
  unfold readPlain at h
  simp only at h
  split at h
  case h_1 => cases h
  case h_2 fault =>
    cases h
    exact wellFormed_of_plainFault? fault

theorem wellFormed_of_readPart {cs rest : List Char} {p : Part}
    (h : readPart cs = .ok (p, rest)) : p.WellFormed := by
  unfold readPart at h
  split at h
  · split at h
    · cases h
    · cases h
    · cases h
      trivial
  · exact wellFormed_of_readPlain h

/-- What holds of each part that can be read holds of all that are read together. -/
theorem forall_of_readParts {P : Part → Prop}
    (each : ∀ {cs rest : List Char} {p : Part}, readPart cs = .ok (p, rest) → P p)
    {cs : List Char} {ps : List Part} (h : readParts cs = .ok ps) : ps ≠ [] ∧ ∀ p ∈ ps, P p := by
  fun_induction readParts cs generalizing ps with
  | case1 => cases h
  | case2 cs p read =>
    cases h
    refine ⟨List.cons_ne_nil _ _, fun q hq => ?_⟩
    rw [List.mem_singleton.mp hq]
    exact each read
  | case3 => cases h
  | case4 => cases h
  | case5 cs p c rest read _ _ ih =>
    obtain ⟨qs, tail, rfl⟩ := exists_of_map h
    refine ⟨List.cons_ne_nil _ _, fun q hq => ?_⟩
    rcases List.mem_cons.mp hq with rfl | hq
    · exact each read
    · exact (ih tail).2 q hq

theorem wellFormed_of_readParts {cs : List Char} {ps : List Part} (h : readParts cs = .ok ps) :
    ps ≠ [] ∧ ∀ p ∈ ps, p.WellFormed :=
  forall_of_readParts wellFormed_of_readPart h

theorem wellFormed_of_parseChars {cs : List Char} {i : Ident} (h : parseChars cs = .ok i) :
    i.WellFormed := by
  unfold parseChars at h
  split at h
  · cases h
  · split at h
    · cases h
    · obtain ⟨ps, parts, rfl⟩ := exists_of_map h
      exact ⟨(wellFormed_of_readParts parts).1, (wellFormed_of_readParts parts).2⟩

/-- A plain part is read up to the dot behind it or to the end. -/
theorem readPart_plain {s : String} (plain : (Part.plain s).WellFormed) (rest : List Char)
    (edge : ∀ c, rest.head? = some c → c = '.') : readPart (s.toList ++ rest) = .ok (.plain s, rest) := by
  obtain ⟨c, cs, spelled, start, others⟩ := plain
  have continues : isContinue c = true := by
    rcases Bool.or_eq_true_iff.mp start with underscore | letter
    · simp [isContinue, of_decide_eq_true underscore]
    · simp [isContinue, Char.isAlphanum, letter]
  have each : ∀ d ∈ c :: cs, isContinue d = true := List.forall_mem_cons.mpr ⟨continues, others⟩
  have noDot : ∀ d ∈ c :: cs, decide (d ≠ '.') = true := by
    intro d member
    refine decide_eq_true ?_
    rintro rfl
    exact absurd (each _ member) (by decide)
  have noQuote : c ≠ '"' := by
    rintro rfl
    exact absurd start (by decide)
  have fault : plainFault? (c :: cs) = none := by
    rw [plainFault?, if_pos start, Option.map_eq_none_iff, List.find?_eq_none]
    intro d member
    simp [others d member]
  have stops : rest.takeWhile (· ≠ '.') = [] ∧ rest.dropWhile (· ≠ '.') = rest := by
    cases rest with
    | nil => exact ⟨rfl, rfl⟩
    | cons d rest => simp [edge d rfl]
  have taken : (c :: cs ++ rest).takeWhile (· ≠ '.') = c :: cs := by
    rw [List.takeWhile_append_of_pos noDot, stops.1, List.append_nil]
  have dropped : (c :: cs ++ rest).dropWhile (· ≠ '.') = rest := by
    rw [List.dropWhile_append_of_pos noDot, stops.2]
  have name : String.ofList (c :: cs) = s := by rw [← spelled, String.ofList_toList]
  have plainly : readPlain (c :: cs ++ rest) = .ok (.plain s, rest) := by
    rw [readPlain]
    simp only [taken, dropped, fault, name]
  rw [spelled]
  unfold readPart
  split
  · rename_i quoted
    exact absurd (List.cons.inj quoted).1 noQuote
  · exact plainly

theorem readParts_last {cs : List Char} {p : Part} (read : readPart cs = .ok (p, [])) :
    readParts cs = .ok [p] := by
  unfold readParts
  split
  · rename_i failed
    cases read.symm.trans failed
  · rename_i whole
    cases read.symm.trans whole
    rfl
  · rename_i more
    cases read.symm.trans more

theorem readParts_more {cs rest : List Char} {p : Part} (read : readPart cs = .ok (p, '.' :: rest))
    (some : rest ≠ []) : readParts cs = (readParts rest).map (p :: ·) := by
  rw [readParts]
  split
  · rename_i failed
    cases read.symm.trans failed
  · rename_i whole
    cases read.symm.trans whole
  · rename_i more
    cases read.symm.trans more
    rw [if_neg (not_not.mpr rfl), if_neg some]

/-- A plain name is read as one part. -/
theorem parse_plain {s : String} (plain : (Part.plain s).WellFormed) :
    parse s = .ok ⟨[.plain s]⟩ := by
  have read : readPart s.toList = .ok (.plain s, []) := by
    have whole := readPart_plain plain [] (by simp)
    rwa [List.append_nil] at whole
  obtain ⟨c, cs, spelled, start, others⟩ := plain
  have noNul : '\x00' ∉ s.toList := by
    rw [spelled]
    intro member
    rcases List.mem_cons.mp member with rfl | later
    · exact absurd start (by decide)
    · exact absurd (others _ later) (by decide)
  have some : s.toList ≠ [] := spelled ▸ List.cons_ne_nil c cs
  rw [parse, parseChars, if_neg some, if_neg noNul, readParts_last read]
  rfl

/-! ### Spelling -/

theorem eq_of_readQuoted {cs n rest : List Char} (h : readQuoted cs = some (n, rest)) :
    cs = doubleQuotes n ++ '"' :: rest := by
  fun_induction readQuoted cs generalizing n rest with
  | case1 => cases h
  | case2 cs ih =>
    obtain ⟨⟨m, r⟩, read, same⟩ := Option.map_eq_some_iff.mp h
    cases same
    rw [ih read, doubleQuotes, if_pos rfl]
    rfl
  | case3 =>
    cases h
    rfl
  | case4 c cs _ other ih =>
    obtain ⟨⟨m, r⟩, read, same⟩ := Option.map_eq_some_iff.mp h
    cases same
    rw [ih read, doubleQuotes, if_neg other]
    rfl

theorem eq_of_readPart {cs rest : List Char} {p : Part} (h : readPart cs = .ok (p, rest)) :
    cs = p.toChars ++ rest := by
  unfold readPart at h
  split at h
  · split at h
    · cases h
    · cases h
    · rename_i quoted
      cases h
      rw [eq_of_readQuoted quoted, Part.toChars, String.toList_ofList]
      simp
  · unfold readPlain at h
    simp only at h
    split at h
    · cases h
    · cases h
      rw [Part.toChars, String.toList_ofList, List.takeWhile_append_dropWhile]

theorem eq_of_readParts {cs : List Char} {ps : List Part} (h : readParts cs = .ok ps) :
    cs = joinParts ps := by
  fun_induction readParts cs generalizing ps with
  | case1 => cases h
  | case2 cs p read =>
    cases h
    rw [eq_of_readPart read, List.append_nil, joinParts]
  | case3 => cases h
  | case4 => cases h
  | case5 cs p c rest read dot _ ih =>
    obtain ⟨qs, tail, rfl⟩ := exists_of_map h
    obtain ⟨q, others, rfl⟩ := List.exists_cons_of_ne_nil (wellFormed_of_readParts tail).1
    rw [eq_of_readPart read, joinParts, ← ih tail, not_not.mp dot]

/-- An identifier is written the way it was spelled. -/
theorem toSql_of_parse {s : String} {i : Ident} (h : parse s = .ok i) : i.toSql = s := by
  unfold parse parseChars at h
  split at h
  · cases h
  · split at h
    · cases h
    · obtain ⟨ps, parts, rfl⟩ := exists_of_map h
      rw [toSql, ← eq_of_readParts parts, String.ofList_toList]

end Ident

theorem Query.ident_plain {s : String} (plain : (Ident.Part.plain s).WellFormed) :
    ident s = .ok ⟨[.plain s]⟩ := by
  rw [ident, checkIdent, Ident.parse_plain plain]
  rfl

def Term.WellFormed : Term → Prop
  | .column i => i.WellFormed
  | .star none => True
  | .star (some t) => t.WellFormed

/-- A function has a name of letters and underscores. -/
def ColumnExpr.WellFormed : ColumnExpr → Prop
  | .term t => t.WellFormed
  | .aggregate func _ arg =>
    func.toList ≠ [] ∧ (∀ c ∈ func.toList, c = '_' ∨ c.isAlpha) ∧ arg.WellFormed

namespace ColumnExpr

theorem wellFormed_of_parseIdent {cs : List Char} {i : Ident} (h : parseIdent cs = .ok i) :
    i.WellFormed := Ident.wellFormed_of_parseChars (ok_of_mapError h)

theorem isAlpha_iff (c : Char) : c.isAlpha = true ↔
    (65 ≤ c.toNat ∧ c.toNat ≤ 90) ∨ 97 ≤ c.toNat ∧ c.toNat ≤ 122 := by
  change (decide ('A'.val ≤ c.val ∧ c.val ≤ 'Z'.val) ||
    (decide ('a'.val ≤ c.val) && decide (c.val ≤ 'z'.val))) = true ↔ _
  simp only [Bool.or_eq_true, Bool.and_eq_true, decide_eq_true_eq, UInt32.le_iff_toNat_le]
  rfl

/-- In capitals a letter is one of those from A to Z. -/
theorem capital_toUpper {c : Char} (h : c.isAlpha) :
    65 ≤ c.toUpper.toNat ∧ c.toUpper.toNat ≤ 90 := by
  by_cases lower : 'a'.val ≤ c.val ∧ c.val ≤ 'z'.val
  · have above : 97 ≤ c.toNat := UInt32.le_iff_toNat_le.mp lower.1
    have below : c.toNat ≤ 122 := UInt32.le_iff_toNat_le.mp lower.2
    have upper : c.toUpper = _ := dif_pos lower
    have moved : c.toUpper.toNat = (c.toNat + ('A'.val - 'a'.val).toNat) % 2 ^ 32 := by
      rw [upper]
      exact UInt32.toNat_add _ _
    rw [moved, show ('A'.val - 'a'.val).toNat = 2 ^ 32 - 32 by decide]
    omega
  · have same : c.toUpper = c := dif_neg lower
    rw [same]
    refine ((isAlpha_iff c).mp h).resolve_right ?_
    rintro ⟨above, below⟩
    exact lower ⟨UInt32.le_iff_toNat_le.mpr above, UInt32.le_iff_toNat_le.mpr below⟩

theorem isAlpha_toUpper {c : Char} (h : c.isAlpha) : c.toUpper.isAlpha :=
  (isAlpha_iff _).mpr (.inl (capital_toUpper h))

theorem upper_of_isFunctionName {cs : List Char} (h : isFunctionName cs = true) :
    cs.map Char.toUpper ≠ [] ∧ ∀ c ∈ cs.map Char.toUpper, c = '_' ∨ c.isAlpha := by
  simp only [isFunctionName, Bool.and_eq_true, List.all_eq_true, Bool.or_eq_true,
    decide_eq_true_eq] at h
  refine ⟨by simpa using h.1, fun c hc => ?_⟩
  obtain ⟨d, hd, rfl⟩ := List.mem_map.mp hc
  rcases h.2 d hd with rfl | letter
  · exact Or.inl rfl
  · exact Or.inr (isAlpha_toUpper letter)

theorem wellFormed_of_parseTrimmed {cs : List Char} {c : ColumnExpr}
    (h : parseTrimmed cs = .ok c) : c.WellFormed := by
  fun_induction parseTrimmed cs generalizing c with
  | case1 => cases h
  | case2 =>
    cases h
    trivial
  | case3 cs _ _ table _ =>
    obtain ⟨t, read, rfl⟩ := exists_of_map h
    exact wellFormed_of_parseIdent read
  | case4 => cases h
  | case5 => cases h
  | case6 => cases h
  | case7 => cases h
  | case8 cs _ _ _ _ inner _ func name arg read =>
    rename_i ih
    cases h
    have named : isFunctionName func = true := by simpa using name
    have letters := upper_of_isFunctionName named
    refine ⟨?_, ?_, ih read⟩
    · rw [String.toList_ofList]
      exact letters.1
    · rw [String.toList_ofList]
      exact letters.2
  | case9 cs =>
    obtain ⟨i, read, rfl⟩ := exists_of_map h
    exact wellFormed_of_parseIdent read

end ColumnExpr

/-! ## Names as words -/

namespace Sql.Token

/-- A word that is neither a placeholder nor a constant. -/
structure IsName (w : List Char) : Prop extends IsText w where
  one : w.head? ≠ some '1'

theorem quoting_doubleQuotes (cs : List Char) :
    quoting true (Ident.doubleQuotes cs) = some true := by
  induction cs with
  | nil => rfl
  | cons c cs ih =>
    by_cases quote : c = '"'
    · simpa [Ident.doubleQuotes, quoting, quote] using ih
    · simpa [Ident.doubleQuotes, quoting, quote] using ih

theorem plain_of_isContinue {c : Char} (h : Ident.isContinue c) : c ≠ '"' ∧ isBreak c = false :=
  plain_of_class (p := Ident.isContinue) (by decide) h

theorem plain_of_isStart {c : Char} (h : Ident.isStart c) : c ≠ '"' ∧ isBreak c = false :=
  plain_of_class (p := Ident.isStart) (by decide) h

/-- A word is a name when a name can start like it. -/
theorem isName_of_isStart {c : Char} (h : Ident.isStart c) {cs : List Char}
    (word : IsWord (c :: cs)) : IsName (c :: cs) := by
  have other {d : Char} (hd : Ident.isStart d = false) : (c :: cs).head? ≠ some d := by
    rintro ⟨⟩
    exact Bool.false_ne_true (hd.symm.trans h)
  exact ⟨⟨word, other (by decide), other (by decide)⟩, other (by decide)⟩

theorem isName_part {p : Ident.Part} (h : p.WellFormed) : IsName p.toChars := by
  cases p with
  | plain s =>
    obtain ⟨c, cs, text, start, others⟩ := h
    rw [Ident.Part.toChars, text]
    refine isName_of_isStart start ⟨List.cons_ne_nil _ _, quoting_of_plain fun d hd => ?_⟩
    rcases List.mem_cons.mp hd with rfl | hd
    · exact plain_of_isStart start
    · exact plain_of_isContinue (others d hd)
  | quoted s =>
    have closed : quoting false (Ident.Part.quoted s).toChars = some false := by
      rw [Ident.Part.toChars, List.cons_append, quoting, if_pos rfl, quoting_append,
        Bool.not_false, quoting_doubleQuotes]
      rfl
    exact ⟨⟨⟨List.cons_ne_nil _ _, closed⟩, by rintro ⟨⟩, by rintro ⟨⟩⟩, by rintro ⟨⟩⟩

/-- What follows a name in the same word keeps it a name. -/
theorem IsName.append {w v : List Char} (hw : IsName w) (hv : quoting false v = some false) :
    IsName (w ++ v) := by
  have closed : quoting false (w ++ v) = some false := by
    rw [quoting_append, hw.closed, Option.bind_some, hv]
  obtain ⟨c, cs, rfl⟩ := List.exists_cons_of_ne_nil hw.ne_nil
  exact ⟨⟨⟨List.cons_ne_nil _ _, closed⟩, hw.question, hw.dollar⟩, hw.one⟩

theorem isName_ident {i : Ident} (h : i.WellFormed) : IsName i.toSql.toList := by
  have joined : ∀ ps : List Ident.Part, ps ≠ [] → (∀ p ∈ ps, p.WellFormed) →
      IsName (Ident.joinParts ps) := by
    intro ps
    fun_induction Ident.joinParts ps with
    | case1 =>
      intro ne
      exact absurd rfl ne
    | case2 p =>
      intro _ wf
      exact isName_part (wf p (by simp))
    | case3 p q ps ih =>
      intro _ wf
      have later : IsName (Ident.joinParts (q :: ps)) :=
        ih (List.cons_ne_nil _ _) fun r hr => wf r (List.mem_cons_of_mem _ hr)
      exact (isName_part (wf p (by simp))).append later.closed
  rw [Ident.toSql, String.toList_ofList]
  exact joined i.parts h.ne_nil h.parts

theorem isName_term {t : Term} (h : t.WellFormed) : IsName t.toSql.toList := by
  match t with
  | .column i => exact isName_ident h
  | .star none => exact ⟨by decide, by decide⟩
  | .star (some t) =>
    rw [Term.toSql, String.toList_append]
    exact (isName_ident (i := t) h).append (by decide)

theorem isName_function {func : String} (ne : func.toList ≠ [])
    (letters : ∀ c ∈ func.toList, c = '_' ∨ c.isAlpha) : IsName func.toList := by
  have start : ∀ c ∈ func.toList, Ident.isStart c := fun c hc => by
    simpa [Ident.isStart] using letters c hc
  obtain ⟨c, cs, text⟩ := List.exists_cons_of_ne_nil ne
  rw [text] at start ⊢
  exact isName_of_isStart (start c (by simp))
    ⟨List.cons_ne_nil _ _, quoting_of_plain fun d hd => plain_of_isStart (start d hd)⟩

end Sql.Token

end EntityStore
