import EntityStore.Proofs.Sql.Name

/-!
# How identifiers are spelled

The grammar of identifiers as a class of texts, apart from the reader. The reader takes the texts
of this class and no others, an identifier is written as the text that it was read from, and every
identifier whose parts can be spelled is read from what is written for it.
-/

namespace EntityStore

namespace Ident

/-! ## The grammar -/

/-- A letter or an underscore. -/
def Opens (c : Char) : Prop := ('A' ≤ c ∧ c ≤ 'Z') ∨ ('a' ≤ c ∧ c ≤ 'z') ∨ c = '_'

/-- What may stand behind the first character: digits and dollar signs as well. -/
def Continues (c : Char) : Prop := Opens c ∨ ('0' ≤ c ∧ c ≤ '9') ∨ c = '$'

inductive PlainText : List Char → Prop where
  | intro {c : Char} {cs : List Char} : Opens c → (∀ d ∈ cs, Continues d) → PlainText (c :: cs)

/-- Text without NUL in which every quote is doubled. -/
inductive Doubled : List Char → Prop where
  | nil : Doubled []
  | quote {cs : List Char} : Doubled cs → Doubled ('"' :: '"' :: cs)
  | other {c : Char} {cs : List Char} : c ≠ '"' → c ≠ '\x00' → Doubled cs → Doubled (c :: cs)

/-- A part as it is spelled, plainly or between quotes. -/
inductive PartText : List Char → Prop where
  | plain {text : List Char} : PlainText text → PartText text
  | quoted {text : List Char} : text ≠ [] → Doubled text → PartText ('"' :: text ++ ['"'])

/-- One part or more, with a dot between them. -/
def Grammatical (text : List Char) : Prop :=
  ∃ parts, parts ≠ [] ∧ (∀ part ∈ parts, PartText part) ∧ ['.'].intercalate parts = text

/-- A part that some text spells. -/
def Part.Spellable : Part → Prop
  | .plain s => PlainText s.toList
  | .quoted s => s ≠ "" ∧ '\x00' ∉ s.toList

structure Spellable (i : Ident) : Prop where
  ne_nil : i.parts ≠ []
  parts : ∀ p ∈ i.parts, p.Spellable

theorem isStart_iff {c : Char} : isStart c = true ↔ Opens c := by
  rw [isStart, Bool.or_eq_true, decide_eq_true_eq, ColumnExpr.isAlpha_iff, Opens]
  simp only [Char.le_def, UInt32.le_iff_toNat_le]
  change _ ↔ (65 ≤ c.toNat ∧ c.toNat ≤ 90) ∨ (97 ≤ c.toNat ∧ c.toNat ≤ 122) ∨ c = '_'
  tauto

theorem isContinue_iff {c : Char} : isContinue c = true ↔ Continues c := by
  have digit : c.isDigit = true ↔ '0' ≤ c ∧ c ≤ '9' := by
    simp only [Char.isDigit, Bool.and_eq_true, decide_eq_true_eq, Char.le_def]
  rw [Continues, ← isStart_iff, ← digit, isContinue, isStart, Char.isAlphanum]
  simp only [Bool.or_eq_true, decide_eq_true_eq]
  tauto

theorem wellFormed_plain {s : String} : (Part.plain s).WellFormed ↔ PlainText s.toList := by
  constructor
  · rintro ⟨c, cs, text, start, others⟩
    rw [text]
    exact ⟨isStart_iff.mp start, fun d member => isContinue_iff.mp (others d member)⟩
  · intro plain
    cases text : s.toList with
    | nil =>
      rw [text] at plain
      cases plain
    | cons c cs =>
      rw [text] at plain
      cases plain with
      | intro start others =>
        exact ⟨c, cs, text, isStart_iff.mpr start,
          fun d member => isContinue_iff.mpr (others d member)⟩

/-! ## The text of a part -/

theorem mem_doubleQuotes {x : Char} {cs : List Char} : x ∈ doubleQuotes cs ↔ x ∈ cs := by
  induction cs with
  | nil => rfl
  | cons c cs ih =>
    rw [doubleQuotes]
    split
    · rename_i quote
      simp [ih, quote]
    · simp [ih]

theorem doubled_doubleQuotes {cs : List Char} (noNul : '\x00' ∉ cs) : Doubled (doubleQuotes cs) := by
  induction cs with
  | nil => exact .nil
  | cons c cs ih =>
    obtain ⟨here, later⟩ := not_or.mp (List.mem_cons.not.mp noNul)
    rw [doubleQuotes]
    split
    · exact .quote (ih later)
    · rename_i other
      exact .other other (Ne.symm here) (ih later)

theorem Doubled.exists_eq {text : List Char} (doubled : Doubled text) :
    ∃ cs, '\x00' ∉ cs ∧ doubleQuotes cs = text := by
  induction doubled with
  | nil => exact ⟨[], List.not_mem_nil, rfl⟩
  | quote _ ih =>
    obtain ⟨cs, noNul, rfl⟩ := ih
    refine ⟨'"' :: cs, ?_, by rw [doubleQuotes, if_pos rfl]⟩
    simpa using noNul
  | @other c _ quote nul _ ih =>
    obtain ⟨cs, noNul, rfl⟩ := ih
    refine ⟨c :: cs, ?_, by rw [doubleQuotes, if_neg quote]⟩
    simpa [Ne.symm nul] using noNul

theorem partText_toChars {p : Part} (spellable : p.Spellable) : PartText p.toChars := by
  cases p with
  | plain s => exact .plain spellable
  | quoted s =>
    refine .quoted (fun none => spellable.1 ?_) (doubled_doubleQuotes spellable.2)
    cases text : s.toList with
    | nil => rw [← String.ofList_toList (s := s), text]
    | cons c cs =>
      rw [text, doubleQuotes] at none
      split at none <;> cases none

theorem PartText.exists_eq {text : List Char} (spelled : PartText text) :
    ∃ p : Part, p.Spellable ∧ p.toChars = text := by
  cases spelled with
  | plain plain =>
    refine ⟨.plain (String.ofList text), ?_, String.toList_ofList⟩
    rwa [Part.Spellable, String.toList_ofList]
  | quoted some doubled =>
    obtain ⟨cs, noNul, rfl⟩ := doubled.exists_eq
    refine ⟨.quoted (String.ofList cs), ⟨?_, by rwa [String.toList_ofList]⟩, ?_⟩
    · intro empty
      have none : cs = [] := by simpa using congrArg String.toList empty
      exact some (by rw [none]; rfl)
    · rw [Part.toChars, String.toList_ofList]

/-! ## The text of an identifier -/

theorem joinParts_eq (ps : List Part) : joinParts ps = ['.'].intercalate (ps.map Part.toChars) := by
  fun_induction joinParts ps with
  | case1 => rfl
  | case2 p => simp
  | case3 p q ps ih =>
    rw [ih, List.map_cons, List.map_cons, List.map_cons, List.intercalate_cons_cons]
    simp

theorem grammatical_joinParts {i : Ident} (spellable : i.Spellable) : Grammatical (joinParts i.parts) := by
  refine ⟨i.parts.map Part.toChars, by simpa using spellable.ne_nil, ?_, (joinParts_eq _).symm⟩
  intro text member
  obtain ⟨p, part, rfl⟩ := List.mem_map.mp member
  exact partText_toChars (spellable.parts p part)

theorem Grammatical.exists_eq {text : List Char} (grammatical : Grammatical text) :
    ∃ i : Ident, i.Spellable ∧ joinParts i.parts = text := by
  obtain ⟨texts, some, spelled, rfl⟩ := grammatical
  have parts : ∃ ps : List Part, (∀ p ∈ ps, p.Spellable) ∧ ps.map Part.toChars = texts := by
    clear some
    induction texts with
    | nil => exact ⟨[], by simp, rfl⟩
    | cons t ts ih =>
      obtain ⟨p, spellable, rfl⟩ := (spelled t List.mem_cons_self).exists_eq
      obtain ⟨ps, others, rfl⟩ := ih fun u member => spelled u (List.mem_cons_of_mem _ member)
      exact ⟨p :: ps, List.forall_mem_cons.mpr ⟨spellable, others⟩, rfl⟩
  obtain ⟨ps, spellable, rfl⟩ := parts
  refine ⟨⟨ps⟩, ⟨by simpa using some, spellable⟩, joinParts_eq ps⟩

/-- Dots and quotes apart, an identifier is written in the characters of its parts. -/
theorem mem_joinParts {x : Char} (dot : x ≠ '.') {ps : List Part} :
    x ∈ joinParts ps ↔ ∃ p ∈ ps, x ∈ p.toChars := by
  fun_induction joinParts ps with
  | case1 => simp
  | case2 p => simp
  | case3 p q ps ih => simp [ih, dot]

theorem nul_notMem_joinParts {i : Ident} (spellable : i.Spellable) : '\x00' ∉ joinParts i.parts := by
  rw [mem_joinParts (by decide)]
  rintro ⟨p, member, nul⟩
  have part := spellable.parts p member
  cases p with
  | plain s =>
    obtain ⟨c, cs, text, start, others⟩ := wellFormed_plain.mpr part
    rw [Part.toChars, text] at nul
    rcases List.mem_cons.mp nul with rfl | later
    · exact absurd start (by decide)
    · exact absurd (others _ later) (by decide)
  | quoted s =>
    rw [Part.toChars] at nul
    have inside : '\x00' ∈ s.toList := by simpa [mem_doubleQuotes] using nul
    exact part.2 inside

/-! ## Reading what was written -/

theorem readQuoted_doubleQuotes {rest : List Char} (edge : rest.head? ≠ some '"') (cs : List Char) :
    readQuoted (doubleQuotes cs ++ '"' :: rest) = some (cs, rest) := by
  induction cs with
  | nil =>
    cases rest with
    | nil => simp [doubleQuotes, readQuoted]
    | cons d rest =>
      have other : d ≠ '"' := fun same => edge (by rw [same]; rfl)
      simp [doubleQuotes, readQuoted, other]
  | cons c cs ih =>
    by_cases quote : c = '"'
    · subst quote
      simp [doubleQuotes, readQuoted, ih]
    · simp [doubleQuotes, readQuoted, ih, quote]

/-- A part is read up to the dot behind it or to the end. -/
theorem readPart_toChars {p : Part} (spellable : p.Spellable) (rest : List Char)
    (edge : ∀ c, rest.head? = some c → c = '.') : readPart (p.toChars ++ rest) = .ok (p, rest) := by
  cases p with
  | plain s => exact readPart_plain (wellFormed_plain.mpr spellable) rest edge
  | quoted s =>
    have noQuote : rest.head? ≠ some '"' := fun quote => absurd (edge _ quote) (by decide)
    have text : (Part.quoted s).toChars ++ rest = '"' :: (doubleQuotes s.toList ++ '"' :: rest) := by
      simp [Part.toChars]
    rw [text, readPart, readQuoted_doubleQuotes noQuote]
    cases chars : s.toList with
    | nil => exact absurd (by simpa using congrArg String.ofList chars) spellable.1
    | cons c cs =>
      have name : String.ofList (c :: cs) = s := by rw [← chars, String.ofList_toList]
      simp only [name]

theorem ne_nil_of_readParts {cs : List Char} {ps : List Part} (h : readParts cs = .ok ps) : cs ≠ [] := by
  rintro rfl
  simp [readParts, readPart, readPlain, plainFault?] at h

theorem readParts_joinParts {ps : List Part} (some : ps ≠ []) (spellable : ∀ p ∈ ps, p.Spellable) :
    readParts (joinParts ps) = .ok ps := by
  fun_induction joinParts ps with
  | case1 => exact absurd rfl some
  | case2 p =>
    refine readParts_last ?_
    have whole := readPart_toChars (spellable p List.mem_cons_self) [] (by simp)
    rwa [List.append_nil] at whole
  | case3 p q ps ih =>
    have first := readPart_toChars (spellable p List.mem_cons_self)
      ('.' :: joinParts (q :: ps)) (by simp)
    have others := ih (List.cons_ne_nil q ps) fun r member => spellable r (List.mem_cons_of_mem p member)
    rw [readParts_more first (ne_nil_of_readParts others), others]
    rfl

theorem parse_toSql {i : Ident} (spellable : i.Spellable) : parse i.toSql = .ok i := by
  have parts := readParts_joinParts spellable.ne_nil spellable.parts
  rw [parse, toSql, String.toList_ofList, parseChars, if_neg (ne_nil_of_readParts parts),
    if_neg (nul_notMem_joinParts spellable), parts]
  rfl

theorem ne_empty_of_readPart {cs rest : List Char} {s : String}
    (h : readPart cs = .ok (.quoted s, rest)) : s ≠ "" := by
  unfold readPart at h
  split at h
  · split at h
    · cases h
    · cases h
    · rename_i some _
      obtain ⟨same, rfl⟩ := Prod.mk.inj (Except.ok.inj h)
      rw [← Part.quoted.inj same]
      intro empty
      exact some (by simpa using congrArg String.toList empty)
  · rw [readPlain] at h
    split at h <;> cases h

/-- A part that was read can be spelled, unless there is a NUL in it. -/
theorem spellable_of_readPart {cs rest : List Char} {p : Part} (h : readPart cs = .ok (p, rest)) :
    '\x00' ∉ p.toChars → p.Spellable := by
  intro noNul
  cases p with
  | plain s => exact wellFormed_plain.mp (wellFormed_of_readPart h)
  | quoted s =>
    refine ⟨ne_empty_of_readPart h, fun nul => noNul ?_⟩
    simp [Part.toChars, mem_doubleQuotes, nul]

theorem spellable_of_parse {s : String} {i : Ident} (h : parse s = .ok i) : i.Spellable := by
  have written : joinParts i.parts = s.toList := by
    rw [← toSql_of_parse h, toSql, String.toList_ofList]
  unfold parse parseChars at h
  split at h
  · cases h
  · split at h
    · cases h
    · rename_i noNul
      obtain ⟨ps, parts, rfl⟩ := exists_of_map h
      obtain ⟨some, each⟩ := forall_of_readParts spellable_of_readPart parts
      refine ⟨some, fun p member => each p member fun nul => noNul ?_⟩
      rw [← written, mem_joinParts (by decide)]
      exact ⟨p, member, nul⟩

/-! ## Reader and grammar -/

/-- The reader takes exactly the texts of the grammar, and what it reads from a text is the
identifier that is written as this text. -/
theorem read_iff_spelled (s : String) (i : Ident) :
    ((∃ j, parse s = .ok j) ↔ Grammatical s.toList) ∧
      (parse s = .ok i ↔ i.Spellable ∧ i.toSql = s) ∧
      (parse i.toSql = .ok i ↔ i.Spellable) := by
  refine ⟨⟨?_, ?_⟩, ⟨?_, ?_⟩, ⟨spellable_of_parse, parse_toSql⟩⟩
  · rintro ⟨j, read⟩
    have written : joinParts j.parts = s.toList := by
      rw [← toSql_of_parse read, toSql, String.toList_ofList]
    rw [← written]
    exact grammatical_joinParts (spellable_of_parse read)
  · intro grammatical
    obtain ⟨j, spellable, written⟩ := grammatical.exists_eq
    refine ⟨j, ?_⟩
    have text : j.toSql = s := by rw [toSql, written, String.ofList_toList]
    rw [← text]
    exact parse_toSql spellable
  · intro read
    exact ⟨spellable_of_parse read, toSql_of_parse read⟩
  · rintro ⟨spellable, rfl⟩
    exact parse_toSql spellable

end Ident

end EntityStore
