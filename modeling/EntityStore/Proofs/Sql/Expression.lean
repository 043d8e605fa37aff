import EntityStore.Proofs.Sql.Spelling
import EntityStore.Proofs.Text.Blank

/-!
# How column expressions are spelled

The grammar of column expressions as a class of texts, apart from the reader. An expression that
was read is written as a text of this class, blanks and the case of keywords are settled by that,
and reading the text again gives the same expression. The names of columns are those identifiers
that have no opening parenthesis in them; an identifier with one can be read by itself but not as
an expression.
-/

namespace EntityStore

/-! ## The ends of an identifier -/

namespace Ident

/-- A quote, or what may stand in a plain part. -/
def isEdge (c : Char) : Bool := c = '"' || isContinue c

theorem isEdge_of_isContinue {c : Char} (continues : isContinue c = true) : isEdge c = true :=
  Bool.or_eq_true_iff.mpr (.inr continues)

theorem not_isBlank_of_isEdge {c : Char} (edge : isEdge c = true) : Text.isBlank c = false := by
  have seen : 0x20 < c.toNat ∧ c.toNat < 0x85 := by
    simp only [isEdge, Bool.or_eq_true, decide_eq_true_eq, isContinue_iff, Continues, Opens,
      Char.le_def, UInt32.le_iff_toNat_le] at edge
    change c = '"' ∨ ((65 ≤ c.toNat ∧ c.toNat ≤ 90) ∨ (97 ≤ c.toNat ∧ c.toNat ≤ 122) ∨ c = '_') ∨
      (48 ≤ c.toNat ∧ c.toNat ≤ 57) ∨ c = '$' at edge
    rcases edge with rfl | (upper | lower | rfl) | digit | rfl
    case inl | inr.inl.inr.inr | inr.inr.inr => decide
    all_goals omega
  exact Text.not_isBlank seen.1 seen.2

/-- The text starts and ends as an identifier does. -/
structure Edged (text : List Char) : Prop where
  ne_nil : text ≠ []
  head : ∀ c ∈ text.head?, isEdge c = true
  last : ∀ c ∈ text.getLast?, isEdge c = true

theorem Edged.trimmed {text : List Char} (edged : Edged text) : Text.Trimmed text :=
  ⟨fun c start => not_isBlank_of_isEdge (edged.head c start),
    fun c stop => not_isBlank_of_isEdge (edged.last c stop)⟩

theorem Edged.append {front back : List Char} (first : Edged front) (second : Edged back)
    (middle : List Char) : Edged (front ++ middle ++ back) where
  ne_nil := by simp [first.ne_nil]
  head := by
    obtain ⟨c, cs, rfl⟩ := List.exists_cons_of_ne_nil first.ne_nil
    exact first.head
  last := by
    rw [List.getLast?_append_of_ne_nil _ second.ne_nil]
    exact second.last

theorem isContinue_of_plain {s : String} (plain : (Part.plain s).Spellable) :
    ∀ c ∈ s.toList, isContinue c = true := by
  obtain ⟨c, cs, text, start, others⟩ := wellFormed_plain.mpr plain
  rw [text]
  exact List.forall_mem_cons.mpr ⟨isContinue_iff.mpr (.inl (isStart_iff.mp start)), others⟩

theorem edged_part {p : Part} (spellable : p.Spellable) : Edged p.toChars := by
  cases p with
  | plain s =>
    have each : ∀ c ∈ s.toList, isEdge c = true :=
      fun c member => isEdge_of_isContinue (isContinue_of_plain spellable c member)
    refine ⟨?_, fun c first => each c (List.mem_of_mem_head? first),
      fun c final => each c (List.mem_of_getLast? final)⟩
    intro none
    have empty : PlainText [] := none ▸ spellable
    cases empty
  | quoted s =>
    refine ⟨List.cons_ne_nil _ _, ?_, ?_⟩
    · rintro c ⟨⟩
      rfl
    · intro c final
      rw [Part.toChars, List.getLast?_concat] at final
      cases final
      rfl

/-- Behind the first part an identifier goes on with a dot or not at all. -/
theorem exists_joinParts_cons (p : Part) (ps : List Part) :
    ∃ rest, joinParts (p :: ps) = p.toChars ++ rest ∧ ∀ c ∈ rest.head?, c = '.' := by
  cases ps with
  | nil => exact ⟨[], (List.append_nil _).symm, nofun⟩
  | cons q ps =>
    refine ⟨'.' :: joinParts (q :: ps), rfl, ?_⟩
    rintro c ⟨⟩
    rfl

theorem edged_joinParts {ps : List Part} (some : ps ≠ []) (spellable : ∀ p ∈ ps, p.Spellable) :
    Edged (joinParts ps) := by
  fun_induction joinParts ps with
  | case1 => exact absurd rfl some
  | case2 p => exact edged_part (spellable p List.mem_cons_self)
  | case3 p q ps ih =>
    have rest : Edged (joinParts (q :: ps)) :=
      ih (List.cons_ne_nil q ps) fun r member => spellable r (List.mem_cons_of_mem p member)
    have whole := (edged_part (spellable p List.mem_cons_self)).append rest ['.']
    simpa using whole

theorem edged_toSql {i : Ident} (spellable : i.Spellable) : Edged i.toSql.toList := by
  rw [toSql, String.toList_ofList]
  exact edged_joinParts spellable.ne_nil spellable.parts

/-- An identifier that starts without a quote is plain up to its first dot. -/
theorem isContinue_of_takeWhile {i : Ident} (spellable : i.Spellable) {rest : List Char}
    (plain : '"' ∉ i.toSql.toList.head?) (edge : ∀ c ∈ rest.head?, c = '.') :
    ∀ c ∈ (i.toSql.toList ++ rest).takeWhile (· ≠ '.'), isContinue c = true := by
  obtain ⟨parts⟩ := i
  obtain ⟨p, ps, rfl⟩ := List.exists_cons_of_ne_nil spellable.ne_nil
  have first : p.Spellable := spellable.parts p List.mem_cons_self
  obtain ⟨others, text, dot⟩ := exists_joinParts_cons p ps
  rw [toSql, String.toList_ofList, text] at plain ⊢
  cases p with
  | quoted s => exact absurd rfl plain
  | plain s =>
    have each := isContinue_of_plain first
    have noDot : ∀ c ∈ s.toList, decide (c ≠ '.') = true := by
      intro c member
      refine decide_eq_true ?_
      rintro rfl
      exact absurd (each _ member) (by decide)
    have stops : (others ++ rest).takeWhile (· ≠ '.') = [] := by
      cases others with
      | nil =>
        cases rest with
        | nil => rfl
        | cons c rest => simp [edge c rfl]
      | cons c others => simp [dot c rfl]
    rw [Part.toChars, List.append_assoc, List.takeWhile_append_of_pos noDot, stops,
      List.append_nil]
    exact each

end Ident

namespace ColumnExpr

/-! ## The grammar -/

/-- A term as it is spelled: all columns, all columns of a table, or one column. -/
inductive TermText : List Char → Prop where
  | all : TermText ['*']
  | allOf {table : List Char} : Ident.Grammatical table → TermText (table ++ ['.', '*'])
  | column {name : List Char} : Ident.Grammatical name → TermText name

/-- The name of a function in capital letters and underscores. -/
def FunctionText (text : List Char) : Prop :=
  text ≠ [] ∧ ∀ c ∈ text, ('A' ≤ c ∧ c ≤ 'Z') ∨ c = '_'

/-- A term, or a function of one. -/
inductive Grammatical : List Char → Prop where
  | term {text : List Char} : TermText text → Grammatical text
  | call {func arg : List Char} : FunctionText func → TermText arg →
      Grammatical (func ++ "(".toList ++ arg ++ ")".toList)
  | distinct {func arg : List Char} : FunctionText func → TermText arg →
      Grammatical (func ++ "(DISTINCT ".toList ++ arg ++ ")".toList)

end ColumnExpr

/-- A term that some text spells. An opening parenthesis in the name of a column would be taken
for that of a function. -/
def Term.Spellable : Term → Prop
  | .column i => i.Spellable ∧ '(' ∉ i.toSql.toList
  | .star none => True
  | .star (some table) => table.Spellable

namespace ColumnExpr

/-- An expression that some text spells. -/
def Spellable : ColumnExpr → Prop
  | .term t => t.Spellable
  | .aggregate func _ arg => FunctionText func.toList ∧ arg.Spellable

theorem termText_toSql {t : Term} (spellable : t.Spellable) : TermText t.toSql.toList := by
  cases t with
  | column i =>
    rw [Term.toSql, Ident.toSql, String.toList_ofList]
    exact .column (Ident.grammatical_joinParts spellable.1)
  | star table =>
    cases table with
    | none => exact .all
    | some i =>
      rw [Term.toSql, String.toList_append, Ident.toSql, String.toList_ofList]
      exact .allOf (Ident.grammatical_joinParts spellable)

theorem grammatical_toSql {e : ColumnExpr} (spellable : e.Spellable) :
    Grammatical e.toSql.toList := by
  cases e with
  | term t => exact .term (termText_toSql spellable)
  | aggregate func distinct arg =>
    obtain ⟨named, term⟩ := spellable
    have text := termText_toSql term
    cases distinct with
    | false =>
      have whole := Grammatical.call named text
      simpa [toSql] using whole
    | true =>
      have whole := Grammatical.distinct named text
      simpa [toSql] using whole

/-! ## What was read can be spelled -/

theorem functionText_toUpper {cs : List Char} (named : isFunctionName cs = true) :
    FunctionText (cs.map Char.toUpper) := by
  simp only [isFunctionName, Bool.and_eq_true, List.all_eq_true, Bool.or_eq_true,
    decide_eq_true_eq] at named
  refine ⟨by simpa using named.1, ?_⟩
  intro c member
  obtain ⟨d, letter, rfl⟩ := List.mem_map.mp member
  rcases named.2 d letter with rfl | alpha
  · exact .inr rfl
  · obtain ⟨above, below⟩ := capital_toUpper alpha
    exact .inl ⟨UInt32.le_iff_toNat_le.mpr above, UInt32.le_iff_toNat_le.mpr below⟩

theorem spellable_of_parseIdent {cs : List Char} {i : Ident} (read : parseIdent cs = .ok i) :
    i.Spellable ∧ i.toSql.toList = cs := by
  have parsed : Ident.parse (String.ofList cs) = .ok i := by
    rw [Ident.parse, String.toList_ofList]
    exact ok_of_mapError read
  refine ⟨Ident.spellable_of_parse parsed, ?_⟩
  rw [Ident.toSql_of_parse parsed, String.toList_ofList]

theorem spellable_of_parseTrimmed {cs : List Char} {e : ColumnExpr}
    (read : parseTrimmed cs = .ok e) : e.Spellable := by
  fun_induction parseTrimmed cs generalizing e with
  | case1 => cases read
  | case2 =>
    cases read
    trivial
  | case3 cs _ _ table _ =>
    obtain ⟨t, table, rfl⟩ := exists_of_map read
    exact (spellable_of_parseIdent table).1
  | case4 => cases read
  | case5 => cases read
  | case6 => cases read
  | case7 => cases read
  | case8 cs _ _ _ _ inner _ func name arg argument =>
    rename_i ih
    cases read
    have named : isFunctionName func = true := by simpa using name
    refine ⟨?_, ih argument⟩
    rw [String.toList_ofList]
    exact functionText_toUpper named
  | case9 cs _ _ _ plain =>
    obtain ⟨i, column, rfl⟩ := exists_of_map read
    obtain ⟨spellable, text⟩ := spellable_of_parseIdent column
    exact ⟨spellable, text ▸ plain⟩

/-! ## Reading what was written -/

theorem dropTail?_append (front tail : List Char) : dropTail? tail (front ++ tail) = some front := by
  rw [dropTail?, if_pos (List.suffix_append front tail)]
  simp

/-- A text can only end in a tail if it ends in the last character of that tail. -/
theorem dropTail?_of_getLast? (tail : List Char) {cs : List Char} {c : Char}
    (other : cs.getLast? ≠ some c) :
    dropTail? (tail ++ [c]) cs = none := by
  rw [dropTail?, if_neg]
  rintro ⟨front, rfl⟩
  apply other
  rw [← List.append_assoc, List.getLast?_concat]

theorem parseIdent_toSql {i : Ident} (spellable : i.Spellable) :
    parseIdent i.toSql.toList = .ok i := by
  have read := Ident.parse_toSql spellable
  rw [Ident.parse] at read
  rw [parseIdent, read]
  rfl

theorem parseTrimmed_star {i : Ident} (spellable : i.Spellable) :
    parseTrimmed (i.toSql.toList ++ ['.', '*']) = .ok (.star (some i)) := by
  have some : i.toSql.toList ++ ['.', '*'] ≠ ['*'] := by
    intro same
    simpa using congrArg List.length same
  unfold parseTrimmed
  rw [if_neg (by simp), if_neg some]
  split
  · rename_i found
    rw [dropTail?_append] at found
    cases found
    rw [parseIdent_toSql spellable]
    rfl
  · rename_i none
    rw [dropTail?_append] at none
    cases none

/-- What the first opening parenthesis makes of a text. -/
theorem parseTrimmed_paren {front back : List Char} (first : '(' ∉ front)
    (noStar : dropTail? ['.', '*'] (front ++ '(' :: back) = none) :
    parseTrimmed (front ++ '(' :: back) =
      match dropTail? [')'] back with
      | none => .error (.unbalanced (String.ofList (front ++ '(' :: back)))
      | some inner =>
        if !isFunctionName (Text.trim front) then
          .error (.functionName (String.ofList (front ++ '(' :: back)))
        else
          match parseTrimmed (Text.trim (argument inner).2) with
          | .error f => .error f
          | .ok (.aggregate ..) => .error (.nested (String.ofList (front ++ '(' :: back)))
          | .ok (.term arg) =>
            .ok (.aggregate (String.ofList ((Text.trim front).map Char.toUpper)) (argument inner).1
              arg) := by
  have opening : '(' ∈ front ++ '(' :: back := by simp
  have place : (front ++ '(' :: back).idxOf '(' = front.length := by
    rw [List.idxOf_append_of_notMem first, List.idxOf_cons_self, Nat.add_zero]
  have behind : (front ++ '(' :: back).drop ((front ++ '(' :: back).idxOf '(' + 1) = back := by
    rw [place]
    simp
  have before : (front ++ '(' :: back).take ((front ++ '(' :: back).idxOf '(') = front := by
    rw [place]
    simp
  have one : front ++ '(' :: back ≠ ['*'] := by
    intro star
    rw [star] at opening
    simp at opening
  rw [parseTrimmed.eq_def, if_neg (by simp), if_neg one, noStar]
  dsimp only
  rw [dif_pos opening]
  rw [before]
  split
  · rename_i unclosed
    rw [behind] at unclosed
    rw [unclosed]
  · rename_i inner closed
    rw [behind] at closed
    exact closed ▸ rfl

/-- An identifier is read as the column of that name, unless it has an opening parenthesis: it
cannot end in the closing one that belongs to it. -/
theorem parseTrimmed_ident {i : Ident} (spellable : i.Spellable) :
    parseTrimmed i.toSql.toList =
      if '(' ∈ i.toSql.toList then .error (.unbalanced i.toSql) else .ok (.column i) := by
  have edged := Ident.edged_toSql spellable
  have last {c : Char} (other : Ident.isEdge c = false) : i.toSql.toList.getLast? ≠ some c := by
    intro final
    rw [edged.last c final] at other
    cases other
  have noStar : dropTail? ['.', '*'] i.toSql.toList = none :=
    dropTail?_of_getLast? ['.'] (last rfl)
  by_cases paren : '(' ∈ i.toSql.toList
  · obtain ⟨front, back, text, first⟩ := List.eq_append_cons_of_mem paren
    have unclosed : dropTail? [')'] back = none := by
      refine dropTail?_of_getLast? [] ?_
      intro final
      apply last (c := ')') rfl
      rw [text, List.getLast?_append, List.getLast?_cons, final]
      rfl
    rw [if_pos paren, text, parseTrimmed_paren first (text ▸ noStar), unclosed, ← text,
      String.ofList_toList]
  · have one : i.toSql.toList ≠ ['*'] := fun star => last (c := '*') rfl (by rw [star]; rfl)
    rw [if_neg paren, parseTrimmed.eq_def, if_neg edged.ne_nil, if_neg one, noStar]
    dsimp only
    rw [dif_neg paren, parseIdent_toSql spellable]
    rfl

theorem parseTrimmed_term {t : Term} (spellable : t.Spellable) :
    parseTrimmed t.toSql.toList = .ok (.term t) := by
  match t with
  | .column i => exact (parseTrimmed_ident spellable.1).trans (if_neg spellable.2)
  | .star none =>
    rw [parseTrimmed.eq_def, if_neg (by decide), if_pos (by decide)]
  | .star (some i) =>
    rw [Term.toSql, String.toList_append]
    exact parseTrimmed_star (i := i) spellable

/-! ### Aggregates -/

theorem trimmed_toSql {t : Term} (spellable : t.Spellable) : Text.Trimmed t.toSql.toList := by
  match t with
  | .column i => exact (Ident.edged_toSql spellable.1).trimmed
  | .star none => constructor <;> rintro _ ⟨⟩ <;> rfl
  | .star (some i) =>
    rw [Term.toSql, String.toList_append]
    have edged := Ident.edged_toSql (i := i) spellable
    constructor
    · rw [List.head?_append_of_ne_nil _ edged.ne_nil]
      exact edged.trimmed.1
    · rw [List.getLast?_append_of_ne_nil _ (by decide)]
      rintro _ ⟨⟩
      rfl

theorem ne_nil_toSql {t : Term} (spellable : t.Spellable) : t.toSql.toList ≠ [] := by
  match t with
  | .column i => exact (Ident.edged_toSql spellable.1).ne_nil
  | .star none => decide
  | .star (some i) =>
    rw [Term.toSql, String.toList_append]
    exact List.append_ne_nil_of_right_ne_nil _ (by decide)

/-- What is no letter in capitals was none before. -/
theorem eq_of_toUpper {c d : Char} (same : c.toUpper = d) (caseless : d.isAlpha = false) : c = d := by
  by_cases lower : 'a'.val ≤ c.val ∧ c.val ≤ 'z'.val
  · have letter : c.isAlpha = true :=
      (isAlpha_iff c).mpr (.inr ⟨UInt32.le_iff_toNat_le.mp lower.1, UInt32.le_iff_toNat_le.mp lower.2⟩)
    rw [← same, isAlpha_toUpper letter] at caseless
    cases caseless
  · have kept : c.toUpper = c := dif_neg lower
    rw [← same, kept]

/-- No identifier starts with the keyword: it would have a blank in a plain part. -/
theorem take_ne_distinct {i : Ident} (spellable : i.Spellable) (rest : List Char)
    (edge : ∀ c ∈ rest.head?, c = '.') :
    ((i.toSql.toList ++ rest).take 9).map Char.toUpper ≠ "DISTINCT ".toList := by
  intro keyword
  have absent {c : Char} (other : c.toUpper ∉ "DISTINCT ".toList) :
      c ∉ (i.toSql.toList ++ rest).take 9 := by
    intro member
    exact other (keyword ▸ List.mem_map_of_mem member)
  have blank : ' ' ∈ (i.toSql.toList ++ rest).take 9 := by
    have member : ' ' ∈ ((i.toSql.toList ++ rest).take 9).map Char.toUpper := by
      rw [keyword]
      decide
    obtain ⟨c, there, same⟩ := List.mem_map.mp member
    rwa [eq_of_toUpper same (by decide)] at there
  have noQuote : '"' ∉ i.toSql.toList.head? := by
    intro quote
    obtain ⟨cs, text⟩ := List.head?_eq_some_iff.mp quote
    refine absent (c := '"') (by decide) ?_
    rw [text]
    exact List.mem_cons_self
  have noDot : ∀ c ∈ (i.toSql.toList ++ rest).take 9, decide (c ≠ '.') = true := by
    intro c member
    refine decide_eq_true ?_
    rintro rfl
    exact absent (by decide) member
  have each := Ident.isContinue_of_takeWhile spellable noQuote edge
  rw [← List.take_append_drop 9 (i.toSql.toList ++ rest), List.takeWhile_append_of_pos noDot] at each
  exact absurd (each ' ' (List.mem_append_left _ blank)) (by decide)

theorem argument_toSql {t : Term} (spellable : t.Spellable) :
    argument t.toSql.toList = (false, t.toSql.toList) := by
  rw [argument, (trimmed_toSql spellable).trim_eq, splitDistinct, if_neg]
  match t with
  | .column i =>
    have start := take_ne_distinct spellable.1 [] nofun
    rwa [List.append_nil] at start
  | .star none => decide
  | .star (some i) =>
    rw [Term.toSql, String.toList_append]
    refine take_ne_distinct (i := i) spellable _ ?_
    rintro _ ⟨⟩
    rfl

theorem argument_distinct {t : Term} (spellable : t.Spellable) :
    argument ("DISTINCT ".toList ++ t.toSql.toList) = (true, t.toSql.toList) := by
  have trimmed : Text.Trimmed ("DISTINCT ".toList ++ t.toSql.toList) := by
    constructor
    · rw [List.head?_append_of_ne_nil _ (by decide)]
      rintro _ ⟨⟩
      rfl
    · rw [List.getLast?_append_of_ne_nil _ (ne_nil_toSql spellable)]
      exact (trimmed_toSql spellable).2
  have keyword : ("DISTINCT ".toList ++ t.toSql.toList).take 9 = "DISTINCT ".toList :=
    List.take_left' (by decide)
  have behind : ("DISTINCT ".toList ++ t.toSql.toList).drop 9 = t.toSql.toList :=
    List.drop_left' (by decide)
  rw [argument, trimmed.trim_eq, splitDistinct, keyword, if_pos (by decide), behind,
    (trimmed_toSql spellable).trim_eq]

section

variable {func : List Char} (named : FunctionText func)

include named

theorem isFunctionName_of_text : isFunctionName func = true := by
  rw [isFunctionName, Bool.and_eq_true, List.all_eq_true]
  refine ⟨by simpa using named.1, ?_⟩
  intro c member
  rw [Bool.or_eq_true, decide_eq_true_eq, isAlpha_iff]
  rcases named.2 c member with ⟨above, below⟩ | underscore
  · exact .inr (.inl ⟨UInt32.le_iff_toNat_le.mp above, UInt32.le_iff_toNat_le.mp below⟩)
  · exact .inl underscore

theorem toUpper_functionText : func.map Char.toUpper = func := by
  refine (List.map_congr_left fun c member => ?_).trans (List.map_id func)
  apply dif_neg
  rintro ⟨lower, -⟩
  rcases named.2 c member with ⟨-, below⟩ | rfl
  · exact absurd (UInt32.le_trans lower below) (by decide)
  · exact absurd lower (by decide)

theorem not_isBlank_functionText : ∀ c ∈ func, Text.isBlank c = false := by
  intro c member
  rcases named.2 c member with ⟨above, below⟩ | rfl
  · have first : 65 ≤ c.toNat := UInt32.le_iff_toNat_le.mp above
    have last : c.toNat ≤ 90 := UInt32.le_iff_toNat_le.mp below
    exact Text.not_isBlank (by omega) (by omega)
  · decide

theorem trimmed_functionText : Text.Trimmed func :=
  ⟨fun c start => not_isBlank_functionText named c (List.mem_of_mem_head? start),
    fun c stop => not_isBlank_functionText named c (List.mem_of_getLast? stop)⟩

end

theorem parse_call {func inner : List Char} {distinct : Bool} {t : Term} (named : FunctionText func)
    (spellable : t.Spellable) (arg : argument inner = (distinct, t.toSql.toList)) :
    parse (String.ofList (func ++ '(' :: (inner ++ [')']))) =
      .ok (.aggregate (String.ofList func) distinct t) := by
  have noParen : '(' ∉ func := fun member => absurd (named.2 _ member) (by decide)
  have last : (func ++ '(' :: (inner ++ [')'])).getLast? = some ')' := by
    rw [← List.cons_append, ← List.append_assoc, List.getLast?_concat]
  have noStar : dropTail? ['.', '*'] (func ++ '(' :: (inner ++ [')'])) = none := by
    refine dropTail?_of_getLast? ['.'] ?_
    rw [last]
    decide
  have trimmed : Text.Trimmed (func ++ '(' :: (inner ++ [')'])) := by
    constructor
    · rw [List.head?_append_of_ne_nil _ named.1]
      exact (trimmed_functionText named).1
    · rw [last]
      rintro _ ⟨⟩
      rfl
  rw [parse, String.toList_ofList, trimmed.trim_eq, parseTrimmed_paren noParen noStar,
    dropTail?_append]
  dsimp only
  rw [(trimmed_functionText named).trim_eq, isFunctionName_of_text named, arg,
    (trimmed_toSql spellable).trim_eq, parseTrimmed_term spellable, toUpper_functionText named]
  rfl

theorem parse_toSql {e : ColumnExpr} (spellable : e.Spellable) : parse e.toSql = .ok e := by
  cases e with
  | term t =>
    rw [parse, toSql, (trimmed_toSql spellable).trim_eq]
    exact parseTrimmed_term spellable
  | aggregate func distinct arg =>
    obtain ⟨named, term⟩ := spellable
    cases distinct with
    | false =>
      have text : (aggregate func false arg).toSql =
          String.ofList (func.toList ++ '(' :: (arg.toSql.toList ++ [')'])) := by
        rw [← String.toList_inj]
        simp [toSql]
      rw [text, parse_call named term (argument_toSql term), String.ofList_toList]
    | true =>
      have text : (aggregate func true arg).toSql = String.ofList
          (func.toList ++ '(' :: ("DISTINCT ".toList ++ arg.toSql.toList ++ [')'])) := by
        rw [← String.toList_inj]
        simp [toSql]
      rw [text, parse_call named term (argument_distinct term), String.ofList_toList]

/-! ## Normal forms -/

/-- What was read is written as a text of the grammar, and from this text it is read again. The
expressions that are read from some text are those that can be spelled. -/
theorem normal_form :
    (∀ (s : String) (e : ColumnExpr), parse s = .ok e →
      parse e.toSql = .ok e ∧ Grammatical e.toSql.toList) ∧
      ∀ e : ColumnExpr, (∃ s, parse s = .ok e) ↔ e.Spellable := by
  have spellable {s : String} {e : ColumnExpr} (read : parse s = .ok e) : e.Spellable :=
    spellable_of_parseTrimmed read
  refine ⟨?_, ?_⟩
  · intro s e read
    exact ⟨parse_toSql (spellable read), grammatical_toSql (spellable read)⟩
  · intro e
    constructor
    · rintro ⟨s, read⟩
      exact spellable read
    · intro spelled
      exact ⟨e.toSql, parse_toSql spelled⟩

/-- Blanks go, the function is put into capitals, and in the quoted name all stays. -/
theorem quoted_argument_normal :
    let s := " count (Distinct  \"a (b\".* ) "
    let e : ColumnExpr := .aggregate "COUNT" true (.star (some ⟨[.quoted "a (b"]⟩))
    parse s = .ok e ∧ parse e.toSql = .ok e ∧ e.toSql = "COUNT(DISTINCT \"a (b\".*)" := by
  intro s e
  have read : parse s = .ok e := by
    have value : (parse s).toOption = some e := by decide +kernel
    cases outcome : parse s with
    | error f =>
      rw [outcome] at value
      cases value
    | ok e' =>
      rw [outcome] at value
      exact congrArg Except.ok (Option.some.inj value)
  exact ⟨read, (normal_form.1 s e read).1, by decide +kernel⟩

/-! ## Identifiers as expressions -/

theorem parse_of_ident {s : String} {i : Ident} (read : Ident.parse s = .ok i) :
    parse s = if '(' ∈ s.toList then .error (.unbalanced s) else .ok (.column i) := by
  have spellable := Ident.spellable_of_parse read
  rw [← Ident.toSql_of_parse read, parse, (Ident.edged_toSql spellable).trimmed.trim_eq,
    parseTrimmed_ident spellable]

end ColumnExpr

open Query (compileClauses)
open Compiled (everything)

/-! ### One clause -/

namespace Query

theorem compileClauses_filter (c : Condition) :
    compileClauses [.filter c] = ((Predicate.lowerAll .where [c]).mapError Fault.predicate).map
      ({ everything with filters := · }) := by
  change compile { empty with conditions := [c] } = _
  rw [compile]
  cases Predicate.lowerAll .where [c] <;> rfl

theorem compileClauses_having (c : Condition) :
    compileClauses [.having c] = ((Predicate.lowerAll .having [c]).mapError Fault.predicate).map
      ({ everything with having := · }) := by
  change compile { empty with having := [c] } = _
  rw [compile]
  cases Predicate.lowerAll .having [c] <;> rfl

theorem compileClauses_select (s : String) :
    compileClauses [.select [s]] = (checkColumn s).map ({ everything with projection := [·] }) := by
  change compile { empty with fields := [s] } = _
  rw [compile, List.mapM_cons]
  cases checkColumn s <;> rfl

theorem compileClauses_orderBy (s : String) (d : Direction) :
    compileClauses [.orderBy ⟨s, d⟩] =
      (checkColumn s).map ({ everything with orders := [⟨·, d⟩] }) := by
  change compile { empty with orders := [⟨s, d⟩] } = _
  rw [compile, List.mapM_cons, checkOrder]
  cases checkColumn s <;> rfl

theorem compileClauses_groupBy (s : String) :
    compileClauses [.groupBy s] = (checkIdent s).map ({ everything with groups := [·] }) := by
  change compile { empty with groups := [s] } = _
  rw [compile, List.mapM_cons]
  cases checkIdent s <;> rfl

end Query

/-- An identifier is usable as it stands in a WHERE condition and in a GROUP BY. In a projection,
an ORDER BY term and a HAVING condition it means the same column if there is no opening parenthesis
in it, and is refused as unbalanced if there is one; a HAVING condition has to be a comparison
besides. -/
theorem identifier_in_clauses {s : String} {i : Ident} (read : Ident.parse s = .ok i)
    (op : Operator) (v : Value) (d : Direction) :
    compileClauses [.filter (.compare s op v)] =
        .ok { everything with filters := [.compare (.column i) op v] } ∧
      compileClauses [.groupBy s] = .ok { everything with groups := [i] } ∧
      ColumnExpr.parse s =
        (if '(' ∈ s.toList then .error (.unbalanced s) else .ok (.column i)) ∧
      compileClauses [.select [s]] =
        (if '(' ∈ s.toList then .error (.column (.unbalanced s))
          else .ok { everything with projection := [.column i] }) ∧
      compileClauses [.orderBy ⟨s, d⟩] =
        (if '(' ∈ s.toList then .error (.column (.unbalanced s))
          else .ok { everything with orders := [⟨.column i, d⟩] }) ∧
      compileClauses [.having (.compare s op v)] =
        (if !op.isComparison then .error (.predicate (.operator op))
          else if '(' ∈ s.toList then .error (.predicate (.column (.unbalanced s)))
          else .ok { everything with having := [.compare (.column i) op v] }) := by
  have expression := ColumnExpr.parse_of_ident read
  have named : s ≠ "" := by
    rintro rfl
    cases read
  have condition (place : Predicate.Place) :
      Predicate.lowerAll place [.compare s op v] =
        if !place.allows op then .error (.operator op)
        else (place.column s).map fun c => [.compare c op v] := by
    rw [Predicate.lowerAll, Predicate.lower, Predicate.lowerCompare, if_neg named, Predicate.lowerAll]
    split
    · rfl
    · cases place.column s <;> rfl
  refine ⟨?_, ?_, expression, ?_, ?_, ?_⟩
  · rw [Query.compileClauses_filter, condition, Predicate.Place.column, read]
    rfl
  · rw [Query.compileClauses_groupBy, Query.checkIdent, read]
    rfl
  · rw [Query.compileClauses_select, Query.checkColumn, expression]
    split <;> rfl
  · rw [Query.compileClauses_orderBy, Query.checkColumn, expression]
    split <;> rfl
  · rw [Query.compileClauses_having, condition, Predicate.Place.column, expression,
      Predicate.Place.allows]
    split
    · rfl
    · split <;> rfl

theorem parse_paren_in_quotes : Ident.parse "\"a(b\"" = .ok ⟨[.quoted "a(b"]⟩ := by cbv

/-- A name in quotes may hold a parenthesis, and then it is a column for some clauses only. -/
theorem parenthesis_in_clauses :
    compileClauses [.filter (.compare "\"a(b\"" .eq (.int 1))] =
        .ok { everything with filters := [.compare (.column ⟨[.quoted "a(b"]⟩) .eq (.int 1)] } ∧
      compileClauses [.select ["\"a(b\""]] = .error (.column (.unbalanced "\"a(b\"")) := by
  obtain ⟨filter, -, -, select, -⟩ := identifier_in_clauses parse_paren_in_quotes .eq (.int 1) .asc
  exact ⟨filter, select.trans (if_pos (by decide))⟩

/-- So expressions do not extend identifiers. -/
theorem identifier_not_expression :
    ¬ ∀ (s : String) (i : Ident), Ident.parse s = .ok i → ColumnExpr.parse s = .ok (.column i) := by
  intro conservative
  have column := conservative _ _ parse_paren_in_quotes
  rw [ColumnExpr.parse_of_ident parse_paren_in_quotes, if_pos (by decide)] at column
  cases column

end EntityStore
