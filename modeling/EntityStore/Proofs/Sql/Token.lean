import EntityStore.Proofs.Sql.Item

/-!
# The tokens of a statement's text

Text falls into parentheses, commas and words; blanks, parentheses and commas end a word unless
they stand between double quotes. A word that spells a placeholder stands for the value that is
bound to it: `$n` for the value of that number, `?` for the next one.
-/

namespace EntityStore.Sql

inductive Token where
  | opening
  | closing
  | comma
  | word (s : String)
  /-- A placeholder, as the value that is bound to it. -/
  | value (v : Value)

namespace Token

/-! ## Lexing -/

def breaks : List Char := [' ', '\t', '\r', '\n', '(', ')', ',']

/-- Ends a word that is not between double quotes. -/
def isBreak (c : Char) : Bool := breaks.contains c

/-- The token of a break, none for a blank. -/
def ofBreak (c : Char) : List Token :=
  if c = '(' then [.opening] else if c = ')' then [.closing] else if c = ',' then [.comma] else []

/-- The token of a word that has come to its end. -/
def ofWord (w : List Char) : List Token := if w = [] then [] else [.word (String.ofList w)]

/-- The tokens of a text behind the beginning `w` of a word, which may end between quotes. -/
def lexFrom (w : List Char) (quoted : Bool) : List Char → List Token
  | [] => ofWord w
  | c :: cs =>
    if c = '"' then lexFrom (w ++ [c]) (!quoted) cs
    else if quoted || !isBreak c then lexFrom (w ++ [c]) quoted cs
    else ofWord w ++ ofBreak c ++ lexFrom [] false cs

def lex (cs : List Char) : List Token := lexFrom [] false cs

/-- Whether a piece of a word ends between quotes, given whether it starts there; undefined
when a word ends inside the piece. -/
def quoting (quoted : Bool) : List Char → Option Bool
  | [] => some quoted
  | c :: cs =>
    if c = '"' then quoting (!quoted) cs
    else if quoted || !isBreak c then quoting quoted cs
    else none

theorem quoting_append (quoted : Bool) (cs ds : List Char) :
    quoting quoted (cs ++ ds) = (quoting quoted cs).bind fun q => quoting q ds := by
  induction cs generalizing quoted with
  | nil => rfl
  | cons c cs ih =>
    simp only [List.cons_append, quoting]
    split
    · exact ih _
    · split
      · exact ih _
      · rfl

/-- Characters that neither end a word nor quote stay in the word. -/
theorem quoting_of_plain {cs : List Char} (h : ∀ c ∈ cs, c ≠ '"' ∧ isBreak c = false) :
    quoting false cs = some false := by
  induction cs with
  | nil => rfl
  | cons c cs ih =>
    obtain ⟨quote, brk⟩ := h c (by simp)
    simp only [quoting, quote, brk, if_false, Bool.not_false, Bool.or_true, if_true]
    exact ih fun d hd => h d (List.mem_cons_of_mem _ hd)

/-- A class of characters is plain when neither a break nor the quote is in it. -/
theorem plain_of_class {p : Char → Bool} (hp : ('"' :: breaks).any p = false) {c : Char}
    (hc : p c = true) : c ≠ '"' ∧ isBreak c = false := by
  have outside : c ∉ '"' :: breaks := fun h => List.any_eq_false.mp hp c h hc
  rw [List.mem_cons, not_or] at outside
  exact ⟨outside.1, by simpa [isBreak] using outside.2⟩

theorem lexFrom_append {quoted q : Bool} {cs : List Char} (h : quoting quoted cs = some q)
    (w rest : List Char) : lexFrom w quoted (cs ++ rest) = lexFrom (w ++ cs) q rest := by
  induction cs generalizing w quoted with
  | nil =>
    cases h
    rw [List.nil_append, List.append_nil]
  | cons c cs ih =>
    rw [quoting] at h
    rw [List.cons_append, lexFrom]
    split at h
    case isTrue quote =>
      rw [if_pos quote, ih h, List.append_assoc, List.singleton_append]
    case isFalse quote =>
      rw [if_neg quote]
      split at h
      case isTrue inside =>
        rw [if_pos inside, ih h, List.append_assoc, List.singleton_append]
      case isFalse => cases h

/-- A whole word: not empty, not ended inside, every quote closed. -/
structure IsWord (w : List Char) : Prop where
  ne_nil : w ≠ []
  closed : quoting false w = some false

/-- Nothing, or a text that starts with the end of a word. -/
def Boundary (cs : List Char) : Prop := ∀ c ∈ cs.head?, isBreak c = true

theorem boundary_nil : Boundary [] := by
  intro c hc
  cases hc

theorem boundary_cons {c : Char} (h : isBreak c = true) (cs : List Char) : Boundary (c :: cs) := by
  rintro d ⟨⟩
  exact h

theorem lex_break {c : Char} (h : isBreak c = true) (cs : List Char) :
    lex (c :: cs) = ofBreak c ++ lex cs := by
  have quote : c ≠ '"' := by
    rintro rfl
    revert h
    decide
  simp [lex, lexFrom, quote, h, ofWord]

theorem lex_word {w rest : List Char} (hw : IsWord w) (hr : Boundary rest) :
    lex (w ++ rest) = .word (String.ofList w) :: lex rest := by
  have whole : ofWord w = [.word (String.ofList w)] := if_neg hw.ne_nil
  rw [lex, lexFrom_append hw.closed, List.nil_append]
  cases rest with
  | nil => rw [lexFrom, whole, lex, lexFrom, ofWord, if_pos rfl]
  | cons c cs =>
    have brk : isBreak c = true := hr c rfl
    have quote : c ≠ '"' := by
      rintro rfl
      revert brk
      decide
    rw [lex_break brk, lexFrom, if_neg quote, brk]
    simp [whole, lex]

/-! ## Placeholders -/

/-- Which parameter, counted from 0, a word stands for when `n` parameters stand before it. -/
def index? (style : Placeholder) (n : Nat) (w : String) : Option Nat :=
  match style, w.toList with
  | .question, ['?'] => some n
  | .dollar, '$' :: ds =>
    match Nat.ofDigitChars 10 ds 0 with
    | 0 => none
    | k + 1 => if ds.all Char.isDigit then some k else none
  | _, _ => none

/-- Puts the bound values in the places of the placeholders; `n` of them stand before. -/
def resolve (style : Placeholder) (params : List Value) (n : Nat) : List Token → List Token
  | [] => []
  | .word w :: ts =>
    match (index? style n w).bind (params[·]?) with
    | some v => .value v :: resolve style params (n + 1) ts
    | none => .word w :: resolve style params n ts
  | t :: ts => t :: resolve style params n ts

theorem toList_dollar (n : Nat) :
    (placeholderText .dollar n).toList = '$' :: Nat.toDigits 10 n := by
  rw [placeholderText, String.toList_append]
  exact congrArg ('$' :: ·) Nat.toList_repr

theorem index?_placeholderText (style : Placeholder) (n : Nat) :
    index? style n (placeholderText style (n + 1)) = some n := by
  cases style with
  | question => simp [index?, placeholderText]
  | dollar =>
    have isDigits : (Nat.toDigits 10 (n + 1)).all Char.isDigit = true :=
      List.all_eq_true.mpr fun c hc => Nat.isDigit_of_mem_toDigits (by decide) (by decide) hc
    unfold index?
    simp only [toList_dollar, Nat.ofDigitChars_ten_toDigits, isDigits, if_true]

/-- A word that does not start like a placeholder. -/
structure IsText (w : List Char) : Prop extends IsWord w where
  question : w.head? ≠ some '?'
  dollar : w.head? ≠ some '$'

instance (w : List Char) : Decidable (IsText w) :=
  decidable_of_iff
    ((w ≠ [] ∧ quoting false w = some false) ∧ w.head? ≠ some '?' ∧ w.head? ≠ some '$')
    ⟨fun h => ⟨⟨h.1.1, h.1.2⟩, h.2.1, h.2.2⟩, fun h => ⟨⟨h.ne_nil, h.closed⟩, h.question, h.dollar⟩⟩

theorem index?_eq_none {w : List Char} (style : Placeholder) (n : Nat) (h : IsText w) :
    index? style n (String.ofList w) = none := by
  unfold index?
  rw [String.toList_ofList]
  split
  case h_1 => exact absurd rfl h.question
  case h_2 => exact absurd rfl h.dollar
  case h_3 => rfl

theorem isWord_placeholderText (style : Placeholder) (n : Nat) :
    IsWord (placeholderText style n).toList := by
  cases style with
  | question =>
    constructor
    · simp [placeholderText]
    · simp [placeholderText, quoting, isBreak, breaks]
  | dollar =>
    rw [toList_dollar]
    refine ⟨List.cons_ne_nil _ _, quoting_of_plain fun c hc => ?_⟩
    rcases List.mem_cons.mp hc with rfl | hc
    · decide
    · exact plain_of_class (p := Char.isDigit) (by decide)
        (Nat.isDigit_of_mem_toDigits (by decide) (by decide) hc)

/-! ## The tokens of a text with its values -/

/-- The tokens of a text that stands behind `n` placeholders. -/
def ofText (style : Placeholder) (params : List Value) (n : Nat) (cs : List Char) : List Token :=
  resolve style params n (lex cs)

section

variable (style : Placeholder) (params : List Value) (n : Nat) {rest : List Char}

theorem ofText_blank : ofText style params n (' ' :: rest) = ofText style params n rest := by
  rw [ofText, lex_break (by decide)]
  rfl

theorem ofText_opening :
    ofText style params n ('(' :: rest) = .opening :: ofText style params n rest := by
  rw [ofText, lex_break (by decide)]
  rfl

theorem ofText_closing :
    ofText style params n (')' :: rest) = .closing :: ofText style params n rest := by
  rw [ofText, lex_break (by decide)]
  rfl

theorem ofText_comma :
    ofText style params n (',' :: rest) = .comma :: ofText style params n rest := by
  rw [ofText, lex_break (by decide)]
  rfl

theorem ofText_word {w : List Char} (hw : IsText w) (hr : Boundary rest) :
    ofText style params n (w ++ rest) =
      .word (String.ofList w) :: ofText style params n rest := by
  rw [ofText, lex_word hw.toIsWord hr, resolve, index?_eq_none style n hw]
  rfl

theorem ofText_placeholder {v : Value} (hv : params[n]? = some v) (hr : Boundary rest) :
    ofText style params n ((placeholderText style (n + 1)).toList ++ rest) =
      .value v :: ofText style params (n + 1) rest := by
  rw [ofText, lex_word (isWord_placeholderText style (n + 1)) hr, resolve, String.ofList_toList,
    index?_placeholderText, Option.bind_some, hv]
  rfl

end

/-! ## The tokens of items -/

/-- The tokens of items that stand behind `n` values. -/
def ofItems (style : Placeholder) (params : List Value) (n : Nat) (is : List Item) : List Token :=
  ofText style params n (Item.print style n is).toList

/-- No word goes on into the items. -/
def Breaks (is : List Item) : Prop := ∀ style n, Boundary (Item.print style n is).toList

theorem breaks_nil : Breaks [] := fun _ _ => boundary_nil

theorem breaks_text {s : String} {c : Char} {cs : List Char} (h : s.toList = c :: cs)
    (hc : isBreak c = true) (is : List Item) : Breaks (.text s :: is) := by
  intro style n
  rw [Item.print, String.toList_append, h]
  exact boundary_cons hc _

/-- The values are the parameters that come next behind `n` others. -/
def Bound (params : List Value) (n : Nat) (vs : List Value) : Prop := vs <+: params.drop n

section

variable {style : Placeholder} {params : List Value} {n : Nat} {is : List Item}

theorem bound_append {vs ws : List Value} (h : Bound params n (vs ++ ws)) :
    Bound params n vs ∧ Bound params (n + vs.length) ws := by
  obtain ⟨after, h⟩ := h
  refine ⟨⟨ws ++ after, by rw [← h, List.append_assoc]⟩, after, ?_⟩
  rw [← List.drop_drop, ← h, List.append_assoc, List.drop_left]

theorem bound_cons {v : Value} {vs : List Value} (h : Bound params n (v :: vs)) :
    params[n]? = some v ∧ Bound params (n + 1) vs := by
  have split : Bound params n ([v] ++ vs) := h
  refine ⟨?_, (bound_append split).2⟩
  obtain ⟨after, h⟩ := h
  rw [← List.head?_drop, ← h]
  rfl

theorem ofItems_text (s : String) : ofItems style params n (.text s :: is) =
    ofText style params n (s.toList ++ (Item.print style n is).toList) := by
  rw [ofItems, Item.print, String.toList_append]

theorem ofItems_blank :
    ofItems style params n (.text " " :: is) = ofItems style params n is := by
  rw [ofItems_text]
  exact ofText_blank style params n

theorem ofItems_opening :
    ofItems style params n (.text "(" :: is) = .opening :: ofItems style params n is := by
  rw [ofItems_text]
  exact ofText_opening style params n

theorem ofItems_closing :
    ofItems style params n (.text ")" :: is) = .closing :: ofItems style params n is := by
  rw [ofItems_text]
  exact ofText_closing style params n

theorem ofItems_comma :
    ofItems style params n (.text ", " :: is) = .comma :: ofItems style params n is := by
  rw [ofItems_text]
  exact (ofText_comma style params n).trans (congrArg _ (ofText_blank style params n))

theorem ofItems_word {w : String} (hw : IsText w.toList) (hb : Breaks is) :
    ofItems style params n (.text w :: is) = .word w :: ofItems style params n is := by
  rw [ofItems_text, ofText_word style params n hw (hb style n), String.ofList_toList]
  rfl

/-- A word with a blank on either side. -/
theorem ofItems_spaced {s w : String} (hs : s.toList = ' ' :: (w.toList ++ [' ']))
    (hw : IsText w.toList) :
    ofItems style params n (.text s :: is) = .word w :: ofItems style params n is := by
  rw [ofItems_text, hs, List.cons_append, ofText_blank, List.append_assoc,
    List.singleton_append, ofText_word style params n hw (boundary_cons (by decide) _),
    String.ofList_toList]
  exact congrArg _ (ofText_blank style params n)

theorem ofItems_value {v : Value} (hv : params[n]? = some v) (hb : Breaks is) :
    ofItems style params n (.value v :: is) = .value v :: ofItems style params (n + 1) is := by
  rw [ofItems, Item.print, String.toList_append]
  exact ofText_placeholder style params n hv (hb style (n + 1))

end

end Token

end EntityStore.Sql
