import EntityStore.Proofs.Json.Document
import EntityStore.Proofs.Json.Text
import Mathlib.Data.List.DropRight

/-!
# Reading documents back

A tidy document is read back from its compact text, given that its doubles are. That is no
formality: the reader scales a significand in double arithmetic and may miss a double by one
place.
-/

namespace EntityStore.Json

/-! ## Where a number stands -/

theorem readValue_of_starts (fuel depth : Nat) {cs left : List Char} {c : Char}
    (front : skipBlanks cs = c :: left) (starts : c = '-' ∨ c.isDigit = true) :
    readValue (fuel + 1) depth cs = readBare (c :: left) := by
  obtain rfl | digit := starts
  · simp only [readValue, front, readBare]
  · have unlike {d : Char} (plain : d.isDigit = false) : c ≠ d := by
      rintro rfl
      exact Bool.false_ne_true (plain.symm.trans digit)
    rw [readBare_cons (unlike rfl), readValue, front]
    split
    case h_8 => rfl
    all_goals
      rename_i same
      injection same with same
      exact absurd same (unlike rfl)

/-- A number is only read where the text starts with one. -/
theorem readBare_of_readValue {fuel depth : Nat} {cs r : List Char} {j : Json} (number : IsNumber j)
    (read : readValue (fuel + 1) depth cs = some (j, r)) :
    readBare (skipBlanks cs) = some (j, r) := by
  rw [readValue] at read
  split at read
  case h_1 | h_2 | h_3 =>
    obtain rfl := eq_of_expect read
    contradiction
  case h_4 =>
    obtain ⟨⟨s, left⟩, -, ⟨⟩⟩ := Option.map_eq_some_iff.mp read
    contradiction
  case h_5 front => rwa [front]
  case h_6 =>
    split at read
    · contradiction
    · split at read
      · cases read
        contradiction
      · obtain ⟨items, rfl, -⟩ := (tidy_of_read fuel).2.1 (List.forall_mem_nil _) read
        contradiction
  case h_7 =>
    split at read
    · contradiction
    · split at read
      · cases read
        contradiction
      · obtain ⟨members, rfl, -⟩ := (tidy_of_read fuel).2.2 .nil (List.forall_mem_nil _) read
        contradiction
  case h_8 unsigned _ _ =>
    rw [readBare]
    · exact read
    · exact unsigned

/-! ## What is written -/

theorem printItems_eq_map (js : List Json) : printItems js = js.map print := by
  induction js with
  | nil => rfl
  | cons j js ih => rw [printItems, ih, List.map_cons]

theorem printMembers_eq_map (ms : List (String × Json)) :
    printMembers ms = ms.map fun m => quote m.1 ++ ":" ++ print m.2 := by
  induction ms with
  | nil => rfl
  | cons m ms ih => rw [printMembers, ih, List.map_cons]

mutual

/-- The doubles in a document. -/
def doubles : Json → List Float
  | .float x => [x]
  | .array items => itemDoubles items
  | .object members => memberDoubles members
  | _ => []

def itemDoubles : List Json → List Float
  | [] => []
  | j :: js => doubles j ++ itemDoubles js

def memberDoubles : List (String × Json) → List Float
  | [] => []
  | (_, j) :: ms => doubles j ++ memberDoubles ms

end

theorem itemDoubles_eq_flatMap (js : List Json) : itemDoubles js = js.flatMap doubles := by
  induction js with
  | nil => rfl
  | cons j js ih => rw [itemDoubles, ih, List.flatMap_cons]

theorem memberDoubles_eq_flatMap (ms : List (String × Json)) :
    memberDoubles ms = ms.flatMap fun m => doubles m.2 := by
  induction ms with
  | nil => rfl
  | cons m ms ih => rw [memberDoubles, ih, List.flatMap_cons]

/-- Whether a double is read from its own text. -/
def IsLegible (x : Float) : Prop := read? (printFloat x) = some (.float x)

/-! ## Numbers are read back -/

/-- Whether the text of a document is read back wherever `depth` levels may open. What follows
the text is left, up to blanks. -/
def ReadsBack (depth : Nat) (j : Json) : Prop :=
  ∀ ⦃fuel rest⦄, 2 * (j.print.toList ++ rest).length < fuel → EndsNumber rest →
    ∃ left, readValue fuel depth (j.print.toList ++ rest) = some (j, left) ∧
      skipBlanks left = skipBlanks rest

theorem skipBlanks_append_of_blank {cs : List Char} (blank : skipBlanks cs = [])
    (rest : List Char) : skipBlanks (cs ++ rest) = skipBlanks rest := by
  rw [skipBlanks, skipBlanks, List.dropWhile_append]
  exact if_pos (List.isEmpty_iff.mpr blank)

theorem skipBlanks_append_of_cons {cs left : List Char} {c : Char}
    (front : skipBlanks cs = c :: left) (rest : List Char) : skipBlanks (cs ++ rest) = c :: (left ++ rest) := by
  rw [skipBlanks] at front ⊢
  rw [List.dropWhile_append, front]
  rfl

theorem skipBlanks_of_starts {c : Char} (starts : c = '-' ∨ c.isDigit = true) (cs : List Char) :
    skipBlanks (c :: cs) = c :: cs := by
  refine List.dropWhile_cons_of_neg fun blank => ?_
  simp only [Bool.or_eq_true, decide_eq_true_eq] at blank
  obtain ((rfl | rfl) | rfl) | rfl := blank <;> revert starts <;> decide

theorem exists_digits (n : Nat) :
    ∃ c cs, Nat.toDigits 10 n = c :: cs ∧ c.isDigit = true := by
  cases digits : Nat.toDigits 10 n with
  | nil => exact absurd digits Nat.toDigits_ne_nil
  | cons c cs =>
    exact ⟨c, cs, rfl, Nat.isDigit_of_mem_toDigits (by decide) (by decide)
      (digits ▸ List.mem_cons_self)⟩

/-- An integer is read from its text. -/
theorem readBare_toString {i : Int} (low : -0x8000000000000000 ≤ i) (high : i ≤ maxSignificand)
    {rest : List Char} (ends : EndsNumber rest) :
    readBare ((toString i).toList ++ rest) = some (.int i, rest) := by
  cases i with
  | ofNat n =>
    obtain ⟨c, cs, digits, digit⟩ := exists_digits n
    have unsigned : c ≠ '-' := by
      rintro rfl
      exact absurd digit (by decide)
    have read := readNumber_toDigits false (Int.ofNat_le.mp high) ends
    have text : (toString (Int.ofNat n)).toList = Nat.toDigits 10 n := by
      rw [Int.toString_eq_repr, Int.repr, Nat.repr_eq_ofList_toDigits, String.toList_ofList]
    rw [digits, List.cons_append] at read
    rw [text, digits, List.cons_append, readBare_cons unsigned, read]
    rfl
  | negSucc n =>
    have small : n + 1 ≤ 0x8000000000000000 := by omega
    have wide : n + 1 ≤ maxSignificand := Nat.le_trans small (by decide)
    have text : (toString (Int.negSucc n)).toList = '-' :: Nat.toDigits 10 (n + 1) := by
      rw [Int.toString_eq_repr, Int.repr, Nat.repr_eq_ofList_toDigits, String.toList_append,
        String.toList_ofList, String.toList_ofList]
      rfl
    rw [text, List.cons_append, readBare, readNumber_toDigits true wide ends, integer]
    simp [small, Int.negSucc_eq]

theorem readsBack_of_readBare {depth : Nat} {j : Json}
    (read : ∀ ⦃rest⦄, EndsNumber rest → ∃ left, skipBlanks left = [] ∧
      readBare (skipBlanks (j.print.toList ++ rest)) = some (j, left ++ rest)) :
    ReadsBack depth j := by
  intro fuel rest enough ends
  obtain ⟨fuel, rfl⟩ := Nat.exists_eq_add_one.mpr (Nat.zero_lt_of_lt enough)
  obtain ⟨left, blank, value⟩ := read ends
  obtain ⟨c, cs, front, starts⟩ := starts_of_readBare value
  refine ⟨left ++ rest, ?_, skipBlanks_append_of_blank blank rest⟩
  rw [readValue_of_starts fuel depth front starts, ← front, value]

theorem readsBack_number (depth : Nat) {j : Json} (number : IsNumber j)
    (legible : ∀ x ∈ j.doubles, IsLegible x) : ReadsBack depth j := by
  refine readsBack_of_readBare fun rest ends => ?_
  cases number with
  | int low high =>
    rename_i i
    refine ⟨[], rfl, ?_⟩
    have read := readBare_toString low high ends
    obtain ⟨c, cs, text, starts⟩ := starts_of_readBare read
    rw [text] at read
    rw [print, text, skipBlanks_of_starts starts]
    exact read
  | float x =>
    have read := legible x List.mem_cons_self
    rw [IsLegible, read?] at read
    split at read
    · rename_i left value
      split at read
      · rename_i blank
        cases read
        have bare := readBare_of_readValue (.float x) value
        obtain ⟨c, cs, front, starts⟩ := starts_of_readBare bare
        refine ⟨left, blank, ?_⟩
        rw [print, skipBlanks_append_of_cons front, ← List.cons_append, ← front]
        exact local_readBare bare fun _ => ends
      · contradiction
    · contradiction

/-! ## Arrays and objects are read back -/

/-- What stands behind the first of several pieces: the others, each behind a comma, and what
closes them. -/
def separated (closing : List Char) : List (List Char) → List Char
  | [] => closing
  | piece :: pieces => ',' :: (piece ++ separated closing pieces)

theorem intercalate_append (piece : List Char) (pieces : List (List Char)) (closing : List Char) :
    [','].intercalate (piece :: pieces) ++ closing = piece ++ separated closing pieces := by
  induction pieces generalizing piece with
  | nil => rw [List.intercalate_singleton, separated]
  | cons next pieces ih =>
    rw [List.intercalate_cons_cons, List.append_assoc, List.append_assoc, ih]
    rfl

theorem endsNumber_separated {close : Char} (mark : close = ']' ∨ close = '}')
    (rest : List Char) (pieces : List (List Char)) :
    EndsNumber (separated (close :: rest) pieces) := by
  cases pieces with
  | nil =>
    rw [separated, endsNumber_cons]
    obtain rfl | rfl := mark <;> decide
  | cons piece pieces =>
    rw [separated, endsNumber_cons]
    decide

theorem readItems_print {depth : Nat} {j : Json} {js : List Json} (first : ReadsBack depth j)
    (others : ∀ i ∈ js, ReadsBack depth i) (acc : List Json) {fuel : Nat} {rest : List Char}
    (enough : 2 * (j.print.toList ++
      separated (']' :: rest) (js.map fun i => i.print.toList)).length + 1 < fuel) :
    readItems fuel depth acc
        (j.print.toList ++ separated (']' :: rest) (js.map fun i => i.print.toList)) =
      some (.array (acc.reverse ++ j :: js), rest) := by
  induction js generalizing j acc fuel with
  | nil =>
    obtain ⟨fuel, rfl⟩ := Nat.exists_eq_add_one.mpr (Nat.zero_lt_of_lt enough)
    obtain ⟨left, value, same⟩ :=
      first (Nat.lt_of_succ_lt_succ enough) (endsNumber_separated (.inl rfl) rest _)
    have front : skipBlanks left = ']' :: rest := same
    simp only [readItems, value, Option.bind_eq_bind, Option.bind_some, front, List.reverse_cons]
  | cons k js ih =>
    obtain ⟨fuel, rfl⟩ := Nat.exists_eq_add_one.mpr (Nat.zero_lt_of_lt enough)
    obtain ⟨left, value, same⟩ :=
      first (Nat.lt_of_succ_lt_succ enough) (endsNumber_separated (.inl rfl) rest _)
    have front : skipBlanks left = ',' :: (k.print.toList ++
      separated (']' :: rest) (js.map fun i => i.print.toList)) := same
    simp only [readItems, value, Option.bind_eq_bind, Option.bind_some, front]
    have fits : 2 * (k.print.toList ++
        separated (']' :: rest) (js.map fun i => i.print.toList)).length + 1 < fuel := by
      simp only [List.map_cons, separated, List.length_append, List.length_cons] at enough ⊢
      omega
    rw [ih (others k List.mem_cons_self) (fun i mem => others i (List.mem_cons_of_mem k mem))
      (j :: acc) fits, List.reverse_cons, List.append_assoc, List.singleton_append]

/-- The text of a member: its name, a colon and its value. -/
def memberText (m : String × Json) : List Char :=
  '"' :: (m.1.toList.flatMap escapeChar ++ '"' :: ':' :: m.2.print.toList)

/-- A member whose name comes after those read before it is put behind them. -/
theorem readMembers_member {fuel depth : Nat} {m : String × Json} {acc : List (String × Json)}
    (last : ∀ n ∈ acc, n.1 < m.1) {following left : List Char}
    (value : readValue fuel depth (m.2.print.toList ++ following) = some (m.2, left)) :
    (∀ more, skipBlanks left = ',' :: more →
      readMembers (fuel + 1) depth acc (memberText m ++ following) =
        readMembers fuel depth (acc ++ [m]) more) ∧
    ∀ rest, skipBlanks left = '}' :: rest →
      readMembers (fuel + 1) depth acc (memberText m ++ following) =
        some (.object (acc ++ [m]), rest) := by
  have front : skipBlanks (memberText m ++ following) = '"' :: (m.1.toList.flatMap escapeChar ++
      '"' :: ':' :: (m.2.print.toList ++ following)) := by
    simp [memberText, skipBlanks]
  have colon (r : List Char) : skipBlanks (':' :: r) = ':' :: r := rfl
  constructor <;> intro behind mark <;>
    simp only [readMembers, front, readString_quoted, Option.bind_eq_bind, Option.bind_some, colon,
      value, insertMember_of_last m.2 last, mark]

theorem Ordered.before {acc ms : List (String × Json)} {m : String × Json}
    (h : Ordered (acc ++ m :: ms)) : ∀ n ∈ acc, n.1 < m.1 := fun n mem =>
  (List.pairwise_append.mp h).2.2 n mem m List.mem_cons_self

theorem readMembers_print {depth : Nat} {m : String × Json} {ms : List (String × Json)}
    (first : ReadsBack depth m.2) (others : ∀ n ∈ ms, ReadsBack depth n.2)
    {acc : List (String × Json)} (ordered : Ordered (acc ++ m :: ms)) {fuel : Nat}
    {rest : List Char}
    (enough : 2 * (memberText m ++ separated ('}' :: rest) (ms.map memberText)).length + 1 < fuel) :
    readMembers fuel depth acc (memberText m ++ separated ('}' :: rest) (ms.map memberText)) =
      some (.object (acc ++ m :: ms), rest) := by
  induction ms generalizing m acc fuel with
  | nil =>
    obtain ⟨fuel, rfl⟩ := Nat.exists_eq_add_one.mpr (Nat.zero_lt_of_lt enough)
    have fits : 2 * (m.2.print.toList ++ separated ('}' :: rest) []).length < fuel := by
      simp only [memberText, separated, List.map_nil, List.length_append, List.length_cons]
        at enough ⊢
      omega
    obtain ⟨left, value, same⟩ := first fits (endsNumber_separated (.inr rfl) rest _)
    have front : skipBlanks left = '}' :: rest := same
    exact (readMembers_member ordered.before value).2 rest front
  | cons n ms ih =>
    obtain ⟨fuel, rfl⟩ := Nat.exists_eq_add_one.mpr (Nat.zero_lt_of_lt enough)
    have fits : 2 * (m.2.print.toList ++
        separated ('}' :: rest) ((n :: ms).map memberText)).length < fuel := by
      simp only [memberText, List.length_append, List.length_cons] at enough ⊢
      omega
    obtain ⟨left, value, same⟩ := first fits (endsNumber_separated (.inr rfl) rest _)
    have front : skipBlanks left = ',' :: (memberText n ++
      separated ('}' :: rest) (ms.map memberText)) := same
    have enough : 2 * (memberText n ++ separated ('}' :: rest) (ms.map memberText)).length + 1 <
        fuel := by
      simp only [List.map_cons, separated, List.length_append, List.length_cons] at fits ⊢
      omega
    have grown : acc ++ m :: n :: ms = acc ++ [m] ++ n :: ms := List.append_cons ..
    rw [(readMembers_member ordered.before value).1 _ front, grown]
    rw [grown] at ordered
    exact ih (others n List.mem_cons_self) (fun i mem => others i (List.mem_cons_of_mem n mem))
      ordered enough

theorem skipBlanks_skipBlanks (cs : List Char) : skipBlanks (skipBlanks cs) = skipBlanks cs :=
  List.dropWhile_idempotent _ cs

theorem readItems_skipBlanks (fuel depth : Nat) (acc : List Json) (cs : List Char) :
    readItems fuel depth acc (skipBlanks cs) = readItems fuel depth acc cs := by
  have value (fuel : Nat) : readValue fuel depth (skipBlanks cs) = readValue fuel depth cs := by
    cases fuel with
    | zero => rfl
    | succ fuel => rw [readValue, readValue, skipBlanks_skipBlanks]
  cases fuel with
  | zero => rfl
  | succ fuel => rw [readItems, readItems, value]

theorem readMembers_skipBlanks (fuel depth : Nat) (acc : List (String × Json)) (cs : List Char) :
    readMembers fuel depth acc (skipBlanks cs) = readMembers fuel depth acc cs := by
  cases fuel with
  | zero => rfl
  | succ fuel => rw [readMembers, readMembers, skipBlanks_skipBlanks]

theorem readValue_array {fuel depth : Nat} (room : 1 < depth) {cs r : List Char} {j : Json}
    (read : readItems fuel (depth - 1) [] cs = some (j, r)) :
    readValue (fuel + 1) depth ('[' :: cs) = some (j, r) := by
  have front : skipBlanks ('[' :: cs) = '[' :: cs := rfl
  simp only [readValue, front, if_neg (Nat.not_le_of_lt room)]
  split
  · rename_i closing
    -- No item starts with the closing bracket.
    obtain _ | fuel := fuel
    · contradiction
    obtain ⟨item, left, value, -⟩ := exists_of_readItems read
    obtain _ | fuel := fuel
    · contradiction
    rw [readValue, closing] at value
    contradiction
  · rw [readItems_skipBlanks, read]

theorem readValue_object {fuel depth : Nat} (room : 1 < depth) {cs r : List Char} {j : Json}
    (read : readMembers fuel (depth - 1) [] cs = some (j, r)) :
    readValue (fuel + 1) depth ('{' :: cs) = some (j, r) := by
  have front : skipBlanks ('{' :: cs) = '{' :: cs := rfl
  simp only [readValue, front, if_neg (Nat.not_le_of_lt room)]
  split
  · rename_i closing
    obtain _ | fuel := fuel
    · contradiction
    rw [readMembers, closing] at read
    contradiction
  · rw [readMembers_skipBlanks, read]

theorem toList_print_array (items : List Json) :
    (print (.array items)).toList =
      '[' :: ([','].intercalate (items.map fun j => j.print.toList) ++ [']']) := by
  simp [print, printItems_eq_map, Function.comp_def]

theorem toList_print_object (members : List (String × Json)) :
    (print (.object members)).toList =
      '{' :: ([','].intercalate (members.map memberText) ++ ['}']) := by
  have text : memberText = fun m => '"' :: (m.1.toList.flatMap escapeChar ++
      '"' :: ':' :: m.2.print.toList) := rfl
  simp [print, printMembers_eq_map, Function.comp_def, toList_quote, text]

theorem readsBack_array {depth : Nat} (room : 1 < depth) {items : List Json}
    (h : ∀ j ∈ items, ReadsBack (depth - 1) j) : ReadsBack depth (.array items) := by
  intro fuel rest enough _
  obtain ⟨fuel, rfl⟩ := Nat.exists_eq_add_one.mpr (Nat.zero_lt_of_lt enough)
  refine ⟨rest, ?_, rfl⟩
  rw [toList_print_array] at enough ⊢
  cases items with
  | nil =>
    have front : skipBlanks ('[' :: ']' :: rest) = '[' :: ']' :: rest := rfl
    have closing : skipBlanks (']' :: rest) = ']' :: rest := rfl
    change readValue (fuel + 1) depth ('[' :: ']' :: rest) = _
    simp only [readValue, front, if_neg (Nat.not_le_of_lt room), closing]
  | cons j js =>
    obtain ⟨first, others⟩ := List.forall_mem_cons.mp h
    rw [List.map_cons, List.cons_append, List.append_assoc, List.singleton_append,
      intercalate_append] at enough ⊢
    refine readValue_array room (readItems_print first others [] ?_)
    rw [List.length_cons] at enough
    omega

theorem readsBack_object {depth : Nat} (room : 1 < depth) {members : List (String × Json)}
    (ordered : Ordered members) (h : ∀ m ∈ members, ReadsBack (depth - 1) m.2) :
    ReadsBack depth (.object members) := by
  intro fuel rest enough _
  obtain ⟨fuel, rfl⟩ := Nat.exists_eq_add_one.mpr (Nat.zero_lt_of_lt enough)
  refine ⟨rest, ?_, rfl⟩
  rw [toList_print_object] at enough ⊢
  cases members with
  | nil =>
    have front : skipBlanks ('{' :: '}' :: rest) = '{' :: '}' :: rest := rfl
    have closing : skipBlanks ('}' :: rest) = '}' :: rest := rfl
    change readValue (fuel + 1) depth ('{' :: '}' :: rest) = _
    simp only [readValue, front, if_neg (Nat.not_le_of_lt room), closing]
  | cons m ms =>
    obtain ⟨first, others⟩ := List.forall_mem_cons.mp h
    rw [List.map_cons, List.cons_append, List.append_assoc, List.singleton_append,
      intercalate_append] at enough ⊢
    refine readValue_object room (readMembers_print first others ordered ?_)
    rw [List.length_cons] at enough
    omega

/-- The text of a document that starts neither an array nor an object is read in one step. -/
theorem readsBack_of_readValue {depth : Nat} {j : Json}
    (read : ∀ fuel rest, readValue (fuel + 1) depth (j.print.toList ++ rest) = some (j, rest)) :
    ReadsBack depth j := by
  intro fuel rest enough _
  obtain ⟨fuel, rfl⟩ := Nat.exists_eq_add_one.mpr (Nat.zero_lt_of_lt enough)
  exact ⟨rest, read fuel rest, rfl⟩

/-- A tidy document is read back, given that its doubles are. -/
theorem Tidy.readsBack {depth : Nat} {j : Json} (tidy : Tidy depth j)
    (legible : ∀ x ∈ j.doubles, IsLegible x) : ReadsBack depth j := by
  induction tidy with
  | null depth => exact readsBack_of_readValue fun fuel rest => rfl
  | bool depth b => exact readsBack_of_readValue fun fuel rest => by cases b <;> rfl
  | number depth number => exact readsBack_number depth number legible
  | string depth s =>
    refine readsBack_of_readValue fun fuel rest => ?_
    have front : skipBlanks ('"' :: (s.toList.flatMap escapeChar ++ '"' :: rest)) =
        '"' :: (s.toList.flatMap escapeChar ++ '"' :: rest) := rfl
    rw [print, toList_quote, List.cons_append, List.append_assoc, List.singleton_append, readValue,
      front]
    simp only [readString_quoted, Option.map_some]
  | array room _ ih =>
    rw [doubles, itemDoubles_eq_flatMap, List.forall_mem_flatMap] at legible
    exact readsBack_array room fun j mem => ih j mem (legible j mem)
  | object room ordered _ ih =>
    rw [doubles, memberDoubles_eq_flatMap, List.forall_mem_flatMap] at legible
    exact readsBack_object room ordered fun m mem => ih m mem (legible m mem)

theorem read?_print {j : Json} (tidy : Tidy maxDepth j) (legible : ∀ x ∈ j.doubles, IsLegible x) :
    read? j.print = some j := by
  have enough : 2 * (j.print.toList ++ []).length < 2 * j.print.toList.length + 2 := by
    rw [List.append_nil]
    omega
  obtain ⟨left, value, blank⟩ := tidy.readsBack legible enough endsNumber_nil
  rw [List.append_nil] at value
  have finished : skipBlanks left = [] := blank
  simp only [read?, value, finished, if_true]

/-- A document that was read once is read again from its compact text. -/
theorem read?_print_of_read? {s : String} {j : Json} (read : read? s = some j)
    (legible : ∀ x ∈ j.doubles, IsLegible x) : read? j.print = some j :=
  read?_print (tidy_of_read? read) legible

end EntityStore.Json
