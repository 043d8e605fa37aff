import EntityStore.Json.Printer
import EntityStore.Json.Reader

/-!
# Reading the numbers of documents

An integer of 64 bits is read off its own digits. How a number is read does not depend on what
follows it, as long as that does not go on with the number.
-/

namespace EntityStore.Json

/-- Whether a number ends in front of the text. -/
def EndsNumber (rest : List Char) : Prop :=
  ∀ c ∈ rest.head?, c.isDigit = false ∧ c ≠ '.' ∧ c ≠ 'e' ∧ c ≠ 'E'

theorem endsNumber_nil : EndsNumber [] := nofun

theorem endsNumber_cons {c : Char} {rest : List Char} :
    EndsNumber (c :: rest) ↔ c.isDigit = false ∧ c ≠ '.' ∧ c ≠ 'e' ∧ c ≠ 'E' := by
  simp [EndsNumber]

theorem EndsNumber.headD {rest : List Char} (h : EndsNumber rest) :
    (rest.headD ' ').isDigit = false := by
  cases rest with
  | nil => decide
  | cons c rest => exact (endsNumber_cons.mp h).1

/-! ## Integers -/

theorem le_ofDigitChars (ds : List Char) (n : Nat) : n ≤ Nat.ofDigitChars 10 ds n := by
  induction ds generalizing n with
  | nil => exact Nat.le_refl n
  | cons d ds ih =>
    rw [Nat.ofDigitChars_cons]
    exact Nat.le_trans (by omega) (ih _)

/-- Digits are taken as long as the number that they form is kept exactly. -/
theorem takeDigits_append {ds rest : List Char} (digits : ∀ c ∈ ds, c.isDigit = true)
    (ends : (rest.headD ' ').isDigit = false) (significand taken : Nat)
    (small : Nat.ofDigitChars 10 ds significand ≤ maxSignificand) :
    takeDigits significand taken (ds ++ rest) =
      (Nat.ofDigitChars 10 ds significand, taken + ds.length, rest) := by
  induction ds generalizing significand taken with
  | nil =>
    cases rest with
    | nil => rfl
    | cons c rest =>
      rw [List.headD_cons] at ends
      simp [takeDigits, ends]
  | cons d ds ih =>
    have first : d.isDigit = true := digits d List.mem_cons_self
    have next : Nat.ofDigitChars 10 (d :: ds) significand =
        Nat.ofDigitChars 10 ds (significand * 10 + (d.toNat - '0'.toNat)) := by
      rw [Nat.ofDigitChars_cons, Nat.mul_comm]
    rw [next] at small ⊢
    have below : significand * 10 + (d.toNat - '0'.toNat) ≤ maxSignificand :=
      Nat.le_trans (le_ofDigitChars ds _) small
    rw [List.cons_append, takeDigits, if_pos first, if_pos below,
      ih (fun c mem => digits c (List.mem_cons_of_mem d mem)) _ _ small, List.length_cons,
      Nat.add_assoc, Nat.add_comm 1]

/-- The digits of a positive number do not start with zero. -/
theorem exists_toDigits_eq_cons {n : Nat} (positive : 0 < n) :
    ∃ c cs, Nat.toDigits 10 n = c :: cs ∧ c ≠ '0' := by
  induction n using Nat.strongRecOn with
  | ind n ih =>
    by_cases small : n < 10
    · have nonzero : ∀ d : Fin 10, 0 < d.val → d.val.digitChar ≠ '0' := by decide
      exact ⟨_, _, Nat.toDigits_of_lt_base small, nonzero ⟨n, small⟩ positive⟩
    · obtain ⟨c, cs, digits, h⟩ := ih (n / 10) (by omega) (by omega)
      refine ⟨c, cs ++ [(n % 10).digitChar], ?_, h⟩
      rw [Nat.toDigits_of_base_le (by decide) (by omega), digits, List.cons_append]

theorem afterDigits_cons (negative : Bool) (n : Nat) {c : Char} (point : c ≠ '.') (cs : List Char) :
    afterDigits negative n (c :: cs) =
      if c = 'e' || c = 'E' then
        (readExponent n 0 cs).map fun (x, r) => (.float (withSign negative x), r)
      else some (integer negative n, c :: cs) := by
  rw [afterDigits]
  exact point

theorem afterDigits_of_ends (negative : Bool) (n : Nat) {rest : List Char}
    (ends : EndsNumber rest) : afterDigits negative n rest = some (integer negative n, rest) := by
  cases rest with
  | nil => rfl
  | cons c rest =>
    obtain ⟨-, point, small, capital⟩ := endsNumber_cons.mp ends
    simp [afterDigits_cons negative n point, small, capital]

theorem readNumber_toDigits (negative : Bool) {n : Nat} (small : n ≤ maxSignificand)
    {rest : List Char} (ends : EndsNumber rest) :
    readNumber negative (Nat.toDigits 10 n ++ rest) = some (integer negative n, rest) := by
  obtain rfl | positive := Nat.eq_zero_or_pos n
  · rw [Nat.toDigits_zero, List.singleton_append, readNumber, if_pos rfl, ends.headD,
      if_neg Bool.false_ne_true, afterDigits_of_ends negative 0 ends]
  · obtain ⟨c, cs, digits, nonzero⟩ := exists_toDigits_eq_cons positive
    have all : ∀ d ∈ c :: cs, d.isDigit = true := fun d mem =>
      Nat.isDigit_of_mem_toDigits (by decide) (by decide) (digits ▸ mem)
    have value : Nat.ofDigitChars 10 (c :: cs) 0 = n := by
      rw [← digits, Nat.ofDigitChars_ten_toDigits]
    have taken := takeDigits_append all ends.headD 0 0 (value ▸ small)
    rw [value, List.cons_append] at taken
    rw [digits, List.cons_append, readNumber, if_neg nonzero, if_pos (all c List.mem_cons_self),
      taken]
    simp only [ends.headD, Bool.false_eq_true, if_false, afterDigits_of_ends negative n ends]

/-! ## What follows a number

The readers of a number are local, from the exponent up to the sign. -/

/-- Whether what is read off a text is also read off a longer one, unless the text is read to its
end and the number may go on. -/
def Local {α : Type} (read : Reader α) : Prop :=
  ∀ ⦃cs x r rest⦄, read cs = some (x, r) → (r = [] → EndsNumber rest) →
    read (cs ++ rest) = some (x, r ++ rest)

theorem takeWhile_isDigit_append {cs rest : List Char}
    (ends : skipDigits cs = [] → (rest.headD ' ').isDigit = false) :
    (cs ++ rest).takeWhile Char.isDigit = cs.takeWhile Char.isDigit ∧
      skipDigits (cs ++ rest) = skipDigits cs ++ rest := by
  induction cs with
  | nil =>
    cases rest with
    | nil => exact ⟨rfl, rfl⟩
    | cons c rest =>
      have stops : c.isDigit = false := ends rfl
      simp [skipDigits, stops]
  | cons c cs ih =>
    simp only [skipDigits, List.cons_append, List.takeWhile_cons, List.dropWhile_cons] at ends ih ⊢
    split
    · rename_i digit
      rw [if_pos digit] at ends
      exact ⟨congrArg (c :: ·) (ih ends).1, (ih ends).2⟩
    · exact ⟨rfl, rfl⟩

theorem takeDigits_append_of_ends {significand taken : Nat} {cs rest : List Char}
    (ends : (takeDigits significand taken cs).2.2 = [] → (rest.headD ' ').isDigit = false) :
    takeDigits significand taken (cs ++ rest) =
      ((takeDigits significand taken cs).1, (takeDigits significand taken cs).2.1,
        (takeDigits significand taken cs).2.2 ++ rest) := by
  induction cs generalizing significand taken with
  | nil =>
    cases rest with
    | nil => rfl
    | cons c rest =>
      have stops : c.isDigit = false := ends rfl
      simp [takeDigits, stops]
  | cons c cs ih =>
    rw [List.cons_append]
    simp only [takeDigits] at ends ⊢
    split
    · rename_i digit
      simp only [if_pos digit] at ends
      split
      · rename_i below
        simp only [if_pos below] at ends
        exact ih ends
      · rfl
    · rfl

/-- Whether the sign of an exponent is a minus sign, and what follows the sign. -/
def exponentSign : List Char → Bool × List Char
  | '+' :: r => (false, r)
  | '-' :: r => (true, r)
  | r => (false, r)

/-- The number whose exponent has these digits behind its sign. -/
def exponentValue (significand : Nat) (start : Int) (down : Bool) (digits : List Char) :
    Option Float :=
  if digits = [] then none
  else
    let n := digits.foldl (fun n c => n * 10 + (c.toNat - '0'.toNat)) 0
    if n > maxExponent then if significand ≠ 0 && !down then none else some 0
    else scale significand (if down then start - n else start + n)

theorem readExponent_eq (significand : Nat) (start : Int) (cs : List Char) :
    readExponent significand start cs =
      (exponentValue significand start (exponentSign cs).1
        ((exponentSign cs).2.takeWhile Char.isDigit)).map (·, skipDigits (exponentSign cs).2) := by
  fun_cases exponentSign cs
  all_goals
    simp only [readExponent, exponentValue]
    split
    · rfl
    · split
      · split <;> rfl
      · cases scale significand _ <;> rfl

theorem exponentSign_append {cs : List Char} (rest : List Char)
    (read : (exponentSign cs).2 ≠ []) :
    exponentSign (cs ++ rest) = ((exponentSign cs).1, (exponentSign cs).2 ++ rest) := by
  fun_cases exponentSign cs with
  | case1 r => rfl
  | case2 r => rfl
  | case3 _ noPlus noMinus =>
    cases cs with
    | nil => exact absurd rfl read
    | cons c r =>
      rw [List.cons_append, exponentSign]
      · rintro _ ⟨⟩
        exact noPlus r rfl
      · rintro _ ⟨⟩
        exact noMinus r rfl

theorem local_readExponent (significand : Nat) (start : Int) :
    Local (readExponent significand start) := by
  intro cs x r rest read ends
  rw [readExponent_eq] at read ⊢
  obtain ⟨y, value, ⟨⟩⟩ := Option.map_eq_some_iff.mp read
  have nonempty : (exponentSign cs).2 ≠ [] := by
    intro h
    rw [h] at value
    contradiction
  obtain ⟨digits, after⟩ := takeWhile_isDigit_append fun h => (ends h).headD
  rw [exponentSign_append rest nonempty, digits, after, value]
  rfl

theorem local_readScale (significand : Nat) (exponent : Int) :
    Local (readScale significand exponent) := by
  intro cs x r rest read ends
  cases cs with
  | nil =>
    obtain ⟨y, value, ⟨⟩⟩ := Option.map_eq_some_iff.mp read
    cases rest with
    | nil => exact read
    | cons c rest =>
      obtain ⟨-, -, small, capital⟩ := endsNumber_cons.mp (ends rfl)
      simp [readScale, small, capital, value]
  | cons c cs =>
    rw [List.cons_append]
    simp only [readScale] at read ⊢
    split at read
    · rename_i exponential
      rw [if_pos exponential]
      exact local_readExponent significand exponent read ends
    · rename_i plain
      obtain ⟨y, value, ⟨⟩⟩ := Option.map_eq_some_iff.mp read
      rw [if_neg plain, value]
      rfl

theorem eq_nil_of_readScale {significand : Nat} {exponent : Int} {x : Float} {r : List Char}
    (read : readScale significand exponent [] = some (x, r)) : r = [] := by
  obtain ⟨y, -, ⟨⟩⟩ := Option.map_eq_some_iff.mp read
  rfl

theorem local_readFraction (significand : Nat) (exponent : Int) :
    Local (readFraction significand exponent) := by
  intro cs x r rest read ends
  simp only [readFraction] at read ⊢
  have digit : (cs.headD ' ').isDigit = true := by
    rcases Bool.eq_false_or_eq_true (cs.headD ' ').isDigit with digit | noDigit
    · exact digit
    · simp only [noDigit, Bool.false_eq_true, if_false, reduceCtorEq] at read
  rw [if_pos digit] at read
  have head : ((cs ++ rest).headD ' ').isDigit = true := by
    cases cs with
    | nil => contradiction
    | cons c cs => exact digit
  -- Whatever of the digits reaches the end of the text leaves nothing to the exponent.
  have finished (h : skipDigits (takeDigits significand 0 cs).2.2 = []) :
      (rest.headD ' ').isDigit = false := by
    rw [h] at read
    exact (ends (eq_nil_of_readScale read)).headD
  rw [takeDigits_append_of_ends fun h => finished (by rw [h]; rfl), if_pos head,
    (takeWhile_isDigit_append finished).2]
  exact local_readScale _ _ read ends

theorem Local.map_append {α β : Type} {read : Reader α} (h : Local read) (f : α → β)
    {cs rest r : List Char} {y : β} (image : (read cs).map (fun (x, r) => (f x, r)) = some (y, r))
    (ends : r = [] → EndsNumber rest) :
    (read (cs ++ rest)).map (fun (x, r) => (f x, r)) = some (y, r ++ rest) := by
  obtain ⟨⟨x, r⟩, value, ⟨⟩⟩ := Option.map_eq_some_iff.mp image
  simp only [h value ends, Option.map_some]

theorem local_afterDigits (negative : Bool) (n : Nat) : Local (afterDigits negative n) := by
  intro cs j r rest read ends
  cases cs with
  | nil =>
    cases read
    exact afterDigits_of_ends negative n (ends rfl)
  | cons c cs =>
    rw [List.cons_append]
    by_cases point : c = '.'
    · subst point
      exact (local_readFraction n 0).map_append (Json.float ∘ withSign negative) read ends
    · rw [afterDigits_cons negative n point] at read ⊢
      split at read
      · rename_i exponential
        rw [if_pos exponential]
        exact (local_readExponent n 0).map_append (Json.float ∘ withSign negative) read ends
      · rename_i plain
        cases read
        rw [if_neg plain]
        rfl

/-- What follows the digits that only raise the exponent. -/
def readTail (significand : Nat) (exponent : Int) : Reader Float
  | '.' :: cs => readFraction significand exponent cs
  | cs => readScale significand exponent cs

theorem readTail_cons (significand : Nat) (exponent : Int) {c : Char} (point : c ≠ '.')
    (cs : List Char) :
    readTail significand exponent (c :: cs) = readScale significand exponent (c :: cs) := by
  rw [readTail]
  rintro _ ⟨⟩
  exact point rfl

theorem local_readTail (significand : Nat) (exponent : Int) :
    Local (readTail significand exponent) := by
  intro cs x r rest read ends
  cases cs with
  | nil =>
    have scaled := local_readScale significand exponent
      (show readScale significand exponent [] = some (x, r) from read) ends
    cases rest with
    | nil => exact scaled
    | cons c rest =>
      obtain ⟨-, point, -, -⟩ := endsNumber_cons.mp (ends (eq_nil_of_readScale read))
      rwa [List.nil_append, readTail_cons significand exponent point]
  | cons c cs =>
    rw [List.cons_append]
    by_cases point : c = '.'
    · subst point
      exact local_readFraction significand exponent read ends
    · rw [readTail_cons significand exponent point] at read ⊢
      exact local_readScale significand exponent read ends

theorem afterLongDigits_eq (negative : Bool) (n : Nat) (cs : List Char) :
    afterLongDigits negative n cs =
      (readTail n (cs.takeWhile Char.isDigit).length (skipDigits cs)).map
        fun (x, r) => (.float (withSign negative x), r) := by
  rw [afterLongDigits]
  fun_cases readTail n (cs.takeWhile Char.isDigit).length (skipDigits cs) <;> simp_all

theorem local_afterLongDigits (negative : Bool) (n : Nat) : Local (afterLongDigits negative n) := by
  intro cs j r rest read ends
  rw [afterLongDigits_eq] at read ⊢
  have finished (h : skipDigits cs = []) : (rest.headD ' ').isDigit = false := by
    obtain ⟨⟨x, left⟩, value, ⟨⟩⟩ := Option.map_eq_some_iff.mp read
    rw [h] at value
    exact (ends (eq_nil_of_readScale value)).headD
  rw [(takeWhile_isDigit_append finished).1, (takeWhile_isDigit_append finished).2]
  exact (local_readTail _ _).map_append (Json.float ∘ withSign negative) read ends

theorem isDigit_headD_append {cs rest : List Char}
    (ends : cs = [] → (rest.headD ' ').isDigit = false) :
    ((cs ++ rest).headD ' ').isDigit = (cs.headD ' ').isDigit := by
  cases cs with
  | nil => exact ends rfl
  | cons c cs => rfl

theorem eq_nil_of_afterDigits {negative : Bool} {n : Nat} {j : Json} {r : List Char}
    (read : afterDigits negative n [] = some (j, r)) : r = [] := by
  cases read
  rfl

theorem local_readNumber (negative : Bool) : Local (readNumber negative) := by
  intro cs j r rest read ends
  cases cs with
  | nil => contradiction
  | cons c cs =>
    rw [List.cons_append]
    simp only [readNumber] at read ⊢
    split at read
    · rename_i zero
      rw [if_pos zero]
      split at read
      · contradiction
      · rename_i single
        have finished (h : cs = []) : (rest.headD ' ').isDigit = false :=
          (ends (eq_nil_of_afterDigits (h ▸ read))).headD
        rw [isDigit_headD_append finished, if_neg single]
        exact local_afterDigits negative 0 read ends
    · rename_i nonzero
      rw [if_neg nonzero]
      split at read
      · rename_i digit
        have finished (h : (takeDigits 0 0 (c :: cs)).2.2 = []) :
            (rest.headD ' ').isDigit = false := by
          rw [h] at read
          exact (ends (eq_nil_of_afterDigits read)).headD
        rw [if_pos digit, ← List.cons_append, takeDigits_append_of_ends finished,
          isDigit_headD_append finished]
        split at read
        · rename_i long
          rw [if_pos long]
          exact local_afterLongDigits negative _ read ends
        · rename_i short
          rw [if_neg short]
          exact local_afterDigits negative _ read ends
      · contradiction

/-- A number with its sign. -/
def readBare : Reader Json
  | '-' :: cs => readNumber true cs
  | cs => readNumber false cs

theorem readBare_cons {c : Char} (unsigned : c ≠ '-') (cs : List Char) :
    readBare (c :: cs) = readNumber false (c :: cs) := by
  rw [readBare]
  rintro _ ⟨⟩
  exact unsigned rfl

theorem local_readBare : Local readBare := by
  intro cs j r rest read ends
  cases cs with
  | nil => contradiction
  | cons c cs =>
    rw [List.cons_append]
    by_cases signed : c = '-'
    · subst signed
      exact local_readNumber true read ends
    · rw [readBare_cons signed] at read ⊢
      exact local_readNumber false read ends

theorem starts_of_readBare {cs r : List Char} {j : Json} (read : readBare cs = some (j, r)) :
    ∃ c left, cs = c :: left ∧ (c = '-' ∨ c.isDigit = true) := by
  cases cs with
  | nil => contradiction
  | cons c cs =>
    refine ⟨c, cs, rfl, ?_⟩
    by_cases signed : c = '-'
    · exact .inl signed
    · rw [readBare_cons signed, readNumber] at read
      by_cases zero : c = '0'
      · exact .inr (zero ▸ rfl)
      · rw [if_neg zero] at read
        split at read
        · exact .inr ‹_›
        · contradiction

/-! ## What kind of numbers are read -/

theorem takeDigits_le {significand taken : Nat} (small : significand ≤ maxSignificand)
    (cs : List Char) : (takeDigits significand taken cs).1 ≤ maxSignificand := by
  induction cs generalizing significand taken with
  | nil => exact small
  | cons c cs ih =>
    simp only [takeDigits]
    split
    · split
      · rename_i below
        exact ih below
      · exact small
    · exact small

/-- A number that is a double, or an integer that fits 64 bits, signed or unsigned. -/
inductive IsNumber : Json → Prop
  | int {i : Int} (low : -0x8000000000000000 ≤ i) (high : i ≤ maxSignificand) : IsNumber (.int i)
  | float (x : Float) : IsNumber (.float x)

theorem isNumber_integer (negative : Bool) {n : Nat} (small : n ≤ maxSignificand) :
    IsNumber (integer negative n) := by
  rw [integer]
  split
  · exact .int (by omega) (by omega)
  · split
    · rename_i fits
      simp only [Bool.and_eq_true, decide_eq_true_eq] at fits
      exact .int (by omega) (by omega)
    · exact .float _

theorem isNumber_of_map {α : Type} {read? : Option (Float × α)} {f : Float → Float} {j : Json}
    {r : α} (read : read?.map (fun (x, r) => (Json.float (f x), r)) = some (j, r)) : IsNumber j := by
  obtain ⟨⟨x, left⟩, -, ⟨⟩⟩ := Option.map_eq_some_iff.mp read
  exact .float _

theorem isNumber_of_afterDigits {negative : Bool} {n : Nat} (small : n ≤ maxSignificand)
    {cs r : List Char} {j : Json} (read : afterDigits negative n cs = some (j, r)) :
    IsNumber j := by
  cases cs with
  | nil =>
    cases read
    exact isNumber_integer negative small
  | cons c cs =>
    by_cases point : c = '.'
    · subst point
      exact isNumber_of_map (f := withSign negative) read
    · rw [afterDigits_cons negative n point] at read
      split at read
      · exact isNumber_of_map (f := withSign negative) read
      · cases read
        exact isNumber_integer negative small

theorem isNumber_of_readNumber {negative : Bool} {cs r : List Char} {j : Json}
    (read : readNumber negative cs = some (j, r)) : IsNumber j := by
  cases cs with
  | nil => contradiction
  | cons c cs =>
    simp only [readNumber] at read
    split at read
    · split at read
      · contradiction
      · exact isNumber_of_afterDigits (Nat.zero_le _) read
    · split at read
      · split at read
        · rw [afterLongDigits_eq] at read
          exact isNumber_of_map (f := withSign negative) read
        · exact isNumber_of_afterDigits (takeDigits_le (Nat.zero_le _) _) read
      · contradiction

end EntityStore.Json
