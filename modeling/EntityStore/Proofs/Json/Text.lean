import EntityStore.Json.Printer
import EntityStore.Json.Reader
import EntityStore.Proofs.Text.Hex

/-!
# Reading the texts of documents

A text is read back from its quoted form, whatever follows the closing quote.
-/

namespace EntityStore.Json

theorem readHex4_append {ds : List Char} (four : ds.length = 4) (rest : List Char) :
    readHex4 (ds ++ rest) = (Text.hexNumber? ds).map (·, rest) := by
  match ds, four with
  | [a, b, c, d], _ => rfl

/-- Characters below the surrogates are read from their four digits. -/
theorem readUnicode_hexDigits {n : Nat} (low : n < 0xD800) (rest : List Char) :
    readUnicode (Text.hexDigits 4 n ++ rest) = some (Char.ofNat n, rest) := by
  have number : readHex4 (Text.hexDigits 4 n ++ rest) = some (n, rest) := by
    rw [readHex4_append (Text.length_hexDigits 4 n), Text.hexNumber?_hexDigits,
      Nat.mod_eq_of_lt (by omega)]
    rfl
  have trailing : ¬(0xDC00 ≤ n && n ≤ 0xDFFF) := by simp; omega
  have leading : ¬(0xD800 ≤ n && n ≤ 0xDBFF) := by simp; omega
  simp only [readUnicode, number, bind, Option.bind, if_neg trailing, if_neg leading]

/-- One step takes the whole escape of a character. -/
theorem readChars_escapeChar (fuel : Nat) (acc : List Char) (c : Char) (rest : List Char) :
    readChars (fuel + 1) acc (escapeChar c ++ rest) = readChars fuel (c :: acc) rest := by
  fun_cases escapeChar c
  case case8 control =>
    have own : Char.ofNat c.toNat = c := Char.ofNat_toNat c
    have read := readUnicode_hexDigits (show c.toNat < 0xD800 by omega) rest
    rw [own] at read
    simp only [List.cons_append, readChars, read]
    rfl
  case case9 quote slash _ _ _ _ _ printable =>
    simp [readChars, quote, slash, printable]
  all_goals
    subst_vars
    rfl

/-- A quoted text is read up to its closing quote. -/
theorem readChars_quoted {fuel : Nat} (acc : List Char) {cs rest : List Char}
    (enough : cs.length < fuel) :
    readChars fuel acc (cs.flatMap escapeChar ++ '"' :: rest) = some (acc.reverse ++ cs, rest) := by
  induction cs generalizing fuel acc with
  | nil =>
    obtain ⟨fuel, rfl⟩ := Nat.exists_eq_add_one.mpr (Nat.zero_lt_of_lt enough)
    simp [readChars]
  | cons c cs ih =>
    obtain ⟨fuel, rfl⟩ := Nat.exists_eq_add_one.mpr (Nat.zero_lt_of_lt enough)
    rw [List.flatMap_cons, List.append_assoc, readChars_escapeChar,
      ih (c :: acc) (by simpa using enough), List.reverse_cons, List.append_assoc,
      List.singleton_append]

theorem length_le_flatMap_escapeChar (cs : List Char) :
    cs.length ≤ (cs.flatMap escapeChar).length := by
  induction cs with
  | nil => exact Nat.le_refl 0
  | cons c cs ih =>
    have nonempty : 1 ≤ (escapeChar c).length := by
      fun_cases escapeChar c <;> simp
    rw [List.flatMap_cons, List.length_append, List.length_cons]
    omega

theorem toList_quote (s : String) :
    (quote s).toList = '"' :: (s.toList.flatMap escapeChar ++ ['"']) := by
  simp [quote]

theorem readString_quoted (s : String) (rest : List Char) :
    readString (s.toList.flatMap escapeChar ++ '"' :: rest) = some (s, rest) := by
  have enough := length_le_flatMap_escapeChar s.toList
  rw [readString, readChars_quoted [] (by simp only [List.length_append]; omega)]
  simp

end EntityStore.Json
