/-!
# Blank characters

A character is blank when Unicode gives it the property `White_Space`. Trimming and
splitting into words go by this class, so a no-break space or a line separator around a
name is removed like an ordinary blank.
-/

namespace EntityStore.Text

/-- Ranges of code points with the property `White_Space`, both ends included. -/
def blankRanges : List (Nat × Nat) :=
  [(0x09, 0x0D), (0x20, 0x20), (0x85, 0x85), (0xA0, 0xA0), (0x1680, 0x1680), (0x2000, 0x200A),
    (0x2028, 0x2029), (0x202F, 0x202F), (0x205F, 0x205F), (0x3000, 0x3000)]

def isBlank (c : Char) : Bool :=
  blankRanges.any fun r => r.1 ≤ c.toNat && c.toNat ≤ r.2

def trimLeft (cs : List Char) : List Char := cs.dropWhile isBlank

def trimRight (cs : List Char) : List Char := (trimLeft cs.reverse).reverse

/-- Removes blanks from both ends. -/
def trim (cs : List Char) : List Char := trimRight (trimLeft cs)

/-- Pieces between single blanks; `piece` holds the current one reversed. -/
def splitAtBlanks (piece : List Char) : List Char → List (List Char)
  | [] => [piece.reverse]
  | c :: cs => if isBlank c then piece.reverse :: splitAtBlanks [] cs else splitAtBlanks (c :: piece) cs

/-- The maximal runs of characters that are not blank, in order. -/
def words (cs : List Char) : List (List Char) := (splitAtBlanks [] cs).filter (· ≠ [])

theorem trimLeft_length_le (cs : List Char) : (trimLeft cs).length ≤ cs.length := by
  unfold trimLeft
  induction cs with
  | nil => simp
  | cons c cs ih =>
    rw [List.dropWhile_cons]
    split
    · exact Nat.le_succ_of_le ih
    · simp

theorem trimRight_length_le (cs : List Char) : (trimRight cs).length ≤ cs.length := by
  simpa [trimRight] using trimLeft_length_le cs.reverse

theorem trim_length_le (cs : List Char) : (trim cs).length ≤ cs.length :=
  Nat.le_trans (trimRight_length_le _) (trimLeft_length_le _)

end EntityStore.Text
