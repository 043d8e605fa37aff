import EntityStore.Text.Case
import EntityStore.Text.Mark

/-!
# Names in words

A name written with capitals splits into words: a capital that follows a small letter starts
a word, and so does the last capital of a run that a small letter follows. Joined in lower
case by underscores the words are the name's snake case.
-/

namespace EntityStore.Text

/-- What stands in a word; marks and connectors stand between words. -/
def isWordChar (c : Char) : Bool :=
  if c.toNat < 0x80 then c.isAlphanum else !inRuns markRuns c

/-- The case of the letters before, since the word began. -/
inductive LetterMode where
  | none
  | lower
  | upper
deriving DecidableEq, Repr

def LetterMode.after (mode : LetterMode) (c : Char) : LetterMode :=
  if isLower c then .lower else if isUpper c then .upper else mode

/-- Splits a run of word characters. `current` is the word begun, in reverse. -/
def splitWord (mode : LetterMode) (current : List Char) : List Char → List (List Char)
  | [] => if current.isEmpty then [] else [current.reverse]
  | [c] => [(c :: current).reverse]
  | c :: next :: rest =>
    if mode.after c = .lower && isUpper next then
      (c :: current).reverse :: splitWord .none [] (next :: rest)
    else if mode = .upper && isUpper c && isLower next then
      current.reverse :: splitWord .none [c] (next :: rest)
    else splitWord (mode.after c) (c :: current) (next :: rest)

/-- The words of a name. -/
def nameWords (name : String) : List (List Char) :=
  (name.toList.splitBy fun a b => isWordChar a == isWordChar b).flatMap fun run =>
    if run.any isWordChar then splitWord .none [] run else []

/-- A word in lower case. A sigma at its end has a form of its own. -/
def lowerWord : List Char → List Char
  | [] => []
  | [c] => if c = sigma then [finalSigma] else lowerChar c
  | c :: rest => lowerChar c ++ lowerWord rest

def snakeCase (name : String) : String :=
  "_".intercalate ((nameWords name).map fun w => String.ofList (lowerWord w))

end EntityStore.Text
