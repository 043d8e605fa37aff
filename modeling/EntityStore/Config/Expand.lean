import EntityStore.Error

/-!
# References to the environment

In a setting a name in braces behind a dollar sign stands for a variable of the environment. What is put in its place is
not expanded again.
-/

namespace EntityStore.Config

inductive ExpandFault where
  /-- No brace closes it; the rest of the text was taken for the name. -/
  | unterminated (name : String)
  | empty
  | missing (name : String)
deriving DecidableEq, Repr

def ExpandFault.message : ExpandFault → String
  | .unterminated name => "unterminated env var reference: $\x7b" ++ name
  | .empty => "invalid env var reference: $\x7b\x7d"
  | .missing name => "missing env var for config expansion: " ++ name

/-- The text in front of the first closing brace, and the text behind it. -/
def closeBrace : List Char → Option (List Char × List Char)
  | [] => none
  | c :: cs =>
    if c = '\x7d' then some ([], cs) else (closeBrace cs).map fun (name, rest) => (c :: name, rest)

theorem length_of_closeBrace {cs name rest : List Char} (h : closeBrace cs = some (name, rest)) :
    rest.length < cs.length := by
  induction cs generalizing name with
  | nil => simp [closeBrace] at h
  | cons c cs ih =>
    unfold closeBrace at h
    split at h
    · simp_all
    · obtain ⟨⟨n, r⟩, hc, he⟩ := Option.map_eq_some_iff.1 h
      obtain ⟨_, rfl⟩ := Prod.mk.inj he
      exact Nat.lt_succ_of_lt (ih hc)

def expandChars (env : String → Option String) : List Char → Except ExpandFault (List Char)
  | [] => .ok []
  | '$' :: '\x7b' :: cs =>
    match _h : closeBrace cs with
    | none => .error (.unterminated (String.ofList cs))
    | some ([], _) => .error .empty
    | some (name, rest) =>
      match env (String.ofList name) with
      | none => .error (.missing (String.ofList name))
      | some value => (expandChars env rest).map (value.toList ++ ·)
  | c :: cs => (expandChars env cs).map (c :: ·)
termination_by cs => cs.length
decreasing_by
  · have := length_of_closeBrace _h
    simp
    omega
  · simp

def expand (env : String → Option String) (s : String) : Except ExpandFault String :=
  (expandChars env s.toList).map String.ofList

end EntityStore.Config
