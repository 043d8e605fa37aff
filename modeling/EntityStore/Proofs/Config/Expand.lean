import EntityStore.Config
import EntityStore.Proofs.Outcome
import Mathlib.Data.List.Infix

/-!
# References to the environment

Which texts can be expanded, and to what. The grammar is told apart from the reader: a text is cut
at its openers from left to right, each reference runs up to the next brace, and what lies between
references has no opener in it.
-/

namespace EntityStore.Config

/-! ## The grammar -/

/-- What a reference begins with. -/
def opener : List Char := ['$', '\x7b']

/-- Text without a reference in it. -/
def Literal (cs : List Char) : Prop := ¬opener <:+: cs

instance : DecidablePred Literal := fun cs => inferInstanceAs (Decidable (¬opener <:+: cs))

/-- A reference with the text in front of it and the value of its name. -/
structure Reference where
  front : List Char
  name : List Char
  value : String

namespace Reference

def source (r : Reference) : List Char := r.front ++ opener ++ r.name ++ ['\x7d']

/-- What the reference and the text in front of it are expanded to. -/
def expansion (r : Reference) : List Char := r.front ++ r.value.toList

structure Resolves (env : String → Option String) (r : Reference) : Prop where
  front : Literal r.front
  name_ne_nil : r.name ≠ []
  closed : '\x7d' ∉ r.name
  value : env (String.ofList r.name) = some r.value

end Reference

/-- What is wrong with a reference, given the text behind its opener. -/
inductive Offends (env : String → Option String) : ExpandFault → List Char → Prop where
  | unterminated {behind : List Char} : '\x7d' ∉ behind →
      Offends env (.unterminated (String.ofList behind)) behind
  | empty {rest : List Char} : Offends env .empty ('\x7d' :: rest)
  | missing {name rest : List Char} : name ≠ [] → '\x7d' ∉ name →
      env (String.ofList name) = none →
      Offends env (.missing (String.ofList name)) (name ++ '\x7d' :: rest)

/-! ## Texts cut at the first opener -/

section

variable {c : Char} {cs front behind tail : List Char}

theorem literal_nil : Literal [] := by
  intro found
  cases List.infix_nil.mp found

theorem literal_cons_iff : Literal (c :: cs) ↔ ¬opener <+: c :: cs ∧ Literal cs := by
  rw [Literal, List.infix_cons_iff, not_or, Literal]

theorem literal_or_exists_opener (cs : List Char) :
    Literal cs ∨ ∃ front behind, Literal front ∧ cs = front ++ opener ++ behind := by
  induction cs with
  | nil => exact .inl literal_nil
  | cons c cs ih =>
    by_cases here : opener <+: c :: cs
    · obtain ⟨behind, same⟩ := here
      exact .inr ⟨[], behind, literal_nil, same.symm⟩
    · rcases ih with literal | ⟨front, behind, literal, rfl⟩
      · exact .inl (literal_cons_iff.mpr ⟨here, literal⟩)
      · refine .inr ⟨c :: front, behind, literal_cons_iff.mpr ⟨fun early => here ?_, literal⟩, rfl⟩
        rw [List.append_assoc]
        exact early.trans (List.prefix_append (c :: front) (opener ++ behind))

theorem closeBrace_eq_none : closeBrace cs = none ↔ '\x7d' ∉ cs := by
  induction cs with
  | nil => exact iff_of_true rfl List.not_mem_nil
  | cons c cs ih =>
    rw [closeBrace]
    split
    · rename_i brace
      simp [brace]
    · rename_i other
      rw [Option.map_eq_none_iff, ih, List.mem_cons, not_or]
      exact (and_iff_right (Ne.symm other)).symm

theorem closeBrace_append {name rest : List Char} (closed : '\x7d' ∉ name) :
    closeBrace (name ++ '\x7d' :: rest) = some (name, rest) := by
  induction name with
  | nil => rfl
  | cons c name ih =>
    obtain ⟨here, later⟩ := not_or.mp (List.mem_cons.not.mp closed)
    rw [List.cons_append, closeBrace, if_neg (Ne.symm here), ih later]
    rfl

/-- The text behind an opener, by its first closing brace. -/
theorem notMem_or_exists_brace (cs : List Char) :
    '\x7d' ∉ cs ∨ ∃ name rest, '\x7d' ∉ name ∧ cs = name ++ '\x7d' :: rest := by
  by_cases brace : '\x7d' ∈ cs
  · obtain ⟨name, rest, same, closed⟩ := List.eq_append_cons_of_mem brace
    exact .inr ⟨name, rest, closed, same⟩
  · exact .inl brace

end

/-! ## The reader on such texts -/

section

variable {env : String → Option String} {c : Char} {cs front behind tail : List Char}

theorem expandChars_cons (apart : ¬opener <+: c :: cs) :
    expandChars env (c :: cs) = (expandChars env cs).map (c :: ·) := by
  rw [expandChars]
  rintro rest rfl rfl
  exact apart ⟨rest, rfl⟩

theorem map_nil_append (x : Except ExpandFault (List Char)) : x.map ([] ++ ·) = x := by
  cases x <;> rfl

theorem map_append_map (x : Except ExpandFault (List Char)) (front behind : List Char) :
    (x.map (behind ++ ·)).map (front ++ ·) = x.map (front ++ behind ++ ·) := by
  cases x with
  | error f => rfl
  | ok out => exact congrArg Except.ok (List.append_assoc front behind out).symm

/-- No opener begins in literal text, unless its end and what follows make one. -/
theorem not_opener_of_literal (literal : Literal (c :: front))
    (apart : (c :: front).getLast? = some '$' → tail.head? ≠ some '\x7b') :
    ¬opener <+: c :: (front ++ tail) := by
  rintro ⟨behind, same⟩
  obtain ⟨dollar, brace⟩ : '$' = c ∧ '\x7b' :: behind = front ++ tail := List.cons.inj same
  subst dollar
  cases front with
  | nil =>
    rw [List.nil_append] at brace
    exact apart rfl (by rw [← brace]; rfl)
  | cons d front =>
    rw [← (List.cons.inj brace).1] at literal
    exact (literal_cons_iff.mp literal).1 ⟨front, rfl⟩

/-- Literal text is passed on as it is. -/
theorem expandChars_literal_append (literal : Literal front)
    (apart : front.getLast? = some '$' → tail.head? ≠ some '\x7b') :
    expandChars env (front ++ tail) = (expandChars env tail).map (front ++ ·) := by
  induction front with
  | nil => exact (map_nil_append _).symm
  | cons c front ih =>
    have apart' : front.getLast? = some '$' → tail.head? ≠ some '\x7b' := by
      intro dollar
      exact apart (by rw [List.getLast?_cons, dollar]; rfl)
    rw [List.cons_append, expandChars_cons (not_opener_of_literal literal apart),
      ih (literal_cons_iff.mp literal).2 apart']
    exact map_append_map _ [c] front

theorem expandChars_literal (literal : Literal cs) : expandChars env cs = .ok cs := by
  have whole : expandChars env (cs ++ []) = (expandChars env []).map (cs ++ ·) :=
    expandChars_literal_append literal fun _ => nofun
  rw [List.append_nil] at whole
  rw [whole, expandChars, Except.map, List.append_nil]

theorem expandChars_front (literal : Literal front) (behind : List Char) :
    expandChars env (front ++ opener ++ behind) =
      (expandChars env (opener ++ behind)).map (front ++ ·) := by
  rw [List.append_assoc]
  exact expandChars_literal_append literal fun _ => by simp [opener]

theorem expandChars_offends {f : ExpandFault} (offends : Offends env f behind) :
    expandChars env (opener ++ behind) = .error f := by
  change expandChars env ('$' :: '\x7b' :: behind) = _
  rw [expandChars]
  cases offends with
  | unterminated closed => rw [closeBrace_eq_none.mpr closed]
  | empty => rfl
  | @missing name rest some closed unset =>
    rw [closeBrace_append closed]
    cases name with
    | nil => exact absurd rfl some
    | cons n name => simp only [unset]

theorem expandChars_reference {r : Reference} (resolves : r.Resolves env) (tail : List Char) :
    expandChars env (r.source ++ tail) = (expandChars env tail).map (r.expansion ++ ·) := by
  have cut : r.source ++ tail = r.front ++ opener ++ (r.name ++ '\x7d' :: tail) := by
    simp [Reference.source]
  have value : expandChars env (opener ++ (r.name ++ '\x7d' :: tail)) =
      (expandChars env tail).map (r.value.toList ++ ·) := by
    change expandChars env ('$' :: '\x7b' :: (r.name ++ '\x7d' :: tail)) = _
    rw [expandChars, closeBrace_append resolves.closed]
    have set := resolves.value
    cases named : r.name with
    | nil => exact absurd named resolves.name_ne_nil
    | cons n name =>
      rw [named] at set
      simp only [set]
  rw [cut, expandChars_front resolves.front, value, map_append_map]
  rfl

theorem expandChars_references {rs : List Reference} (resolve : ∀ r ∈ rs, r.Resolves env)
    (tail : List Char) :
    expandChars env (rs.flatMap Reference.source ++ tail) =
      (expandChars env tail).map (rs.flatMap Reference.expansion ++ ·) := by
  induction rs with
  | nil => exact (map_nil_append _).symm
  | cons r rs ih =>
    obtain ⟨first, others⟩ := List.forall_mem_cons.mp resolve
    rw [List.flatMap_cons, List.append_assoc, expandChars_reference first, ih others,
      map_append_map, List.flatMap_cons]

end

/-! ## Every text is cut -/

/-- A text whose references all resolve, with what it is expanded to. -/
def Expands (env : String → Option String) (cs out : List Char) : Prop :=
  ∃ (rs : List Reference) (rest : List Char), (∀ r ∈ rs, r.Resolves env) ∧ Literal rest ∧
    cs = rs.flatMap Reference.source ++ rest ∧ out = rs.flatMap Reference.expansion ++ rest

/-- A text with a reference that does not resolve, behind others that do. -/
def FailsWith (env : String → Option String) (cs : List Char) (f : ExpandFault) : Prop :=
  ∃ (rs : List Reference) (front behind : List Char), (∀ r ∈ rs, r.Resolves env) ∧
    Literal front ∧ Offends env f behind ∧
      cs = rs.flatMap Reference.source ++ (front ++ opener ++ behind)

section

variable {env : String → Option String} {cs out : List Char} {f : ExpandFault}

theorem Expands.eq (h : Expands env cs out) : expandChars env cs = .ok out := by
  obtain ⟨rs, rest, resolve, literal, rfl, rfl⟩ := h
  rw [expandChars_references resolve, expandChars_literal literal]
  rfl

theorem FailsWith.eq (h : FailsWith env cs f) : expandChars env cs = .error f := by
  obtain ⟨rs, front, behind, resolve, literal, offends, rfl⟩ := h
  rw [expandChars_references resolve, expandChars_front literal, expandChars_offends offends]
  rfl

/-- Behind a reference that resolves the text goes on as if it began there. -/
theorem Expands.cons {r : Reference} (first : r.Resolves env) (h : Expands env cs out) :
    Expands env (r.source ++ cs) (r.expansion ++ out) := by
  obtain ⟨rs, rest, resolve, literal, rfl, rfl⟩ := h
  exact ⟨r :: rs, rest, List.forall_mem_cons.mpr ⟨first, resolve⟩, literal, by simp, by simp⟩

theorem FailsWith.cons {r : Reference} (first : r.Resolves env) (h : FailsWith env cs f) :
    FailsWith env (r.source ++ cs) f := by
  obtain ⟨rs, front, behind, resolve, literal, offends, rfl⟩ := h
  exact ⟨r :: rs, front, behind, List.forall_mem_cons.mpr ⟨first, resolve⟩, literal, offends,
    by simp⟩

theorem expands_or_fails (env : String → Option String) (cs : List Char) :
    (∃ out, Expands env cs out) ∨ ∃ f, FailsWith env cs f := by
  induction length : cs.length using Nat.strong_induction_on generalizing cs with
  | h n ih =>
    rcases literal_or_exists_opener cs with literal | ⟨front, behind, literal, rfl⟩
    · exact .inl ⟨cs, [], cs, nofun, literal, rfl, rfl⟩
    · -- a fault at the first opener is the fault of the text
      have fails {f : ExpandFault} (offends : Offends env f behind) :
          FailsWith env (front ++ opener ++ behind) f :=
        ⟨[], front, behind, nofun, literal, offends, rfl⟩
      rcases notMem_or_exists_brace behind with open_ | ⟨name, rest, closed, rfl⟩
      · exact .inr ⟨_, fails (.unterminated open_)⟩
      · by_cases empty : name = []
        · subst empty
          exact .inr ⟨_, fails .empty⟩
        · cases value : env (String.ofList name) with
          | none => exact .inr ⟨_, fails (.missing empty closed value)⟩
          | some v =>
            have resolves : Reference.Resolves env ⟨front, name, v⟩ :=
              ⟨literal, empty, closed, value⟩
            have cut : front ++ opener ++ (name ++ '\x7d' :: rest) =
                Reference.source ⟨front, name, v⟩ ++ rest := by simp [Reference.source]
            have shorter : rest.length < n := by
              rw [← length]
              simp
              omega
            rw [cut]
            rcases ih rest.length shorter rest rfl with ⟨out, h⟩ | ⟨f, h⟩
            · exact .inl ⟨_, h.cons resolves⟩
            · exact .inr ⟨f, h.cons resolves⟩

theorem expandChars_eq_ok : expandChars env cs = .ok out ↔ Expands env cs out := by
  refine ⟨fun done => ?_, Expands.eq⟩
  rcases expands_or_fails env cs with ⟨out', h⟩ | ⟨f, h⟩
  · rw [h.eq] at done
    exact Except.ok.inj done ▸ h
  · rw [h.eq] at done
    cases done

theorem expandChars_eq_error : expandChars env cs = .error f ↔ FailsWith env cs f := by
  refine ⟨fun failed => ?_, FailsWith.eq⟩
  rcases expands_or_fails env cs with ⟨out, h⟩ | ⟨f', h⟩
  · rw [h.eq] at failed
    cases failed
  · rw [h.eq] at failed
    exact Except.error.inj failed ▸ h

/-- Texts are expanded one after the other unless an opener is cut between them. -/
theorem expandChars_append {ds out' : List Char} (first : expandChars env cs = .ok out)
    (second : expandChars env ds = .ok out') (apart : cs.getLast? ≠ some '$') :
    expandChars env (cs ++ ds) = .ok (out ++ out') := by
  obtain ⟨rs, rest, resolve, literal, rfl, rfl⟩ := expandChars_eq_ok.mp first
  have last : rest.getLast? ≠ some '$' := by
    intro dollar
    rw [List.getLast?_append, dollar] at apart
    exact apart rfl
  rw [List.append_assoc, expandChars_references resolve,
    expandChars_literal_append literal fun dollar => absurd dollar last, second]
  simp [Except.map]

end

/-! ## Settings -/

section

variable {env : String → Option String} {s out : String} {e : Error}

theorem expandText_eq_ok :
    expandText env s = .ok out ↔ expandChars env s.toList = .ok out.toList := by
  rw [expandText, expand]
  cases expandChars env s.toList with
  | error f => exact iff_of_false nofun nofun
  | ok cs =>
    change Except.ok (String.ofList cs) = .ok out ↔ _
    rw [Except.ok.injEq, Except.ok.injEq]
    constructor
    · rintro rfl
      exact String.toList_ofList.symm
    · rintro rfl
      exact String.ofList_toList

theorem expandText_eq_error : expandText env s = .error e ↔
    ∃ f, expandChars env s.toList = .error f ∧ e = .validation f.message := by
  rw [expandText, expand]
  cases expandChars env s.toList with
  | error f =>
    change Except.error (Error.validation f.message) = .error e ↔ _
    rw [Except.error.injEq]
    constructor
    · rintro rfl
      exact ⟨f, rfl, rfl⟩
    · rintro ⟨_, same, rfl⟩
      cases same
      rfl
  | ok cs =>
    refine iff_of_false nofun ?_
    rintro ⟨_, same, -⟩
    cases same

end

/-- A text is expanded if and only if each reference in it, from left to right, is closed and has a
name that is set. Then the values stand in place of the references, and all else, the values
included, is left as it is. Otherwise the first reference that is not so is reported, as a fault of
validation. Text without references stays the same, and two texts are expanded one after the other
unless the first ends in a dollar sign. -/
theorem expanded_by_references (env : String → Option String) :
    (∀ s out, expandText env s = .ok out ↔ Expands env s.toList out.toList) ∧
    (∀ s e, expandText env s = .error e ↔
      ∃ f, FailsWith env s.toList f ∧ e = .validation f.message) ∧
    (∀ s, Literal s.toList → expandText env s = .ok s) ∧
    ∀ s t out out', expandText env s = .ok out → expandText env t = .ok out' →
      s.toList.getLast? ≠ some '$' → expandText env (s ++ t) = .ok (out ++ out') := by
  refine ⟨fun s out => ?_, fun s e => ?_, fun s literal => ?_,
    fun s t out out' first second apart => ?_⟩
  · rw [expandText_eq_ok, expandChars_eq_ok]
  · rw [expandText_eq_error]
    exact exists_congr fun f => and_congr_left' expandChars_eq_error
  · rw [expandText_eq_ok, expandChars_literal literal]
  · rw [expandText_eq_ok] at first second ⊢
    rw [String.toList_append, String.toList_append]
    exact expandChars_append first second apart

/-- A value that looks like a reference is not expanded again, and a lone dollar sign is text. -/
theorem value_stays_as_it_is :
    let env : String → Option String := fun name =>
      if name = "A" then some "$\x7bB\x7d" else none
    (Literal "$$ ".toList ∧ expandText env "$$ " = .ok "$$ ") ∧
      (Expands env "$$\x7bA\x7d".toList "$$\x7bB\x7d".toList ∧
        expandText env "$$\x7bA\x7d" = .ok "$$\x7bB\x7d") ∧
      ("$$ ".toList.getLast? ≠ some '$' ∧
        expandText env ("$$ " ++ "$$\x7bA\x7d") = .ok ("$$ " ++ "$$\x7bB\x7d")) ∧
      expandText env "$\x7bA\x7d $\x7bB\x7d $\x7bC" =
        .error (.validation "missing env var for config expansion: B") := by
  intro env
  obtain ⟨accepted, refused, plain, joined⟩ := expanded_by_references env
  have a : Reference.Resolves env ⟨['$'], ['A'], "$\x7bB\x7d"⟩ :=
    ⟨by decide, by decide, by decide, rfl⟩
  have literal : Literal "$$ ".toList := by decide
  have expands : Expands env "$$\x7bA\x7d".toList "$$\x7bB\x7d".toList :=
    ⟨[⟨['$'], ['A'], "$\x7bB\x7d"⟩], [], by simpa using a, by decide, by decide, by decide⟩
  have alone := plain "$$ " literal
  have referred := (accepted _ _).mpr expands
  have apart : "$$ ".toList.getLast? ≠ some '$' := by decide
  refine ⟨⟨literal, alone⟩, ⟨expands, referred⟩, ⟨apart, joined _ _ _ _ alone referred apart⟩, ?_⟩
  have first : Reference.Resolves env ⟨[], ['A'], "$\x7bB\x7d"⟩ :=
    ⟨by decide, by decide, by decide, rfl⟩
  have unset : Offends env (.missing "B") (['B'] ++ '\x7d' :: " $\x7bC".toList) :=
    .missing (by decide) (by decide) rfl
  have fails : FailsWith env "$\x7bA\x7d $\x7bB\x7d $\x7bC".toList (.missing "B") :=
    ⟨[⟨[], ['A'], "$\x7bB\x7d"⟩], [' '], _, by simpa using first, by decide, unset, by decide⟩
  exact (refused _ _).mpr ⟨.missing "B", fails, by decide⟩

end EntityStore.Config
