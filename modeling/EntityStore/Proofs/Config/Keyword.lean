import EntityStore.Proofs.Text.Blank

/-!
# Keywords with values

The grammar of a list of settings as libpq reads it: `keyword = value` pairs between blanks, where
a value ends at a blank or stands in single quotes, and a backslash takes the next character as it
is. A value that is written down as it is comes back exactly if it is a plain word.
-/

namespace EntityStore.Keyword

/-! ## The grammar -/

/-- The characters that separate pairs: the space, and whichever others count as white space. -/
structure Blanks where
  isBlank : Char → Bool
  space : isBlank ' ' = true
  isBlank_of : ∀ {c}, isBlank c = true → Text.isBlank c = true

/-- What stands before the first character that stops, and the text from there on. A backslash
takes the next character as it is. -/
def scan (stop : Char → Bool) : List Char → List Char × List Char
  | [] => ([], [])
  | ['\\'] => ([], [])
  | '\\' :: c :: cs => (c :: (scan stop cs).1, (scan stop cs).2)
  | c :: cs => if stop c then ([], c :: cs) else (c :: (scan stop cs).1, (scan stop cs).2)

/-- A value, between quotes or up to the next blank, and what follows it. -/
def value (b : Blanks) (cs : List Char) : Option (List Char × List Char) :=
  match cs.dropWhile b.isBlank with
  | '\x27' :: cs =>
    match scan (· = '\x27') cs with
    | (v, _ :: rest) => some (v, rest)
    | (_, []) => none
  | cs => some (scan b.isBlank cs)

/-- A character of a keyword. -/
def Blanks.isName (b : Blanks) (c : Char) : Bool := !b.isBlank c && c ≠ '='

/-- The pair that a text begins with, and what follows it. -/
def pair (b : Blanks) (cs : List Char) : Option ((String × String) × List Char) :=
  match (cs.dropWhile b.isName).dropWhile b.isBlank with
  | '=' :: rest =>
    (value b rest).map fun r => ((String.ofList (cs.takeWhile b.isName), String.ofList r.1), r.2)
  | _ => none

theorem length_scan_le (stop : Char → Bool) (cs : List Char) :
    (scan stop cs).2.length ≤ cs.length := by
  fun_induction scan stop cs with
  | case1 => exact Nat.le_refl 0
  | case2 => exact Nat.zero_le 1
  | case3 c cs ih => exact Nat.le_succ_of_le (Nat.le_succ_of_le ih)
  | case4 c cs => exact Nat.le_refl _
  | case5 c cs _ _ _ ih => exact Nat.le_succ_of_le ih

theorem length_dropWhile_le (p : Char → Bool) (cs : List Char) :
    (cs.dropWhile p).length ≤ cs.length := (List.dropWhile_suffix p).length_le

theorem length_of_value {b : Blanks} {cs v rest : List Char} (h : value b cs = some (v, rest)) :
    rest.length ≤ cs.length := by
  have skipped := length_dropWhile_le b.isBlank cs
  unfold value at h
  split at h
  · rename_i inner start
    split at h
    · rename_i v' q rest' scanned
      cases h
      have inside := length_scan_le (· = '\x27') inner
      rw [scanned, List.length_cons] at inside
      rw [start, List.length_cons] at skipped
      omega
    · cases h
  · have scanned := length_scan_le b.isBlank (cs.dropWhile b.isBlank)
    rw [Option.some.inj h] at scanned
    exact Nat.le_trans scanned skipped

theorem length_of_pair {b : Blanks} {cs rest : List Char} {p : String × String}
    (h : pair b cs = some (p, rest)) : rest.length < cs.length := by
  unfold pair at h
  split at h
  · rename_i behind equals
    obtain ⟨⟨v, rest'⟩, read, same⟩ := Option.map_eq_some_iff.mp h
    obtain ⟨-, rfl⟩ := Prod.mk.inj same
    have name := length_dropWhile_le b.isName cs
    have skipped := length_dropWhile_le b.isBlank (cs.dropWhile b.isName)
    rw [equals, List.length_cons] at skipped
    exact Nat.lt_of_lt_of_le (Nat.lt_of_le_of_lt (length_of_value read) skipped) name
  · cases h

/-- All pairs of a text; none if it is no list of pairs. -/
def pairs (b : Blanks) (cs : List Char) : Option (List (String × String)) :=
  match _h : cs.dropWhile b.isBlank with
  | [] => some []
  | c :: text =>
    match _read : pair b (c :: text) with
    | none => none
    | some (p, rest) => (pairs b rest).map (p :: ·)
termination_by cs.length
decreasing_by
  have shorter := length_of_pair _read
  rw [← _h] at shorter
  exact Nat.lt_of_lt_of_le shorter (length_dropWhile_le b.isBlank cs)

/-! ## Values that are written as they are -/

/-- A word that stands for itself. -/
structure Plain (b : Blanks) (v : List Char) : Prop where
  ne_nil : v ≠ []
  word : ∀ c ∈ v, b.isBlank c = false ∧ c ≠ '\\'
  unquoted : v.head? ≠ some '\x27'

instance (b : Blanks) : DecidablePred (Plain b) := fun v =>
  decidable_of_iff
    (v ≠ [] ∧ (v.all fun c => !b.isBlank c && c != '\\') = true ∧ v.head? ≠ some '\x27')
    ⟨fun ⟨ne_nil, word, unquoted⟩ => ⟨ne_nil, by simpa using word, unquoted⟩,
      fun plain => ⟨plain.ne_nil, by simpa using plain.word, plain.unquoted⟩⟩

/-- A character that neither ends a value nor changes how it is read. -/
structure Inert (b : Blanks) (c : Char) : Prop where
  not_blank : b.isBlank c = false
  not_escape : c ≠ '\\'
  not_quote : c ≠ '\x27'

section

variable {b : Blanks} {stop : Char → Bool} {c h : Char} {v front behind tail : List Char}

theorem scan_cons (other : c ≠ '\\') (cs : List Char) : scan stop (c :: cs) =
    if stop c then ([], c :: cs) else (c :: (scan stop cs).1, (scan stop cs).2) := by
  rw [scan.eq_4 stop c cs (fun same _ => other same) fun _ _ same _ => other same]

theorem not_escape {cs : List Char} (lone : c = '\\' → cs = [] → False)
    (escape : ∀ d ds, c = '\\' → cs = d :: ds → False) : c ≠ '\\' := by
  intro same
  cases cs with
  | nil => exact lone same rfl
  | cons d ds => exact escape d ds same rfl

/-- Scanning passes a character at its place or earlier, unless it stops before. -/
theorem scan_append (passed : stop h = false) (other : h ≠ '\\') (front behind : List Char) :
    (scan stop (front ++ h :: behind)).1.length < front.length ∨
      ∃ before after, (scan stop (front ++ h :: behind)).1 = before ++ h :: after ∧
        before.length ≤ front.length := by
  have step (c : Char) {w : List Char} {n : Nat}
      (rest : w.length < n ∨ ∃ before after, w = before ++ h :: after ∧ before.length ≤ n) :
      (c :: w).length < n + 1 ∨
        ∃ before after, c :: w = before ++ h :: after ∧ before.length ≤ n + 1 := by
    rcases rest with short | ⟨before, after, rfl, early⟩
    · exact .inl (Nat.succ_lt_succ short)
    · exact .inr ⟨c :: before, after, rfl, Nat.succ_le_succ early⟩
  induction front using scan.induct stop with
  | case1 =>
    rw [List.nil_append, scan_cons other, if_neg (by simp [passed])]
    exact .inr ⟨[], _, rfl, Nat.le_refl 0⟩
  | case2 => exact .inr ⟨[], _, rfl, Nat.zero_le 1⟩
  | case3 c front ih =>
    rcases step c ih with short | ⟨before, after, same, early⟩
    · exact .inl (Nat.lt_succ_of_lt short)
    · exact .inr ⟨before, after, same, Nat.le_succ_of_le early⟩
  | case4 c front lone escape stopped =>
    rw [List.cons_append, scan_cons (not_escape lone escape), if_pos stopped]
    exact .inl (Nat.zero_lt_succ _)
  | case5 c front lone escape passes ih =>
    rw [List.cons_append, scan_cons (not_escape lone escape), if_neg passes]
    exact step c ih

theorem length_le_of_append_eq {xs ys front behind : List Char} (absent : h ∉ xs)
    (same : xs ++ ys = front ++ h :: behind) : xs.length ≤ front.length := by
  rcases Nat.lt_or_ge front.length xs.length with shorter | le
  · have there : (xs ++ ys)[front.length]? = some h := by simp [same]
    rw [List.getElem?_append_left shorter] at there
    exact absurd (List.mem_of_getElem? there) absent
  · exact le

/-- What is scanned from a text is not this text behind others: it would have to come from itself,
further behind each time. -/
theorem scan_ne_append (passed : stop h = false) (other : h ≠ '\\') (some : front ≠ [])
    (absent : h ∉ front) (v behind : List Char) :
    (scan stop (v ++ ' ' :: h :: behind)).1 ≠ front ++ v := by
  intro same
  have positive : 0 < front.length := List.length_pos_iff.mpr some
  by_cases inside : h ∈ v
  · obtain ⟨v, v', rfl, first⟩ := List.eq_append_cons_of_mem inside
    have placed := scan_append passed other v (v' ++ ' ' :: h :: behind)
    rw [← List.cons_append, ← List.append_assoc, same] at placed
    rcases placed with short | ⟨before, after, found, early⟩
    · rw [List.length_append, List.length_append] at short
      omega
    · have regrouped : (front ++ v) ++ h :: v' = before ++ h :: after := by
        rw [List.append_assoc, found]
      have late := length_le_of_append_eq (List.not_mem_append absent first) regrouped
      rw [List.length_append] at late
      omega
  · have placed := scan_append passed other (v ++ [' ']) behind
    rw [List.append_assoc, List.singleton_append, same] at placed
    rcases placed with short | ⟨before, after, found, -⟩
    · rw [List.length_append, List.length_append, List.length_singleton] at short
      omega
    · exact List.not_mem_append absent inside (found ▸ List.mem_append_right _ List.mem_cons_self)

/-- The text behind a value begins with a blank or is at its end. -/
def Ends (b : Blanks) (tail : List Char) : Prop := ∀ c ∈ tail.head?, b.isBlank c = true

theorem scan_word (word : ∀ c ∈ v, b.isBlank c = false ∧ c ≠ '\\') (ends : Ends b tail) :
    scan b.isBlank (v ++ tail) = (v, tail) := by
  induction v with
  | nil =>
    cases tail with
    | nil => rfl
    | cons c tail =>
      have blank : b.isBlank c = true := ends c rfl
      have other : c ≠ '\\' := by
        rintro rfl
        exact absurd (b.isBlank_of blank) (by decide)
      rw [List.nil_append, scan_cons other, if_pos blank]
  | cons c v ih =>
    obtain ⟨⟨visible, other⟩, word⟩ := List.forall_mem_cons.mp word
    rw [List.cons_append, scan_cons other, if_neg (by simp [visible]), ih word]

theorem value_bare {cs : List Char} (unquoted : (cs.dropWhile b.isBlank).head? ≠ some '\x27') :
    value b cs = some (scan b.isBlank (cs.dropWhile b.isBlank)) := by
  rw [value]
  split
  · rename_i inner start
    rw [start] at unquoted
    exact absurd rfl unquoted
  · rfl

theorem value_plain (plain : Plain b v) (ends : Ends b tail) :
    value b (v ++ tail) = some (v, tail) := by
  obtain ⟨c, w, rfl⟩ := List.exists_cons_of_ne_nil plain.ne_nil
  have start : (c :: w ++ tail).dropWhile b.isBlank = c :: w ++ tail :=
    List.dropWhile_cons_of_neg (by simp [plain.word c List.mem_cons_self])
  have unquoted : (c :: w ++ tail).head? ≠ some '\x27' := plain.unquoted
  rw [value_bare (by rwa [start]), start, scan_word plain.word ends]

theorem value_last (plain : Plain b v) : value b v = some (v, []) := by
  have read : value b (v ++ []) = some (v, []) := value_plain plain nofun
  rwa [List.append_nil] at read

/-- A word that is scanned as it stands has nothing in it that is read otherwise. -/
theorem word_of_scan (inert : Inert b h)
    (same : (scan b.isBlank (v ++ ' ' :: h :: behind)).1 = v) :
    ∀ c ∈ v, b.isBlank c = false ∧ c ≠ '\\' := by
  induction v with
  | nil => exact nofun
  | cons c v ih =>
    by_cases escape : c = '\\'
    · subst escape
      -- The backslash that is scanned is the next one, so what stands behind that one is scanned
      -- as itself behind a backslash.
      cases v with
      | nil => cases (List.cons.inj same).1
      | cons d v =>
        obtain ⟨here, later⟩ := List.cons.inj same
        have visible : h ∉ ['\\'] := by simpa using inert.not_escape
        rw [here] at later
        exact absurd later
          (scan_ne_append inert.not_blank inert.not_escape (List.cons_ne_nil _ _) visible v behind)
    · rw [List.cons_append, scan_cons escape] at same
      split at same
      · cases same
      · rename_i visible
        exact List.forall_mem_cons.mpr ⟨⟨by simpa using visible, escape⟩, ih (List.cons.inj same).2⟩

theorem value_quoted {cs inner rest : List Char}
    (start : cs.dropWhile b.isBlank = '\x27' :: inner) (read : value b cs = some (v, rest)) :
    (scan (· = '\x27') inner).1 = v := by
  rw [value, start] at read
  split at read
  · rename_i opening
    obtain ⟨-, rfl⟩ := List.cons.inj opening
    split at read
    · rename_i scanned
      cases read
      rw [scanned]
    · cases read
  · rename_i other
    exact absurd rfl (other inner)

theorem value_append_of_blank {cs : List Char} (blank : ∀ c ∈ front, b.isBlank c = true) :
    value b (front ++ cs) = value b cs := by
  rw [value, value, List.dropWhile_append_of_pos blank]

theorem value_space (cs : List Char) : value b (' ' :: cs) = value b cs := by
  rw [value, value, List.dropWhile_cons_of_pos b.space]

/-- A text is what is skipped of it and the rest, which begins with something else than a blank. -/
theorem exists_skipped (b : Blanks) (cs : List Char) : ∃ front seen,
    (∀ c ∈ front, b.isBlank c = true) ∧ (∀ c ∈ seen.head?, b.isBlank c = false) ∧
      cs = front ++ seen := by
  refine ⟨cs.takeWhile b.isBlank, cs.dropWhile b.isBlank, fun _ => List.mem_takeWhile_imp, ?_,
    List.takeWhile_append_dropWhile.symm⟩
  intro c first
  have stopped := List.head?_dropWhile_not b.isBlank cs
  rwa [first] at stopped

/-- Only plain words are read as they are written. -/
theorem plain_of_value (inert : Inert b h) {rest : List Char}
    (read : value b (v ++ ' ' :: h :: behind) = some (v, rest)) : Plain b v := by
  obtain ⟨front, seen, blanks, visible, rfl⟩ := exists_skipped b v
  have absent : h ∉ front := fun member =>
    Bool.noConfusion (inert.not_blank.symm.trans (blanks h member))
  rw [List.append_assoc, value_append_of_blank blanks] at read
  cases seen with
  | nil =>
    -- All of the value is skipped, so what is read begins with the next keyword.
    have start : (h :: behind).dropWhile b.isBlank = h :: behind :=
      List.dropWhile_cons_of_neg (by simp [inert.not_blank])
    rw [List.nil_append, value_space, value_bare (by simp [start, inert.not_quote]), start,
      scan_cons inert.not_escape, if_neg (by simp [inert.not_blank]), List.append_nil] at read
    obtain ⟨rfl, -⟩ := Prod.mk.inj (Option.some.inj read)
    exact absurd List.mem_cons_self absent
  | cons d w =>
    have start : (d :: w ++ ' ' :: h :: behind).dropWhile b.isBlank = d :: w ++ ' ' :: h :: behind :=
      List.dropWhile_cons_of_neg (by simp [visible d rfl])
    by_cases quote : d = '\x27'
    · subst quote
      have scanned := value_quoted start read
      rw [List.append_cons] at scanned
      exact absurd scanned (scan_ne_append (by simp [inert.not_quote]) inert.not_escape
        (by simp) (by simp [absent, inert.not_quote]) w behind)
    · have unquoted : (d :: w ++ ' ' :: h :: behind).head? ≠ some '\x27' := by simp [quote]
      rw [value_bare (by rwa [start]), start] at read
      have scanned := (Prod.mk.inj (Option.some.inj read)).1
      cases front with
      | nil => exact ⟨List.cons_ne_nil _ _, word_of_scan inert scanned, by simp [quote]⟩
      | cons e front =>
        exact absurd scanned (scan_ne_append inert.not_blank inert.not_escape
          (List.cons_ne_nil _ _) absent _ behind)

theorem Ends.append {back : List Char} (inner : Ends b back) (outer : Ends b tail) :
    Ends b (back ++ tail) := by
  cases back with
  | nil => exact outer
  | cons c back => exact inner

theorem ends_dropWhile (cs : List Char) : Ends b (cs.dropWhile (!b.isBlank ·)) := by
  intro c first
  have stopped := List.head?_dropWhile_not (!b.isBlank ·) cs
  rw [first] at stopped
  simpa using stopped

/-- What is read of a text without quotes and escapes is a word of it, with nothing but blanks
before it, unless all of the text is blank. -/
theorem value_unmarked {cs rest : List Char} (quote : '\x27' ∉ cs) (escape : '\\' ∉ cs)
    (ends : Ends b tail) (read : value b (cs ++ tail) = some (v, rest)) :
    value b tail = some (v, rest) ∨ ∃ front back, (∀ c ∈ front, b.isBlank c = true) ∧
      cs = front ++ (v ++ back) ∧ rest = back ++ tail := by
  obtain ⟨front, seen, blanks, visible, rfl⟩ := exists_skipped b cs
  rw [List.append_assoc, value_append_of_blank blanks] at read
  cases seen with
  | nil => exact .inl read
  | cons c w =>
    have first : b.isBlank c = false := visible c rfl
    have word : (c :: w).takeWhile (!b.isBlank ·) = c :: w.takeWhile (!b.isBlank ·) :=
      List.takeWhile_cons_of_pos (by simp [first])
    have plain : Plain b ((c :: w).takeWhile (!b.isBlank ·)) := by
      refine ⟨by simp [word], fun d member => ⟨?_, ?_⟩, ?_⟩
      · simpa using List.mem_takeWhile_imp member
      · rintro rfl
        exact escape (List.mem_append_right _ (List.takeWhile_subset _ member))
      · rw [word, List.head?_cons, Option.some_inj.ne]
        rintro rfl
        exact quote (List.mem_append_right _ List.mem_cons_self)
    have split : c :: w = (c :: w).takeWhile (!b.isBlank ·) ++ (c :: w).dropWhile (!b.isBlank ·) :=
      List.takeWhile_append_dropWhile.symm
    rw [split, List.append_assoc, value_plain plain ((ends_dropWhile _).append ends)] at read
    obtain ⟨rfl, rfl⟩ := Prod.mk.inj (Option.some.inj read)
    exact .inr ⟨front, _, blanks, by rw [← split], rfl⟩

/-! ## Lists of settings -/

theorem pairs_blank {cs : List Char} (blank : ∀ c ∈ cs, b.isBlank c = true) :
    pairs b cs = some [] := by
  rw [pairs]
  split
  · rfl
  · rename_i start
    rw [List.dropWhile_eq_nil_iff.mpr blank] at start
    cases start

theorem pairs_cons {cs text : List Char} (start : cs.dropWhile b.isBlank = c :: text) :
    pairs b cs = (pair b (c :: text)).bind fun r => (pairs b r.2).map (r.1 :: ·) := by
  rw [pairs]
  split
  · rename_i blank
    rw [blank] at start
    cases start
  · rename_i same
    rw [same] at start
    cases start
    split
    · rename_i none
      rw [none]
      rfl
    · rename_i some
      rw [some]
      rfl

theorem pairs_append_of_blank {cs : List Char} (blank : ∀ c ∈ front, b.isBlank c = true) :
    pairs b (front ++ cs) = pairs b cs := by
  have same : (front ++ cs).dropWhile b.isBlank = cs.dropWhile b.isBlank :=
    List.dropWhile_append_of_pos blank
  cases start : cs.dropWhile b.isBlank with
  | nil =>
    rw [pairs_blank (List.dropWhile_eq_nil_iff.mp start),
      pairs_blank (List.dropWhile_eq_nil_iff.mp (same.trans start))]
  | cons c text => rw [pairs_cons start, pairs_cons (same.trans start)]

theorem pairs_space (cs : List Char) : pairs b (' ' :: cs) = pairs b cs := by
  rw [← List.singleton_append, pairs_append_of_blank (by simp [b.space])]

/-- A word that is read as it stands before a sign of equality and cannot hide in the value of
the setting before it. -/
structure Name (b : Blanks) (k : List Char) : Prop where
  ne_nil : k ≠ []
  inert : ∀ c ∈ k, Inert b c
  not_equals : '=' ∉ k

theorem Name.isName {k : List Char} (name : Name b k) : ∀ c ∈ k, b.isName c = true := by
  intro c member
  have other : c ≠ '=' := by
    rintro rfl
    exact name.not_equals member
  simp [Blanks.isName, (name.inert c member).not_blank, other]

/-- What can be seen in ASCII is no blank in any reading. -/
theorem not_blank (above : 0x20 < c.toNat) (below : c.toNat < 0x85) : b.isBlank c = false := by
  cases blank : b.isBlank c with
  | false => rfl
  | true => exact (b.isBlank_of blank).symm.trans (Text.not_isBlank above below)

/-- What stands in ASCII behind the quote is inert, apart from the backslash. -/
theorem inert_of_ascii (above : 0x27 < c.toNat) (below : c.toNat < 0x85) (other : c ≠ '\\') :
    Inert b c where
  not_blank := not_blank (Nat.lt_trans (by decide) above) below
  not_escape := other
  not_quote := by
    rintro rfl
    exact absurd above (by decide)

theorem inert_of_isLower (lower : c.isLower = true) : Inert b c := by
  obtain ⟨first, last⟩ := Bool.and_eq_true_iff.mp lower
  have from_a : 'a'.toNat ≤ c.toNat := of_decide_eq_true first
  have to_z : c.toNat ≤ 'z'.toNat := of_decide_eq_true last
  refine inert_of_ascii (Nat.lt_of_lt_of_le (by decide) from_a)
    (Nat.lt_of_le_of_lt to_z (by decide)) ?_
  rintro rfl
  exact absurd from_a (by decide)

theorem inert_of_isDigit (digit : c.isDigit = true) : Inert b c := by
  obtain ⟨first, last⟩ := Bool.and_eq_true_iff.mp digit
  have from_zero : '0'.toNat ≤ c.toNat := of_decide_eq_true first
  have to_nine : c.toNat ≤ '9'.toNat := of_decide_eq_true last
  refine inert_of_ascii (Nat.lt_of_lt_of_le (by decide) from_zero)
    (Nat.lt_of_le_of_lt to_nine (by decide)) ?_
  rintro rfl
  exact absurd to_nine (by decide)

theorem name_of_letters {k : List Char} (ne_nil : k ≠ [])
    (letters : (k.all fun c => c.isLower || c == '_') = true) : Name b k where
  ne_nil := ne_nil
  inert c member := by
    have letter := List.all_eq_true.mp letters c member
    rw [Bool.or_eq_true, beq_iff_eq] at letter
    rcases letter with lower | rfl
    · exact inert_of_isLower lower
    · exact inert_of_ascii (by decide) (by decide) (by decide)
  not_equals member := absurd (List.all_eq_true.mp letters '=' member) (by decide)

theorem plain_of_inert (ne_nil : v ≠ []) (inert : ∀ c ∈ v, Inert b c) : Plain b v where
  ne_nil := ne_nil
  word c member := ⟨(inert c member).not_blank, (inert c member).not_escape⟩
  unquoted first := (inert _ (List.mem_of_mem_head? first)).not_quote rfl

/-- A setting is a word itself, behind blanks that belong to the setting before it. -/
theorem Name.plain_setting {k : List Char} (name : Name b k) (plain : Plain b v) :
    Plain b (k ++ '=' :: v) where
  ne_nil := by simp
  word := by
    intro c member
    rcases List.mem_append.mp member with letter | rest
    · exact ⟨(name.inert c letter).not_blank, (name.inert c letter).not_escape⟩
    · rcases List.mem_cons.mp rest with rfl | inside
      · exact ⟨not_blank (by decide) (by decide), by decide⟩
      · exact plain.word c inside
  unquoted := by
    obtain ⟨c, w, rfl⟩ := List.exists_cons_of_ne_nil name.ne_nil
    simpa using (name.inert c List.mem_cons_self).not_quote

theorem pair_keyword {k : List Char} (name : Name b k) (cs : List Char) :
    pair b (k ++ '=' :: cs) =
      (value b cs).map fun r => ((String.ofList k, String.ofList r.1), r.2) := by
  have stops : ¬ b.isName '=' = true := by simp [Blanks.isName]
  have visible : ¬ b.isBlank '=' = true := by
    rw [not_blank (by decide) (by decide)]
    exact Bool.false_ne_true
  rw [pair, List.dropWhile_append_of_pos name.isName, List.dropWhile_cons_of_neg stops,
    List.dropWhile_cons_of_neg visible, List.takeWhile_append_of_pos name.isName,
    List.takeWhile_cons_of_neg stops, List.append_nil]
  rfl

theorem pairs_keyword {k : List Char} (name : Name b k) (cs : List Char) :
    pairs b (k ++ '=' :: cs) = (value b cs).bind fun r =>
      (pairs b r.2).map ((String.ofList k, String.ofList r.1) :: ·) := by
  obtain ⟨c, w, rfl⟩ := List.exists_cons_of_ne_nil name.ne_nil
  have visible : ¬ b.isBlank c = true := by simp [(name.inert c List.mem_cons_self).not_blank]
  rw [List.cons_append, pairs_cons (List.dropWhile_cons_of_neg visible), ← List.cons_append,
    pair_keyword name, Option.bind_map]
  rfl

theorem name_of_pairs {cs : List Char} {ps : List (String × String)}
    (visible : b.isBlank c = false) (read : pairs b (c :: cs) = some ps) :
    ∃ v ps', ps = (String.ofList ((c :: cs).takeWhile b.isName), v) :: ps' := by
  rw [pairs_cons (List.dropWhile_cons_of_neg (by simp [visible]))] at read
  obtain ⟨⟨p, rest⟩, first, others⟩ := Option.bind_eq_some_iff.mp read
  obtain ⟨ps', -, rfl⟩ := Option.map_eq_some_iff.mp others
  rw [pair] at first
  split at first
  · obtain ⟨r, -, same⟩ := Option.map_eq_some_iff.mp first
    exact ⟨String.ofList r.1, ps', by rw [← (Prod.mk.inj same).1]⟩
  · cases first

/-- A keyword does not reach into what stands behind a blank. -/
theorem mem_of_mem_takeWhile {cs : List Char} (ends : Ends b tail)
    (member : c ∈ (cs ++ tail).takeWhile b.isName) : c ∈ cs := by
  have stops : tail.takeWhile b.isName = [] := by
    cases tail with
    | nil => rfl
    | cons d tail => exact List.takeWhile_cons_of_neg (by simp [Blanks.isName, ends d rfl])
  rw [List.takeWhile_append, stops, List.append_nil] at member
  split at member
  · exact member
  · exact List.takeWhile_subset _ member

/-- The last setting of a text. -/
theorem pairs_last {k v : String} (name : Name b k.toList) (plain : Plain b v.toList) :
    pairs b (k.toList ++ '=' :: v.toList) = some [(k, v)] := by
  rw [pairs_keyword name, value_last plain, Option.bind_some, pairs_blank (by simp),
    String.ofList_toList, String.ofList_toList]
  rfl

/-- A setting is read as it is written exactly if its value is a plain word. -/
theorem pairs_setting {k v : String} {ps : List (String × String)} (name : Name b k.toList)
    (inert : Inert b h) :
    pairs b (k.toList ++ '=' :: (v.toList ++ ' ' :: h :: behind)) = some ((k, v) :: ps) ↔
      Plain b v.toList ∧ pairs b (h :: behind) = some ps := by
  rw [pairs_keyword name, String.ofList_toList]
  have ends : Ends b (' ' :: h :: behind) := by
    rintro c ⟨⟩
    exact b.space
  constructor
  · intro read
    obtain ⟨⟨v', rest⟩, reads, others⟩ := Option.bind_eq_some_iff.mp read
    obtain ⟨ps', behind', same⟩ := Option.map_eq_some_iff.mp others
    obtain ⟨first, rfl⟩ := List.cons.inj same
    obtain rfl : v' = v.toList := by rw [← (Prod.mk.inj first).2, String.toList_ofList]
    have plain := plain_of_value inert reads
    rw [value_plain plain ends] at reads
    obtain rfl := (Prod.mk.inj (Option.some.inj reads)).2
    exact ⟨plain, (pairs_space _).symm.trans behind'⟩
  · rintro ⟨plain, others⟩
    rw [value_plain plain ends, Option.bind_some, pairs_space, others, String.ofList_toList]
    rfl

/-- Settings with their values as they are, each with a space behind it. -/
def written (settings : List (String × String)) : List Char :=
  settings.flatMap fun s => s.1.toList ++ '=' :: (s.2.toList ++ [' '])

/-- What follows a setting begins with a letter of a keyword. -/
theorem written_cons_inert {k : List Char} (name : Name b k) {settings : List (String × String)}
    (names : ∀ s ∈ settings, Name b s.1.toList) (cs : List Char) :
    ∃ h behind, written settings ++ (k ++ '=' :: cs) = h :: behind ∧ Inert b h := by
  cases settings with
  | nil =>
    obtain ⟨h, w, rfl⟩ := List.exists_cons_of_ne_nil name.ne_nil
    exact ⟨h, _, rfl, name.inert h List.mem_cons_self⟩
  | cons s settings =>
    have name := names s List.mem_cons_self
    obtain ⟨h, w, first⟩ := List.exists_cons_of_ne_nil name.ne_nil
    refine ⟨h, _, by rw [written, List.flatMap_cons, first]; rfl, ?_⟩
    exact name.inert h (first ▸ List.mem_cons_self)

/-- Settings are read as they are written exactly if all of their values are plain words. -/
theorem pairs_written {k cs : List Char} {ps : List (String × String)} (name : Name b k) :
    ∀ {settings : List (String × String)}, (∀ s ∈ settings, Name b s.1.toList) →
      (pairs b (written settings ++ (k ++ '=' :: cs)) = some (settings ++ ps) ↔
        (∀ s ∈ settings, Plain b s.2.toList) ∧ pairs b (k ++ '=' :: cs) = some ps)
  | [], _ => by simp [written]
  | (k', v) :: settings, names => by
    obtain ⟨first, names⟩ := List.forall_mem_cons.mp names
    obtain ⟨h, behind, next, inert⟩ := written_cons_inert name names cs
    have text : written ((k', v) :: settings) ++ (k ++ '=' :: cs) =
        k'.toList ++ '=' :: (v.toList ++ ' ' :: h :: behind) := by
      rw [← next]
      simp [written]
    rw [text, List.cons_append, pairs_setting first inert, ← next, pairs_written name names,
      List.forall_mem_cons, and_assoc]

end

/-- White space of ASCII. -/
def isAsciiBlank (c : Char) : Bool := c.toNat == 0x20 || (0x09 ≤ c.toNat && c.toNat ≤ 0x0D)

theorem isBlank_of_isAsciiBlank {c : Char} (blank : isAsciiBlank c = true) :
    Text.isBlank c = true := by
  simp only [isAsciiBlank, Bool.or_eq_true, Bool.and_eq_true, beq_iff_eq, decide_eq_true_eq]
    at blank
  rw [Text.isBlank, List.any_eq_true]
  rcases blank with space | control
  · exact ⟨(0x20, 0x20), by decide, by simp [space]⟩
  · exact ⟨(0x09, 0x0D), by decide, by simp [control]⟩

def ascii : Blanks where
  isBlank := isAsciiBlank
  space := rfl
  isBlank_of := isBlank_of_isAsciiBlank

example : pairs ascii "host=a  user = 'b c' dbname=d\\ e".toList =
    some [("host", "a"), ("user", "b c"), ("dbname", "d e")] := by
  cbv

end EntityStore.Keyword
