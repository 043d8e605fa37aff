import EntityStore.Proofs.Json.Number

/-!
# What a reader yields

The documents that are read are tidy: their integers fit 64 bits, the members of their objects
stand in the order of the names, each name once, and they are not nested too deeply.
-/

namespace EntityStore.Json

/-! ## Members -/

theorem mem_insertMember {name : String} {value : Json} {ms : List (String × Json)}
    {m : String × Json} (h : m ∈ insertMember name value ms) : m = (name, value) ∨ m ∈ ms := by
  induction ms with
  | nil => exact .inl (List.mem_singleton.mp h)
  | cons n ms ih =>
    rw [insertMember] at h
    split at h
    · exact List.mem_cons.mp h
    · split at h
      · exact (List.mem_cons.mp h).imp_right (List.mem_cons_of_mem n)
      · obtain rfl | h := List.mem_cons.mp h
        · exact .inr List.mem_cons_self
        · exact (ih h).imp_right (List.mem_cons_of_mem n)

/-- Whether the members stand in the order of their names, each name once. -/
def Ordered (ms : List (String × Json)) : Prop := ms.Pairwise fun m n => m.1 < n.1

theorem ordered_insertMember {ms : List (String × Json)} (h : Ordered ms) (name : String)
    (value : Json) : Ordered (insertMember name value ms) := by
  induction ms with
  | nil => exact List.pairwise_singleton _ _
  | cons n ms ih =>
    obtain ⟨first, rest⟩ := List.pairwise_cons.mp h
    rw [insertMember]
    split
    · rename_i before
      refine List.pairwise_cons.mpr ⟨fun m mem => ?_, h⟩
      obtain rfl | mem := List.mem_cons.mp mem
      · exact before
      · exact String.lt_trans before (first m mem)
    · rename_i notBefore
      split
      · rename_i same
        subst same
        exact List.pairwise_cons.mpr ⟨first, rest⟩
      · rename_i other
        have after : n.1 < name :=
          Std.lt_of_le_of_ne (String.not_lt.mp notBefore) fun same => other same.symm
        refine List.pairwise_cons.mpr ⟨fun m mem => ?_, ih rest⟩
        obtain rfl | mem := mem_insertMember mem
        · exact after
        · exact first m mem

theorem insertMember_of_last {name : String} (value : Json) {ms : List (String × Json)}
    (last : ∀ m ∈ ms, m.1 < name) : insertMember name value ms = ms ++ [(name, value)] := by
  induction ms with
  | nil => rfl
  | cons n ms ih =>
    have before : n.1 < name := last n List.mem_cons_self
    have other : name ≠ n.1 := fun same => String.lt_irrefl name (same ▸ before)
    rw [insertMember, if_neg (String.lt_asymm before), if_neg other,
      ih fun m mem => last m (List.mem_cons_of_mem n mem), List.cons_append]

/-! ## What is read -/

/-- A document in which at most `depth - 1` arrays and objects are nested. -/
inductive Tidy : Nat → Json → Prop
  | null (depth : Nat) : Tidy depth .null
  | bool (depth : Nat) (b : Bool) : Tidy depth (.bool b)
  | number (depth : Nat) {j : Json} (h : IsNumber j) : Tidy depth j
  | string (depth : Nat) (s : String) : Tidy depth (.string s)
  | array {depth : Nat} (room : 1 < depth) {items : List Json}
      (h : ∀ j ∈ items, Tidy (depth - 1) j) : Tidy depth (.array items)
  | object {depth : Nat} (room : 1 < depth) {members : List (String × Json)}
      (ordered : Ordered members) (h : ∀ m ∈ members, Tidy (depth - 1) m.2) :
      Tidy depth (.object members)

/-- One step of reading items: an item, and then a comma or the end. -/
theorem exists_of_readItems {fuel depth : Nat} {acc : List Json} {cs r : List Char} {j : Json}
    (read : readItems (fuel + 1) depth acc cs = some (j, r)) :
    ∃ item left, readValue fuel depth cs = some (item, left) ∧
      ((∃ more, skipBlanks left = ',' :: more ∧
          readItems fuel depth (item :: acc) more = some (j, r)) ∨
        skipBlanks left = ']' :: r ∧ j = .array (item :: acc).reverse) := by
  rw [readItems] at read
  obtain ⟨⟨item, left⟩, value, read⟩ := Option.bind_eq_some_iff.mp read
  refine ⟨item, left, value, ?_⟩
  simp only at read
  split at read
  · rename_i more comma
    exact .inl ⟨more, comma, read⟩
  · rename_i rest closing
    cases read
    exact .inr ⟨closing, rfl⟩
  · contradiction

/-- One step of reading members: a name, a value, and then a comma or the end. -/
theorem exists_of_readMembers {fuel depth : Nat} {acc : List (String × Json)} {cs r : List Char}
    {j : Json} (read : readMembers (fuel + 1) depth acc cs = some (j, r)) :
    ∃ name item text left, readValue fuel depth text = some (item, left) ∧
      ((∃ more, readMembers fuel depth (insertMember name item acc) more = some (j, r)) ∨
        j = .object (insertMember name item acc)) := by
  rw [readMembers] at read
  split at read
  · obtain ⟨⟨name, colon⟩, -, read⟩ := Option.bind_eq_some_iff.mp read
    simp only at read
    split at read
    · rename_i text _
      obtain ⟨⟨item, left⟩, value, read⟩ := Option.bind_eq_some_iff.mp read
      refine ⟨name, item, text, left, value, ?_⟩
      simp only at read
      split at read
      · exact .inl ⟨_, read⟩
      · cases read
        exact .inr rfl
      · contradiction
    · contradiction
  · contradiction

theorem eq_of_expect {word cs r : List Char} {i j : Json}
    (read : expect word i cs = some (j, r)) : i = j := by
  obtain ⟨left, -, ⟨⟩⟩ := Option.map_eq_some_iff.mp read
  rfl

/-- The three readers call each other with less fuel each time. -/
theorem tidy_of_read (fuel : Nat) :
    (∀ {depth cs j r}, readValue fuel depth cs = some (j, r) → Tidy depth j) ∧
      (∀ {depth acc cs j r}, (∀ i ∈ acc, Tidy depth i) →
        readItems fuel depth acc cs = some (j, r) →
        ∃ items, j = .array items ∧ ∀ i ∈ items, Tidy depth i) ∧
      ∀ {depth acc cs j r}, Ordered acc → (∀ m ∈ acc, Tidy depth m.2) →
        readMembers fuel depth acc cs = some (j, r) →
        ∃ members, j = .object members ∧ Ordered members ∧ ∀ m ∈ members, Tidy depth m.2 := by
  induction fuel with
  | zero =>
    refine ⟨fun read => ?_, fun _ read => ?_, fun _ _ read => ?_⟩ <;> contradiction
  | succ fuel ih =>
    obtain ⟨values, items, members⟩ := ih
    refine ⟨?value, ?items, ?members⟩
    case value =>
      intro depth cs j r read
      rw [readValue] at read
      split at read
      · exact eq_of_expect read ▸ .null depth
      · exact eq_of_expect read ▸ .bool depth true
      · exact eq_of_expect read ▸ .bool depth false
      · obtain ⟨⟨s, left⟩, -, ⟨⟩⟩ := Option.map_eq_some_iff.mp read
        exact .string depth s
      · exact .number depth (isNumber_of_readNumber read)
      · split at read
        · contradiction
        · rename_i room
          split at read
          · cases read
            exact .array (by omega) (List.forall_mem_nil _)
          · obtain ⟨js, rfl, h⟩ := items (List.forall_mem_nil _) read
            exact .array (by omega) h
      · split at read
        · contradiction
        · rename_i room
          split at read
          · cases read
            exact .object (by omega) .nil (List.forall_mem_nil _)
          · obtain ⟨ms, rfl, ordered, h⟩ := members .nil (List.forall_mem_nil _) read
            exact .object (by omega) ordered h
      · exact .number depth (isNumber_of_readNumber read)
    case items =>
      intro depth acc cs j r before read
      obtain ⟨item, left, value, more⟩ := exists_of_readItems read
      have after : ∀ i ∈ item :: acc, Tidy depth i :=
        List.forall_mem_cons.mpr ⟨values value, before⟩
      obtain ⟨more, -, read⟩ | ⟨-, rfl⟩ := more
      · exact items after read
      · exact ⟨_, rfl, fun i mem => after i (List.mem_reverse.mp mem)⟩
    case members =>
      intro depth acc cs j r ordered before read
      obtain ⟨name, item, text, left, value, more⟩ := exists_of_readMembers read
      have after : ∀ m ∈ insertMember name item acc, Tidy depth m.2 := by
        intro m mem
        obtain rfl | mem := mem_insertMember mem
        · exact values value
        · exact before m mem
      obtain ⟨more, read⟩ | rfl := more
      · exact members (ordered_insertMember ordered name item) after read
      · exact ⟨_, rfl, ordered_insertMember ordered name item, after⟩

theorem tidy_of_read? {s : String} {j : Json} (read : read? s = some j) : Tidy maxDepth j := by
  rw [read?] at read
  split at read
  · rename_i value
    split at read
    · cases read
      exact (tidy_of_read _).1 value
    · contradiction
  · contradiction

end EntityStore.Json
