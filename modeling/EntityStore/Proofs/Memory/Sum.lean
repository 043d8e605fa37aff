import EntityStore.Proofs.Memory.Aggregate
import Mathlib

/-!
# Sums of integers

The sum of a column goes through the rows with a total that stops at the ends of the 64-bit range.
What is cut off there is lost, so that the sum is exact where the totals of all leading rows are in
the range. The order of the rows matters if and only if there are integers of both signs and those
of one sign alone leave the range.
-/

namespace EntityStore

/-- The number of an integer. -/
def Value.int? : Value → Option Int
  | .int n => some n.toInt
  | _ => none

/-- The query for the sum of a column over all rows. -/
def Compiled.sumOf (i : Ident) : Compiled :=
  (filtered []).alone (.aggregate "SUM" false (.column i))

namespace Memory

/-! ## Totals that stop -/

/-- The nearest number of the 64-bit range. -/
def clamp (n : Int) : Int := max Int64.minValue.toInt (min Int64.maxValue.toInt n)

/-- The number is in the 64-bit range. -/
def InRange (n : Int) : Prop := Int64.minValue.toInt ≤ n ∧ n ≤ Int64.maxValue.toInt

/-- The total of numbers that stops at the ends of the range after every addition. -/
def stoppingSum (ns : List Int) : Int := ns.foldl (fun total n => clamp (total + n)) 0

/-- What the positive numbers come to. -/
def gains (ns : List Int) : Int := (ns.filter (0 < ·)).sum

/-- What the other numbers come to. -/
def losses (ns : List Int) : Int := (ns.filter fun n => !decide (0 < n)).sum

/-- No two numbers have different signs. -/
def OneSided (ns : List Int) : Prop := (∀ n ∈ ns, 0 ≤ n) ∨ ∀ n ∈ ns, n ≤ 0

section

variable {ns ms : List Int} {a : Int}

theorem clamp_of_inRange (inside : InRange a) : clamp a = a := by
  obtain ⟨low, high⟩ := inside
  rw [clamp, min_eq_right high, max_eq_right low]

theorem inRange_clamp (a : Int) : InRange (clamp a) := by
  have proper : Int64.minValue.toInt ≤ Int64.maxValue.toInt := by decide
  exact ⟨le_max_left _ _, max_le proper (min_le_left _ _)⟩

theorem inRange_toInt (n : Int64) : InRange n.toInt := by
  refine ⟨?_, ?_⟩
  · exact n.le_toInt
  · exact Int.le_sub_one_of_lt n.toInt_lt

theorem toInt_addSaturating (a b : Int64) :
    (addSaturating a b).toInt = clamp (a.toInt + b.toInt) := by
  have proper : Int64.minValue.toInt ≤ Int64.maxValue.toInt := by decide
  unfold addSaturating clamp
  dsimp only
  split
  · omega
  · rename_i low
    split
    · omega
    · rename_i high
      have exact : (Int64.ofInt (a.toInt + b.toInt)).toInt = a.toInt + b.toInt :=
        Int64.toInt_ofInt_of_le (Int.not_lt.mp low) (Int.lt_add_one_of_le (Int.not_lt.mp high))
      omega

theorem foldl_clamp_of_inRange (inside : ∀ k, InRange (a + (ns.take k).sum)) :
    ns.foldl (fun total n => clamp (total + n)) a = a + ns.sum := by
  induction ns generalizing a with
  | nil => simp
  | cons n ns ih =>
    have here : clamp (a + n) = a + n := clamp_of_inRange (by simpa using inside 1)
    have later : ∀ k, InRange (a + n + (ns.take k).sum) := fun k => by
      simpa [Int.add_assoc] using inside (k + 1)
    rw [List.foldl_cons, here, ih later, List.sum_cons, Int.add_assoc]

/-- What is cut off after a number would be cut off after more of the same sign. -/
theorem clamp_clamp_add {n m : Int} (start : InRange a)
    (oneSided : 0 ≤ n ∧ 0 ≤ m ∨ n ≤ 0 ∧ m ≤ 0) :
    clamp (clamp (a + n) + m) = clamp (a + (n + m)) := by
  unfold InRange at start
  unfold clamp
  omega

theorem sum_nonpos (all : ∀ n ∈ ns, n ≤ 0) : ns.sum ≤ 0 := by
  simpa using List.sum_le_card_nsmul ns 0 all

/-- Numbers of one sign can be added all at once. -/
theorem foldl_clamp_of_oneSided (start : InRange a) (oneSided : OneSided ns) :
    ns.foldl (fun total n => clamp (total + n)) a = clamp (a + ns.sum) := by
  induction ns generalizing a with
  | nil => simp [clamp_of_inRange start]
  | cons n ns ih =>
    have rest : OneSided ns :=
      oneSided.imp (fun all => (List.forall_mem_cons.mp all).2)
        (fun all => (List.forall_mem_cons.mp all).2)
    have together : 0 ≤ n ∧ 0 ≤ ns.sum ∨ n ≤ 0 ∧ ns.sum ≤ 0 := by
      rcases oneSided with all | all
      · obtain ⟨first, others⟩ := List.forall_mem_cons.mp all
        exact .inl ⟨first, List.sum_nonneg others⟩
      · obtain ⟨first, others⟩ := List.forall_mem_cons.mp all
        exact .inr ⟨first, sum_nonpos others⟩
    rw [List.foldl_cons, List.sum_cons, ih (inRange_clamp _) rest, clamp_clamp_add start together]

theorem gains_add_losses (ns : List Int) : gains ns + losses ns = ns.sum := by
  rw [gains, losses, ← List.sum_append]
  exact (List.filter_append_perm _ ns).sum_eq

theorem nonneg_of_rising {n : Int} (member : n ∈ ns.filter (0 < ·)) : 0 ≤ n := by
  have positive : 0 < n := by simpa using (List.mem_filter.mp member).2
  exact positive.le

theorem nonpos_of_falling {n : Int} (member : n ∈ ns.filter fun n => !decide (0 < n)) : n ≤ 0 := by
  simpa using (List.mem_filter.mp member).2

theorem gains_nonneg (ns : List Int) : 0 ≤ gains ns :=
  List.sum_nonneg fun _ => nonneg_of_rising

theorem losses_nonpos (ns : List Int) : losses ns ≤ 0 := sum_nonpos fun _ => nonpos_of_falling

theorem gains_append (ns ms : List Int) : gains (ns ++ ms) = gains ns + gains ms := by
  rw [gains, gains, gains, List.filter_append, List.sum_append]

theorem losses_append (ns ms : List Int) : losses (ns ++ ms) = losses ns + losses ms := by
  rw [losses, losses, losses, List.filter_append, List.sum_append]

theorem gains_perm (same : ms.Perm ns) : gains ms = gains ns := (same.filter _).sum_eq

theorem losses_perm (same : ms.Perm ns) : losses ms = losses ns := (same.filter _).sum_eq

/-- Leading numbers come to no more than the positive ones and no less than the others. -/
theorem sum_take_between (ns : List Int) (k : Nat) :
    losses ns ≤ (ns.take k).sum ∧ (ns.take k).sum ≤ gains ns := by
  have more : gains ns = gains (ns.take k) + gains (ns.drop k) := by
    rw [← gains_append, List.take_append_drop]
  have less : losses ns = losses (ns.take k) + losses (ns.drop k) := by
    rw [← losses_append, List.take_append_drop]
  have := gains_add_losses (ns.take k)
  have := gains_nonneg (ns.take k)
  have := gains_nonneg (ns.drop k)
  have := losses_nonpos (ns.take k)
  have := losses_nonpos (ns.drop k)
  omega

/-- The order of numbers does not matter to their total: all have one sign, or neither those of
one sign nor the others leave the range. -/
def Orderless (ns : List Int) : Prop := OneSided ns ∨ InRange (gains ns) ∧ InRange (losses ns)

theorem orderless_perm (same : ms.Perm ns) : Orderless ms ↔ Orderless ns := by
  rw [Orderless, Orderless, gains_perm same, losses_perm same, OneSided, OneSided]
  simp only [same.mem_iff]

theorem inRange_zero : InRange 0 := inRange_toInt 0

theorem stoppingSum_of_orderless (orderless : Orderless ns) : stoppingSum ns = clamp ns.sum := by
  rcases orderless with oneSided | ⟨most, least⟩
  · rw [stoppingSum, foldl_clamp_of_oneSided inRange_zero oneSided, Int.zero_add]
  · have inside (k : Nat) : InRange (0 + (ns.take k).sum) := by
      have between := sum_take_between ns k
      unfold InRange at *
      omega
    have all : InRange ns.sum := by simpa using inside ns.length
    rw [stoppingSum, foldl_clamp_of_inRange inside, Int.zero_add, clamp_of_inRange all]

theorem gains_eq_zero (none : gains ns = 0) : OneSided ns := by
  refine .inr fun n member => ?_
  by_contra positive
  obtain ⟨before, after, rfl⟩ := List.append_of_mem member
  have here : gains (n :: after) = n + gains after := by
    rw [gains, List.filter_cons_of_pos (by simpa using positive), List.sum_cons, gains]
  have := gains_append before (n :: after)
  have := gains_nonneg before
  have := gains_nonneg after
  omega

theorem losses_eq_zero (none : losses ns = 0) : OneSided ns := by
  refine .inl fun n member => ?_
  by_contra negative
  obtain ⟨before, after, rfl⟩ := List.append_of_mem member
  have here : losses (n :: after) = n + losses after := by
    rw [losses, List.filter_cons_of_pos (by simpa using (not_le.mp negative).le), List.sum_cons,
      losses]
  have := losses_append before (n :: after)
  have := losses_nonpos before
  have := losses_nonpos after
  omega

/-- Where adding first what rises comes to the same as adding first what falls, nothing is cut off
in between. -/
theorem sides_of_clamp_eq {rise fall : Int} (up : 0 ≤ rise) (down : fall ≤ 0)
    (same : clamp (clamp rise + fall) = clamp (clamp fall + rise)) :
    rise = 0 ∨ fall = 0 ∨ InRange rise ∧ InRange fall := by
  have least : Int64.minValue.toInt = -2 ^ 63 := rfl
  have most : Int64.maxValue.toInt = 2 ^ 63 - 1 := rfl
  unfold InRange
  unfold clamp at same
  omega

/-- Numbers whose total is the same with the positive ones first and with them last are in no need
of an order. -/
theorem orderless_of_stoppingSum_eq
    (same : stoppingSum (ns.filter (0 < ·) ++ ns.filter fun n => !decide (0 < n)) =
      stoppingSum ((ns.filter fun n => !decide (0 < n)) ++ ns.filter (0 < ·))) : Orderless ns := by
  have rising : OneSided (ns.filter (0 < ·)) := .inl fun _ => nonneg_of_rising
  have falling : OneSided (ns.filter fun n => !decide (0 < n)) := .inr fun _ => nonpos_of_falling
  rw [stoppingSum, stoppingSum, List.foldl_append, List.foldl_append,
    foldl_clamp_of_oneSided inRange_zero rising, foldl_clamp_of_oneSided inRange_zero falling,
    foldl_clamp_of_oneSided (inRange_clamp _) falling,
    foldl_clamp_of_oneSided (inRange_clamp _) rising, Int.zero_add, Int.zero_add] at same
  rcases sides_of_clamp_eq (gains_nonneg ns) (losses_nonpos ns) same with none | none | within
  · exact .inl (gains_eq_zero none)
  · exact .inl (losses_eq_zero none)
  · exact .inr within

end

/-! ## Columns of integers -/

/-- Every row has the column, with an integer or null in it. -/
def HoldsIntegers (column : String) (rows : List Record) : Prop :=
  ∀ row ∈ rows, row.get? column = some .null ∨ ∃ n, row.get? column = some (.int n)

/-- The integers in a column, row by row. -/
def integers (column : String) (rows : List Record) : List Int :=
  rows.filterMap fun row => (row.getD column).int?

section

variable {column : String} {rows rows' : List Record} {vs : List Value} {i : Ident}

theorem toInt_ints_foldl (t : Total) (vs : List Value) :
    (vs.foldl Total.add t).ints.toInt =
      (vs.filterMap Value.int?).foldl (fun total n => clamp (total + n)) t.ints.toInt := by
  induction vs generalizing t with
  | nil => rfl
  | cons v vs ih =>
    rw [List.foldl_cons, ih]
    cases v with
    | int n =>
      have here : (t.add (.int n)).ints.toInt = clamp (t.ints.toInt + n.toInt) :=
        toInt_addSaturating t.ints n
      rw [here]
      rfl
    | _ => rfl

theorem sawFloat_foldl {t : Total} (ints : ∀ v ∈ vs, ∃ n, v = .int n) :
    (vs.foldl Total.add t).sawFloat = t.sawFloat := by
  induction vs generalizing t with
  | nil => rfl
  | cons v vs ih =>
    obtain ⟨⟨n, rfl⟩, rest⟩ := List.forall_mem_cons.mp ints
    rw [List.foldl_cons, ih rest]
    rfl

theorem sum_of_ints (some : vs ≠ []) (ints : ∀ v ∈ vs, ∃ n, v = .int n) :
    ∃ total : Int64, sum vs = .int total ∧ total.toInt = stoppingSum (vs.filterMap Value.int?) := by
  refine ⟨(vs.foldl Total.add ⟨0, 0, false⟩).ints, ?_, toInt_ints_foldl _ vs⟩
  rw [sum, if_neg (by simpa using some)]
  dsimp only
  rw [sawFloat_foldl ints, if_neg Bool.false_ne_true]

theorem argumentValues_of_integers (holds : HoldsIntegers i.name rows) :
    ∃ vs, argumentValues rows (.column i) = .ok vs ∧ (∀ v ∈ vs, ∃ n, v = .int n) ∧
      vs.filterMap Value.int? = integers i.name rows := by
  have values : rows.mapM (fun row => columnValue row (.column i)) =
      .ok (rows.map (·.getD i.name)) := by
    rw [mapM_eq_ok, List.forall₂_map_right_iff, List.forall₂_same]
    intro row member
    have named : (ColumnExpr.column i).asColumn? = some i := rfl
    rw [columnValue, named, Record.getD]
    dsimp only
    rcases holds row member with held | ⟨n, held⟩
    · rw [held]
      rfl
    · rw [held]
      rfl
  refine ⟨(rows.map (·.getD i.name)).filter fun v => !v.isNull, ?_, ?_, ?_⟩
  · rw [argumentValues, values]
    rfl
  · intro v member
    obtain ⟨stored, present⟩ := List.mem_filter.mp member
    obtain ⟨row, inRows, rfl⟩ := List.mem_map.mp stored
    rcases holds row inRows with held | ⟨n, held⟩
    · rw [Record.getD, held] at present
      cases present
    · exact ⟨n, by rw [Record.getD, held]; rfl⟩
  · rw [List.filterMap_filter, List.filterMap_map]
    refine List.filterMap_congr fun row _ => ?_
    change (if (!(row.getD i.name).isNull) = true then (row.getD i.name).int? else none) =
      (row.getD i.name).int?
    cases row.getD i.name <;> rfl

theorem matching_nil (rows : List Record) : matching [] rows = .ok rows := by
  have all : marked [] rows = .ok (rows.map fun row => (row, true)) := by
    rw [marked, mapM_eq_ok, List.forall₂_map_right_iff, List.forall₂_same]
    exact fun row _ => rfl
  rw [matching, all]
  change Except.ok (((rows.map fun row => (row, true)).filter (·.2)).map (·.1)) = _
  rw [List.filter_map, List.map_map]
  exact congrArg Except.ok ((List.map_id _).trans (List.filter_true rows))

theorem runQuery_sumOf (holds : HoldsIntegers i.name rows) (some : integers i.name rows ≠ []) :
    ∃ total : Int64, runQuery (.sumOf i) rows = .ok [⟨[("sum", .int total)]⟩] ∧
      total.toInt = stoppingSum (integers i.name rows) := by
  obtain ⟨vs, argument, ints, numbers⟩ := argumentValues_of_integers holds
  have any : vs ≠ [] := by
    rintro rfl
    exact some numbers.symm
  obtain ⟨total, summed, value⟩ := sum_of_ints any ints
  refine ⟨total, ?_, numbers ▸ value⟩
  have lower : "SUM".toLower = "sum" := by decide +kernel
  have term : aggregateTerm rows (.aggregate "SUM" false (.column i)) =
      .ok ("sum", .int total) := by
    rw [← lower, ← summed, aggregateTerm, argument]
    rfl
  have every : runQuery (Compiled.filtered []).whole rows = .ok rows :=
    (runQuery_filtered [] rows).trans (matching_nil rows)
  rw [Compiled.sumOf, runQuery_alone rfl, every]
  change (aggregateTerm rows _).map _ = _
  rw [term]
  rfl

theorem integers_filter {keep : Record → Bool} {p : Int → Bool}
    (same : ∀ row n, (row.getD column).int? = some n → keep row = p n) :
    integers column (rows.filter keep) = (integers column rows).filter p := by
  rw [integers, integers, List.filterMap_filter, List.filter_filterMap]
  refine List.filterMap_congr fun row _ => ?_
  cases held : (row.getD column).int? with
  | none => simp
  | some n => simp [same row n held, Option.filter]

/-- Rows can be put so that their integers come in two parts, either one first. -/
theorem exists_perm_integers (column : String) (rows : List Record) (p : Int → Bool) :
    ∃ rows' : List Record, rows'.Perm rows ∧ integers column rows' =
      (integers column rows).filter p ++ (integers column rows).filter fun n => !p n := by
  let first (row : Record) : Bool := (row.getD column).int?.any p
  have same (row : Record) (n : Int) (held : (row.getD column).int? = some n) :
      first row = p n := by
    change (row.getD column).int?.any p = p n
    rw [held]
    rfl
  refine ⟨rows.filter first ++ rows.filter fun row => !first row,
    List.filter_append_perm first rows, ?_⟩
  rw [integers, List.filterMap_append]
  change integers column (rows.filter first) ++
    integers column (rows.filter fun row => !first row) = _
  rw [integers_filter same, integers_filter fun row n held => congrArg Bool.not (same row n held)]

theorem integers_perm (column : String) (same : rows'.Perm rows) :
    (integers column rows').Perm (integers column rows) := same.filterMap _

theorem holdsIntegers_perm (same : rows'.Perm rows) (holds : HoldsIntegers column rows) :
    HoldsIntegers column rows' := fun row member => holds row (same.mem_iff.mp member)

end

/-- The sum of a column that holds integers and nulls, any integer among them, is that of a total
that stops at the ends of the 64-bit range. It is the exact sum where the totals of all leading
integers are in the range. It is the same for the rows in every order if and only if the integers
have one sign, or neither the positive ones nor the negative ones come to more than the range
holds: then it is the number of the range that is nearest to the exact sum. -/
theorem sum_of_integers {i : Ident} {rows : List Record} (holds : HoldsIntegers i.name rows)
    (some : integers i.name rows ≠ []) :
    ∃ total : Int64, runQuery (.sumOf i) rows = .ok [⟨[("sum", .int total)]⟩] ∧
      total.toInt = stoppingSum (integers i.name rows) ∧
      ((∀ k, InRange ((integers i.name rows).take k).sum) →
        total.toInt = (integers i.name rows).sum) ∧
      ((∀ rows', rows'.Perm rows →
          runQuery (.sumOf i) rows' = runQuery (.sumOf i) rows) ↔
        Orderless (integers i.name rows)) ∧
      (Orderless (integers i.name rows) → total.toInt = clamp (integers i.name rows).sum) := by
  obtain ⟨total, answered, value⟩ := runQuery_sumOf holds some
  -- Answers are the same where the totals are, in whatever order the rows are.
  have same_iff (rows' : List Record) (perm : rows'.Perm rows) :
      runQuery (.sumOf i) rows' = runQuery (.sumOf i) rows ↔
        stoppingSum (integers i.name rows') = stoppingSum (integers i.name rows) := by
    have some' : integers i.name rows' ≠ [] := fun none =>
      some ((none ▸ integers_perm i.name perm).nil_eq).symm
    obtain ⟨total', answered', value'⟩ := runQuery_sumOf (holdsIntegers_perm perm holds) some'
    rw [answered, answered', ← value, ← value', Int64.toInt_inj]
    simp
  refine ⟨total, answered, value, ?_, ⟨?_, ?_⟩, ?_⟩
  · intro inside
    rw [value, stoppingSum, foldl_clamp_of_inRange (by simpa using inside), Int.zero_add]
  · intro same
    obtain ⟨rising, permRising, risingFirst⟩ := exists_perm_integers i.name rows (0 < ·)
    obtain ⟨falling, permFalling, fallingFirst⟩ :=
      exists_perm_integers i.name rows fun n => !decide (0 < n)
    have first := (same_iff rising permRising).mp (same rising permRising)
    have last := (same_iff falling permFalling).mp (same falling permFalling)
    rw [risingFirst] at first
    simp only [fallingFirst, Bool.not_not] at last
    exact orderless_of_stoppingSum_eq (first.trans last.symm)
  · intro orderless rows' perm
    have numbers := integers_perm i.name perm
    rw [same_iff rows' perm, stoppingSum_of_orderless orderless,
      stoppingSum_of_orderless ((orderless_perm numbers).mpr orderless), numbers.sum_eq]
  · intro orderless
    rw [value, stoppingSum_of_orderless orderless]

/-- Rows of one integer each. -/
def amounts (ns : List Int64) : List Record := ns.map fun n => ⟨[("amount", .int n)]⟩

theorem holdsIntegers_amounts (ns : List Int64) : HoldsIntegers "amount" (amounts ns) := by
  intro row member
  obtain ⟨n, -, rfl⟩ := List.mem_map.mp member
  exact .inr ⟨n, rfl⟩

theorem runQuery_amounts {ns : List Int64} {total : Int64} (some : ns ≠ [])
    (value : stoppingSum (ns.map (·.toInt)) = total.toInt) :
    runQuery (.sumOf ⟨[.plain "amount"]⟩) (amounts ns) = .ok [⟨[("sum", .int total)]⟩] := by
  have numbers : integers "amount" (amounts ns) = ns.map (·.toInt) := by
    rw [integers, amounts, List.filterMap_map]
    exact congrFun (List.filterMap_eq_map' (f := Int64.toInt)) ns
  have any : integers "amount" (amounts ns) ≠ [] := by rwa [numbers, Ne, List.map_eq_nil_iff]
  obtain ⟨total', answered, value'⟩ :=
    runQuery_sumOf (i := ⟨[.plain "amount"]⟩) (holdsIntegers_amounts ns) any
  obtain rfl : total' = total := Int64.toInt_inj.mp (value'.trans (numbers ▸ value))
  exact answered

/-- Integers of both signs that come to little are summed exactly, in every order. -/
theorem small_amounts_summed :
    let rows := ⟨[("amount", .null)]⟩ :: amounts [5, -7]
    HoldsIntegers "amount" rows ∧ integers "amount" rows ≠ [] ∧
      runQuery (.sumOf ⟨[.plain "amount"]⟩) rows = .ok [⟨[("sum", .int (-2))]⟩] ∧
      ∀ rows', rows'.Perm rows → runQuery (.sumOf ⟨[.plain "amount"]⟩) rows' =
        .ok [⟨[("sum", .int (-2))]⟩] := by
  intro rows
  have holds : HoldsIntegers "amount" rows := by
    intro row member
    rcases List.mem_cons.mp member with rfl | member
    · exact .inl rfl
    · exact holdsIntegers_amounts _ row member
  have numbers : integers "amount" rows = [5, -7] := rfl
  have some : integers "amount" rows ≠ [] := by simp [numbers]
  obtain ⟨total, answered, -, -, orderless, clamped⟩ :=
    sum_of_integers (i := ⟨[.plain "amount"]⟩) holds some
  have within : Orderless (integers "amount" rows) := by
    rw [numbers]
    exact .inr ⟨inRange_toInt 5, inRange_toInt (-7)⟩
  obtain rfl : total = -2 := Int64.toInt_inj.mp (clamped within)
  exact ⟨holds, some, answered, fun rows' perm => (orderless.mpr within rows' perm).trans answered⟩

/-- The largest integer, one and minus one come to the largest integer. Their sum is one less, and
exact with the largest integer behind the others. -/
theorem large_amounts_cut :
    let rows := amounts [Int64.maxValue, 1, -1]
    let rows' := amounts [1, -1, Int64.maxValue]
    HoldsIntegers "amount" rows ∧ (integers "amount" rows).sum = Int64.maxValue.toInt ∧
      rows'.Perm rows ∧
      runQuery (.sumOf ⟨[.plain "amount"]⟩) rows =
        .ok [⟨[("sum", .int (Int64.maxValue - 1))]⟩] ∧
      runQuery (.sumOf ⟨[.plain "amount"]⟩) rows' = .ok [⟨[("sum", .int Int64.maxValue)]⟩] := by
  exact ⟨holdsIntegers_amounts _, rfl, List.Perm.map _ (by decide),
    runQuery_amounts (List.cons_ne_nil _ _) rfl, runQuery_amounts (List.cons_ne_nil _ _) rfl⟩

end Memory

end EntityStore
