import EntityStore.Proofs.Memory.Select
import EntityStore.Proofs.Uuid
import EntityStore.Proofs.Value
import Mathlib.Data.List.Basic
import Mathlib.Data.List.Nodup

/-!
# Order of rows

Rows are put in order by terms, of which the first one that tells two rows apart decides. Where
each column holds values of one family beside null, comparing is a total preorder: of the rows there
is then exactly one list in that order in which rows that tie stand as they stood before, and
sorting yields it.
-/

namespace EntityStore

/-! ## Values -/

/-- The families of values that a column may hold, beside null, for rows to be ordered by it. -/
inductive Value.Family where
  | bool
  | int
  | bytes
  | timestamp
  /-- Texts and identifiers, which are compared by their texts. -/
  | text

/-- The value is null or one of the family. -/
inductive Value.Family.Holds : Value.Family → Value → Prop where
  | null {family : Family} : Holds family .null
  | bool (b : Bool) : Holds .bool (.bool b)
  | int (i : Int64) : Holds .int (.int i)
  | bytes (b : List UInt8) : Holds .bytes (.bytes b)
  | timestamp (t : Timestamp) : Holds .timestamp (.timestamp t)
  | text (s : String) : Holds .text (.text s)
  | uuid (u : Uuid) : Holds .text (.uuid u)

instance : Std.TransOrd Timestamp :=
  inferInstanceAs
    (Std.TransCmp (compareLex (compareOn Timestamp.seconds) (compareOn Timestamp.nanos)))

namespace Value.Family

/-- What values of a family are ordered by. -/
def Rank : Family → Type
  | .bool => Bool
  | .int => Int64
  | .bytes => List UInt8
  | .timestamp => Timestamp
  | .text => String

instance (family : Family) : Ord family.Rank :=
  match family with
  | .bool => inferInstanceAs (Ord Bool)
  | .int => inferInstanceAs (Ord Int64)
  | .bytes => inferInstanceAs (Ord (List UInt8))
  | .timestamp => inferInstanceAs (Ord Timestamp)
  | .text => inferInstanceAs (Ord String)

instance (family : Family) : Std.TransOrd family.Rank :=
  match family with
  | .bool => inferInstanceAs (Std.TransOrd Bool)
  | .int => inferInstanceAs (Std.TransOrd Int64)
  | .bytes => inferInstanceAs (Std.TransOrd (List UInt8))
  | .timestamp => inferInstanceAs (Std.TransOrd Timestamp)
  | .text => inferInstanceAs (Std.TransOrd String)

/-- The rank of a value in its family, of no meaning for other values. -/
def rank : (family : Family) → Value → family.Rank
  | .bool, .bool b => b
  | .bool, _ => false
  | .int, .int i => i
  | .int, _ => (0 : Int64)
  | .bytes, .bytes b => b
  | .bytes, _ => ([] : List UInt8)
  | .timestamp, .timestamp t => t
  | .timestamp, _ => Timestamp.epoch
  | .text, .text s => s
  | .text, .uuid u => u.text
  | .text, _ => ""

end Value.Family

/-- One instant comes before another. -/
def Timestamp.Earlier (s t : Timestamp) : Prop :=
  s.seconds < t.seconds ∨ s.seconds = t.seconds ∧ s.nanos < t.nanos

/-- The text by which a text or an identifier is compared. -/
def Value.text? : Value → Option String
  | .text s => some s
  | .uuid u => some u.text
  | _ => none

/-- Ascending order of values, in which null comes last. -/
inductive Value.Below : Value → Value → Prop where
  | null {v : Value} (present : v.isNull = false) : Below v .null
  | bool : Below (.bool false) (.bool true)
  | int {i j : Int64} (less : i < j) : Below (.int i) (.int j)
  | bytes {a b : List UInt8} (less : a < b) : Below (.bytes a) (.bytes b)
  | timestamp {s t : Timestamp} (less : s.Earlier t) : Below (.timestamp s) (.timestamp t)
  | text {v w : Value} {s t : String} (left : v.text? = some s) (right : w.text? = some t)
      (less : s < t) : Below v w

namespace Value

theorem not_null_below (w : Value) : ¬ Below .null w := by
  intro below
  cases below with
  | null present => cases present
  | text left => cases left

theorem below_bool {b c : Bool} : (Value.bool b).Below (.bool c) ↔ b = false ∧ c = true := by
  constructor
  · intro below
    cases below with
    | bool => exact ⟨rfl, rfl⟩
    | text left => cases left
  · rintro ⟨rfl, rfl⟩
    exact .bool

theorem below_int {i j : Int64} : (Value.int i).Below (.int j) ↔ i < j := by
  refine ⟨fun below => ?_, .int⟩
  cases below with
  | int less => exact less
  | text left => cases left

theorem below_bytes {a b : List UInt8} : (Value.bytes a).Below (.bytes b) ↔ a < b := by
  refine ⟨fun below => ?_, .bytes⟩
  cases below with
  | bytes less => exact less
  | text left => cases left

theorem below_timestamp {s t : Timestamp} :
    (Value.timestamp s).Below (.timestamp t) ↔ s.Earlier t := by
  refine ⟨fun below => ?_, .timestamp⟩
  cases below with
  | timestamp less => exact less
  | text left => cases left

theorem below_text {v w : Value} {s t : String} (left : v.text? = some s) (right : w.text? = some t) :
    v.Below w ↔ s < t := by
  refine ⟨fun below => ?_, .text left right⟩
  cases below with
  | text left' right' less =>
    cases left.symm.trans left'
    cases right.symm.trans right'
    exact less
  | null => cases right
  | _ => cases left

theorem Below.asymm {v w : Value} (below : v.Below w) : ¬ w.Below v := by
  intro above
  cases below with
  | null present => exact not_null_below v above
  | bool => cases (below_bool.mp above).1
  | int less => exact Int64.lt_asymm less (below_int.mp above)
  | bytes less => exact List.lt_asymm less (below_bytes.mp above)
  | timestamp less =>
    have greater := below_timestamp.mp above
    unfold Timestamp.Earlier at less greater
    omega
  | text left right less => exact String.lt_asymm less ((below_text right left).mp above)

end Value

namespace Memory

/-! ## Comparing values -/

section

variable {family : Value.Family} {v w : Value}

theorem compare_timestamp {s t : Timestamp} : compare s t = .lt ↔ s.Earlier t := by
  change (compare s.seconds t.seconds).then (compare s.nanos t.nanos) = .lt ↔ _
  rw [Ordering.then_eq_lt, Int.compare_eq_lt, Int.compare_eq_eq, Nat.compare_eq_lt]
  rfl

/-- Values of one family are in the order of their ranks, and null is behind them all. -/
theorem compareValues_eq (left : family.Holds v) (right : family.Holds w) :
    compareValues v w =
      (compare v.isNull w.isNull).then (compare (family.rank v) (family.rank w)) := by
  cases left <;> cases right
  case null.null => cases family <;> rfl
  case uuid.uuid u v => exact (Uuid.compare_text u v).symm
  all_goals rfl

theorem compareValues_swap (left : family.Holds v) (right : family.Holds w) :
    (compareValues v w).swap = compareValues w v := by
  rw [compareValues_eq left right, compareValues_eq right left, Ordering.swap_then,
    ← Std.OrientedOrd.eq_swap, ← Std.OrientedOrd.eq_swap]

theorem compareValues_text {s t : String} (left : v.text? = some s) (right : w.text? = some t) :
    compareValues v w = compare s t := by
  cases v with
  | text a =>
    obtain rfl : a = s := Option.some.inj left
    cases w with
    | text b =>
      obtain rfl : b = t := Option.some.inj right
      rfl
    | uuid b =>
      obtain rfl : b.text = t := Option.some.inj right
      rfl
    | _ => cases right
  | uuid a =>
    obtain rfl : a.text = s := Option.some.inj left
    cases w with
    | text b =>
      obtain rfl : b = t := Option.some.inj right
      rfl
    | uuid b =>
      obtain rfl : b.text = t := Option.some.inj right
      exact (Uuid.compare_text a b).symm
    | _ => cases right
  | _ => cases left

theorem compareValues_lt_of_text {s t : String} (left : v.text? = some s)
    (right : w.text? = some t) : compareValues v w = .lt ↔ v.Below w := by
  rw [compareValues_text left right, Text.compare_eq_lt, Value.below_text left right]

theorem compareValues_lt (left : family.Holds v) (right : family.Holds w) :
    compareValues v w = .lt ↔ v.Below w := by
  cases left with
  | null =>
    refine iff_of_false ?_ (Value.not_null_below w)
    cases right <;> nofun
  | bool b =>
    cases right with
    | null => exact iff_of_true rfl (.null rfl)
    | bool c =>
      rw [Value.below_bool]
      cases b <;> cases c <;> decide
  | int i =>
    cases right with
    | null => exact iff_of_true rfl (.null rfl)
    | int j => exact compareOfLessAndEq_eq_lt.trans Value.below_int.symm
  | bytes b =>
    cases right with
    | null => exact iff_of_true rfl (.null rfl)
    | bytes c => exact Value.compare_bytes.trans Value.below_bytes.symm
  | timestamp t =>
    cases right with
    | null => exact iff_of_true rfl (.null rfl)
    | timestamp u => exact compare_timestamp.trans Value.below_timestamp.symm
  | text s =>
    cases right with
    | null => exact iff_of_true rfl (.null rfl)
    | text t => exact compareValues_lt_of_text rfl rfl
    | uuid u => exact compareValues_lt_of_text rfl rfl
  | uuid u =>
    cases right with
    | null => exact iff_of_true rfl (.null rfl)
    | text t => exact compareValues_lt_of_text rfl rfl
    | uuid u => exact compareValues_lt_of_text rfl rfl

end

end Memory

/-! ## Comparing rows -/

namespace Compiled.Order

/-- What a row holds in the column of a term, null if it lacks the column. -/
def value (o : Compiled.Order) (row : Record) : Value :=
  match Memory.columnValue row o.column with
  | .ok v => v
  | .error _ => .null

/-- The term puts one row in front of another. -/
def Below (o : Compiled.Order) (a b : Record) : Prop :=
  match o.direction with
  | .asc => (o.value a).Below (o.value b)
  | .desc => (o.value b).Below (o.value a)

/-- The row has the column of the term. -/
def carriedBy (o : Compiled.Order) (row : Record) : Bool :=
  (Memory.columnValue row o.column).isOk

/-- The rows hold null or values of the family in the column of the term, which all of them or none
of them have. -/
structure Fits (o : Compiled.Order) (family : Value.Family) (rows : List Record) : Prop where
  holds : ∀ row ∈ rows, family.Holds (o.value row)
  alike : ∀ a ∈ rows, ∀ b ∈ rows, o.carriedBy a = o.carriedBy b

variable {o : Compiled.Order} {family : Value.Family} {rows : List Record} {a b : Record}

/-- To two rows that both lack its column a term does what it does to nulls. -/
theorem compareBy_eq (alike : o.carriedBy a = o.carriedBy b) :
    Memory.compareBy o a b =
      match o.direction with
      | .asc => Memory.compareValues (o.value a) (o.value b)
      | .desc => (Memory.compareValues (o.value a) (o.value b)).swap := by
  unfold carriedBy at alike
  unfold Memory.compareBy value
  generalize Memory.columnValue a o.column = left at *
  generalize Memory.columnValue b o.column = right at *
  cases left with
  | error e =>
    cases right with
    | error e' => cases o.direction <;> rfl
    | ok w => cases alike
  | ok v =>
    cases right with
    | error e => cases alike
    | ok w => rfl

theorem compareBy_lt (fits : o.Fits family rows) (left : a ∈ rows) (right : b ∈ rows) :
    Memory.compareBy o a b = .lt ↔ o.Below a b := by
  have inA := fits.holds a left
  have inB := fits.holds b right
  rw [compareBy_eq (fits.alike a left b right), Below]
  cases o.direction with
  | asc => exact Memory.compareValues_lt inA inB
  | desc =>
    rw [Memory.compareValues_swap inA inB]
    exact Memory.compareValues_lt inB inA

theorem Below.asymm (below : o.Below a b) : ¬ o.Below b a := by
  rw [Below] at below ⊢
  cases direction : o.direction with
  | asc =>
    rw [direction] at below
    exact Value.Below.asymm below
  | desc =>
    rw [direction] at below
    exact Value.Below.asymm below

/-- Neither row is in front of the other if the term does not tell them apart. -/
theorem compareBy_tie (fits : o.Fits family rows) (left : a ∈ rows) (right : b ∈ rows) :
    Memory.compareBy o a b = .eq ↔ ¬ o.Below a b ∧ ¬ o.Below b a := by
  have back : Memory.compareBy o b a = (Memory.compareBy o a b).swap := by
    rw [compareBy_eq (fits.alike a left b right), compareBy_eq (fits.alike b right a left),
      ← Memory.compareValues_swap (fits.holds a left) (fits.holds b right)]
    cases o.direction <;> rfl
  rw [← compareBy_lt fits left right, ← compareBy_lt fits right left, back]
  cases Memory.compareBy o a b <;> decide

/-- On rows that a term fits, comparing by it is a total preorder. -/
theorem transCmp_compareBy (fits : o.Fits family rows) :
    Std.TransCmp fun a b : { row // row ∈ rows } => Memory.compareBy o a b := by
  let up : { row // row ∈ rows } → { row // row ∈ rows } → Ordering :=
    compareLex (compareOn fun row => (o.value row).isNull)
      (compareOn fun row => family.rank (o.value row))
  have oriented : Std.TransCmp up := inferInstance
  have ascending (a b : { row // row ∈ rows }) :
      Memory.compareValues (o.value a) (o.value b) = up a b :=
    Memory.compareValues_eq (fits.holds a a.2) (fits.holds b b.2)
  have by_value (a b : { row // row ∈ rows }) :=
    compareBy_eq (fits.alike a.1 a.2 b.1 b.2)
  cases direction : o.direction with
  | asc =>
    suffices same : (fun a b : { row // row ∈ rows } => Memory.compareBy o a b) = up by
      rwa [same]
    funext a b
    rw [by_value, direction, ← ascending]
  | desc =>
    suffices same : (fun a b : { row // row ∈ rows } => Memory.compareBy o a b) =
        fun a b => up b a by
      rw [same]
      exact Std.TransCmp.opposite
    funext a b
    have back : up b a = (up a b).swap := Std.OrientedCmp.eq_swap
    rw [by_value, direction, back, ← ascending]

end Compiled.Order

/-- The first term that tells two rows apart puts one in front of the other. -/
def RowBelow : List Compiled.Order → Record → Record → Prop
  | [], _, _ => False
  | o :: orders, a, b => o.Below a b ∨ ¬ o.Below a b ∧ ¬ o.Below b a ∧ RowBelow orders a b

theorem RowBelow.asymm {orders : List Compiled.Order} {a b : Record}
    (below : RowBelow orders a b) : ¬ RowBelow orders b a := by
  induction orders with
  | nil => exact below.elim
  | cons o orders ih =>
    rintro (above | ⟨-, notAbove, rest⟩)
    · rcases below with below | ⟨-, notAbove, -⟩
      · exact below.asymm above
      · exact notAbove above
    · rcases below with below | ⟨-, -, below⟩
      · exact notAbove below
      · exact ih below rest

namespace Memory

/-! ## Sorting -/

section

variable {orders : List Compiled.Order} {rows : List Record}

/-- Every term fits the rows, each with a family of its own. -/
def Sortable (orders : List Compiled.Order) (rows : List Record) : Prop :=
  ∀ o ∈ orders, ∃ family : Value.Family, o.Fits family rows

theorem compareRows_cons (o : Compiled.Order) (orders : List Compiled.Order) (a b : Record) :
    compareRows (o :: orders) a b = (compareBy o a b).then (compareRows orders a b) := by
  have run (first : Ordering) : orders.foldl (fun r o => r.then (compareBy o a b)) first =
      first.then (orders.foldl (fun r o => r.then (compareBy o a b)) .eq) := by
    induction orders generalizing first with
    | nil => exact Ordering.then_eq.symm
    | cons p orders ih =>
      rw [List.foldl_cons, ih, List.foldl_cons, ih (Ordering.then .eq _), Ordering.then_assoc]
      rfl
  exact run _

theorem compareRows_lt (sortable : Sortable orders rows) {a b : Record} (left : a ∈ rows)
    (right : b ∈ rows) : compareRows orders a b = .lt ↔ RowBelow orders a b := by
  induction orders with
  | nil => exact iff_of_false nofun id
  | cons o orders ih =>
    obtain ⟨⟨family, fits⟩, rest⟩ := List.forall_mem_cons.mp sortable
    rw [compareRows_cons, Ordering.then_eq_lt, Compiled.Order.compareBy_lt fits left right,
      Compiled.Order.compareBy_tie fits left right, ih rest, RowBelow, and_assoc]

/-- On rows that can be compared, comparing is a total preorder. -/
theorem transCmp_compareRows (sortable : Sortable orders rows) :
    Std.TransCmp fun a b : { row // row ∈ rows } => compareRows orders a b := by
  induction orders with
  | nil =>
    exact { eq_swap := rfl, isLE_trans := fun _ _ => rfl }
  | cons o orders ih =>
    obtain ⟨⟨family, fits⟩, rest⟩ := List.forall_mem_cons.mp sortable
    have first := Compiled.Order.transCmp_compareBy fits
    have second := ih rest
    let lex : { row // row ∈ rows } → { row // row ∈ rows } → Ordering :=
      compareLex (fun a b => compareBy o a b) (fun a b => compareRows orders a b)
    suffices same : (fun a b : { row // row ∈ rows } => compareRows (o :: orders) a b) = lex by
      rw [same]
      infer_instance
    funext a b
    exact compareRows_cons o orders a b

/-- Of two rows with their places, one stands in front of the other: by the terms, or by its place
if they tie. -/
def Precedes (orders : List Compiled.Order) (x y : Record × Nat) : Prop :=
  RowBelow orders x.1 y.1 ∨ ¬ RowBelow orders x.1 y.1 ∧ ¬ RowBelow orders y.1 x.1 ∧ x.2 < y.2

theorem Precedes.asymm {x y : Record × Nat} (first : Precedes orders x y) :
    ¬ Precedes orders y x := by
  rintro (above | ⟨-, notBelow, place⟩)
  · rcases first with below | ⟨-, notAbove, -⟩
    · exact below.asymm above
    · exact notAbove above
  · rcases first with below | ⟨-, -, place'⟩
    · exact notBelow below
    · exact Nat.lt_asymm place place'

/-- The rows with their places, in the order of the terms and of the places. -/
structure SortedBy (orders : List Compiled.Order) (rows : List Record)
    (sorted : List (Record × Nat)) : Prop where
  perm : sorted.Perm rows.zipIdx
  ordered : sorted.Pairwise (Precedes orders)

theorem SortedBy.unique {xs ys : List (Record × Nat)} (left : SortedBy orders rows xs)
    (right : SortedBy orders rows ys) : xs = ys :=
  List.Perm.eq_of_pairwise (fun _ _ _ _ first second => absurd second first.asymm)
    left.ordered right.ordered (left.perm.trans right.perm.symm)

/-- The rows that sorting compares as not behind one another. -/
def notBehind (orders : List Compiled.Order) (a b : Record) : Bool := compareRows orders a b != .gt

theorem ordered_eq (orders : List Compiled.Order) (rows : List Record) :
    ordered orders rows = rows.mergeSort (notBehind orders) := by
  unfold ordered
  split
  next empty =>
    rw [List.isEmpty_iff.mp empty]
    exact (List.mergeSort_of_pairwise (List.pairwise_of_forall fun _ _ => rfl)).symm
  next => rfl

theorem notBehind_eq (a b : Record) : notBehind orders a b = (compareRows orders a b).isLE := by
  unfold notBehind
  cases compareRows orders a b <;> rfl

theorem pairwise_notBehind (sortable : Sortable orders rows) :
    (rows.zipIdx.mergeSort (List.zipIdxLE (notBehind orders))).Pairwise fun x y =>
      List.zipIdxLE (notBehind orders) x y = true := by
  let le (a b : { row // row ∈ rows }) : Bool := notBehind orders a b
  have cmp := transCmp_compareRows sortable
  have trans (a b c : { row // row ∈ rows }) (first : le a b = true) (second : le b c = true) :
      le a c = true := by
    simp only [le, notBehind_eq] at *
    exact cmp.isLE_trans first second
  have total (a b : { row // row ∈ rows }) : (le a b || le b a) = true := by
    have back : compareRows orders b a = (compareRows orders a b).swap := cmp.eq_swap
    simp only [le, notBehind_eq, back]
    cases compareRows orders a b <;> rfl
  have tagged : rows.zipIdx = rows.attach.zipIdx.map (Prod.map Subtype.val id) := by
    rw [← List.zipIdx_map, List.attach_map_subtype_val]
  have same : ∀ x ∈ rows.attach.zipIdx, ∀ y ∈ rows.attach.zipIdx, List.zipIdxLE le x y =
      List.zipIdxLE (notBehind orders) (Prod.map Subtype.val id x) (Prod.map Subtype.val id y) :=
    fun _ _ _ _ => rfl
  rw [tagged, ← List.map_mergeSort same, List.pairwise_map]
  exact List.pairwise_mergeSort (List.zipIdxLE_trans trans) (List.zipIdxLE_total total) _

/-- Rows that can be compared have an order, and sorting puts them in it. -/
theorem exists_sortedBy (sortable : Sortable orders rows) :
    ∃ sorted, SortedBy orders rows sorted ∧ sorted.map (·.1) = ordered orders rows := by
  have perm := List.mergeSort_perm rows.zipIdx (List.zipIdxLE (notBehind orders))
  refine ⟨_, ⟨perm, ?_⟩, (List.mergeSort_zipIdx).trans (ordered_eq orders rows).symm⟩
  have apart : (rows.zipIdx.mergeSort (List.zipIdxLE (notBehind orders))).Pairwise
      fun x y => x.2 ≠ y.2 := by
    have places : (rows.zipIdx.map Prod.snd).Nodup := by
      rw [List.zipIdx_map_snd]
      exact List.nodup_range' 1
    exact List.pairwise_map.mp ((perm.map Prod.snd).nodup_iff.mpr places)
  refine ((pairwise_notBehind sortable).and apart).imp_of_mem ?_
  rintro x y inX inY ⟨first, places⟩
  have left : x.1 ∈ rows := List.fst_mem_of_mem_zipIdx (perm.mem_iff.mp inX)
  have right : y.1 ∈ rows := List.fst_mem_of_mem_zipIdx (perm.mem_iff.mp inY)
  have cmp := transCmp_compareRows sortable
  have back : compareRows orders y.1 x.1 = (compareRows orders x.1 y.1).swap :=
    cmp.eq_swap (a := ⟨y.1, right⟩) (b := ⟨x.1, left⟩)
  rw [Precedes, ← compareRows_lt sortable left right, ← compareRows_lt sortable right left,
    back]
  unfold List.zipIdxLE at first
  rw [notBehind, notBehind, back] at first
  cases order : compareRows orders x.1 y.1 with
  | lt => exact .inl rfl
  | eq =>
    rw [order] at first
    exact .inr ⟨nofun, nofun, Nat.lt_of_le_of_ne (of_decide_eq_true first) places⟩
  | gt =>
    rw [order] at first
    cases first

end

end Memory

end EntityStore
