import EntityStore.Proofs.Text.Hex
import EntityStore.Uuid

/-!
# Identifiers as text and as bytes

Two identifiers that are written alike are the same, and identifiers are in the order of their
texts. An identifier is read back from its bytes.
-/

namespace EntityStore

namespace Uuid

/-- Digits group by group. -/
theorem eq_groups (ds : List Char) : ds = ds.take 8 ++ ((ds.drop 8).take 4 ++
    ((ds.drop 12).take 4 ++ ((ds.drop 16).take 4 ++ ds.drop 20))) := by
  have cut (n : Nat) : (ds.drop n).take 4 ++ ds.drop (n + 4) = ds.drop n := by
    rw [← List.drop_drop, List.take_append_drop]
  rw [cut 16, cut 12, cut 8, List.take_append_drop]

theorem hyphenate_inj {ds es : List Char} (left : ds.length = 32) (right : es.length = 32)
    (h : hyphenate ds = hyphenate es) : ds = es := by
  simp only [hyphenate, List.append_assoc, List.cons_append] at h
  obtain ⟨first, h⟩ := List.append_inj h (by simp [left, right])
  obtain ⟨second, h⟩ := List.append_inj (List.tail_eq_of_cons_eq h) (by simp [left, right])
  obtain ⟨third, h⟩ := List.append_inj (List.tail_eq_of_cons_eq h) (by simp [left, right])
  obtain ⟨fourth, h⟩ := List.append_inj (List.tail_eq_of_cons_eq h) (by simp [left, right])
  have fifth := List.tail_eq_of_cons_eq h
  rw [eq_groups ds, eq_groups es, first, second, third, fourth, fifth]

theorem text_inj {u v : Uuid} (h : u.text = v.text) : u = v := by
  have digits : u.digits = v.digits :=
    hyphenate_inj (Text.length_hexDigits 32 _) (Text.length_hexDigits 32 _) (String.ofList_injective h)
  have below (w : Uuid) : w.bits.toNat < 16 ^ 32 := w.bits.isLt
  have numbers := Text.hexDigits_inj digits
  rw [Nat.mod_eq_of_lt (below u), Nat.mod_eq_of_lt (below v)] at numbers
  exact congrArg Uuid.mk (BitVec.eq_of_toNat_eq numbers)

/-! ## Order -/

/-- Hyphens in the same places do not change the order. -/
theorem hyphenate_lt_iff {ds es : List Char} (left : ds.length = 32) (right : es.length = 32) :
    hyphenate ds < hyphenate es ↔ ds < es := by
  have first : (ds.take 8).length = (es.take 8).length := by simp [left, right]
  have inner (n : Nat) : ((ds.drop n).take 4).length = ((es.drop n).take 4).length := by
    simp [left, right]
  have hyphen (xs ys : List Char) : '-' :: xs < '-' :: ys ↔ xs < ys := by
    rw [List.cons_lt_cons_iff]
    exact ⟨fun h => (h.resolve_left (by decide)).2, fun h => .inr ⟨rfl, h⟩⟩
  simp only [hyphenate, List.append_assoc, List.cons_append]
  have groups : ds < es ↔ ds.take 8 ++ ((ds.drop 8).take 4 ++ ((ds.drop 12).take 4 ++
      ((ds.drop 16).take 4 ++ ds.drop 20))) < es.take 8 ++ ((es.drop 8).take 4 ++
        ((es.drop 12).take 4 ++ ((es.drop 16).take 4 ++ es.drop 20))) := by
    rw [← eq_groups, ← eq_groups]
  rw [groups, Text.append_lt_append first, Text.append_lt_append first, hyphen,
    Text.append_lt_append (inner 8), Text.append_lt_append (inner 8), hyphen,
    Text.append_lt_append (inner 12), Text.append_lt_append (inner 12), hyphen,
    Text.append_lt_append (inner 16), Text.append_lt_append (inner 16), hyphen]

theorem text_lt_iff (u v : Uuid) : u.text < v.text ↔ u.bits.toNat < v.bits.toNat := by
  have below (w : Uuid) : w.bits.toNat < 16 ^ 32 := w.bits.isLt
  rw [String.lt_iff, text, text, String.toList_ofList, String.toList_ofList,
    digits, digits, hyphenate_lt_iff (Text.length_hexDigits 32 _) (Text.length_hexDigits 32 _),
    Text.hexDigits_lt_iff (below u) (below v)]

/-- Identifiers are in the order of their texts. -/
theorem compare_text (u v : Uuid) : compare u.text v.text = compare u v := by
  have before {u v : Uuid} (less : u.bits.toNat < v.bits.toNat) :
      compare u.text v.text = .lt :=
    Text.compare_eq_lt.mpr ((text_lt_iff u v).mpr less)
  change _ = compare u.bits.toNat v.bits.toNat
  rcases Nat.lt_trichotomy u.bits.toNat v.bits.toNat with less | same | greater
  · rw [before less, Nat.compare_eq_lt.mpr less]
  · have bits : u.bits = v.bits := BitVec.eq_of_toNat_eq same
    have texts : u.text = v.text := by rw [text, text, digits, digits, bits]
    exact (Std.compare_eq_iff_eq.mpr texts).trans (Nat.compare_eq_eq.mpr same).symm
  · rw [Std.OrientedCmp.gt_of_lt (before greater), Nat.compare_eq_gt.mpr greater]

/-! ## Bytes -/

/-- The first bytes of a number of 16 bytes are the number without its last ones. -/
theorem foldl_bytes {n : Nat} (small : n < 256 ^ 16) {count : Nat} (h : count ≤ 16) :
    ((List.range count).map fun i => UInt8.ofNat (n / Nat.pow 256 (15 - i))).foldl
      (fun n b => n * 256 + b.toNat) 0 = n / 256 ^ (16 - count) := by
  induction count with
  | zero => exact (Nat.div_eq_of_lt small).symm
  | succ count ih =>
    have last : (UInt8.ofNat (n / Nat.pow 256 (15 - count))).toNat =
        n / 256 ^ (15 - count) % 256 := UInt8.toNat_ofNat'
    have shift : 16 - count = 15 - count + 1 := by omega
    rw [List.range_succ, List.map_append, List.foldl_append, ih (Nat.le_of_succ_le h),
      List.map_singleton, List.foldl_cons, List.foldl_nil, last, shift, Nat.pow_succ,
      ← Nat.div_div_eq_div_mul, Nat.div_add_mod', Nat.add_comm count, Nat.sub_add_eq]

theorem ofBytes_toBytes (u : Uuid) : ofBytes u.toBytes = u := by
  have small : u.bits.toNat < 256 ^ 16 := u.bits.isLt
  rw [ofBytes, toBytes, foldl_bytes small (Nat.le_refl 16), Nat.sub_self, Nat.pow_zero, Nat.div_one,
    BitVec.ofNat_toNat, BitVec.setWidth_eq]

end Uuid

end EntityStore
