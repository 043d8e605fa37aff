import EntityStore.Error
import Mathlib.Data.List.Dedup
import Mathlib.Data.List.Forall2

/-!
# Outcomes that are values

Where steps that can fail come to a value, each of them did. These lemmas take such a
computation apart, step by step.
-/

namespace EntityStore

variable {ε ε' α β γ : Type} {x : Except ε α}

theorem exists_of_map {f : α → β} {b : β} (h : x.map f = .ok b) : ∃ a, x = .ok a ∧ f a = b := by
  cases x with
  | error e => cases h
  | ok a =>
    cases h
    exact ⟨a, rfl, rfl⟩

theorem exists_map_iff {f : α → β} : (∃ b, x.map f = .ok b) ↔ ∃ a, x = .ok a := by
  constructor
  · rintro ⟨b, mapped⟩
    obtain ⟨a, value, -⟩ := exists_of_map mapped
    exact ⟨a, value⟩
  · rintro ⟨a, rfl⟩
    exact ⟨f a, rfl⟩

theorem map_eq_error {f : α → β} {e : ε} : x.map f = .error e ↔ x = .error e := by
  cases x with
  | error e' => exact ⟨fun h => congrArg _ (Except.error.inj h), fun h => congrArg _ (Except.error.inj h)⟩
  | ok a => exact iff_of_false nofun nofun

theorem ok_of_mapError {f : ε → ε'} {a : α} (h : x.mapError f = .ok a) : x = .ok a := by
  cases x with
  | error e => cases h
  | ok b =>
    cases h
    rfl

theorem exists_mapError_iff {f : ε → ε'} : (∃ a, x.mapError f = .ok a) ↔ ∃ a, x = .ok a := by
  constructor
  · rintro ⟨a, mapped⟩
    exact ⟨a, ok_of_mapError mapped⟩
  · rintro ⟨a, rfl⟩
    exact ⟨a, rfl⟩

theorem of_error_eq_ok {p : Prop} {e : ε} {a : α} (h : Except.error e = .ok a) : p := by
  cases h

theorem exists_of_bind {f : α → Except ε β} {b : β} (h : (x >>= f) = .ok b) :
    ∃ a, x = .ok a ∧ f a = .ok b := by
  cases x with
  | error e => cases h
  | ok a => exact ⟨a, rfl, h⟩

/-- Where a computation fails, one of its steps did. -/
theorem error_of_bind {f : α → Except ε β} {e : ε} (h : (x >>= f) = .error e) :
    x = .error e ∨ ∃ a, x = .ok a ∧ f a = .error e := by
  cases x with
  | error e' =>
    cases h
    exact .inl rfl
  | ok a => exact .inr ⟨a, rfl, h⟩

/-- Where all elements of a list come to a value, each value is that of its element. -/
theorem forall₂_of_mapM {f : α → Except ε β} {xs : List α} {ys : List β}
    (h : xs.mapM f = .ok ys) : List.Forall₂ (fun x y => f x = .ok y) xs ys := by
  induction xs generalizing ys with
  | nil =>
    cases h
    exact .nil
  | cons x xs ih =>
    rw [List.mapM_cons] at h
    obtain ⟨y, here, h⟩ := exists_of_bind h
    obtain ⟨rest, mapped, h⟩ := exists_of_bind h
    cases h
    exact .cons here (ih mapped)

/-- The elements of a list come to values as each of them does. -/
theorem mapM_eq_ok {f : α → Except ε β} {xs : List α} {ys : List β} :
    xs.mapM f = .ok ys ↔ List.Forall₂ (fun x y => f x = .ok y) xs ys := by
  refine ⟨forall₂_of_mapM, ?_⟩
  intro each
  induction each with
  | nil => rfl
  | cons here _ ih =>
    rw [List.mapM_cons, here, ih]
    rfl

/-- One list after the other, element by element. -/
theorem forall₂_comp {R : α → β → Prop} {S : β → γ → Prop} {xs : List α} {ys : List β}
    {zs : List γ} (first : List.Forall₂ R xs ys) (second : List.Forall₂ S ys zs) :
    List.Forall₂ (fun x z => ∃ y, R x y ∧ S y z) xs zs := by
  induction first generalizing zs with
  | nil =>
    cases second
    exact .nil
  | cons here _ ih =>
    cases second with
    | cons there rest => exact .cons ⟨_, here, there⟩ (ih rest)

/-- Element by element, and then one list after the other. -/
theorem exists_of_forall₂_comp {R : α → β → Prop} {S : β → γ → Prop} {xs : List α} {zs : List γ}
    (each : List.Forall₂ (fun x z => ∃ y, R x y ∧ S y z) xs zs) :
    ∃ ys, List.Forall₂ R xs ys ∧ List.Forall₂ S ys zs := by
  induction each with
  | nil => exact ⟨[], .nil, .nil⟩
  | cons here _ ih =>
    obtain ⟨y, first, second⟩ := here
    obtain ⟨ys, firsts, seconds⟩ := ih
    exact ⟨y :: ys, .cons first firsts, .cons second seconds⟩

/-- Where all elements of a list come to a value, each of them does. -/
theorem exists_of_mapM {f : α → Except ε β} {xs : List α} {ys : List β}
    (h : xs.mapM f = .ok ys) {x : α} (member : x ∈ xs) : ∃ y, f x = .ok y := by
  have each := forall₂_of_mapM h
  clear h
  induction each with
  | nil => cases member
  | cons here _ ih =>
    rcases List.mem_cons.mp member with rfl | later
    · exact ⟨_, here⟩
    · exact ih later

theorem exists_mapM {f : α → Except ε β} {xs : List α} (each : ∀ x ∈ xs, ∃ y, f x = .ok y) :
    ∃ ys, xs.mapM f = .ok ys := by
  induction xs with
  | nil => exact ⟨[], rfl⟩
  | cons x xs ih =>
    obtain ⟨y, here⟩ := each x List.mem_cons_self
    obtain ⟨ys, rest⟩ := ih fun z member => each z (List.mem_cons_of_mem x member)
    exact ⟨y :: ys, by rw [List.mapM_cons, here, rest]; rfl⟩

theorem exists_mapM_iff {f : α → Except ε β} {xs : List α} :
    (∃ ys, xs.mapM f = .ok ys) ↔ ∀ x ∈ xs, ∃ y, f x = .ok y :=
  ⟨fun ⟨_, mapped⟩ _ member => exists_of_mapM mapped member, exists_mapM⟩

/-- The elements of a list fail as the first of them that does. -/
theorem mapM_eq_error {f : α → Except ε β} {xs : List α} {e : ε} :
    xs.mapM f = .error e ↔ ∃ before x after, xs = before ++ x :: after ∧
      (∀ y ∈ before, ∃ z, f y = .ok z) ∧ f x = .error e := by
  constructor
  · intro failed
    induction xs with
    | nil => cases failed
    | cons x xs ih =>
      rw [List.mapM_cons] at failed
      rcases error_of_bind failed with here | ⟨y, here, failed⟩
      · exact ⟨[], x, xs, rfl, nofun, here⟩
      · rcases error_of_bind failed with later | ⟨_, _, impossible⟩
        · obtain ⟨before, z, after, rfl, accepted, last⟩ := ih later
          exact ⟨x :: before, z, after, rfl, List.forall_mem_cons.mpr ⟨⟨y, here⟩, accepted⟩, last⟩
        · cases impossible
  · rintro ⟨before, x, after, rfl, accepted, last⟩
    obtain ⟨zs, values⟩ := exists_mapM accepted
    rw [List.mapM_append, values, List.mapM_cons, last]
    rfl

theorem mapM_congr {f g : α → Except ε β} {xs : List α} (same : ∀ x ∈ xs, f x = g x) :
    xs.mapM f = xs.mapM g := by
  induction xs with
  | nil => rfl
  | cons x xs ih =>
    rw [List.mapM_cons, List.mapM_cons, same x List.mem_cons_self,
      ih fun y member => same y (List.mem_cons_of_mem x member)]

theorem length_of_mapM {f : α → Except ε β} {xs : List α} {ys : List β}
    (h : xs.mapM f = .ok ys) : ys.length = xs.length := (forall₂_of_mapM h).length_eq.symm

/-! ## Steps in any order -/

section

variable {ι σ : Type} {step : σ → ι → Except ε σ} {is js : List ι} {x y : σ}

theorem foldlM_cons_eq_ok {i : ι} :
    (i :: is).foldlM step x = .ok y ↔ ∃ z, step x i = .ok z ∧ is.foldlM step z = .ok y := by
  rw [List.foldlM_cons]
  refine ⟨exists_of_bind, ?_⟩
  rintro ⟨z, here, rest⟩
  rw [here]
  exact rest

/-- Steps that can be taken in either order can be taken in any. -/
theorem foldlM_of_perm
    (swap : ∀ x y z i j, i ≠ j → step x i = .ok y → step y j = .ok z →
      ∃ y', step x j = .ok y' ∧ step y' i = .ok z)
    (perm : is.Perm js) (done : is.foldlM step x = .ok y) : js.foldlM step x = .ok y := by
  induction perm generalizing x with
  | nil => exact done
  | cons i _ ih =>
    obtain ⟨z, here, rest⟩ := foldlM_cons_eq_ok.mp done
    exact foldlM_cons_eq_ok.mpr ⟨z, here, ih rest⟩
  | swap i j is =>
    obtain ⟨z, first, done⟩ := foldlM_cons_eq_ok.mp done
    obtain ⟨w, second, rest⟩ := foldlM_cons_eq_ok.mp done
    by_cases same : j = i
    · subst same
      exact foldlM_cons_eq_ok.mpr ⟨z, first, foldlM_cons_eq_ok.mpr ⟨w, second, rest⟩⟩
    · obtain ⟨z', first', second'⟩ := swap x z w j i same first second
      exact foldlM_cons_eq_ok.mpr ⟨z', first', foldlM_cons_eq_ok.mpr ⟨w, second', rest⟩⟩
  | trans _ _ first second => exact second (first done)

variable [DecidableEq ι]

/-- Steps that change nothing when they are repeated need to be taken once only. -/
theorem foldlM_dedup
    (again : ∀ x y i, step x i = .ok y → step y i = .ok y)
    (swap : ∀ x y z i j, i ≠ j → step x i = .ok y → step y j = .ok z →
      ∃ y', step x j = .ok y' ∧ step y' i = .ok z) :
    is.foldlM step x = .ok y ↔ is.dedup.foldlM step x = .ok y := by
  induction is generalizing x with
  | nil => rfl
  | cons i is ih =>
    by_cases member : i ∈ is
    · rw [List.dedup_cons_of_mem member, ← ih]
      -- the step is next to its repetition in another order of the rest
      have front : is.Perm (i :: is.erase i) := List.perm_cons_erase member
      constructor
      · intro done
        obtain ⟨z, here, rest⟩ := foldlM_cons_eq_ok.mp (foldlM_of_perm swap (front.cons i) done)
        obtain ⟨w, repeated, rest⟩ := foldlM_cons_eq_ok.mp rest
        rw [again x z i here] at repeated
        cases repeated
        exact foldlM_of_perm swap front.symm (foldlM_cons_eq_ok.mpr ⟨z, here, rest⟩)
      · intro done
        obtain ⟨z, here, rest⟩ := foldlM_cons_eq_ok.mp (foldlM_of_perm swap front done)
        have twice : (i :: i :: is.erase i).foldlM step x = .ok y :=
          foldlM_cons_eq_ok.mpr ⟨z, here, foldlM_cons_eq_ok.mpr ⟨z, again x z i here, rest⟩⟩
        exact foldlM_of_perm swap (front.cons i).symm twice
    · rw [List.dedup_cons_of_notMem member, foldlM_cons_eq_ok, foldlM_cons_eq_ok]
      exact exists_congr fun z => and_congr_right fun _ => ih

/-- What such steps come to depends on which there are, not on their order and repetition. -/
theorem foldlM_eq_ok_congr
    (again : ∀ x y i, step x i = .ok y → step y i = .ok y)
    (swap : ∀ x y z i j, i ≠ j → step x i = .ok y → step y j = .ok z →
      ∃ y', step x j = .ok y' ∧ step y' i = .ok z)
    (same : ∀ i, i ∈ is ↔ i ∈ js) :
    is.foldlM step x = .ok y ↔ js.foldlM step x = .ok y := by
  have perm : is.dedup.Perm js.dedup := by
    rw [List.perm_ext_iff_of_nodup (List.nodup_dedup is) (List.nodup_dedup js)]
    intro i
    rw [List.mem_dedup, List.mem_dedup]
    exact same i
  have once : is.dedup.foldlM step x = .ok y ↔ js.dedup.foldlM step x = .ok y :=
    ⟨foldlM_of_perm swap perm, foldlM_of_perm swap perm.symm⟩
  exact (foldlM_dedup again swap).trans (once.trans (foldlM_dedup again swap).symm)

end

end EntityStore
