import Mathlib.Data.List.Induction
import Mathlib.Data.List.Nodup
import RecordReport.Report.Warning

/-!
# First occurrences

The first members by key are a part of the list in which no key occurs twice. Among the members of some kind
they are found by their positions.
-/

namespace RecordReport

variable {α β : Type} [DecidableEq β] (key : α → β)

/-! ## First members by key -/

theorem firstsBy_sublist (xs : List α) : List.Sublist (firstsBy key xs) xs := by
  induction xs with
  | nil => exact .slnil
  | cons x xs ih => exact (List.filter_sublist.trans ih).cons_cons x

theorem nodup_map_firstsBy (xs : List α) : ((firstsBy key xs).map key).Nodup := by
  induction xs with
  | nil => exact List.nodup_nil
  | cons x xs ih =>
      rw [firstsBy, List.map_cons, List.nodup_cons]
      refine ⟨?_, ih.sublist (List.filter_sublist.map key)⟩
      simp only [List.mem_map, List.mem_filter, decide_eq_true_eq]
      rintro ⟨y, ⟨-, hne⟩, hy⟩
      exact hne hy

/-- Dropping members by their keys can be done before or after. -/
theorem filter_firstsBy (p : β → Bool) (xs : List α) :
    (firstsBy key xs).filter (fun x => p (key x)) = firstsBy key (xs.filter fun x => p (key x)) := by
  induction xs with
  | nil => rfl
  | cons x xs ih =>
      by_cases hx : p (key x) = true
      · simp only [List.filter_cons, hx, if_true, firstsBy]
        rw [← ih, List.filter_comm]
      · simp only [List.filter_cons, hx, firstsBy, Bool.false_eq_true, if_false]
        rw [← ih, List.filter_filter]
        refine List.filter_congr fun y _ => ?_
        by_cases hy : key y = key x
        · simp [hy, hx]
        · simp [hy]

/-- The members of a second list come after the first list's if their keys are new. -/
theorem firstsBy_append (xs ys : List α) :
    firstsBy key (xs ++ ys) =
      firstsBy key xs ++ firstsBy key (ys.filter fun y => decide (key y ∉ xs.map key)) := by
  induction xs with
  | nil => simp [firstsBy]
  | cons x xs ih =>
      have hys := filter_firstsBy key (fun k => decide (k ≠ key x))
        (ys.filter fun y => decide (key y ∉ xs.map key))
      rw [List.cons_append, firstsBy, ih, List.filter_append, firstsBy, List.cons_append, hys,
        List.filter_filter]
      simp

/-- Each key has a first member. -/
theorem mem_map_firstsBy {k : β} {xs : List α} : k ∈ (firstsBy key xs).map key ↔ k ∈ xs.map key := by
  refine ⟨fun h => ((firstsBy_sublist key xs).map key).subset h, fun h => ?_⟩
  induction xs with
  | nil => cases h
  | cons x xs ih =>
      rw [firstsBy, List.map_cons, List.mem_cons]
      by_cases hx : k = key x
      · exact .inl hx
      · obtain ⟨y, hy, rfl⟩ := List.mem_map.mp (ih ((List.mem_cons.mp h).resolve_left hx))
        exact .inr (List.mem_map_of_mem (List.mem_filter.mpr ⟨hy, decide_eq_true hx⟩))

/-- A member is kept if it is the first one with its key. -/
theorem mem_firstsBy_iff {x : α} {xs : List α} :
    x ∈ firstsBy key xs ↔ xs.find? (fun y => decide (key y = key x)) = some x := by
  induction xs with
  | nil => simp [firstsBy]
  | cons y xs ih =>
      rw [firstsBy, List.mem_cons, List.mem_filter, ih]
      by_cases hkey : key y = key x
      · rw [List.find?_cons_of_pos (by simpa using hkey)]
        simp [hkey, eq_comm]
      · rw [List.find?_cons_of_neg (by simpa using hkey)]
        have hne : x ≠ y := fun hxy => hkey (by rw [hxy])
        simp [hne, Ne.symm hkey]

theorem firstsBy_map {γ : Type} (f : γ → α) (xs : List γ) :
    firstsBy key (xs.map f) = (firstsBy (fun x => key (f x)) xs).map f := by
  induction xs with
  | nil => rfl
  | cons x xs ih =>
      rw [List.map_cons, firstsBy, firstsBy, List.map_cons, ih, List.filter_map]
      rfl

/-! ## First positions -/

section Positions

variable {p : α → Bool} {xs : List α}

/-- At this position is a member of some kind, and none before it of that kind has its key. -/
def IsFirst (p : α → Bool) (xs : List α) (i : Nat) : Prop :=
  ∃ x, xs[i]? = some x ∧ p x ∧ ∀ y ∈ xs.take i, p y → key y ≠ key x

omit [DecidableEq β] in
theorem isFirst_concat {last : α} {i : Nat} : IsFirst key p (xs ++ [last]) i ↔
    IsFirst key p xs i ∨ i = xs.length ∧ p last ∧ ∀ y ∈ xs, p y → key y ≠ key last := by
  rcases Nat.lt_trichotomy i xs.length with hlt | rfl | hgt
  · rw [IsFirst, List.getElem?_append_left hlt, List.take_append_of_le_length (Nat.le_of_lt hlt)]
    simp [IsFirst, Nat.ne_of_lt hlt]
  · simp [IsFirst]
  · have hnone : (xs ++ [last])[i]? = none := by simp; omega
    have hnone' : xs[i]? = none := by simp; omega
    simp [IsFirst, hnone, hnone', Nat.ne_of_gt hgt]

theorem firstsBy_filter_concat (xs : List α) (last : α) :
    firstsBy key ((xs ++ [last]).filter p) = firstsBy key (xs.filter p) ++
      if p last ∧ ∀ y ∈ xs, p y → key y ≠ key last then [last] else [] := by
  rw [List.filter_append, firstsBy_append]
  congr 1
  by_cases hp : p last = true
  · have hfresh : key last ∉ (xs.filter p).map key ↔ ∀ y ∈ xs, p y → key y ≠ key last := by
      simp
    rw [List.filter_cons_of_pos hp, List.filter_nil]
    by_cases hlast : key last ∉ (xs.filter p).map key
    · rw [if_pos ⟨hp, hfresh.mp hlast⟩, List.filter_cons_of_pos (by simpa using hlast)]
      rfl
    · rw [if_neg fun h => hlast (hfresh.mpr h.2), List.filter_cons_of_neg (by simpa using hlast)]
      rfl
  · rw [if_neg fun h => hp h.1, List.filter_cons_of_neg hp]
    rfl

/-- The members at the first positions are the first members. -/
theorem exists_positions_firstsBy (p : α → Bool) (xs : List α) :
    ∃ positions : List Nat, positions.Pairwise (· < ·) ∧ (∀ i, i ∈ positions ↔ IsFirst key p xs i) ∧
      firstsBy key (xs.filter p) = positions.filterMap (xs[·]?) := by
  induction xs using List.reverseRecOn with
  | nil => exact ⟨[], .nil, by simp [IsFirst], rfl⟩
  | append_singleton xs last ih =>
      obtain ⟨positions, hordered, hmem, hmembers⟩ := ih
      have hlt : ∀ i ∈ positions, i < xs.length := fun i hi => by
        obtain ⟨x, hx, -⟩ := (hmem i).mp hi
        exact (List.getElem?_eq_some_iff.mp hx).1
      have hsame : positions.filterMap ((xs ++ [last])[·]?) = positions.filterMap (xs[·]?) :=
        List.filterMap_congr fun i hi => List.getElem?_append_left (hlt i hi)
      have hlast : (xs ++ [last])[xs.length]? = some last := List.getElem?_concat_length
      rw [firstsBy_filter_concat, hmembers, ← hsame]
      by_cases hfresh : p last ∧ ∀ y ∈ xs, p y → key y ≠ key last
      · refine ⟨positions ++ [xs.length], ?_, fun i => ?_, ?_⟩
        · exact List.pairwise_append.mpr ⟨hordered, List.pairwise_singleton _ _, by simpa using hlt⟩
        · rw [List.mem_append, List.mem_singleton, hmem, isFirst_concat, and_iff_left hfresh]
        · rw [if_pos hfresh, List.filterMap_append, List.filterMap_cons_some hlast, List.filterMap_nil]
      · refine ⟨positions, hordered, fun i => ?_, ?_⟩
        · rw [hmem, isFirst_concat, or_iff_left fun h => hfresh h.2]
        · rw [if_neg hfresh, List.append_nil]

end Positions

/-! ## First occurrences -/

variable [DecidableEq α]

theorem nodup_firsts (xs : List α) : (firsts xs).Nodup := by
  have h := nodup_map_firstsBy id xs
  rwa [List.map_id] at h

theorem mem_firsts {x : α} {xs : List α} : x ∈ firsts xs ↔ x ∈ xs := by
  have h : x ∈ (firsts xs).map id ↔ x ∈ xs.map id := mem_map_firstsBy id
  rwa [List.map_id, List.map_id] at h

theorem firsts_eq_eraseDups (xs : List α) : firsts xs = xs.eraseDups :=
  match xs with
  | [] => rfl
  | x :: xs => by
      have hfilter : (firsts xs).filter (fun y => decide (y ≠ x)) = firsts (xs.filter (!· == x)) := by
        refine Eq.trans ?_ (filter_firstsBy id (fun y => !y == x) xs)
        exact List.filter_congr fun y _ => by by_cases hy : y = x <;> simp [hy]
      rw [List.eraseDups_cons, ← firsts_eq_eraseDups (xs.filter (!· == x)), ← hfilter]
      rfl
  termination_by xs.length
  decreasing_by exact Nat.lt_succ_of_le (List.length_filter_le _ _)

theorem firsts_of_nodup {xs : List α} (h : xs.Nodup) : firsts xs = xs := by
  induction xs with
  | nil => rfl
  | cons x xs ih =>
      obtain ⟨hx, hxs⟩ := List.nodup_cons.mp h
      have hfirsts : firstsBy id xs = xs := ih hxs
      rw [firsts, firstsBy, hfirsts, List.filter_eq_self.mpr]
      rintro y hy
      exact decide_eq_true fun hyx : y = x => hx (hyx ▸ hy)

/-- Lists without a common member are cut down one by one. -/
theorem firsts_append_of_disjoint {xs ys : List α} (h : ∀ y ∈ ys, y ∉ xs) :
    firsts (xs ++ ys) = firsts xs ++ firsts ys := by
  have hys : ys.filter (fun y => decide (id y ∉ xs.map id)) = ys := by
    rw [List.filter_eq_self, List.map_id]
    exact fun y hy => decide_eq_true (h y hy)
  rw [firsts, firstsBy_append, hys]
  rfl

end RecordReport
