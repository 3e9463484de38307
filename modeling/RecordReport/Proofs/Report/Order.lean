import RecordReport.Proofs.Text.Order
import RecordReport.Report.Context

/-!
# The order of records

Records are compared by a total preorder: the first key on which two records differ decides. Sorting gives
the only arrangement that respects it and keeps records apart that are equal in it as they were, so that
sorting by keys one after the other is sorting by all of them.
-/

namespace RecordReport

namespace Record

/-- The records have the same values. -/
def Ties (keys : List String) (a b : Record) : Prop := ∀ key ∈ keys, a.value key = b.value key

/-- By this key the record stands before the other: it has a value, and the other has none or one whose bytes
come later. -/
def Leads (key : String) (a b : Record) : Prop :=
  a.value key ≠ "" ∧ (b.value key = "" ∨ Text.encode (a.value key) < Text.encode (b.value key))

/-- The first key on which the records differ puts this one before the other. -/
def Precedes (keys : List String) (a b : Record) : Prop :=
  ∃ earlier key later, keys = earlier ++ key :: later ∧ a.Ties earlier b ∧ a.Leads key b

theorem ties_cons {key : String} {keys : List String} {a b : Record} :
    a.Ties (key :: keys) b ↔ a.value key = b.value key ∧ a.Ties keys b :=
  List.forall_mem_cons

theorem precedes_cons {key : String} {keys : List String} {a b : Record} :
    a.Precedes (key :: keys) b ↔ a.Leads key b ∨ a.value key = b.value key ∧ a.Precedes keys b := by
  constructor
  · rintro ⟨_ | ⟨first, earlier⟩, decisive, later, hkeys, hties, hleads⟩
    · cases hkeys
      exact .inl hleads
    · cases hkeys
      obtain ⟨hfirst, hties⟩ := ties_cons.mp hties
      exact .inr ⟨hfirst, earlier, decisive, later, rfl, hties, hleads⟩
  · rintro (hleads | ⟨hfirst, earlier, decisive, later, rfl, hties, hleads⟩)
    · exact ⟨[], key, keys, rfl, List.forall_mem_nil _, hleads⟩
    · exact ⟨key :: earlier, decisive, later, rfl, ties_cons.mpr ⟨hfirst, hties⟩, hleads⟩

end Record

namespace Report

theorem isLE_total {α : Type} {cmp : α → α → Ordering} [Std.OrientedCmp cmp] (a b : α) :
    ((cmp a b).isLE || (cmp b a).isLE) = true := by
  rw [Bool.or_eq_true]
  by_cases hlt : cmp b a = .lt
  · exact .inr (Ordering.isLE_of_eq_lt hlt)
  · exact .inl (Ordering.isLE_iff_ne_gt.mpr (mt Std.OrientedCmp.gt_iff_lt.mp hlt))

/-! ## Values -/

theorem compareValues_eq_lt_iff {a b : String} :
    compareValues a b = .lt ↔ a ≠ "" ∧ (b = "" ∨ Text.encode a < Text.encode b) := by
  rw [compareValues, ← Text.compare_eq_lt_iff]
  cases ha : a.isEmpty <;> cases hb : b.isEmpty <;> simp_all [String.isEmpty_iff]

theorem compareValues_eq_eq_iff {a b : String} : compareValues a b = .eq ↔ a = b := by
  rw [compareValues]
  cases ha : a.isEmpty <;> cases hb : b.isEmpty <;> simp_all [String.isEmpty_iff]

instance : Std.OrientedCmp compareValues where
  eq_swap {a b} := by
    have hswap : compare a b = (compare b a).swap := Std.OrientedCmp.eq_swap
    rw [compareValues, compareValues]
    cases a.isEmpty <;> cases b.isEmpty <;> simp [hswap]

theorem isLE_compareValues {a b : String} :
    (compareValues a b).isLE ↔ b = "" ∨ a ≠ "" ∧ Text.encode a ≤ Text.encode b := by
  rw [Ordering.isLE_iff_ne_gt, Std.OrientedCmp.gt_iff_lt, compareValues_eq_lt_iff, ← List.not_lt]
  by_cases hb : b = "" <;> simp [hb]

instance : Std.TransCmp compareValues where
  isLE_trans {a b c} hab hbc := by
    rw [isLE_compareValues] at hab hbc ⊢
    rcases hbc with hc | ⟨hb, hbc⟩
    · exact .inl hc
    · obtain ⟨ha, hab⟩ := hab.resolve_left hb
      exact .inr ⟨ha, List.le_trans hab hbc⟩

/-! ## Records -/

theorem compareRecords_cons (key : String) (keys : List String) (a b : Record) :
    compareRecords (key :: keys) a b =
      (compareValues (a.value key) (b.value key)).then (compareRecords keys a b) :=
  rfl

theorem compareRecords_append (earlier later : List String) (a b : Record) :
    compareRecords (earlier ++ later) a b =
      (compareRecords earlier a b).then (compareRecords later a b) := by
  induction earlier with
  | nil => rfl
  | cons key earlier ih =>
      rw [List.cons_append, compareRecords_cons, compareRecords_cons, ih, Ordering.then_assoc]

theorem compareRecords_eq_eq_iff {keys : List String} {a b : Record} :
    compareRecords keys a b = .eq ↔ a.Ties keys b := by
  induction keys with
  | nil => simp [compareRecords, Record.Ties]
  | cons key keys ih =>
      rw [compareRecords_cons, Ordering.then_eq_eq, compareValues_eq_eq_iff, ih, Record.ties_cons]

theorem compareRecords_eq_lt_iff {keys : List String} {a b : Record} :
    compareRecords keys a b = .lt ↔ a.Precedes keys b := by
  induction keys with
  | nil => simp [compareRecords, Record.Precedes]
  | cons key keys ih =>
      rw [compareRecords_cons, Ordering.then_eq_lt, compareValues_eq_lt_iff, compareValues_eq_eq_iff, ih,
        Record.precedes_cons, Record.Leads]

instance (keys : List String) : Std.TransCmp (compareRecords keys) := by
  induction keys with
  | nil => exact { eq_swap := rfl, isLE_trans := fun _ _ => rfl }
  | cons key keys ih =>
      have hkey : Std.TransCmp fun a b : Record => compareValues (a.value key) (b.value key) :=
        { eq_swap := Std.OrientedCmp.eq_swap, isLE_trans := Std.TransCmp.isLE_trans }
      exact inferInstanceAs (Std.TransCmp (compareLex _ (compareRecords keys)))

/-- Records that tie on the earlier keys stand in the order of their values for the next. -/
theorem values_of_isLE {earlier later : List String} {key : String} {a b : Record}
    (hle : (compareRecords (earlier ++ key :: later) a b).isLE) (hties : a.Ties earlier b) :
    b.value key = "" ∨ a.value key ≠ "" ∧ Text.encode (a.value key) ≤ Text.encode (b.value key) := by
  rw [compareRecords_append, compareRecords_eq_eq_iff.mpr hties, Ordering.eq_then, compareRecords_cons,
    Ordering.isLE_then_iff_and] at hle
  exact isLE_compareValues.mp hle.1

/-! ## Stability -/

section Stability

variable {α : Type} {le : α → α → Bool} (htrans : ∀ a b c, le a b → le b c → le a c)
  (htotal : ∀ a b, (le a b || le b a) = true)

include htrans htotal

/-- Sorted with their positions, members that tie have growing positions. -/
theorem pairwise_mergeSort_zipIdx (xs : List α) :
    (xs.zipIdx.mergeSort (List.zipIdxLE le)).Pairwise fun a b =>
      le a.1 b.1 ∧ (le b.1 a.1 → a.2 < b.2) := by
  have hsorted : (xs.zipIdx.mergeSort (List.zipIdxLE le)).Pairwise fun a b => List.zipIdxLE le a b :=
    List.pairwise_mergeSort (List.zipIdxLE_trans htrans) (List.zipIdxLE_total htotal) _
  -- No two positions are the same, so where members tie the positions grow strictly.
  have hpositions : (xs.zipIdx.mergeSort (List.zipIdxLE le)).Pairwise fun a b => a.2 ≠ b.2 := by
    rw [← List.pairwise_map, ((List.mergeSort_perm _ _).map Prod.snd).pairwise_iff fun h => h.symm,
      List.zipIdx_map_snd]
    exact List.nodup_range'
  refine hsorted.imp₂ (fun a b hle hne => ?_) hpositions
  rw [List.zipIdxLE] at hle
  split at hle
  · rename_i hab
    refine ⟨hab, fun hba => ?_⟩
    rw [if_pos hba] at hle
    exact Nat.lt_of_le_of_ne (of_decide_eq_true hle) hne
  · cases hle

/-- Members that tie stay in whatever relation they stood in. -/
theorem pairwise_mergeSort_of_pairwise {R : α → α → Prop} {xs : List α} (h : xs.Pairwise R) :
    (xs.mergeSort le).Pairwise fun a b => le a b ∧ (le b a → R a b) := by
  rw [← List.mergeSort_zipIdx, List.pairwise_map]
  refine (pairwise_mergeSort_zipIdx htrans htotal xs).imp_of_mem fun {a b} ha hb hab => ?_
  refine ⟨hab.1, fun hba => ?_⟩
  have hat := List.mem_zipIdx_iff_getElem?.mp (List.mem_mergeSort.mp ha)
  have hbt := List.mem_zipIdx_iff_getElem?.mp (List.mem_mergeSort.mp hb)
  obtain ⟨hi, hxi⟩ := List.getElem?_eq_some_iff.mp hat
  obtain ⟨hj, hxj⟩ := List.getElem?_eq_some_iff.mp hbt
  rw [← hxi, ← hxj]
  exact List.pairwise_iff_getElem.mp h a.2 b.2 hi hj (hab.2 hba)

end Stability

/-! ## Arrangements -/

/-- The records with their positions, none before a lesser one and equal ones as they stood. -/
structure Arranges (keys : List String) (records : List Record) (order : List (Record × Nat)) : Prop where
  perm : order.Perm records.zipIdx
  sorted : order.Pairwise fun a b => (compareRecords keys a.1 b.1).isLE
  stable : order.Pairwise fun a b => compareRecords keys a.1 b.1 = .eq → a.2 < b.2

/-- The position settles the order of equal records, so that no two arrangements differ. -/
theorem Arranges.unique {keys : List String} {records : List Record} {order other : List (Record × Nat)}
    (ho : Arranges keys records order) (hother : Arranges keys records other) : other = order := by
  refine (hother.perm.trans ho.perm.symm).eq_of_pairwise ?_ (hother.sorted.and hother.stable)
    (ho.sorted.and ho.stable)
  rintro a b - - ⟨hab, hstable⟩ ⟨hba, hstable'⟩
  have heq : compareRecords keys a.1 b.1 = .eq := Std.OrientedCmp.isLE_antisymm hab hba
  have hlt : a.2 < b.2 := hstable heq
  have hlt' : b.2 < a.2 := hstable' (Std.OrientedCmp.eq_symm heq)
  omega

/-- The arrangement that sorting gives: the records sorted with their positions. -/
def arrangement (keys : List String) (records : List Record) : List (Record × Nat) :=
  records.zipIdx.mergeSort (List.zipIdxLE fun a b => (compareRecords keys a b).isLE)

theorem sortRecords_eq_arrangement (keys : List String) (records : List Record) :
    sortRecords keys records = (arrangement keys records).map Prod.fst :=
  List.mergeSort_zipIdx.symm

theorem arranges_arrangement (keys : List String) (records : List Record) :
    Arranges keys records (arrangement keys records) := by
  have hsorted : (arrangement keys records).Pairwise fun a b =>
      (compareRecords keys a.1 b.1).isLE ∧ ((compareRecords keys b.1 a.1).isLE → a.2 < b.2) :=
    pairwise_mergeSort_zipIdx (fun _ _ _ => Std.TransCmp.isLE_trans) isLE_total records
  exact ⟨List.mergeSort_perm _ _, hsorted.imp And.left,
    hsorted.imp fun h heq => h.2 (Ordering.isLE_of_eq_eq (Std.OrientedCmp.eq_symm heq))⟩

/-- Sorting an arrangement by further keys respects these first, and the order it had where they tie. -/
theorem Arranges.mergeSort {later : List String} {records : List Record} {order : List (Record × Nat)}
    (h : Arranges later records order) (earlier : List String) : Arranges (earlier ++ later) records
      (order.mergeSort fun a b => (compareRecords earlier a.1 b.1).isLE) := by
  have hsorted : (order.mergeSort fun a b => (compareRecords earlier a.1 b.1).isLE).Pairwise fun a b =>
      (compareRecords earlier a.1 b.1).isLE ∧ ((compareRecords earlier b.1 a.1).isLE →
        (compareRecords later a.1 b.1).isLE ∧ (compareRecords later a.1 b.1 = .eq → a.2 < b.2)) :=
    pairwise_mergeSort_of_pairwise (fun _ _ _ => Std.TransCmp.isLE_trans)
      (fun a b => isLE_total a.1 b.1) (h.sorted.and h.stable)
  refine ⟨(List.mergeSort_perm _ _).trans h.perm, hsorted.imp fun {a b} hab => ?_,
    hsorted.imp fun {a b} hab heq => ?_⟩
  · rw [compareRecords_append, Ordering.isLE_then_iff_or]
    rcases Ordering.isLE_iff_eq_lt_or_eq_eq.mp hab.1 with hlt | hties
    · exact .inl hlt
    · exact .inr ⟨hties, (hab.2 (Ordering.isLE_of_eq_eq (Std.OrientedCmp.eq_symm hties))).1⟩
  · rw [compareRecords_append, Ordering.then_eq_eq] at heq
    exact (hab.2 (Ordering.isLE_of_eq_eq (Std.OrientedCmp.eq_symm heq.1))).2 heq.2

theorem arrangement_append (earlier later : List String) (records : List Record) :
    arrangement (earlier ++ later) records =
      (arrangement later records).mergeSort fun a b => (compareRecords earlier a.1 b.1).isLE :=
  ((arranges_arrangement later records).mergeSort earlier).unique (arranges_arrangement _ records)

/-! ## Sorting -/

theorem sorted_sortRecords (keys : List String) (records : List Record) :
    (sortRecords keys records).Pairwise fun a b => (compareRecords keys a b).isLE := by
  rw [sortRecords_eq_arrangement, List.pairwise_map]
  exact (arranges_arrangement keys records).sorted

/-- The comparison of records is a total preorder, and sorting gives the one arrangement that respects it and
leaves equal records as they stood. -/
theorem sortRecords_arranges (keys : List String) (records : List Record) :
    (∀ a, compareRecords keys a a = .eq) ∧
    (∀ a b, compareRecords keys b a = (compareRecords keys a b).swap) ∧
    (∀ a b c, (compareRecords keys a b).isLE → (compareRecords keys b c).isLE →
      (compareRecords keys a c).isLE) ∧
    (∀ a b, (compareRecords keys a b = .lt ↔ a.Precedes keys b) ∧
      (compareRecords keys a b = .eq ↔ a.Ties keys b)) ∧
    (∃ order, Arranges keys records order ∧ (∀ other, Arranges keys records other → other = order) ∧
      sortRecords keys records = order.map Prod.fst) ∧
    (∀ earlier key later, keys = earlier ++ key :: later →
      (sortRecords keys records).Pairwise fun a b => a.Ties earlier b →
        (a.value key = "" → b.value key = "") ∧
        (b.value key ≠ "" → Text.encode (a.value key) ≤ Text.encode (b.value key))) ∧
    sortRecords keys (sortRecords keys records) = sortRecords keys records := by
  have harranges := arranges_arrangement keys records
  refine ⟨fun a => Std.ReflCmp.compare_self, fun a b => Std.OrientedCmp.eq_swap,
    fun a b c => Std.TransCmp.isLE_trans, fun a b => ⟨compareRecords_eq_lt_iff, compareRecords_eq_eq_iff⟩,
    ⟨_, harranges, fun _ => harranges.unique, sortRecords_eq_arrangement keys records⟩, ?_,
    List.mergeSort_of_pairwise (sorted_sortRecords keys records)⟩
  rintro earlier key later rfl
  refine (sorted_sortRecords _ records).imp fun hle hties => ?_
  have hvalues := values_of_isLE hle hties
  exact ⟨fun ha => hvalues.resolve_right fun h => h.1 ha, fun hb => (hvalues.resolve_left hb).2⟩

/-! ## Sorting by keys one after the other -/

theorem sortRecords_nil (records : List Record) : sortRecords [] records = records :=
  List.mergeSort_of_pairwise (List.pairwise_of_forall fun _ _ => rfl)

/-- The records tie on a key that occurs before if they tie on those before it. -/
theorem compareRecords_concat {keys : List String} {key : String} (h : key ∈ keys) :
    compareRecords (keys ++ [key]) = compareRecords keys := by
  funext a b
  rw [compareRecords_append]
  cases hcmp : compareRecords keys a b with
  | lt | gt => rfl
  | eq =>
      have hvalue : a.value key = b.value key := compareRecords_eq_eq_iff.mp hcmp key h
      exact compareRecords_eq_eq_iff.mpr fun k hk => by rwa [List.mem_singleton.mp hk]

/-- Sorting by two lists of keys is sorting by the later one and then by the earlier one. Without keys the
records stay as they are, and a key that occurs again changes nothing. -/
theorem sortRecords_append (earlier later : List String) (records : List Record) :
    sortRecords (earlier ++ later) records = sortRecords earlier (sortRecords later records) ∧
    sortRecords [] records = records ∧
    ∀ keys, ∀ key ∈ keys, sortRecords (keys ++ [key]) records = sortRecords keys records := by
  refine ⟨?_, sortRecords_nil records, fun keys key hkey => ?_⟩
  · rw [sortRecords_eq_arrangement, sortRecords_eq_arrangement later, arrangement_append]
    exact List.map_mergeSort fun _ _ _ _ => rfl
  · rw [sortRecords, compareRecords_concat hkey, sortRecords]

/-- Two records tie on the earlier key, and the one without a value for the later key comes last. -/
theorem sortRecords_append_ties :
    let first : Record := ⟨1, 2, [("a", "x"), ("b", "")]⟩
    let second : Record := ⟨2, 3, [("a", "x"), ("b", "1")]⟩
    let third : Record := ⟨3, 4, [("a", ""), ("b", "0")]⟩
    let records : List Record := [third, first, second]
    sortRecords ["b"] records = [third, second, first] ∧
      sortRecords ["a"] [third, second, first] = [second, first, third] ∧
      sortRecords ["a", "b"] records = [second, first, third] ∧
      "a" ∈ ["a", "b"] ∧ sortRecords ["a", "b", "a"] records = [second, first, third] := by
  intro first second third records
  have hlater : sortRecords ["b"] records = [third, second, first] := by
    simp +decide [records, first, second, third, sortRecords, List.mergeSort,
      List.MergeSort.Internal.splitInTwo]
  have hearlier : sortRecords ["a"] [third, second, first] = [second, first, third] := by
    simp +decide [first, second, third, sortRecords, List.mergeSort,
      List.MergeSort.Internal.splitInTwo]
  obtain ⟨happend, -, hagain⟩ := sortRecords_append ["a"] ["b"] records
  have hboth : sortRecords ["a", "b"] records = [second, first, third] := by
    rw [← hearlier, ← hlater]
    exact happend
  have hkey : "a" ∈ ["a", "b"] := by decide
  exact ⟨hlater, hearlier, hboth, hkey, (hagain ["a", "b"] "a" hkey).trans hboth⟩

end Report
end RecordReport
