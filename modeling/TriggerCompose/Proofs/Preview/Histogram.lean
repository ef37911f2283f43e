import TriggerCompose.Preview.Histogram
import TriggerCompose.Proofs.Preview.Synthesis
import Mathlib.Data.List.Forall2

/-!
# Histograms hold every readable row

The buckets of a table are those of its rows with a readable key, in the stable order of
their keys, and the total stands for them. So a histogram loses no row and counts none
twice, and the order of the rows shows only among buckets of one key.

## Main definitions

* `Preview.RowBucket`: the bucket that a row gives.
* `Preview.StablySorted`: the stable order of buckets by their keys.
* `Preview.Tabulated`: what the series of a table is like.

## Main statements

* `Preview.stablySorted_sortBuckets`: sorting is stable.
* `Preview.toNat_countSum`: the sum of counts, cut off once.
* `Preview.tabulated_histogram`: the series of a table.
-/

namespace TriggerCompose.Preview

/-! ### Columns -/

theorem lt_length_of_leftmost? {taken? : Option Nat} {schema : List Column}
    {test : Column → Bool} {index : Nat} (h : leftmost? taken? schema test = some index) :
    index < schema.length := by
  obtain ⟨⟨column, i⟩, hmem, hfound⟩ := List.exists_of_findSome?_eq_some h
  rw [Option.ite_none_right_eq_some, Option.some.injEq] at hfound
  obtain ⟨-, rfl⟩ := hfound
  exact (List.mem_zipIdx' hmem).1

theorem lt_length_of_keyColumn? {schema : List Column} {candidates : List String} {key : Nat}
    (h : keyColumn? schema candidates = some key) : key < schema.length := by
  obtain ⟨test, -, hfound⟩ := List.exists_of_findSome?_eq_some h
  exact lt_length_of_leftmost? hfound

theorem lt_length_of_countColumn? {schema : List Column} {key? : Option Nat} {count : Nat}
    (h : countColumn? schema key? = some count) : count < schema.length := by
  obtain ⟨test, -, hfound⟩ := List.exists_of_findSome?_eq_some h
  exact lt_length_of_leftmost? hfound

theorem ofSchema?_eq_some_iff {schema : List Column} {candidates : List String}
    {layout : Layout} :
    Layout.ofSchema? schema candidates = some layout ↔
      keyColumn? schema candidates = some layout.key ∧
        countColumn? schema (keyColumn? schema candidates) = some layout.count := by
  cases hkey : keyColumn? schema candidates with
  | none => simp [Layout.ofSchema?, hkey]
  | some key =>
    cases hcount : countColumn? schema (some key) with
    | none => simp [Layout.ofSchema?, hkey, hcount]
    | some count =>
      cases layout
      simp [Layout.ofSchema?, hkey, hcount]

/-! ### Rows -/

/-- The bucket that a row gives. The key is read from one cell; the count from another, and
    it is zero where that cell is missing or gives none. -/
structure RowBucket (layout : Layout) (row : List Json) (b : Bucket) : Prop where
  key : ∃ cell, row[layout.key]? = some cell ∧ Cell.key? cell = some b.key
  docCount : ∀ cell, row[layout.count]? = some cell → b.docCount = (Cell.count? cell).getD 0
  missing : row[layout.count]? = none → b.docCount = 0

/-- A row that has a key cell, and one that can be read. -/
def hasKey (layout : Layout) (row : List Json) : Bool :=
  row[layout.key]?.any fun cell => (Cell.key? cell).isSome

theorem rowBucket_of_bucket? {layout : Layout} {row : List Json} {b : Bucket}
    (h : layout.bucket? row = some b) : RowBucket layout row b := by
  simp only [Layout.bucket?, Option.bind_eq_bind, Option.bind_eq_some_iff] at h
  obtain ⟨key, ⟨cell, hcell, hkey⟩, hb⟩ := h
  cases hb
  exact ⟨⟨cell, hcell, hkey⟩, fun cell hcount => by simp [hcount], fun hcount => by simp [hcount]⟩

theorem isSome_bucket? (layout : Layout) (row : List Json) :
    (layout.bucket? row).isSome = hasKey layout row := by
  cases hcell : row[layout.key]? with
  | none => simp [Layout.bucket?, hasKey, hcell]
  | some cell => cases hkey : Cell.key? cell <;> simp [Layout.bucket?, hasKey, hcell, hkey]

/-- The rows with a readable key give their buckets one by one and in order. -/
theorem forall₂_rowBucket (layout : Layout) (rows : List (List Json)) :
    List.Forall₂ (RowBucket layout) (rows.filter (hasKey layout))
      (rows.filterMap layout.bucket?) := by
  induction rows with
  | nil => exact .nil
  | cons row rows ih =>
    have hsome := isSome_bucket? layout row
    cases hbucket : layout.bucket? row with
    | none =>
      rw [hbucket] at hsome
      rwa [List.filterMap_cons_none hbucket, List.filter_cons_of_neg (by simp [← hsome])]
    | some b =>
      rw [hbucket] at hsome
      rw [List.filterMap_cons_some hbucket, List.filter_cons_of_pos hsome.symm]
      exact .cons (rowBucket_of_bucket? hbucket) ih

/-! ### The order of buckets -/

/-- The stable order of buckets by their keys: those of one key stand as they stood. -/
structure StablySorted (source sorted : List Bucket) : Prop where
  perm : sorted.Perm source
  ascending : sorted.Pairwise fun a b => a.key ≤ b.key
  stable : ∀ key, sorted.filter (·.key = key) = source.filter (·.key = key)

theorem keyLe_trans (a b c : Bucket) (hab : decide (a.key ≤ b.key)) (hbc : decide (b.key ≤ c.key)) :
    decide (a.key ≤ c.key) := by
  rw [decide_eq_true_eq] at hab hbc ⊢
  exact Int64.le_trans hab hbc

theorem keyLe_total (a b : Bucket) : decide (a.key ≤ b.key) || decide (b.key ≤ a.key) := by
  simpa using Int64.le_total a.key b.key

theorem stablySorted_sortBuckets (buckets : List Bucket) :
    StablySorted buckets (sortBuckets buckets) where
  perm := List.mergeSort_perm buckets _
  ascending := (List.pairwise_mergeSort keyLe_trans keyLe_total buckets).imp of_decide_eq_true
  stable key := by
    have hperm : (sortBuckets buckets).Perm buckets := List.mergeSort_perm buckets _
    -- Buckets of one key are in order already, so sorting leaves them where they stood.
    have hclass : (buckets.filter (·.key = key)).Pairwise fun a b => decide (a.key ≤ b.key) := by
      refine List.pairwise_of_forall_mem_list fun a ha b hb => ?_
      have hkey : a.key = b.key := by
        simp only [List.mem_filter, decide_eq_true_eq] at ha hb
        rw [ha.2, hb.2]
      simp [hkey]
    have hsub : List.Sublist (buckets.filter (·.key = key)) (sortBuckets buckets) :=
      List.sublist_mergeSort keyLe_trans keyLe_total hclass List.filter_sublist
    have hfilter := hsub.filter (fun b : Bucket => decide (b.key = key))
    simp only [List.filter_filter, Bool.and_self] at hfilter
    exact (hfilter.eq_of_length (hperm.filter _).length_eq.symm).symm

/-- Buckets in ascending order of their keys show the same keys as any permutation of them
    in that order. -/
theorem map_key_eq_of_perm {a b : List Bucket} (hperm : a.Perm b)
    (ha : a.Pairwise fun x y => x.key ≤ y.key) (hb : b.Pairwise fun x y => x.key ≤ y.key) :
    a.map (·.key) = b.map (·.key) := by
  refine List.Perm.eq_of_pairwise (fun _ _ _ _ hxy hyx => Int64.le_antisymm hxy hyx) ?_ ?_
    (hperm.map _)
  · exact List.pairwise_map.mpr ha
  · exact List.pairwise_map.mpr hb

/-! ### Totals -/

theorem toNat_foldl_addCounts (buckets : List Bucket) (sum : UInt64) :
    (buckets.foldl (fun sum bucket => addCounts sum bucket.docCount) sum).toNat =
      min (sum.toNat + exactSum (buckets.map (·.docCount))) (UInt64.size - 1) := by
  induction buckets generalizing sum with
  | nil =>
    have hlt : sum.toNat < UInt64.size := sum.toNat_lt
    simp only [List.foldl_nil, List.map_nil, exactSum, List.foldr_nil]
    omega
  | cons b buckets ih =>
    rw [List.foldl_cons, ih, toNat_addCounts, List.map_cons, exactSum_cons]
    omega

/-- Cutting off after every addition comes to cutting off once. -/
theorem toNat_countSum (buckets : List Bucket) :
    (countSum buckets).toNat = min (exactSum (buckets.map (·.docCount))) (UInt64.size - 1) := by
  rw [countSum, toNat_foldl_addCounts, UInt64.toNat_zero, Nat.zero_add]

theorem exactSum_eq_of_perm {a b : List UInt64} (hperm : a.Perm b) : exactSum a = exactSum b := by
  induction hperm with
  | nil => rfl
  | cons count _ ih => rw [exactSum_cons, exactSum_cons, ih]
  | swap first second rest =>
    simp only [exactSum_cons]
    omega
  | trans _ _ ih ih' => exact ih.trans ih'

/-- The sum of counts does not depend on the order of the buckets. -/
theorem countSum_eq_of_perm {a b : List Bucket} (hperm : a.Perm b) : countSum a = countSum b := by
  refine UInt64.toNat_inj.mp ?_
  rw [toNat_countSum, toNat_countSum, exactSum_eq_of_perm (hperm.map _)]

/-! ### Series -/

/-- What the series of a table is like. -/
structure Tabulated (table : Table) (candidates : List String) (s : Series) : Prop where
  /-- With both columns, which the schema has, the rows with a readable key give the buckets. -/
  read : ∀ layout : Layout, keyColumn? table.schema candidates = some layout.key →
    countColumn? table.schema (keyColumn? table.schema candidates) = some layout.count →
    layout.key < table.schema.length ∧ layout.count < table.schema.length ∧
      ∃ inOrder, List.Forall₂ (RowBucket layout) (table.rows.filter (hasKey layout)) inOrder ∧
        StablySorted inOrder s.buckets
  missing : keyColumn? table.schema candidates = none ∨
    countColumn? table.schema (keyColumn? table.schema candidates) = none → s.buckets = []
  summed : s.buckets ≠ [] →
    s.total.toNat = min (exactSum (s.buckets.map (·.docCount))) (UInt64.size - 1)
  explicit : ∀ total, s.buckets = [] → table.total? = some total → s.total = total
  counted : s.buckets = [] → table.total? = none → s.total = UInt64.ofNat table.rows.length

theorem tableBuckets_eq_of_layout {table : Table} {candidates : List String} {layout : Layout}
    (hlayout : Layout.ofSchema? table.schema candidates = some layout) :
    tableBuckets table candidates = sortBuckets (table.rows.filterMap layout.bucket?) := by
  rw [tableBuckets, hlayout]

theorem tableBuckets_eq_nil {table : Table} {candidates : List String}
    (hlayout : Layout.ofSchema? table.schema candidates = none) :
    tableBuckets table candidates = [] := by
  rw [tableBuckets, hlayout]

theorem tableTotal_nil (table : Table) :
    tableTotal table [] = table.total?.getD (UInt64.ofNat table.rows.length) :=
  rfl

theorem tableTotal_of_ne_nil (table : Table) {buckets : List Bucket} (hne : buckets ≠ []) :
    tableTotal table buckets = countSum buckets := by
  rw [tableTotal, if_neg (by simpa using hne)]

theorem tabulated (table : Table) (candidates : List String) :
    Tabulated table candidates (histogram table candidates) where
  read layout hkey hcount := by
    have hlayout := ofSchema?_eq_some_iff.mpr ⟨hkey, hcount⟩
    refine ⟨lt_length_of_keyColumn? hkey, lt_length_of_countColumn? hcount,
      table.rows.filterMap layout.bucket?, forall₂_rowBucket layout table.rows, ?_⟩
    rw [histogram, tableBuckets_eq_of_layout hlayout]
    exact stablySorted_sortBuckets _
  missing hmissing := by
    refine tableBuckets_eq_nil (Option.eq_none_iff_forall_ne_some.mpr fun layout hlayout => ?_)
    obtain ⟨hkey, hcount⟩ := ofSchema?_eq_some_iff.mp hlayout
    rcases hmissing with hnone | hnone
    · rw [hnone] at hkey
      cases hkey
    · rw [hnone] at hcount
      cases hcount
  summed hne := by
    rw [← toNat_countSum]
    exact congrArg UInt64.toNat (tableTotal_of_ne_nil table hne)
  explicit total hnil htotal := by
    change tableTotal table (histogram table candidates).buckets = total
    rw [hnil, tableTotal_nil, htotal, Option.getD_some]
  counted hnil htotal := by
    change tableTotal table (histogram table candidates).buckets = _
    rw [hnil, tableTotal_nil, htotal, Option.getD_none]

theorem tableBuckets_perm {table : Table} (candidates : List String) {rows : List (List Json)}
    (hrows : rows.Perm table.rows) :
    (tableBuckets { table with rows } candidates).Perm (tableBuckets table candidates) := by
  cases hlayout : Layout.ofSchema? table.schema candidates with
  | none =>
    have hpermuted : tableBuckets { table with rows } candidates = [] :=
      tableBuckets_eq_nil hlayout
    rw [hpermuted, tableBuckets_eq_nil hlayout]
  | some layout =>
    have hpermuted : tableBuckets { table with rows } candidates =
        sortBuckets (rows.filterMap layout.bucket?) := tableBuckets_eq_of_layout hlayout
    rw [hpermuted, tableBuckets_eq_of_layout hlayout]
    have hread : (rows.filterMap layout.bucket?).Perm (table.rows.filterMap layout.bucket?) :=
      hrows.filterMap _
    exact ((List.mergeSort_perm _ _).trans hread).trans (List.mergeSort_perm _ _).symm

theorem ascending_tableBuckets (table : Table) (candidates : List String) :
    (tableBuckets table candidates).Pairwise fun a b => a.key ≤ b.key := by
  cases hlayout : Layout.ofSchema? table.schema candidates with
  | none =>
    rw [tableBuckets_eq_nil hlayout]
    exact .nil
  | some layout =>
    rw [tableBuckets_eq_of_layout hlayout]
    exact (stablySorted_sortBuckets _).ascending

theorem tableTotal_perm {table : Table} {rows : List (List Json)} {a b : List Bucket}
    (hrows : rows.Perm table.rows) (hperm : a.Perm b) :
    tableTotal { table with rows } a = tableTotal table b := by
  by_cases hnil : b = []
  · subst hnil
    rw [hperm.eq_nil, tableTotal_nil, tableTotal_nil, hrows.length_eq]
  · have hne : a ≠ [] := fun h => hnil (h ▸ hperm).nil_eq.symm
    rw [tableTotal_of_ne_nil _ hne, tableTotal_of_ne_nil _ hnil, countSum_eq_of_perm hperm]

/-- The histogram of any table holds each readable row once, in the stable order of the
    keys. The order of the rows shows neither in the total nor in the keys. -/
theorem tabulated_histogram (table : Table) (candidates : List String) :
    Tabulated table candidates (histogram table candidates) ∧
      ∀ rows, rows.Perm table.rows →
        (histogram { table with rows } candidates).total = (histogram table candidates).total ∧
          (histogram { table with rows } candidates).buckets.map (·.key) =
            (histogram table candidates).buckets.map (·.key) := by
  refine ⟨tabulated table candidates, fun rows hrows => ⟨?_, ?_⟩⟩
  · exact tableTotal_perm hrows (tableBuckets_perm candidates hrows)
  · exact map_key_eq_of_perm (tableBuckets_perm candidates hrows)
      (ascending_tableBuckets _ candidates) (ascending_tableBuckets table candidates)

end TriggerCompose.Preview
