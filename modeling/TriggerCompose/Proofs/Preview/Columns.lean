import TriggerCompose.Proofs.Preview.Histogram
import TriggerCompose.Proofs.Text.Letters

/-!
# Which columns are chosen

A column is chosen by tiers: the leftmost column of the first tier that has any. The count
column is chosen among the columns that the key column leaves. Columns to the right of the key
column change the choice only if one of them is in a higher tier, and a histogram reads no cell
outside the two columns.

## Main definitions

* `Preview.keyTiers`, `Preview.countTiers`: the tiers of the two columns.
* `Preview.Leftmost`: the leftmost column of a tier.
* `Preview.ChosenAt`: the leftmost column of the first tier that has any.
* `Preview.SameCells`: two rows that agree on the cells of the two columns.

## Main statements

* `Preview.keyColumn?_eq_some_iff`, `Preview.countColumn?_eq_some_iff`: the choices.
* `Preview.chosen_columns`: the choices for a schema, and what a histogram reads.
-/

namespace TriggerCompose.Preview

open Text (Mentions FoldsTo IsCaseOf)

/-! ### Tiers -/

/-- The tiers of key columns, the first one first: columns with the name `span`, with a call of
    it for their name, with a name that mentions a bucket or a window, with a type that mentions
    a timestamp, and with the name of a candidate. -/
def keyTiers (candidates : List String) : List (Column → Prop) :=
  [fun c => c.name = "span",
    fun c => ∃ rest, c.name = "span(" ++ rest,
    fun c => Mentions FoldsTo "bucket".toList c.name.toList ∨
      Mentions FoldsTo "window".toList c.name.toList,
    fun c => ∃ type, c.type? = some type ∧ Mentions IsCaseOf "timestamp".toList type.toList,
    fun c => c.name ∈ candidates]

/-- The tiers of count columns: columns with the usual names of a count, and columns with a name
    that may stand for one. -/
def countTiers : List (Column → Prop) :=
  [fun c => c.name = "count" ∨ c.name = "count()",
    fun c => c.name = "doc_count" ∨ c.name = "total" ∨ ∃ rest, c.name = rest ++ "value"]

/-- The columns that pass a test. -/
def passing (test : Column → Bool) (column : Column) : Prop :=
  test column = true

theorem mentionsBucket_iff {name : String} :
    mentionsBucket name ↔ Mentions FoldsTo "bucket".toList name.toList ∨
      Mentions FoldsTo "window".toList name.toList := by
  rw [mentionsBucket, Bool.or_eq_true,
    Text.occursIn_map_foldLetter_iff (List.all_eq_true.mp (by decide)),
    Text.occursIn_map_foldLetter_iff (List.all_eq_true.mp (by decide))]

theorem mentionsTimestamp_iff {type : String} :
    mentionsTimestamp type ↔ Mentions IsCaseOf "timestamp".toList type.toList :=
  Text.occursIn_lowerAscii_iff (List.all_eq_true.mp (by decide))

theorem isPrefixOf_toList_iff {front s : String} :
    front.toList.isPrefixOf s.toList ↔ ∃ rest, s = front ++ rest := by
  rw [List.isPrefixOf_iff_prefix]
  constructor
  · rintro ⟨rest, hrest⟩
    exact ⟨String.ofList rest, String.toList_inj.mp (by simp [hrest])⟩
  · rintro ⟨rest, rfl⟩
    exact ⟨rest.toList, by simp⟩

theorem isSuffixOf_toList_iff {ending s : String} :
    ending.toList.isSuffixOf s.toList ↔ ∃ rest, s = rest ++ ending := by
  rw [List.isSuffixOf_iff_suffix]
  constructor
  · rintro ⟨rest, hrest⟩
    exact ⟨String.ofList rest, String.toList_inj.mp (by simp [hrest])⟩
  · rintro ⟨rest, rfl⟩
    exact ⟨rest.toList, by simp⟩

/-- Tests stand for tiers one by one. -/
abbrev StandFor (tests : List (Column → Bool)) (tiers : List (Column → Prop)) : Prop :=
  List.Forall₂ (fun test tier => ∀ column, test column = true ↔ tier column) tests tiers

theorem standFor_keyTests (candidates : List String) :
    StandFor (keyTests candidates) (keyTiers candidates) := by
  refine .cons ?span (.cons ?call (.cons ?bucket (.cons ?timestamp (.cons ?candidate .nil))))
  case span => exact fun c => beq_iff_eq
  case call => exact fun c => isPrefixOf_toList_iff
  case bucket => exact fun c => mentionsBucket_iff
  case timestamp =>
    intro c
    simp only [Option.any_eq_true, mentionsTimestamp_iff]
  case candidate => exact fun c => List.contains_iff_mem

theorem standFor_countTests : StandFor countTests countTiers := by
  refine .cons ?usual (.cons ?possible .nil)
  case usual =>
    intro c
    rw [Bool.or_eq_true, beq_iff_eq, beq_iff_eq]
  case possible =>
    intro c
    rw [Bool.or_eq_true, Bool.or_eq_true, beq_iff_eq, beq_iff_eq, isSuffixOf_toList_iff, or_assoc]

theorem StandFor.map_passing_eq {tests : List (Column → Bool)} {tiers : List (Column → Prop)}
    (h : StandFor tests tiers) : tests.map passing = tiers := by
  induction h with
  | nil => rfl
  | @cons test tier tests tiers htest _ ih =>
    have htier : passing test = tier := by
      funext column
      exact propext (htest column)
    rw [List.map_cons, htier, ih]

/-! ### The leftmost column -/

/-- No column of a schema is in a tier, apart from a column that is taken. -/
def IsEmptyTier (taken? : Option Nat) (schema : List Column) (tier : Column → Prop) : Prop :=
  ∀ i column, schema[i]? = some column → taken? ≠ some i → ¬ tier column

/-- The position of the leftmost column of a tier, apart from a column that is taken. -/
structure Leftmost (taken? : Option Nat) (schema : List Column) (tier : Column → Prop)
    (index : Nat) : Prop where
  mem : ∃ column, schema[index]? = some column ∧ tier column
  free : taken? ≠ some index
  first : ∀ i < index, ∀ column, schema[i]? = some column → taken? ≠ some i → ¬ tier column

section

variable {taken? : Option Nat} {schema : List Column} {index : Nat}

theorem Leftmost.eq {tier : Column → Prop} {j : Nat} (h : Leftmost taken? schema tier index)
    (hj : Leftmost taken? schema tier j) : index = j := by
  obtain ⟨column, hcolumn, htier⟩ := h.mem
  obtain ⟨column', hcolumn', htier'⟩ := hj.mem
  rcases Nat.lt_trichotomy index j with hlt | heq | hlt
  · exact absurd htier (hj.first index hlt column hcolumn h.free)
  · exact heq
  · exact absurd htier' (h.first j hlt column' hcolumn' hj.free)

theorem Leftmost.lt_length {tier : Column → Prop} (h : Leftmost taken? schema tier index) :
    index < schema.length := by
  obtain ⟨column, hcolumn, -⟩ := h.mem
  exact (List.getElem?_eq_some_iff.mp hcolumn).1

theorem leftmost?_eq_none_iff {test : Column → Bool} :
    leftmost? taken? schema test = none ↔ IsEmptyTier taken? schema (passing test) := by
  simp only [leftmost?, List.findSome?_eq_none_iff, Prod.forall, List.mem_zipIdx_iff_getElem?,
    ite_eq_right_iff, reduceCtorEq, imp_false, not_and, IsEmptyTier, passing]
  exact forall_comm

theorem leftmost_of_leftmost? {test : Column → Bool}
    (h : leftmost? taken? schema test = some index) :
    Leftmost taken? schema (passing test) index := by
  obtain ⟨before, ⟨column, i⟩, after, hsplit, hfound, hbefore⟩ := List.findSome?_eq_some_iff.mp h
  rw [Option.ite_none_right_eq_some, Option.some.injEq] at hfound
  obtain ⟨⟨hfree, htest⟩, rfl⟩ := hfound
  -- The columns before the one that was found carry their own positions.
  obtain ⟨front, rest, rfl, rfl, hrest⟩ := List.zipIdx_eq_append_iff.mp hsplit
  cases rest with
  | nil => cases hrest
  | cons c rest =>
    rw [List.zipIdx_cons, List.cons.injEq, Prod.mk.injEq, Nat.zero_add] at hrest
    obtain ⟨⟨rfl, rfl⟩, -⟩ := hrest
    refine ⟨⟨column, by simp, htest⟩, hfree, ?_⟩
    intro j hj other hother hother' hpass
    rw [List.getElem?_append_left hj] at hother
    have hnone : (if taken? ≠ some j ∧ test other then some j else none) = none :=
      hbefore (other, j) (List.mem_zipIdx_iff_getElem?.mpr hother)
    rw [if_pos ⟨hother', hpass⟩] at hnone
    cases hnone

theorem leftmost?_eq_some_iff {test : Column → Bool} :
    leftmost? taken? schema test = some index ↔ Leftmost taken? schema (passing test) index := by
  refine ⟨leftmost_of_leftmost?, fun h => ?_⟩
  cases hfound : leftmost? taken? schema test with
  | none =>
    obtain ⟨column, hcolumn, htest⟩ := h.mem
    exact absurd htest (leftmost?_eq_none_iff.mp hfound index column hcolumn h.free)
  | some j => rw [(leftmost_of_leftmost? hfound).eq h]

/-! ### The first tier that has a column -/

/-- The position of the leftmost column of a tier, where all higher tiers are empty. -/
structure ChosenFrom (taken? : Option Nat) (schema : List Column)
    (higher : List (Column → Prop)) (tier : Column → Prop) (index : Nat) : Prop where
  empty : ∀ t ∈ higher, IsEmptyTier taken? schema t
  leftmost : Leftmost taken? schema tier index

/-- The position of the leftmost column of the first tier that has any. -/
def ChosenAt (taken? : Option Nat) (schema : List Column) (tiers : List (Column → Prop))
    (index : Nat) : Prop :=
  ∃ higher tier lower, tiers = higher ++ tier :: lower ∧
    ChosenFrom taken? schema higher tier index

variable {tests : List (Column → Bool)} {tiers : List (Column → Prop)}

theorem findSome?_leftmost?_eq_some_iff (htests : StandFor tests tiers) :
    tests.findSome? (leftmost? taken? schema) = some index ↔
      ChosenAt taken? schema tiers index := by
  rw [← htests.map_passing_eq, List.findSome?_eq_some_iff]
  constructor
  · rintro ⟨higher, test, lower, rfl, hfound, hhigher⟩
    refine ⟨higher.map passing, passing test, lower.map passing, by simp, ?_,
      leftmost?_eq_some_iff.mp hfound⟩
    intro t ht
    obtain ⟨test', htest', rfl⟩ := List.mem_map.mp ht
    exact leftmost?_eq_none_iff.mp (hhigher test' htest')
  · rintro ⟨higher, tier, lower, hsplit, hchosen⟩
    obtain ⟨above, rest, rfl, rfl, hrest⟩ := List.map_eq_append_iff.mp hsplit
    obtain ⟨test, below, rfl, rfl, rfl⟩ := List.map_eq_cons_iff.mp hrest
    refine ⟨above, test, below, rfl, leftmost?_eq_some_iff.mpr hchosen.leftmost, ?_⟩
    intro test' htest'
    exact leftmost?_eq_none_iff.mpr (hchosen.empty _ (List.mem_map_of_mem htest'))

theorem findSome?_leftmost?_eq_none_iff (htests : StandFor tests tiers) :
    tests.findSome? (leftmost? taken? schema) = none ↔
      ∀ tier ∈ tiers, IsEmptyTier taken? schema tier := by
  rw [← htests.map_passing_eq, List.findSome?_eq_none_iff, List.forall_mem_map]
  simp only [leftmost?_eq_none_iff]

end

variable {schema : List Column} {candidates : List String}

theorem keyColumn?_eq_some_iff {index : Nat} :
    keyColumn? schema candidates = some index ↔
      ChosenAt none schema (keyTiers candidates) index :=
  findSome?_leftmost?_eq_some_iff (standFor_keyTests candidates)

theorem countColumn?_eq_some_iff {key? : Option Nat} {index : Nat} :
    countColumn? schema key? = some index ↔ ChosenAt key? schema countTiers index :=
  findSome?_leftmost?_eq_some_iff standFor_countTests

theorem ChosenAt.ne_taken {taken? : Option Nat} {tiers : List (Column → Prop)} {index : Nat}
    (h : ChosenAt taken? schema tiers index) : taken? ≠ some index := by
  obtain ⟨_, _, _, -, hchosen⟩ := h
  exact hchosen.leftmost.free

/-! ### Columns to the right -/

section

variable {tier : Column → Prop} {key : Nat}

theorem Leftmost.append (h : Leftmost none schema tier key) (more : List Column) :
    Leftmost none (schema ++ more) tier key := by
  obtain ⟨column, hcolumn, htier⟩ := h.mem
  have hlt := h.lt_length
  have hleft : ∀ i ≤ key, (schema ++ more)[i]? = schema[i]? := fun i hi =>
    List.getElem?_append_left (by omega)
  refine ⟨⟨column, (hleft key (Nat.le_refl key)).trans hcolumn, htier⟩, nofun, ?_⟩
  intro i hi other hother hfree
  exact h.first i hi other ((hleft i (Nat.le_of_lt hi)).symm.trans hother) hfree

/-- Columns to the right of a schema take the choice over just by filling a higher tier. -/
theorem keyColumn?_append_eq_some_iff {higher lower : List (Column → Prop)}
    (hsplit : keyTiers candidates = higher ++ tier :: lower)
    (hchosen : ChosenFrom none schema higher tier key) (more : List Column) :
    keyColumn? (schema ++ more) candidates = some key ↔
      ∀ t ∈ higher, IsEmptyTier none (schema ++ more) t := by
  rw [keyColumn?_eq_some_iff]
  constructor
  · rintro ⟨higher', tier', lower', hsplit', hchosen'⟩ t ht
    rcases List.append_eq_append_iff.mp (hsplit.symm.trans hsplit') with
      ⟨between, rfl, -⟩ | ⟨between, rfl, hbetween⟩
    · exact hchosen'.empty t (List.mem_append_left _ ht)
    · cases between with
      | nil =>
        rw [List.append_nil] at ht
        exact hchosen'.empty t ht
      | cons first between =>
        -- The column would be in a higher tier than its own, and there is none in it.
        obtain ⟨rfl, -⟩ := List.cons.inj hbetween
        obtain ⟨column, hcolumn, htier⟩ := hchosen'.leftmost.mem
        rw [List.getElem?_append_left hchosen.leftmost.lt_length] at hcolumn
        exact absurd htier (hchosen.empty tier' (by simp) key column hcolumn nofun)
  · intro hempty
    exact ⟨higher, tier, lower, hsplit, hempty, hchosen.leftmost.append more⟩

end

/-! ### Cells -/

/-- Two rows agree on the cells of the two columns, which may be missing. -/
def SameCells (schema : List Column) (candidates : List String) (row row' : List Json) : Prop :=
  ∀ key count, keyColumn? schema candidates = some key →
    countColumn? schema (some key) = some count →
      row[key]? = row'[key]? ∧ row[count]? = row'[count]?

theorem filterMap_bucket?_eq {layout : Layout} {rows rows' : List (List Json)}
    (hlayout : Layout.ofSchema? schema candidates = some layout)
    (hrows : List.Forall₂ (SameCells schema candidates) rows rows') :
    rows.filterMap layout.bucket? = rows'.filterMap layout.bucket? := by
  obtain ⟨hkey, hcount⟩ := ofSchema?_eq_some_iff.mp hlayout
  rw [hkey] at hcount
  induction hrows with
  | nil => rfl
  | @cons row row' rows rows' hrow _ ih =>
    obtain ⟨hkeyCell, hcountCell⟩ := hrow _ _ hkey hcount
    have hbucket : layout.bucket? row = layout.bucket? row' := by
      rw [Layout.bucket?, Layout.bucket?, hkeyCell, hcountCell]
    rw [List.filterMap_cons, List.filterMap_cons, hbucket, ih]

/-- A histogram reads nothing of a row but the cells of the two columns. -/
theorem histogram_eq_of_sameCells {a b : Table} (hschema : a.schema = b.schema)
    (htotal : a.total? = b.total?)
    (hrows : List.Forall₂ (SameCells a.schema candidates) a.rows b.rows) :
    histogram a candidates = histogram b candidates := by
  have hbuckets : tableBuckets a candidates = tableBuckets b candidates := by
    rw [tableBuckets, tableBuckets, ← hschema]
    cases hlayout : Layout.ofSchema? a.schema candidates with
    | none => rfl
    | some layout =>
      show sortBuckets _ = sortBuckets _
      rw [filterMap_bucket?_eq hlayout hrows]
  rw [histogram, histogram, hbuckets, tableTotal, tableTotal, htotal, hrows.length_eq]

/-- What is said of the columns that are chosen for a schema. -/
structure Chosen (schema : List Column) (candidates : List String) : Prop where
  key : ∀ index, keyColumn? schema candidates = some index ↔
    ChosenAt none schema (keyTiers candidates) index
  noKey : keyColumn? schema candidates = none ↔
    ∀ tier ∈ keyTiers candidates, IsEmptyTier none schema tier
  count : ∀ key? index, countColumn? schema key? = some index ↔
    ChosenAt key? schema countTiers index
  noCount : ∀ key?, countColumn? schema key? = none ↔
    ∀ tier ∈ countTiers, IsEmptyTier key? schema tier
  /-- Both are positions of the schema, and they differ. -/
  keyPosition : ∀ key, keyColumn? schema candidates = some key → key < schema.length
  countPosition : ∀ key? count, countColumn? schema key? = some count →
    count < schema.length ∧ key? ≠ some count
  /-- Columns to the right take the choice over just by filling a higher tier. -/
  appended : ∀ higher tier lower key, keyTiers candidates = higher ++ tier :: lower →
    ChosenFrom none schema higher tier key → ∀ more,
      (keyColumn? (schema ++ more) candidates = some key ↔
        ∀ t ∈ higher, IsEmptyTier none (schema ++ more) t)

/-- Of every schema the leftmost columns of the first tiers are chosen, and a histogram reads no
    cell but those of the two columns. -/
theorem chosen_columns (schema : List Column) (candidates : List String) :
    Chosen schema candidates ∧
      ∀ a b : Table, a.schema = schema → b.schema = schema → a.total? = b.total? →
        List.Forall₂ (SameCells schema candidates) a.rows b.rows →
          histogram a candidates = histogram b candidates := by
  refine ⟨?_, ?_⟩
  · exact {
      key := fun _ => keyColumn?_eq_some_iff
      noKey := findSome?_leftmost?_eq_none_iff (standFor_keyTests candidates)
      count := fun _ _ => countColumn?_eq_some_iff
      noCount := fun _ => findSome?_leftmost?_eq_none_iff standFor_countTests
      keyPosition := fun _ hkey => lt_length_of_keyColumn? hkey
      countPosition := fun _ _ hcount =>
        ⟨lt_length_of_countColumn? hcount, (countColumn?_eq_some_iff.mp hcount).ne_taken⟩
      appended := fun _ _ _ _ hsplit hchosen more =>
        keyColumn?_append_eq_some_iff hsplit hchosen more }
  · rintro a b rfl hschema htotal hrows
    exact histogram_eq_of_sameCells hschema.symm htotal hrows

/-- The key is claimed first, and a whole tier is searched before the next one. -/
example :
    keyColumn? [⟨"count", some "TIMESTAMP"⟩, ⟨"window_value", none⟩, ⟨"value", none⟩] [] = some 1 ∧
      countColumn? [⟨"count", some "TIMESTAMP"⟩, ⟨"window_value", none⟩, ⟨"value", none⟩] (some 1) =
        some 0 := by
  decide

end TriggerCompose.Preview
