import TriggerCompose.Preview.Table
import TriggerCompose.Proofs.Json.Record
import TriggerCompose.Proofs.Preview.Histogram
import TriggerCompose.Proofs.Preview.NumberTexts

/-!
# Which values are tables

A value is a table if it is an object whose schema and rows have the right shape, where either
may be absent. Nothing else in it can spoil the table: a total that gives no count is as good
as none, and where a bucket is found in the rows no total shows at all.

## Main definitions

* `Preview.TypeOf`, `Preview.ColumnRecord`: the columns that a value describes.
* `Preview.Table.MemberOf`, `Preview.Table.Decoded`: the tables that members describe.
* `Preview.Table.Accepted`: the values that are tables.
* `Preview.Cell.Unusable`: the values that give no count.

## Main statements

* `Preview.Column.ofDocument?_ofValue_iff`: which values are columns.
* `Preview.Table.ofJson_eq_ok_iff`: what a table is read from.
* `Preview.Cell.count?_eq_none_iff`: which values give no count.
* `Preview.Table.decoded_ofJson`: acceptance, and how little the total matters.
-/

namespace TriggerCompose.Preview

open Json (Document Record)

/-! ### Columns -/

/-- The type of a column, which may be left out or be null. -/
inductive TypeOf : Option Json → Option String → Prop
  | absent : TypeOf none none
  | null : TypeOf (some .null) none
  | string (s : String) : TypeOf (some (.string s)) (some s)

/-- The values that describe a column: an object with the fields by name, none of them twice, or
an array with the fields in order. -/
inductive ColumnRecord : Json → Column → Prop
  | object {members : List (String × Json)} {name : String} {type? : Option String}
    (hname : members.lookup "name" = some (.string name))
    (htype : TypeOf (members.lookup "type") type?)
    (honce : ∀ field ∈ ["name", "type"], (members.map (·.1)).count field ≤ 1) :
    ColumnRecord (.object members) { name, type? }
  | name (name : String) : ColumnRecord (.array [.string name]) { name, type? := none }
  | pair (name : String) {type : Json} {type? : Option String} (htype : TypeOf (some type) type?) :
    ColumnRecord (.array [.string name, type]) { name, type? }

namespace Column

section

variable {record : Record} {name : String} (value? : Option Json)
  (hlookup : record.fields.lookup name = value?.map .ofValue)

include hlookup

theorem required_string_iff {s : String} :
    record.required name Document.string? = some s ↔ value? = some (.string s) := by
  rw [Record.required, hlookup]
  cases value? with
  | none => simp
  | some value => cases value <;> simp [Document.ofValue, Document.string?]

theorem nullable_string_iff {s? : Option String} :
    record.nullable name Document.string? = some s? ↔ TypeOf value? s? := by
  rw [Record.nullable, Record.optional, hlookup]
  constructor
  · intro h
    cases value? with
    | none =>
      cases h
      exact .absent
    | some value => cases value <;> cases h <;> constructor
  · rintro (_ | _ | s) <;> rfl

end

theorem ofDocument?_eq_some_iff {document : Document} {c : Column} :
    ofDocument? document = some c ↔
      ∃ record, Record.ofDocument? ["name", "type"] document = some record ∧
        record.required "name" Document.string? = some c.name ∧
          record.nullable "type" Document.string? = some c.type? := by
  obtain ⟨name, type?⟩ := c
  simp [ofDocument?, Option.bind_eq_some_iff]

theorem ofDocument?_object_iff {members : List (String × Json)} {c : Column} :
    ofDocument? (.ofValue (.object members)) = some c ↔ ColumnRecord (.object members) c := by
  have hname := @Record.lookup_fieldsOf ["name", "type"] "name" (by decide) members
  have htype := @Record.lookup_fieldsOf ["name", "type"] "type" (by decide) members
  rw [ofDocument?_eq_some_iff, Document.ofValue, Record.ofDocument?, Record.read?]
  constructor
  · rintro ⟨record, hrecord, hc, hc'⟩
    obtain ⟨fields, hfields, rfl⟩ := Option.map_eq_some_iff.mp hrecord
    obtain ⟨honce, rfl⟩ := Record.ofMembers?_ofMembers_iff.mp hfields
    exact .object ((required_string_iff _ hname).mp hc) ((nullable_string_iff _ htype).mp hc') honce
  · rintro (@⟨_, name, type?, hc, hc', honce⟩)
    refine ⟨_, Option.map_eq_some_iff.mpr
      ⟨_, Record.ofMembers?_ofMembers_iff.mpr ⟨honce, rfl⟩, rfl⟩, ?_, ?_⟩
    · exact (required_string_iff _ hname).mpr hc
    · exact (nullable_string_iff _ htype).mpr hc'

theorem ofDocument?_array_iff {items : List Json} {c : Column} :
    ofDocument? (.ofValue (.array items)) = some c ↔ ColumnRecord (.array items) c := by
  rw [ofDocument?_eq_some_iff, Document.ofValue, Record.ofDocument?, Record.read?,
    Document.ofValues_eq_map, List.length_map]
  constructor
  · rintro ⟨record, hrecord, hname, htype⟩
    obtain ⟨hlength, ⟨⟩⟩ := Option.ite_none_right_eq_some.mp hrecord
    match items, hlength with
    | [], _ => cases hname
    | [first], _ =>
      have hfirst := (required_string_iff (some first) rfl).mp hname
      have hsecond := (nullable_string_iff none rfl).mp htype
      obtain ⟨name, type?⟩ := c
      cases hfirst
      cases hsecond
      exact .name name
    | [first, second], _ =>
      have hfirst := (required_string_iff (some first) rfl).mp hname
      have hsecond := (nullable_string_iff (some second) rfl).mp htype
      obtain ⟨name, type?⟩ := c
      cases hfirst
      exact .pair name hsecond
  · rintro (_ | name | @⟨name, type, type?, htype⟩)
    · exact ⟨_, rfl, rfl, rfl⟩
    · exact ⟨_, rfl, rfl, (nullable_string_iff (some type) rfl).mpr htype⟩

theorem ofDocument?_ofValue_iff {value : Json} {c : Column} :
    ofDocument? (.ofValue value) = some c ↔ ColumnRecord value c := by
  cases value with
  | object members => exact ofDocument?_object_iff
  | array items => exact ofDocument?_array_iff
  | _ => exact ⟨nofun, nofun⟩

end Column

/-! ### Members and tables -/

namespace Table

/-- The items of a member that may be absent, for which there are none then. -/
inductive MemberOf {α : Type} (shape : Json → List α → Prop) : Option Json → List α → Prop
  | absent : MemberOf shape none []
  | present {value : Json} {xs : List α} (h : shape value xs) : MemberOf shape (some value) xs

/-- An array of columns. -/
def IsSchema (value : Json) (columns : List Column) : Prop :=
  ∃ items, value = .array items ∧ List.Forall₂ ColumnRecord items columns

/-- An array of arrays. -/
def IsRows (value : Json) (rows : List (List Json)) : Prop :=
  value = .array (rows.map .array)

/-- The table that the members of an object describe. -/
structure Decoded (members : List (String × Json)) (table : Table) : Prop where
  schema : MemberOf IsSchema (members.lookup "schema") table.schema
  rows : MemberOf IsRows (members.lookup "datarows") table.rows
  total : table.total? = (members.lookup "total").bind Cell.count?

/-- The values that are tables: objects where the schema, if it is there, is an array of columns,
and the rows, if they are there, are an array of arrays. -/
def Accepted (value : Json) : Prop :=
  ∃ members, value = .object members ∧
    (∀ schema, members.lookup "schema" = some schema →
      ∃ items, schema = .array items ∧ ∀ item ∈ items, ∃ column, ColumnRecord item column) ∧
    ∀ rows, members.lookup "datarows" = some rows →
      ∃ items, rows = .array items ∧ ∀ item ∈ items, ∃ cells, item = .array cells

theorem schema?_eq_some_iff {value : Json} {columns : List Column} :
    schema? value = some columns ↔ IsSchema value columns := by
  cases value with
  | array items =>
    simp only [schema?, Document.mapM_eq_some_iff, Column.ofDocument?_ofValue_iff]
    constructor
    · exact fun h => ⟨items, rfl, h⟩
    · rintro ⟨_, ⟨⟩, h⟩
      exact h
  | _ => exact ⟨nofun, nofun⟩

theorem row?_eq_some_iff {value : Json} {cells : List Json} :
    row? value = some cells ↔ value = .array cells := by
  cases value <;> simp [row?]

theorem rows?_eq_some_iff {value : Json} {rows : List (List Json)} :
    rows? value = some rows ↔ IsRows value rows := by
  cases value with
  | array items =>
    simp only [rows?, Document.mapM_eq_some_iff, row?_eq_some_iff, IsRows, Json.array.injEq]
    rw [← List.forall₂_map_right_iff, List.forall₂_eq_eq_eq]
  | _ => exact ⟨nofun, nofun⟩

theorem member?_eq_some_iff {α : Type} {decode : Json → Option (List α)}
    {shape : Json → List α → Prop} (h : ∀ {value xs}, decode value = some xs ↔ shape value xs)
    {members : List (String × Json)} {name : String} {xs : List α} :
    member? members name decode = some xs ↔ MemberOf shape (members.lookup name) xs := by
  rw [member?]
  cases members.lookup name with
  | none =>
    constructor
    · rintro ⟨⟩
      exact .absent
    · rintro ⟨⟩
      rfl
  | some value =>
    refine h.trans ⟨.present, ?_⟩
    rintro (_ | hshape)
    exact hshape

theorem ofMembers?_eq_some_iff {members : List (String × Json)} {table : Table} :
    ofMembers? members = some table ↔ Decoded members table := by
  simp only [ofMembers?, Option.bind_eq_bind, Option.bind_eq_some_iff,
    member?_eq_some_iff schema?_eq_some_iff, member?_eq_some_iff rows?_eq_some_iff]
  constructor
  · rintro ⟨schema, hschema, rows, hrows, ⟨⟩⟩
    exact ⟨hschema, hrows, rfl⟩
  · rintro ⟨hschema, hrows, htotal⟩
    refine ⟨_, hschema, _, hrows, ?_⟩
    rw [← htotal]
    rfl

theorem ofJson_eq_ok_iff {value : Json} {table : Table} :
    ofJson value = .ok table ↔ ∃ members, value = .object members ∧ Decoded members table := by
  cases value with
  | object members =>
    rw [ofJson]
    constructor
    · intro h
      split at h
      next decoded hdecoded =>
        cases h
        exact ⟨members, rfl, ofMembers?_eq_some_iff.mp hdecoded⟩
      next => cases h
    · rintro ⟨_, ⟨⟩, h⟩
      rw [ofMembers?_eq_some_iff.mpr h]
  | _ => exact ⟨nofun, nofun⟩

theorem exists_memberOf_iff {α : Type} {shape : Json → List α → Prop} {value? : Option Json} :
    (∃ xs, MemberOf shape value? xs) ↔ ∀ value, value? = some value → ∃ xs, shape value xs := by
  constructor
  · rintro ⟨xs, _ | hshape⟩ value ⟨⟩
    exact ⟨xs, hshape⟩
  · intro h
    cases value? with
    | none => exact ⟨[], .absent⟩
    | some value =>
      obtain ⟨xs, hshape⟩ := h value rfl
      exact ⟨xs, .present hshape⟩

theorem exists_isSchema_iff {value : Json} :
    (∃ columns, IsSchema value columns) ↔
      ∃ items, value = .array items ∧ ∀ item ∈ items, ∃ column, ColumnRecord item column := by
  simp only [← Document.exists_forall₂_iff, IsSchema]
  grind

theorem exists_isRows_iff {value : Json} :
    (∃ rows, IsRows value rows) ↔
      ∃ items, value = .array items ∧ ∀ item ∈ items, ∃ cells, item = .array cells := by
  have hrows : ∀ items : List Json, (∀ item ∈ items, ∃ cells, item = .array cells) ↔
      ∃ rows : List (List Json), items = rows.map .array := by
    intro items
    rw [← Document.exists_forall₂_iff]
    simp only [← List.forall₂_map_right_iff, List.forall₂_eq_eq_eq]
  simp only [hrows, IsRows]
  grind

theorem exists_ofJson_iff {value : Json} :
    (∃ table, ofJson value = .ok table) ↔ Accepted value := by
  simp only [ofJson_eq_ok_iff, Accepted, ← exists_isSchema_iff, ← exists_isRows_iff,
    ← exists_memberOf_iff]
  constructor
  · rintro ⟨table, members, rfl, hschema, hrows, -⟩
    exact ⟨members, rfl, ⟨_, hschema⟩, _, hrows⟩
  · rintro ⟨members, rfl, ⟨schema, hschema⟩, rows, hrows⟩
    exact ⟨⟨schema, rows, _⟩, members, rfl, hschema, hrows, rfl⟩

end Table

/-! ### Values without a count -/

namespace Cell

/-- The values that give no count: those that are neither number nor text, the negative numbers,
the texts that are no number texts between blank characters, and the number texts whose nearest
double is negative or infinite. What rounds to zero is a zero, whatever its sign. -/
inductive Unusable : Json → Prop
  | null : Unusable .null
  | boolean (b : Bool) : Unusable (.boolean b)
  | array (items : List Json) : Unusable (.array items)
  | object (members : List (String × Json)) : Unusable (.object members)
  | number {n : Json.Number} (h : n.value < 0) : Unusable (.number n)
  | noNumber {s : String} (h : ∀ spelling : Number.Spelling, spelling.text ≠ Text.trim s.toList) :
    Unusable (.string s)
  | text {s : String} {spelling : Number.Spelling} (htrim : Text.trim s.toList = spelling.text)
    (h : ∀ x, spelling.nearest = .finite x → x.value < 0) : Unusable (.string s)

theorem countOfDouble?_eq_none_iff {x : Double} :
    countOfDouble? x = none ↔ ∀ y, x = .finite y → y.value < 0 := by
  cases x with
  | finite x =>
    rcases value_cases x with ⟨hvalue, hnegative⟩ | ⟨hvalue, hkept⟩
    · have hnone : countOfDouble? (.finite x) = none := if_pos hnegative
      simpa [hnone] using hvalue
    · obtain ⟨count, hcount, -⟩ := countOfDouble?_of_kept hkept
      have hnonneg : 0 ≤ x.value := by
        rw [hvalue]
        positivity
      simpa [hcount] using hnonneg
  | _ => exact ⟨fun _ => nofun, fun _ => rfl⟩

theorem count?_number_eq_none_iff (n : Json.Number) : count? (.number n) = none ↔ n.value < 0 := by
  refine ⟨fun hnone => ?_, (countOf_number n).negative⟩
  by_contra hvalue
  obtain ⟨count, hcount, -⟩ := (countOf_number n).rounded (not_lt.mp hvalue)
  rw [hnone] at hcount
  cases hcount

/-- The text of an unsigned word has no minus, and denotes the integer that the word is. -/
theorem exists_integer?_of_unsigned? {spelling : Number.Spelling} {word : UInt64}
    (h : Number.unsigned? spelling.text = some word) :
    spelling.sign.isNegative = false ∧
      ∃ n : Nat, spelling.integer? = some (n : Int) ∧ n < UInt64.size := by
  have hsign : spelling.sign.isNegative = false := by
    cases hsign : spelling.sign with
    | minus =>
      rw [Number.Spelling.text, hsign] at h
      cases h
    | absent => rfl
    | plus => rfl
  have hhead : spelling.text.head? ≠ some '-' := by
    rintro hhead
    obtain ⟨rest, htext⟩ := List.head?_eq_some_iff.mp hhead
    rw [htext] at h
    cases h
  rw [unsigned?_of_head? hhead, spelling.integer?_text] at h
  obtain ⟨_, hinteger, hword⟩ := Option.bind_eq_some_iff.mp h
  obtain ⟨n, hn, happly⟩ := Option.map_eq_some_iff.mp hinteger
  obtain rfl : (n : Int) = _ := by simpa [Number.Sign.apply, hsign] using happly
  obtain ⟨hlt, -⟩ := Option.ite_none_right_eq_some.mp hword
  exact ⟨hsign, n, hinteger, by exact_mod_cast hlt⟩

/-- The double of an unsigned word is not infinite. -/
theorem exists_countOfDouble?_of_unsigned? {spelling : Number.Spelling} {word : UInt64}
    (h : Number.unsigned? spelling.text = some word) :
    ∃ count, countOfDouble? spelling.nearest = some count := by
  obtain ⟨hsign, n, hinteger, hlt⟩ := exists_integer?_of_unsigned? h
  let largest : Magnitude := ⟨Magnitude.count - 1, by decide⟩
  have hlargest : UInt64.size * 2 ^ Magnitude.unitPlaces ≤ largest.units := by decide +kernel
  have hunits : Decimal.units { coefficient := n, exponent := 0 } ≤ largest.units := by
    rw [Decimal.units, zpow_zero, mul_one]
    exact_mod_cast (Nat.mul_le_mul_right _ hlt.le).trans hlargest
  have hnearest := Double.isNearest_ofDecimal false { coefficient := n, exponent := 0 }
  obtain ⟨x, hx, hnegative⟩ := hnearest.exists_finite largest hunits
  rw [spelling.nearest_of_integer? hinteger, hsign, Int.natAbs_natCast, hx]
  obtain ⟨count, hcount, -⟩ := countOfDouble?_of_kept (x := x) (by simp [hnegative])
  exact ⟨count, hcount⟩

theorem count?_text_eq_none_iff {s : String} {spelling : Number.Spelling}
    (htrim : Text.trim s.toList = spelling.text) :
    count? (.string s) = none ↔ countOfDouble? spelling.nearest = none := by
  rw [count?, countOfText?, htrim, Option.or_eq_none_iff, spelling.ofText?_text, Option.bind_some]
  refine ⟨And.right, fun hnone => ⟨?_, hnone⟩⟩
  refine Option.eq_none_iff_forall_ne_some.mpr fun word hword => ?_
  obtain ⟨count, hcount⟩ := exists_countOfDouble?_of_unsigned? hword
  rw [hnone] at hcount
  cases hcount

theorem count?_of_noNumber {s : String}
    (h : ∀ spelling : Number.Spelling, spelling.text ≠ Text.trim s.toList) :
    count? (.string s) = none := by
  have hword : ∀ negative word, (Double.ofWord? negative word).bind countOfDouble? = none := by
    intro negative word
    unfold Double.ofWord?
    simp only
    split_ifs <;> rfl
  have hunsigned : Number.unsigned? (Text.trim s.toList) = none := by
    refine Option.eq_none_iff_forall_ne_some.mpr fun word hsome => ?_
    unfold Number.unsigned? at hsome
    split at hsome
    next => cases hsome
    next =>
      obtain ⟨n, hn, -⟩ := Option.bind_eq_some_iff.mp hsome
      obtain ⟨spelling, htext⟩ := Number.exists_spelling_of_integer? hn
      exact h spelling htext
  rw [count?, countOfText?, hunsigned, Number.ofText?_of_forall_text_ne h, hword]
  rfl

theorem count?_eq_none_iff {value : Json} : count? value = none ↔ Unusable value := by
  cases value with
  | null => exact ⟨fun _ => .null, fun _ => rfl⟩
  | boolean b => exact ⟨fun _ => .boolean b, fun _ => rfl⟩
  | array items => exact ⟨fun _ => .array items, fun _ => rfl⟩
  | object members => exact ⟨fun _ => .object members, fun _ => rfl⟩
  | number n =>
    rw [count?_number_eq_none_iff]
    constructor
    · exact .number
    · rintro (_ | _ | _ | _ | h)
      exact h
  | string s =>
    constructor
    · intro hnone
      by_cases hspelling : ∃ spelling : Number.Spelling, spelling.text = Text.trim s.toList
      · obtain ⟨spelling, htext⟩ := hspelling
        rw [count?_text_eq_none_iff htext.symm, countOfDouble?_eq_none_iff] at hnone
        exact .text htext.symm hnone
      · exact .noNumber (not_exists.mp hspelling)
    · rintro (_ | _ | _ | _ | _ | h | ⟨htrim, h⟩)
      · exact count?_of_noNumber h
      · exact (count?_text_eq_none_iff htrim).mpr (countOfDouble?_eq_none_iff.mpr h)

end Cell

/-! ### Series -/

namespace Table

/-- There is no total, or one that gives no count. -/
def LacksTotal (members : List (String × Json)) : Prop :=
  ∀ total, members.lookup "total" = some total → Cell.Unusable total

/-- Two objects that have one schema and the same rows. -/
def SameData (members others : List (String × Json)) : Prop :=
  ∀ name ∈ ["schema", "datarows"], others.lookup name = members.lookup name

theorem bind_count?_of_lacksTotal {members : List (String × Json)} (h : LacksTotal members) :
    (members.lookup "total").bind Cell.count? = none := by
  rw [Option.bind_eq_none_iff]
  exact fun total htotal => Cell.count?_eq_none_iff.mpr (h total htotal)

/-- Objects with the same data describe the same table, each with its own total. -/
theorem Decoded.of_sameData {members others : List (String × Json)} {table : Table}
    (h : Decoded members table) (hsame : SameData members others) :
    Decoded others { table with total? := (others.lookup "total").bind Cell.count? } where
  schema := by
    rw [hsame "schema" (by decide)]
    exact h.schema
  rows := by
    rw [hsame "datarows" (by decide)]
    exact h.rows
  total := rfl

/-- Where there are buckets the total of the table is not looked at. -/
theorem histogram_total {table : Table} {candidates : List String}
    (hne : (histogram table candidates).buckets ≠ []) (total? : Option UInt64) :
    histogram { table with total? } candidates = histogram table candidates := by
  have hne : tableBuckets table candidates ≠ [] := hne
  have htotal : tableTotal { table with total? } (tableBuckets table candidates) =
      tableTotal table (tableBuckets table candidates) := by
    rw [tableTotal_of_ne_nil _ hne, tableTotal_of_ne_nil _ hne]
  exact congrArg (Series.mk (tableBuckets table candidates)) htotal

/-- Only the shape of the schema and the rows decides whether a value is a table. A total that
gives no count leaves the series as it is without a total, and where the series has a bucket
every total does. -/
theorem decoded_ofJson (value : Json) (candidates : List String) :
    ((∃ table, ofJson value = .ok table) ↔ Accepted value) ∧
      ∀ members table, value = .object members → ofJson value = .ok table →
        ∀ others, SameData members others →
          ∃ changed, ofJson (.object others) = .ok changed ∧
            (LacksTotal members → LacksTotal others →
              histogram changed candidates = histogram table candidates) ∧
            ((histogram table candidates).buckets ≠ [] →
              histogram changed candidates = histogram table candidates) := by
  refine ⟨exists_ofJson_iff, ?_⟩
  rintro members table rfl htable others hsame
  obtain ⟨_, ⟨⟩, hdecoded⟩ := ofJson_eq_ok_iff.mp htable
  refine ⟨_, ofJson_eq_ok_iff.mpr ⟨others, rfl, hdecoded.of_sameData hsame⟩, ?_, ?_⟩
  · intro hlacks hlacks'
    have htotal := hdecoded.total
    rw [bind_count?_of_lacksTotal hlacks] at htotal
    rw [bind_count?_of_lacksTotal hlacks', ← htotal]
  · intro hne
    exact histogram_total hne _

theorem sameData_cons_total (members : List (String × Json)) (total : Json) :
    SameData members (("total", total) :: members) := by
  intro name hname
  rcases List.mem_pair.mp hname with rfl | rfl <;> rfl

/-- A negative total is passed over, so that the rows are counted, and where a row gives a
bucket no total is looked at, not even one that is a count. -/
theorem decoded_ofJson_negative_total :
    let data := [("datarows", Json.array [.array [], .array []])]
    let total := Json.number (.integer (-5) (by decide))
    let counted := [("schema", Json.array [.array [.string "window"], .array [.string "count"]]),
      ("datarows", Json.array [.array [.number (.integer 60000 (by decide)), .string "3"]])]
    let count := Json.number (.integer 9 (by decide))
    (SameData data (("total", total) :: data) ∧ LacksTotal data ∧
      LacksTotal (("total", total) :: data) ∧
        ∃ table changed, ofJson (.object data) = .ok table ∧
          ofJson (.object (("total", total) :: data)) = .ok changed ∧
            histogram changed [] = histogram table [] ∧ (histogram changed []).total = 2) ∧
      SameData counted (("total", count) :: counted) ∧
        ∃ table changed, ofJson (.object counted) = .ok table ∧
          ofJson (.object (("total", count) :: counted)) = .ok changed ∧
            table.total? = none ∧ changed.total? = some 9 ∧
              (histogram table []).buckets = [{ key := 60000, docCount := 3 }] ∧
                histogram changed [] = histogram table [] := by
  intro data total counted count
  have hsame := sameData_cons_total data total
  have hsame' := sameData_cons_total counted count
  constructor
  · have hunusable : Cell.Unusable total := .number (by norm_num [Json.Number.value])
    have hlacks : LacksTotal data := by
      rintro _ ⟨⟩
    have hlacks' : LacksTotal (("total", total) :: data) := by
      rintro _ ⟨⟩
      exact hunusable
    obtain ⟨table, htable⟩ : ∃ table, ofJson (.object data) = .ok table := ⟨_, rfl⟩
    obtain ⟨changed, hchanged, hseries, -⟩ :=
      (decoded_ofJson (.object data) []).2 data table rfl htable _ hsame
    refine ⟨hsame, hlacks, hlacks', table, changed, htable, hchanged, hseries hlacks hlacks', ?_⟩
    rw [hseries hlacks hlacks']
    cases htable
    rfl
  · obtain ⟨table, htable⟩ : ∃ table, ofJson (.object counted) = .ok table := ⟨_, rfl⟩
    obtain ⟨changed, hchanged, -, hseries⟩ :=
      (decoded_ofJson (.object counted) []).2 counted table rfl htable _ hsame'
    have hbuckets : (histogram table []).buckets = [{ key := 60000, docCount := 3 }] := by
      cases htable
      decide +kernel
    have hne : (histogram table []).buckets ≠ [] := by
      rw [hbuckets]
      exact List.cons_ne_nil _ _
    refine ⟨hsame', table, changed, htable, hchanged, ?_, ?_, hbuckets, hseries hne⟩
    · cases htable
      rfl
    · cases hchanged
      decide +kernel

/-- A null is as good as no total, but it is no schema. -/
example : (ofMembers? [("total", .null)]).isSome = true ∧
    (ofMembers? [("schema", .null)]).isSome = false :=
  ⟨rfl, rfl⟩

end Table

end TriggerCompose.Preview
