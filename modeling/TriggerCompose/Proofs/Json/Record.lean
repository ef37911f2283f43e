import TriggerCompose.Json.Record
import TriggerCompose.Proofs.Json.Pretty
import TriggerCompose.Proofs.SortedMap
import Mathlib.Data.List.Forall2

/-!
# Decoding values that were encoded

What the decoders make of documents that are values: lists and maps decode when their items
do, a record is found in an object that gives none of its fields twice, an optional value
decodes to itself, and a value of bounded depth can be valued.

## Main definitions

* `Json.Record.fieldsOf`: the members of an object that are fields.
* `Json.HasValue`: a value that can be valued as a document.

## Main statements

* `Json.Document.list?_ofValue`, `Json.Document.map?_ofValue`: lists and maps.
* `Json.Document.mapM_eq_some_iff`: a list decodes item by item.
* `Json.Record.ofMembers?_ofMembers_iff`: the fields of a record in an object.
* `Json.Document.nullable?_ofOption`: optional values.
* `Json.hasValue_array`, `Json.hasValue_object`: one more level.
-/

namespace TriggerCompose.Json

namespace Document

theorem ofValues_eq_map (items : List Json) : ofValues items = items.map ofValue := by
  induction items with
  | nil => rfl
  | cons item items ih => rw [ofValues, ih, List.map_cons]

theorem ofMembers_eq_map (members : List (String × Json)) :
    ofMembers members = members.map fun m => (some m.1, ofValue m.2) := by
  induction members with
  | nil => rfl
  | cons member members ih =>
    obtain ⟨key, value⟩ := member
    rw [ofMembers, ih, List.map_cons]

theorem mapM_eq_some_iff {α β : Type} {decode : α → Option β} {xs : List α} {ys : List β} :
    xs.mapM decode = some ys ↔ List.Forall₂ (fun x y => decode x = some y) xs ys := by
  induction xs generalizing ys with
  | nil =>
    rw [List.mapM_nil, List.forall₂_nil_left_iff]
    exact Option.some_inj.trans eq_comm
  | cons x xs ih =>
    rw [List.mapM_cons, List.forall₂_cons_left_iff]
    simp only [Option.bind_eq_bind, Option.bind_eq_some_iff, ih]
    constructor
    · rintro ⟨y, hy, later, hlater, ⟨⟩⟩
      exact ⟨y, later, hy, hlater, rfl⟩
    · rintro ⟨y, later, hy, hlater, rfl⟩
      exact ⟨y, hy, later, hlater, rfl⟩

theorem exists_forall₂_iff {α β : Type} {related : α → β → Prop} {xs : List α} :
    (∃ ys, List.Forall₂ related xs ys) ↔ ∀ x ∈ xs, ∃ y, related x y := by
  induction xs with
  | nil => exact ⟨fun _ => nofun, fun _ => ⟨[], .nil⟩⟩
  | cons x xs ih =>
    rw [List.forall_mem_cons, ← ih]
    constructor
    · rintro ⟨_, _ | ⟨hx, hxs⟩⟩
      exact ⟨⟨_, hx⟩, _, hxs⟩
    · rintro ⟨⟨y, hx⟩, ys, hxs⟩
      exact ⟨y :: ys, .cons hx hxs⟩

theorem mapM_map_eq_some {α β : Type} {encode : α → β} {decode : β → Option α} {xs : List α}
    (h : ∀ x ∈ xs, decode (encode x) = some x) : (xs.map encode).mapM decode = some xs := by
  rw [mapM_eq_some_iff, List.forall₂_map_left_iff]
  exact List.forall₂_same.mpr h

variable {α : Type} {encode : α → Json} {decode : Document → Option α}

theorem list?_ofValue {xs : List α} (h : ∀ x ∈ xs, decode (ofValue (encode x)) = some x) :
    list? decode (ofValue (.array (xs.map encode))) = some xs := by
  rw [ofValue, list?, ofValues_eq_map, List.map_map]
  exact mapM_map_eq_some h

theorem map?_ofValue {map : SortedMap α}
    (h : ∀ e ∈ map.entries, decode (ofValue (encode e.2)) = some e.2) :
    map? decode (ofValue (.object (map.entries.map fun e => (e.1, encode e.2)))) = some map := by
  have hentries : (map.entries.map fun e => (some e.1, ofValue (encode e.2))).mapM
      (fun m => do return (← m.1, ← decode m.2)) = some map.entries := by
    refine mapM_map_eq_some fun e he => ?_
    simp [h e he]
  rw [ofValue, map?, ofMembers_eq_map, List.map_map]
  change ((map.entries.map fun e => (some e.1, ofValue (encode e.2))).mapM
    (fun m => do return (← m.1, ← decode m.2)) >>= _) = _
  rw [hentries]
  simp [SortedMap.ofList_entries]

/-- An optional value decodes to itself if a value that is there does, and does not look
    like an absent one. -/
theorem nullable?_ofOption {x? : Option α}
    (h : ∀ x, x? = some x → decode (ofValue (encode x)) = some x ∧ ofValue (encode x) ≠ null) :
    nullable? decode (ofValue (Json.ofOption encode x?)) = some x? := by
  cases x? with
  | none => rfl
  | some x =>
    obtain ⟨hdecode, hnull⟩ := h x rfl
    rw [Json.ofOption, nullable?, hdecode]
    · rfl
    · exact hnull

end Document

/-! ### The fields of a record -/

namespace Record

/-- The members that are fields, valued as documents. -/
def fieldsOf (names : List String) (members : List (String × Json)) : List (String × Document) :=
  (members.filter (·.1 ∈ names)).map fun m => (m.1, .ofValue m.2)

theorem ofMembers?_cons (names : List String) (key : String) (value : Document)
    (members : List (Option String × Document)) :
    ofMembers? .ignored names ((some key, value) :: members) =
      (ofMembers? .ignored names members).bind fun fields =>
        if key ∈ names then if fields.any (·.1 == key) then none else some ((key, value) :: fields)
        else some fields := by
  rfl

section

variable {names : List String} {key : String}

theorem fieldsOf_cons_of_mem (hkey : key ∈ names) (value : Json) (members : List (String × Json)) :
    fieldsOf names ((key, value) :: members) =
      (key, .ofValue value) :: fieldsOf names members := by
  simp [fieldsOf, hkey]

theorem fieldsOf_cons_of_not_mem (hkey : key ∉ names) (value : Json)
    (members : List (String × Json)) :
    fieldsOf names ((key, value) :: members) = fieldsOf names members := by
  simp [fieldsOf, hkey]

theorem any_fieldsOf (hkey : key ∈ names) (members : List (String × Json)) :
    (fieldsOf names members).any (·.1 == key) = decide (key ∈ members.map (·.1)) := by
  rw [Bool.eq_iff_iff]
  simp [fieldsOf, hkey]

theorem lookup_fieldsOf (hkey : key ∈ names) (members : List (String × Json)) :
    (fieldsOf names members).lookup key = (members.lookup key).map .ofValue := by
  induction members with
  | nil => rfl
  | cons member members ih =>
    obtain ⟨other, value⟩ := member
    by_cases hother : other = key
    · subst hother
      simp [fieldsOf_cons_of_mem hkey]
    · have hne : (key == other) = false := by simpa using Ne.symm hother
      by_cases hknown : other ∈ names
      · rw [fieldsOf_cons_of_mem hknown, List.lookup_cons, List.lookup_cons, hne]
        exact ih
      · rw [fieldsOf_cons_of_not_mem hknown, List.lookup_cons, hne]
        exact ih

/-- No field stands twice among members with one more in front. -/
theorem once_cons (keys : List String) :
    (∀ name ∈ names, (key :: keys).count name ≤ 1) ↔
      (∀ name ∈ names, keys.count name ≤ 1) ∧ (key ∈ names → key ∉ keys) := by
  simp only [List.count_cons, beq_iff_eq]
  constructor
  · intro h
    refine ⟨fun name hname => Nat.le_of_add_right_le (h name hname), fun hkey => ?_⟩
    have hcount := h key hkey
    rw [if_pos rfl] at hcount
    exact List.count_eq_zero.mp (by omega)
  · rintro ⟨honce, hkey⟩ name hname
    have hcount := honce name hname
    split
    next heq =>
      subst heq
      have := List.count_eq_zero.mpr (hkey hname)
      omega
    next => omega

/-- The fields of an object are found unless one of them is there twice. -/
theorem ofMembers?_ofMembers_iff {members : List (String × Json)}
    {fields : List (String × Document)} :
    ofMembers? .ignored names (Document.ofMembers members) = some fields ↔
      (∀ name ∈ names, (members.map (·.1)).count name ≤ 1) ∧ fieldsOf names members = fields := by
  induction members generalizing fields with
  | nil => simp [Document.ofMembers, ofMembers?, fieldsOf]
  | cons member members ih =>
    obtain ⟨key, value⟩ := member
    rw [Document.ofMembers, ofMembers?_cons, Option.bind_eq_some_iff, List.map_cons, once_cons]
    simp only [ih]
    by_cases hkey : key ∈ names
    · rw [fieldsOf_cons_of_mem hkey]
      constructor
      · rintro ⟨_, ⟨honce, rfl⟩, h⟩
        rw [if_pos hkey, any_fieldsOf hkey] at h
        simp only [decide_eq_true_eq, Option.ite_none_left_eq_some, Option.some.injEq] at h
        exact ⟨⟨honce, fun _ => h.1⟩, h.2⟩
      · rintro ⟨⟨honce, hnew⟩, rfl⟩
        refine ⟨_, ⟨honce, rfl⟩, ?_⟩
        rw [if_pos hkey, any_fieldsOf hkey, if_neg (by simpa using hnew hkey)]
    · rw [fieldsOf_cons_of_not_mem hkey]
      simp [hkey]

end

end Record

/-! ### Values of bounded depth -/

/-- A value that can be valued as a document in which at most `depth` containers are
    nested. -/
def HasValue (depth : Nat) (v : Json) : Prop :=
  ∃ w, (Document.ofValue v).value? depth = some w

theorem hasValue_null (depth : Nat) : HasValue depth null :=
  ⟨null, by simp [Document.ofValue, Document.value?]⟩

theorem hasValue_number (depth : Nat) (n : Json.Number) : HasValue depth (number n) :=
  ⟨number n, by simp [Document.ofValue, Document.value?]⟩

theorem hasValue_string (depth : Nat) (s : String) : HasValue depth (string s) :=
  ⟨string s, by simp [Document.ofValue, Document.value?]⟩

theorem exists_values? {depth : Nat} {items : List Json} (h : ∀ v ∈ items, HasValue depth v) :
    ∃ values, Document.values? depth (Document.ofValues items) = some values := by
  induction items with
  | nil => exact ⟨[], by simp [Document.ofValues, Document.values?]⟩
  | cons item items ih =>
    obtain ⟨⟨value, hvalue⟩, hitems⟩ := List.forall_mem_cons.mp h
    obtain ⟨values, hvalues⟩ := ih hitems
    exact ⟨value :: values, by simp [Document.ofValues, Document.values?, hvalue, hvalues]⟩

theorem exists_members? {depth : Nat} {members : List (String × Json)}
    (h : ∀ m ∈ members, HasValue depth m.2) (done : List (String × Json)) :
    ∃ entries, Document.members? depth (Document.ofMembers members) done = some entries := by
  induction members generalizing done with
  | nil => exact ⟨done, by simp [Document.ofMembers, Document.members?]⟩
  | cons member members ih =>
    obtain ⟨key, item⟩ := member
    obtain ⟨⟨value, hvalue⟩, hmembers⟩ := List.forall_mem_cons.mp h
    obtain ⟨entries, hentries⟩ := ih hmembers (SortedMap.insertEntry key value done)
    exact ⟨entries, by simp [Document.ofMembers, Document.members?, hvalue, hentries]⟩

theorem hasValue_array {depth : Nat} {items : List Json} (h : ∀ v ∈ items, HasValue depth v) :
    HasValue (depth + 1) (array items) := by
  obtain ⟨values, hvalues⟩ := exists_values? h
  exact ⟨array values, by simp [Document.ofValue, Document.value?, hvalues]⟩

theorem hasValue_object {depth : Nat} {members : List (String × Json)}
    (h : ∀ m ∈ members, HasValue depth m.2) : HasValue (depth + 1) (object members) := by
  obtain ⟨entries, hentries⟩ := exists_members? h []
  exact ⟨object entries, by simp [Document.ofValue, Document.value?, hentries]⟩

end TriggerCompose.Json
