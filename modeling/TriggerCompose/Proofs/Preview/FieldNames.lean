import TriggerCompose.Preview.Query
import TriggerCompose.Proofs.Text.Letters
import Mathlib.Data.List.Basic

/-!
# Field names in queries

Where a field name stands in the text of a query, and how it is written there. A candidate
is found where it stands as a whole, cut out by what is before it and after it. A name that
holds no backtick is written so that a reader knows where it ends, plain or quoted.

## Main definitions

* `Preview.StandsIn`: a name stands in a text as a whole.
* `Preview.Place`: where it does.
* `Preview.readName`: the field name at the front of a text.
* `Preview.Spells`: how a field name is written.

## Main statements

* `Preview.findTimestamp?_eq_some_iff`: which candidate is found.
* `Preview.firstPlaced_findTimestamp?`: the same by the places of the candidates.
* `Preview.readName_fieldName`: a written name is read back.
-/

namespace TriggerCompose.Preview

open Settings (hasBacktick backtick)

/-! ### Names that stand in a text -/

/-- A name stands in a text, with nothing before it that joins it and nothing after it that
    continues it. -/
def StandsIn (name text : List Char) : Prop :=
  ∃ before after, text = before ++ (name ++ after) ∧ before.getLast?.any joinsName = false ∧
    after.head?.any continuesName = false

theorem startsDelimited_iff {name text : List Char} :
    startsDelimited name text = true ↔
      ∃ after, text = name ++ after ∧ after.head?.any continuesName = false := by
  rw [startsDelimited]
  cases hread : List.isPrefixOf? name text with
  | none =>
    refine iff_of_false (by simp) ?_
    rintro ⟨after, rfl, -⟩
    rw [List.isPrefixOf?_eq_some_iff_append_eq.mpr rfl] at hread
    cases hread
  | some rest =>
    rw [List.isPrefixOf?_eq_some_iff_append_eq] at hread
    subst hread
    simp only [Bool.not_eq_true', List.append_cancel_left_eq]
    constructor
    · intro hrest
      exact ⟨rest, rfl, hrest⟩
    · rintro ⟨after, rfl, hafter⟩
      exact hafter

theorem joins_getLast?_cons (c : Char) (before : List Char) (joined : Bool) :
    ((c :: before).getLast?.map joinsName).getD joined =
      (before.getLast?.map joinsName).getD (joinsName c) := by
  rw [List.getLast?_cons]
  cases before.getLast? <;> rfl

/-- The scan finds a name at any place. At the front of the text the flag says what stands
    before it. -/
theorem occursDelimited_iff {name text : List Char} (joined : Bool) :
    occursDelimited name joined text = true ↔
      ∃ before after, text = before ++ (name ++ after) ∧
        (before.getLast?.map joinsName).getD joined = false ∧
        after.head?.any continuesName = false := by
  induction text generalizing joined with
  | nil =>
    rw [occursDelimited, Bool.and_eq_true, Bool.not_eq_true', startsDelimited_iff]
    constructor
    · rintro ⟨hjoined, after, htext, hafter⟩
      exact ⟨[], after, htext, hjoined, hafter⟩
    · rintro ⟨before, after, htext, hbefore, hafter⟩
      obtain ⟨rfl, hname⟩ := List.append_eq_nil_iff.mp htext.symm
      exact ⟨hbefore, after, hname.symm, hafter⟩
  | cons c rest ih =>
    -- The name is at the front, where the flag decides, or in the rest, behind `c`.
    rw [occursDelimited, Bool.or_eq_true, Bool.and_eq_true, Bool.not_eq_true', startsDelimited_iff,
      ih]
    constructor
    · rintro (⟨hjoined, after, htext, hafter⟩ | ⟨before, after, rfl, hbefore, hafter⟩)
      · exact ⟨[], after, htext, hjoined, hafter⟩
      · rw [← joins_getLast?_cons c before joined] at hbefore
        exact ⟨c :: before, after, rfl, hbefore, hafter⟩
    · rintro ⟨before, after, htext, hbefore, hafter⟩
      cases before with
      | nil => exact .inl ⟨hbefore, after, htext, hafter⟩
      | cons d before =>
        obtain ⟨rfl, rfl⟩ := List.cons.inj htext
        rw [joins_getLast?_cons] at hbefore
        exact .inr ⟨before, after, rfl, hbefore, hafter⟩

theorem occursDelimited_iff_standsIn {name text : List Char} :
    occursDelimited name false text = true ↔ StandsIn name text := by
  have hlast : ∀ before : List Char,
      (before.getLast?.map joinsName).getD false = before.getLast?.any joinsName := by
    intro before
    cases before.getLast? <;> rfl
  simp only [occursDelimited_iff, StandsIn, hlast]

/-- The candidate that is found stands in the query, and none before it does. -/
theorem findTimestamp?_eq_some_iff {query : List Char} {candidates : List String} {field : String} :
    findTimestamp? query candidates = some field ↔ StandsIn field.toList query ∧
      ∃ earlier later, candidates = earlier ++ field :: later ∧
        ∀ c ∈ earlier, ¬ StandsIn c.toList query := by
  simp only [findTimestamp?, List.find?_eq_some_iff_append, occursDelimited_iff_standsIn,
    Bool.not_eq_true', ← Bool.not_eq_true]

theorem findTimestamp?_eq_none_iff {query : List Char} {candidates : List String} :
    findTimestamp? query candidates = none ↔ ∀ c ∈ candidates, ¬ StandsIn c.toList query := by
  simp only [findTimestamp?, List.find?_eq_none, occursDelimited_iff_standsIn]

/-! ### Places of candidates -/

/-- An ASCII letter or digit, or an underscore. -/
def IsNameChar (c : Char) : Prop :=
  ('A' ≤ c ∧ c ≤ 'Z') ∨ ('a' ≤ c ∧ c ≤ 'z') ∨ ('0' ≤ c ∧ c ≤ '9') ∨ c = '_'

theorem continuesName_iff {c : Char} : continuesName c = true ↔ IsNameChar c := by
  rw [continuesName, Bool.or_eq_true, Text.isAlphanum_iff, beq_iff_eq, or_assoc, or_assoc]
  rfl

theorem joinsName_iff {c : Char} : joinsName c = true ↔ IsNameChar c ∨ c = '@' ∨ c = '.' := by
  simp only [joinsName, Bool.or_eq_true, beq_iff_eq, continuesName_iff, or_assoc]

/-- A place of a name in a text, character by character, between its two sides. A side is
    empty, or the character of it that is next to the name is not one of a name; on the left
    side the signs `@` and `.` count as such. -/
structure Place (before name after text : List Char) : Prop where
  text_eq : text = before ++ name ++ after
  left : ∀ c ∈ before.getLast?, ¬ (IsNameChar c ∨ c = '@' ∨ c = '.')
  right : ∀ c ∈ after.head?, ¬ IsNameChar c

theorem standsIn_iff_place {name text : List Char} :
    StandsIn name text ↔ ∃ before after, Place before name after text := by
  have hside : ∀ {p : Char → Bool} {c? : Option Char},
      c?.any p = false ↔ ∀ c ∈ c?, ¬ p c = true := by
    intro p c?
    rw [Option.any_eq_false]
    simp only [Bool.not_eq_true]
    rfl
  simp only [StandsIn, hside, joinsName_iff, continuesName_iff, ← List.append_assoc]
  constructor
  · rintro ⟨before, after, htext, hleft, hright⟩
    exact ⟨before, after, htext, hleft, hright⟩
  · rintro ⟨before, after, hplace⟩
    exact ⟨before, after, hplace.text_eq, hplace.left, hplace.right⟩

/-- The candidate that is found has a place in the query, wherever it occurs without one, and no
    candidate before it in the list has any. Nothing is found just if no candidate has a place. -/
theorem firstPlaced_findTimestamp? (query : List Char) (candidates : List String) :
    (∀ field, findTimestamp? query candidates = some field ↔
      ∃ earlier later, candidates = earlier ++ field :: later ∧
        (∃ before after, Place before field.toList after query) ∧
        ∀ c ∈ earlier, ∀ before after, ¬ Place before c.toList after query) ∧
      (findTimestamp? query candidates = none ↔
        ∀ c ∈ candidates, ∀ before after, ¬ Place before c.toList after query) := by
  have habsent : ∀ c : String, ¬ StandsIn c.toList query ↔
      ∀ before after, ¬ Place before c.toList after query := by
    intro c
    rw [standsIn_iff_place]
    push Not
    rfl
  refine ⟨fun field => ?_, ?_⟩
  · rw [findTimestamp?_eq_some_iff, standsIn_iff_place]
    simp only [habsent]
    constructor
    · rintro ⟨hplace, earlier, later, hsplit, hearlier⟩
      exact ⟨earlier, later, hsplit, hplace, hearlier⟩
    · rintro ⟨earlier, later, hsplit, hplace, hearlier⟩
      exact ⟨hplace, earlier, later, hsplit, hearlier⟩
  · simp only [findTimestamp?_eq_none_iff, habsent]

/-- A candidate with characters of patterns in it is found at its second occurrence, and one in
    front of it that only occurs behind an `@` is passed over. -/
theorem firstPlaced_findTimestamp?_pattern :
    let query := "where @ts > xt.* | sort t.*".toList
    findTimestamp? query ["ts", "t.*", "sort"] = some "t.*" ∧
      (∃ before after, Place before "t.*".toList after query) ∧
      ∀ before after, ¬ Place before "ts".toList after query := by
  intro query
  have hfound : findTimestamp? query ["ts", "t.*", "sort"] = some "t.*" := by decide
  obtain ⟨earlier, later, hsplit, hplace, hearlier⟩ :=
    ((firstPlaced_findTimestamp? query _).1 "t.*").mp hfound
  refine ⟨hfound, hplace, hearlier "ts" ?_⟩
  -- The candidate that was found is not the first of the list.
  cases earlier with
  | nil => exact absurd (List.cons.inj hsplit).1 (by decide)
  | cons first earlier =>
    obtain ⟨rfl, -⟩ := List.cons.inj hsplit
    exact List.mem_cons_self

/-! ### Written names -/

/-- A character that a name without quotes may hold. -/
def isPlainChar (c : Char) : Bool :=
  c.isAlphanum || c == '_' || c == '.'

/-- A name that is written without quotes: a letter or an underscore, and after it letters,
    digits, underscores and points. -/
def IsPlain (field : String) : Prop :=
  ∃ first rest, field.toList = first :: rest ∧ (first.isAlpha ∨ first = '_') ∧
    ∀ c ∈ rest, isPlainChar c

theorem isPlainField_iff {field : String} : isPlainField field = true ↔ IsPlain field := by
  rw [isPlainField]
  cases hfield : field.toList with
  | nil => simp [IsPlain, hfield]
  | cons first rest =>
    simp only [Bool.and_eq_true, Bool.or_eq_true, beq_iff_eq, List.all_eq_true, IsPlain, hfield,
      List.cons.injEq, isPlainChar]
    constructor
    · rintro ⟨hfirst, hrest⟩
      exact ⟨first, rest, ⟨rfl, rfl⟩, hfirst, hrest⟩
    · rintro ⟨first', rest', ⟨rfl, rfl⟩, hfirst, hrest⟩
      exact ⟨hfirst, hrest⟩

theorem IsPlain.isPlainChar_of_mem {field : String} (hfield : IsPlain field) {c : Char}
    (hc : c ∈ field.toList) : isPlainChar c := by
  obtain ⟨first, rest, hchars, hfirst, hrest⟩ := hfield
  rw [hchars] at hc
  rcases List.mem_cons.mp hc with rfl | hc
  · rcases hfirst with hletter | rfl
    · simp [isPlainChar, Char.isAlphanum, hletter]
    · rfl
  · exact hrest c hc

theorem hasBacktick_eq_false_iff {s : String} : hasBacktick s = false ↔ backtick ∉ s.toList := by
  simp [hasBacktick]

theorem IsPlain.hasBacktick_eq_false {field : String} (hfield : IsPlain field) :
    hasBacktick field = false := by
  rw [hasBacktick_eq_false_iff]
  intro hmem
  exact absurd (hfield.isPlainChar_of_mem hmem) (by decide)

theorem isPlain_of_isIdentifier {field : String} (hfield : Settings.isIdentifier field = true) :
    IsPlain field := by
  rw [Settings.isIdentifier] at hfield
  split at hfield
  next => cases hfield
  next first rest hchars =>
    rw [Bool.and_eq_true, Bool.or_eq_true, beq_iff_eq, List.all_eq_true] at hfield
    refine ⟨first, rest, hchars, hfield.1, fun c hc => ?_⟩
    rw [isPlainChar, hfield.2 c hc, Bool.true_or]

/-- Reads the field name at the front of a text: up to the backtick that closes a quoted
    name, and otherwise as far as a plain one can go. -/
def readName : List Char → List Char × List Char
  | [] => ([], [])
  | c :: rest =>
    if c = backtick then
      (rest.takeWhile (· != backtick), (rest.dropWhile (· != backtick)).tail)
    else ((c :: rest).takeWhile isPlainChar, (c :: rest).dropWhile isPlainChar)

theorem readName_plain {field : String} (hfield : IsPlain field) {rest : List Char}
    (hrest : rest.head?.any isPlainChar = false) :
    readName (field.toList ++ rest) = (field.toList, rest) := by
  have hchars : ∀ c ∈ field.toList, isPlainChar c := fun c hc => hfield.isPlainChar_of_mem hc
  obtain ⟨first, later, hcons, -, -⟩ := hfield
  obtain ⟨htake, hdrop⟩ := Text.span_append hchars hrest
  have hfirst : first ≠ backtick := by
    rintro rfl
    exact absurd (hchars backtick (by simp [hcons])) (by decide)
  rw [hcons, List.cons_append] at htake hdrop
  rw [hcons, List.cons_append, readName, if_neg hfirst, htake, hdrop]

theorem readName_quoted {field : List Char} (hfield : backtick ∉ field) (rest : List Char) :
    readName (backtick :: (field ++ backtick :: rest)) = (field, rest) := by
  have hchars : ∀ c ∈ field, (c != backtick) = true := by
    intro c hc
    rw [bne_iff_ne]
    rintro rfl
    exact hfield hc
  have hclose : (backtick :: rest).head?.any (· != backtick) = false := by
    rw [List.head?_cons, Option.any_some, bne_self_eq_false]
  obtain ⟨htake, hdrop⟩ := Text.span_append hchars hclose
  rw [readName, if_pos rfl, htake, hdrop, List.tail_cons]

/-- How a field name is written: as it is if it is plain, and between backticks otherwise.
    In either form it is read back, in front of any text that does not go on with a character
    of a plain name. -/
structure Spells (written field : String) : Prop where
  plain : IsPlain field → written = field
  quoted : ¬ IsPlain field →
    written = String.singleton backtick ++ field ++ String.singleton backtick
  readBack : ∀ rest, rest.head?.any isPlainChar = false →
    readName (written.toList ++ rest) = (field.toList, rest)

/-- A name without a backtick is read back as it was written. -/
theorem readName_fieldName {field : String} (hfield : hasBacktick field = false)
    {rest : List Char} (hrest : rest.head?.any isPlainChar = false) :
    readName ((fieldName field).toList ++ rest) = (field.toList, rest) := by
  by_cases hplain : isPlainField field
  · rw [fieldName, if_pos hplain]
    exact readName_plain (isPlainField_iff.mp hplain) hrest
  · rw [fieldName, if_neg hplain]
    have htext : (String.singleton backtick ++ field ++ String.singleton backtick).toList ++ rest =
        backtick :: (field.toList ++ backtick :: rest) := by
      simp
    rw [htext]
    exact readName_quoted (hasBacktick_eq_false_iff.mp hfield) rest

theorem spells_fieldName {field : String} (hfield : hasBacktick field = false) :
    Spells (fieldName field) field where
  plain hplain := if_pos (isPlainField_iff.mpr hplain)
  quoted hplain := if_neg fun h => hplain (isPlainField_iff.mp h)
  readBack _ hrest := readName_fieldName hfield hrest

end TriggerCompose.Preview
