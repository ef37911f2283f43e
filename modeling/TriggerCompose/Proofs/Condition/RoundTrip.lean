import TriggerCompose.Proofs.Condition.Script

/-!
# Clause lists read back from their scripts

A script holds everything of a clause list but two things: the connector of the anchor,
which is left out, and whether a threshold was a number or its text. So reading
gives the list back just if neither of them was there to be lost.

## Main definitions

* `Condition.IsPlain`: a text that denotes no finite number.
* `Condition.Clause.ReadBack`: what one clause is read back as.

## Main statements

* `Condition.reread_eq_self_iff`: which lists are read back unchanged.
* `Condition.decompile_compile`: how a list is read back from its script.
-/

namespace TriggerCompose.Condition

/-- A text that denotes no finite number. -/
def IsPlain (s : String) : Prop :=
  ∀ x, Double.ofText? s.toList ≠ some (.finite x)

theorem Threshold.ofToken_of_numeral {s : String} {x : Finite}
    (hs : Double.ofText? s.toList = some (.finite x)) : ofToken s = .number (.finite x) := by
  rw [ofToken, hs]

theorem Threshold.ofToken_eq_text_iff {s : String} : ofToken s = .text s ↔ IsPlain s := by
  constructor
  · intro h x hx
    rw [ofToken_of_numeral hx] at h
    cases h
  · intro h
    rw [ofToken]
    split
    next x hx => exact absurd hx (h x)
    next => rfl

theorem Threshold.reread_eq_self_iff {t : Threshold} :
    t.reread = t ↔ ∀ s, t = .text s → IsPlain s := by
  cases t with
  | number x => simp [reread]
  | text s => simpa [reread] using ofToken_eq_text_iff

theorem Clause.reread_eq_self_iff {c : Clause} {connector? : Option Connector} :
    c.reread connector? = c ↔
      c.connector? = connector? ∧ ∀ s, c.threshold? = some (.text s) → IsPlain s := by
  obtain ⟨connector', field, comparison?, threshold?⟩ := c
  cases threshold? with
  | none => simp [reread, @eq_comm _ connector?]
  | some t => simp [reread, Threshold.reread_eq_self_iff, @eq_comm _ connector?]

theorem Clause.reread_joined_eq_self_iff {c : Clause} {written : Connector} :
    c.reread (some (c.connector?.getD written)) = c ↔
      c.connector? ≠ none ∧ ∀ s, c.threshold? = some (.text s) → IsPlain s := by
  rw [reread_eq_self_iff]
  cases c.connector? <;> simp

theorem reread_eq_self_iff {written : Connector} {clauses : List Clause} :
    reread written clauses = clauses ↔
      (∀ c ∈ clauses.head?, c.connector? = none) ∧ (∀ c ∈ clauses.tail, c.connector? ≠ none) ∧
        ∀ c ∈ clauses, ∀ s, c.threshold? = some (.text s) → IsPlain s := by
  cases clauses with
  | nil => simp [reread]
  | cons anchor later =>
    -- A later clause must bring the connector that is written for it, the anchor none.
    have hlater : (later.map fun c => c.reread (some (c.connector?.getD written))) = later ↔
        ∀ c ∈ later, c.connector? ≠ none ∧ ∀ s, c.threshold? = some (.text s) → IsPlain s := by
      have hmap := List.map_inj_left (l := later) (g := id)
        (f := fun c => c.reread (some (c.connector?.getD written)))
      simpa only [List.map_id, id_eq, Clause.reread_joined_eq_self_iff] using hmap
    rw [reread, List.cons.injEq, hlater, Clause.reread_eq_self_iff]
    simp only [List.head?_cons, List.tail_cons, Option.mem_some_iff, forall_eq',
      List.forall_mem_cons, forall_and]
    constructor
    · rintro ⟨⟨hanchor, hplain⟩, hjoined, hlater⟩
      exact ⟨hanchor, hjoined, hplain, hlater⟩
    · rintro ⟨hanchor, hjoined, hplain, hlater⟩
      exact ⟨⟨hanchor, hplain⟩, hjoined, hlater⟩

theorem length_reread (written : Connector) (clauses : List Clause) :
    (reread written clauses).length = clauses.length := by
  cases clauses <;> simp [reread]

theorem getElem?_reread (written : Connector) (clauses : List Clause) (index : Nat) :
    (reread written clauses)[index]? = clauses[index]?.map fun c =>
      c.reread (if index = 0 then none else some (c.connector?.getD written)) := by
  cases clauses with
  | nil => rfl
  | cons anchor later =>
    cases index with
    | zero => rfl
    | succ index => simp [reread]

/-- What a clause that was written at some place of a script is read back as. A connector
    is written for every clause but the anchor, the given one where the clause has none. -/
structure Clause.ReadBack (written : Connector) (index : Nat) (c r : Clause) : Prop where
  connector : r.connector? = if index = 0 then none else some (c.connector?.getD written)
  field : r.field = c.field
  comparison : r.comparison? = c.comparison?
  number : ∀ x, c.threshold? = some (.number x) → r.threshold? = some (.number x)
  numeral : ∀ s x, c.threshold? = some (.text s) → Double.ofText? s.toList = some (.finite x) →
    r.threshold? = some (.number (.finite x))
  plain : ∀ s, c.threshold? = some (.text s) → IsPlain s → r.threshold? = some (.text s)

theorem Clause.readBack_reread (written : Connector) (index : Nat) (c : Clause) :
    c.ReadBack written index
      (c.reread (if index = 0 then none else some (c.connector?.getD written))) where
  connector := rfl
  field := rfl
  comparison := rfl
  number x hx := by simp [reread, hx, Threshold.reread]
  numeral s x hs hx := by simp [reread, hs, Threshold.reread, Threshold.ofToken_of_numeral hx]
  plain s hs hplain := by
    simp [reread, hs, Threshold.reread, Threshold.ofToken_eq_text_iff.mpr hplain]

/-- A clause list that has a script is read back from it clause by clause: the anchor
    loses its connector, a later clause without one takes the one that stands for it, and
    a text that denotes a finite number becomes that number. Nothing else changes. -/
theorem decompile_compile {clauses : List Clause} {written : Connector} {script : String}
    (hscript : compile clauses written = .ok script) (fallback : Connector) :
    (decompile script fallback).length = clauses.length ∧
      (∀ (index : Nat) (c : Clause), clauses[index]? = some c →
        ∃ r, (decompile script fallback)[index]? = some r ∧ c.ReadBack written index r) ∧
      (decompile script fallback = clauses ↔
        (∀ c ∈ clauses.head?, c.connector? = none) ∧ (∀ c ∈ clauses.tail, c.connector? ≠ none) ∧
          ∀ c ∈ clauses, ∀ s, c.threshold? = some (.text s) → IsPlain s) := by
  rw [decompile_of_compile hscript]
  refine ⟨length_reread written clauses, ?_, reread_eq_self_iff⟩
  intro index c hc
  refine ⟨_, ?_, c.readBack_reread written index⟩
  rw [getElem?_reread, hc, Option.map_some]

/-- A field that starts with the variable mark keeps it, and a number text with its
    exponent cut off stays a text. -/
theorem decompile_compile_marked :
    let clauses : List Clause :=
      [{ connector? := none, field := "params.load", comparison? := some .above,
         threshold? := some (.text "high") },
       { connector? := some .or, field := "errors", comparison? := some .exactly,
         threshold? := some (.text "1e") }]
    let script := "params.params.load > high || params.errors == 1e"
    compile clauses .and = .ok script ∧ decompile script .and = clauses := by
  intro clauses script
  have hscript : compile clauses .and = .ok script := by decide
  have hhigh : Double.ofText? ['h', 'i', 'g', 'h'] = none := by decide
  have hmark : Double.ofText? ['1', 'e'] = none := by decide
  refine ⟨hscript, (decompile_compile hscript .and).2.2.mpr ?_⟩
  simp [clauses, IsPlain, hhigh, hmark]

end TriggerCompose.Condition
