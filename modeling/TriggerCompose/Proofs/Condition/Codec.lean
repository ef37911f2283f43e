import TriggerCompose.Condition.Codec
import TriggerCompose.Proofs.Json.Record

/-!
# Conditions decode from their JSON

Selectors and clauses decode from the documents that they encode to. The only thing that
JSON cannot hold is a threshold that is not finite.

## Main definitions

* `Condition.Threshold.Printable`: a threshold that JSON can hold.

## Main statements

* `Condition.Selector.ofDocument?_toJson`: selectors.
* `Condition.Clause.ofDocument?_toJson`: clauses.
* `Condition.clauseList?_toJson`: the clauses of a form.
-/

namespace TriggerCompose.Condition

open Json (Document HasValue)

/-! ### Selectors -/

theorem Script.ofDocument?_toJson (s : Script) : ofDocument? (.ofValue s.toJson) = some s := by
  rfl

theorem bindings?_ofValue (map : SortedMap String) :
    Document.map? Document.string?
      (.ofValue (.object (map.entries.map fun (key, path) => (key, .string path)))) = some map :=
  Document.map?_ofValue fun _ _ => rfl

/-- A selector decodes from its own JSON. -/
theorem Selector.ofDocument?_toJson (s : Selector) :
    ofDocument? (.ofValue s.toJson) = some s := by
  obtain ⟨bucketsPath, parentBucketPath, script, gapPolicy?⟩ := s
  -- An absent gap policy is left out of the members, so they are listed in two ways.
  have hfields : ofDocument? (.ofValue (toJson ⟨bucketsPath, parentBucketPath, script, gapPolicy?⟩)) =
      (do
        let bucketsPath ← Document.map? Document.string?
          (.ofValue (.object (bucketsPath.entries.map fun (key, path) => (key, .string path))))
        let script ← Script.ofDocument? (.ofValue script.toJson)
        return ⟨bucketsPath, parentBucketPath, script, gapPolicy?⟩) := by
    cases gapPolicy? with
    | none => rfl
    | some policy => rfl
  rw [hfields, bindings?_ofValue, script.ofDocument?_toJson]
  rfl

/-! ### Clauses -/

/-- A threshold that JSON can hold: a text, or a finite number. -/
def Threshold.Printable : Threshold → Prop
  | number x => ∃ y, x = .finite y
  | text _ => True

theorem Threshold.ofDocument?_toJson {t : Threshold} (ht : t.Printable) :
    ofDocument? (.ofValue t.toJson) = some t ∧ Document.ofValue t.toJson ≠ .null := by
  cases t with
  | text s => exact ⟨rfl, nofun⟩
  | number x =>
    obtain ⟨y, rfl⟩ := ht
    exact ⟨rfl, nofun⟩

theorem comparison?_ofValue (comparison? : Option Comparison) :
    Document.nullable? (Document.name? Comparison.names)
      (.ofValue (Json.ofOption (fun o => .string o.name) comparison?)) = some comparison? := by
  refine Document.nullable?_ofOption fun comparison _ => ⟨?_, nofun⟩
  cases comparison <;> rfl

/-- A clause decodes from its own JSON if JSON can hold its threshold. -/
theorem Clause.ofDocument?_toJson {c : Clause}
    (hc : ∀ t, c.threshold? = some t → t.Printable) : ofDocument? (.ofValue c.toJson) = some c := by
  obtain ⟨connector?, field, comparison?, threshold?⟩ := c
  have hthreshold : Document.nullable? Threshold.ofDocument?
      (.ofValue (Json.ofOption Threshold.toJson threshold?)) = some threshold? :=
    Document.nullable?_ofOption fun t ht => Threshold.ofDocument?_toJson (hc t ht)
  have hfields : ofDocument? (.ofValue (toJson ⟨connector?, field, comparison?, threshold?⟩)) =
      (do
        let comparison? ← Document.nullable? (Document.name? Comparison.names)
          (.ofValue (Json.ofOption (fun o => .string o.name) comparison?))
        let threshold? ← Document.nullable? Threshold.ofDocument?
          (.ofValue (Json.ofOption Threshold.toJson threshold?))
        return ⟨connector?, field, comparison?, threshold?⟩) := by
    match connector? with
    | none | some .and | some .or => rfl
  rw [hfields, comparison?_ofValue, hthreshold]
  rfl

/-! ### Forms -/

theorem hasValue_clause (depth : Nat) (c : Clause) : HasValue (depth + 1) c.toJson := by
  have hthreshold : ∀ t : Threshold, HasValue depth t.toJson := by
    intro t
    match t with
    | .text s => exact Json.hasValue_string depth s
    | .number (.finite x) => exact Json.hasValue_number depth (.real x)
    | .number (.infinite _) | .number .nan => exact Json.hasValue_null depth
  obtain ⟨connector?, field, comparison?, threshold?⟩ := c
  refine Json.hasValue_object fun m hm => ?_
  simp only [List.mem_append, List.mem_cons, List.not_mem_nil, or_false] at hm
  rcases hm with hm | rfl | rfl | rfl
  · cases connector? with
    | none => cases hm
    | some connector =>
      rw [List.mem_singleton] at hm
      subst hm
      exact Json.hasValue_string depth _
  · exact Json.hasValue_string depth field
  · cases comparison? with
    | none => exact Json.hasValue_null depth
    | some comparison => exact Json.hasValue_string depth _
  · cases threshold? with
    | none => exact Json.hasValue_null depth
    | some t => exact hthreshold t

theorem hasValue_sharedMembers (depth : Nat) (bucketsPath : SortedMap String)
    (parentBucketPath : String) (script : Script) (gapPolicy? : Option String) :
    ∀ m ∈ sharedMembers bucketsPath parentBucketPath script gapPolicy?,
      HasValue (depth + 1) m.2 := by
  intro m hm
  simp only [sharedMembers, List.mem_append, List.mem_cons, List.not_mem_nil, or_false] at hm
  rcases hm with (rfl | rfl | rfl) | hm
  · refine Json.hasValue_object fun m hm => ?_
    obtain ⟨e, -, rfl⟩ := List.mem_map.mp hm
    exact Json.hasValue_string depth e.2
  · exact Json.hasValue_string _ parentBucketPath
  · refine Json.hasValue_object fun m hm => ?_
    simp only [List.mem_cons, List.not_mem_nil, or_false] at hm
    rcases hm with rfl | rfl
    · exact Json.hasValue_string depth script.source
    · exact Json.hasValue_string depth script.language
  · cases gapPolicy? with
    | none => cases hm
    | some policy =>
      rw [List.mem_singleton] at hm
      subst hm
      exact Json.hasValue_string _ policy

theorem hasValue_form (depth : Nat) (f : Form) : HasValue (depth + 3) f.toJson := by
  refine Json.hasValue_object fun m hm => ?_
  rcases List.mem_cons.mp hm with rfl | hshared
  · refine Json.hasValue_array fun v hv => ?_
    obtain ⟨c, -, rfl⟩ := List.mem_map.mp hv
    exact hasValue_clause depth c
  · exact hasValue_sharedMembers (depth + 1) _ _ _ _ m hshared

/-- The clauses of a form decode from the JSON of the form, whatever else it holds. -/
theorem clauseList?_toJson {f : Form}
    (hf : ∀ c ∈ f.clauses, ∀ t, c.threshold? = some t → t.Printable) :
    clauseList? (.ofValue f.toJson) = some f.clauses := by
  obtain ⟨w, hw⟩ : HasValue Document.maxDepth f.toJson := hasValue_form 124 f
  have hclauses : Document.list? Clause.ofDocument?
      (.ofValue (.array (f.clauses.map Clause.toJson))) = some f.clauses :=
    Document.list?_ofValue fun c hc => Clause.ofDocument?_toJson (hf c hc)
  have hfields : clauseList? (.ofValue f.toJson) = (do
      let _ ← (Document.ofValue f.toJson).value? Document.maxDepth
      Document.list? Clause.ofDocument? (.ofValue (.array (f.clauses.map Clause.toJson)))) := by
    obtain ⟨clauses, bucketsPath, parentBucketPath, script, gapPolicy?⟩ := f
    cases gapPolicy? with
    | none => rfl
    | some policy => rfl
  rw [hfields, hw, hclauses]
  rfl

end TriggerCompose.Condition
