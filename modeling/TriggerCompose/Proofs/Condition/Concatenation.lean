import TriggerCompose.Proofs.Condition.Script

/-!
# Scripts and clause lists in a row

Two scripts with a connector between them are one script. If the tokens of the first one fill
its groups, no token of the second changes its place in a clause, and its anchor gains the
connector. Clause lists that follow each other are written in the same way.

## Main statements

* `Condition.regroup_append`: full groups stay as they are.
* `Condition.decompile_append`: reading scripts in a row.
* `Condition.compile_append_eq_ok_iff`: writing clause lists in a row.
* `Condition.scripts_concatenate`: both for any fallback.
-/

namespace TriggerCompose.Condition

open Text (IsWord isBlankText)

/-! ### Tokens -/

theorem tokens_append (first second : String) :
    tokens (first ++ " " ++ second) = tokens first ++ tokens second := by
  have htext : (first ++ " " ++ second).toList = first.toList ++ ' ' :: second.toList := by
    simp
  rw [tokens, htext, Text.words_append_blank _ _ (by decide), List.map_append]
  rfl

theorem tokens_of_isWord {token : String} (htoken : IsWord token) : tokens token = [token] := by
  simp [tokens, Text.words_of_isWord htoken]

theorem tokens_ne_nil {source : String} (hsource : isBlankText source = false) :
    tokens source ≠ [] := by
  intro hnil
  have hblank := Text.words_eq_nil_iff.mp (List.map_eq_nil_iff.mp hnil)
  rw [← List.all_eq_true, ← isBlankText, hsource] at hblank
  cases hblank

/-! ### Groups -/

theorem regroup_append {ts : List String} (hts : ts.length % 4 = 3) (rest : List String) :
    regroup (ts ++ rest) = regroup ts ++ groupsOfFour rest := by
  rcases ts with _ | ⟨a, _ | ⟨b, _ | ⟨c, later⟩⟩⟩
  · cases hts
  · cases hts
  · cases hts
  · have hlater : later.length % 4 = 0 := by
      simp only [List.length_cons] at hts
      omega
    change [a, b, c] :: groupsOfFour (later ++ rest) = _
    rw [groupsOfFour_append hlater]
    rfl

/-- Behind a connector the first group of a script is a group of four. -/
theorem groupsOfFour_cons (connector : String) {ts : List String} (hts : ts ≠ []) :
    ∃ anchor later, regroup ts = anchor :: later ∧
      groupsOfFour (connector :: ts) = (connector :: anchor) :: later := by
  rcases ts with _ | ⟨a, _ | ⟨b, _ | ⟨c, later⟩⟩⟩
  · exact absurd rfl hts
  · exact ⟨[a], [], rfl, rfl⟩
  · exact ⟨[a, b], [], rfl, rfl⟩
  · exact ⟨[a, b, c], groupsOfFour later, rfl, rfl⟩

theorem regroup_ne_nil {ts : List String} (hts : ts ≠ []) : regroup ts ≠ [] := by
  obtain ⟨anchor, later, hgroups, -⟩ := groupsOfFour_cons "" hts
  rw [hgroups]
  exact List.cons_ne_nil anchor later

/-! ### Reading -/

theorem clausesOfGroups_append (fallback : Connector) {gs : List (List String)} (hgs : gs ≠ [])
    (later : List (List String)) :
    clausesOfGroups fallback (gs ++ later) =
      clausesOfGroups fallback gs ++ later.map (clauseOfGroup fallback) := by
  obtain ⟨anchor, gs, rfl⟩ := List.exists_cons_of_ne_nil hgs
  simp [clausesOfGroups]

/-- A script, a connector and a script are read as the two clause lists, where the anchor of the
    second one has the connector. A token that is no connector stands for the fallback. -/
theorem decompile_append {first connector second : String} (fallback : Connector)
    (hfirst : (tokens first).length % 4 = 3) (hconnector : IsWord connector)
    (hsecond : isBlankText second = false) :
    ∃ anchor later, decompile second fallback = anchor :: later ∧
      decompile (first ++ " " ++ connector ++ " " ++ second) fallback =
        decompile first fallback ++
          { anchor with connector? := some ((Connector.ofSymbol? connector).getD fallback) } ::
            later := by
  obtain ⟨anchor, later, hgroups, hjoined⟩ := groupsOfFour_cons connector (tokens_ne_nil hsecond)
  have hne : tokens first ≠ [] := by
    intro hnil
    rw [hnil] at hfirst
    cases hfirst
  refine ⟨clauseOfOperands none anchor, later.map (clauseOfGroup fallback), ?_, ?_⟩
  · rw [decompile, groups, hgroups, clausesOfGroups]
  · rw [decompile, groups, tokens_append, tokens_append, tokens_of_isWord hconnector,
      List.append_assoc, List.singleton_append, regroup_append hfirst, hjoined,
      clausesOfGroups_append fallback (regroup_ne_nil hne)]
    rfl

/-! ### Writing -/

theorem scriptWords_ne_nil (fallback : Connector) {clauses : List Clause} (hclauses : clauses ≠ []) :
    scriptWords fallback clauses ≠ [] := by
  obtain ⟨anchor, later, rfl⟩ := List.exists_cons_of_ne_nil hclauses
  exact List.cons_ne_nil _ _

/-- The anchor of the second list is a later clause of the whole. -/
theorem scriptWords_append (fallback : Connector) {clauses : List Clause} (hclauses : clauses ≠ [])
    (anchor : Clause) (later : List Clause) :
    scriptWords fallback (clauses ++ anchor :: later) =
      scriptWords fallback clauses ++
        ([(anchor.connector?.getD fallback).symbol] ++ scriptWords fallback (anchor :: later)) := by
  obtain ⟨first, clauses, rfl⟩ := List.exists_cons_of_ne_nil hclauses
  simp [scriptWords, Clause.laterWords]

theorem compile_append_eq_ok_iff {fallback : Connector} {clauses later : List Clause}
    {anchor : Clause} {script : String} (hclauses : clauses ≠ []) :
    compile (clauses ++ anchor :: later) fallback = .ok script ↔
      ∃ first second, compile clauses fallback = .ok first ∧
        compile (anchor :: later) fallback = .ok second ∧
        script = first ++ " " ++ (anchor.connector?.getD fallback).symbol ++ " " ++ second := by
  have hsecond := scriptWords_ne_nil fallback (List.cons_ne_nil anchor later)
  have htext : " ".intercalate (scriptWords fallback (clauses ++ anchor :: later)) =
      " ".intercalate (scriptWords fallback clauses) ++ " " ++
        (anchor.connector?.getD fallback).symbol ++ " " ++
          " ".intercalate (scriptWords fallback (anchor :: later)) := by
    rw [scriptWords_append fallback hclauses,
      String.intercalate_append_of_ne_nil (scriptWords_ne_nil fallback hclauses) (by simp),
      String.intercalate_append_of_ne_nil (List.cons_ne_nil _ _) hsecond]
    simp [String.append_assoc]
  simp only [compile_eq_ok_iff, List.forall_mem_append, htext]
  constructor
  · rintro ⟨⟨hfirst, hsecond⟩, rfl⟩
    exact ⟨_, _, ⟨hfirst, rfl⟩, ⟨hsecond, rfl⟩, rfl⟩
  · rintro ⟨_, _, ⟨hfirst, rfl⟩, ⟨hsecond, rfl⟩, rfl⟩
    exact ⟨⟨hfirst, hsecond⟩, rfl⟩

/-- A script of whole clauses, a connector and a script that is not blank are read as the two
    clause lists in a row, joined by the connector. Two clause lists in a row have a script just
    if both have one, and it is the two scripts with the connector of the second list's anchor
    between them. -/
theorem scripts_concatenate (fallback : Connector) :
    (∀ first connector second : String, (tokens first).length % 4 = 3 → IsWord connector →
      isBlankText second = false →
        ∃ anchor later, decompile second fallback = anchor :: later ∧
          decompile (first ++ " " ++ connector ++ " " ++ second) fallback =
            decompile first fallback ++
              { anchor with connector? := some ((Connector.ofSymbol? connector).getD fallback) } ::
                later) ∧
      ∀ (clauses : List Clause) (anchor : Clause) (later : List Clause), clauses ≠ [] →
        ((∃ script, compile (clauses ++ anchor :: later) fallback = .ok script) ↔
          (∃ first, compile clauses fallback = .ok first) ∧
            ∃ second, compile (anchor :: later) fallback = .ok second) ∧
        ∀ first second, compile clauses fallback = .ok first →
          compile (anchor :: later) fallback = .ok second →
            compile (clauses ++ anchor :: later) fallback =
              .ok (first ++ " " ++ (anchor.connector?.getD fallback).symbol ++ " " ++ second) := by
  refine ⟨?_, ?_⟩
  · intro first connector second hfirst hconnector hsecond
    exact decompile_append fallback hfirst hconnector hsecond
  · intro clauses anchor later hclauses
    refine ⟨?_, fun first second hfirst hsecond =>
      (compile_append_eq_ok_iff hclauses).mpr ⟨first, second, hfirst, hsecond, rfl⟩⟩
    constructor
    · rintro ⟨script, hscript⟩
      obtain ⟨first, second, hfirst, hsecond, -⟩ := (compile_append_eq_ok_iff hclauses).mp hscript
      exact ⟨⟨first, hfirst⟩, ⟨second, hsecond⟩⟩
    · rintro ⟨⟨first, hfirst⟩, ⟨second, hsecond⟩⟩
      exact ⟨_, (compile_append_eq_ok_iff hclauses).mpr ⟨first, second, hfirst, hsecond, rfl⟩⟩

/-- A word that is no connector between two scripts, the second of which breaks off, and two
    lists of one clause each. -/
theorem scripts_concatenate_broken_off :
    let low : Clause := ⟨none, "load", some .below, some (.text "low")⟩
    let high : Clause := ⟨some .and, "disk", some .above, some (.text "high")⟩
    (tokens "params.load < low").length % 4 = 3 ∧ IsWord "xor" ∧
      isBlankText "params.disk >" = false ∧
      decompile "params.load < low xor params.disk >" .or =
        [low, ⟨some .or, "disk", some .above, none⟩] ∧
      compile [low] .or = .ok "params.load < low" ∧ compile [high] .or = .ok "params.disk > high" ∧
      compile [low, high] .or = .ok "params.load < low && params.disk > high" := by
  intro low high
  obtain ⟨hread, hwrite⟩ := scripts_concatenate .or
  have hfirst : (tokens "params.load < low").length % 4 = 3 := by decide
  have hconnector : IsWord "xor" := by decide
  have hsecond : isBlankText "params.disk >" = false := by decide
  obtain ⟨anchor, later, hscript, hjoined⟩ := hread _ _ _ hfirst hconnector hsecond
  have hlow : compile [low] .or = .ok "params.load < low" := by decide
  have hhigh : compile [high] .or = .ok "params.disk > high" := by decide
  refine ⟨hfirst, hconnector, hsecond, ?_, hlow, hhigh,
    (hwrite [low] high [] (by simp)).2 _ _ hlow hhigh⟩
  obtain ⟨rfl, rfl⟩ := List.cons.inj (hscript.symm.trans
    (by decide : _ = [(⟨none, "disk", some .above, none⟩ : Clause)]))
  exact hjoined

end TriggerCompose.Condition
