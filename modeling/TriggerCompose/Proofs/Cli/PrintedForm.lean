import TriggerCompose.Proofs.Cli.Reopening

/-!
# Printed forms compile as their clauses do

The script of a selector may be any text, and so may be what its form holds: clauses with an
operator or a threshold missing, and with numbers or texts for thresholds. None of that is
changed when the form is printed and read again. So a printed form has the selector of its
clauses, or the error, and that selector is opened with the same clauses.

## Main definitions

* `Command.Faithful`: a form that says the same when it is printed.

## Main statements

* `Command.compile_of_clauses`: what compiling does after the clauses are read.
* `Command.clauses_of_build`: the selector of a form's clauses has these clauses.
* `Command.faithful_decompile`: decompiled forms are faithful.
-/

namespace TriggerCompose.Command

open Condition (Clause Connector Form Selector)

variable {settings : Settings}

theorem compile_of_clauses {text : String} {cs : List Clause} (hcs : clauses text = .ok cs) :
    compile settings text =
      (Condition.build cs settings.condition).mapError fun e => .failure e.failure := by
  rw [compile, hcs]
  rfl

theorem message_of_clauses {text : String} {cs : List Clause} (hcs : clauses text = .ok cs) :
    (compile settings text).mapError Error.message =
      (Condition.build cs settings.condition).mapError fun e => e.failure.message := by
  rw [compile_of_clauses hcs]
  cases Condition.build cs settings.condition with
  | error e => rfl
  | ok s => rfl

/-- A selector that comes from the clauses of a form is opened with these clauses, whatever
    connectors it is opened with. -/
theorem clauses_of_build {s t : Selector} {opened fallback : Connector}
    (ht : Condition.build (s.form opened).clauses settings.condition = .ok t) :
    (t.form fallback).clauses = (s.form opened).clauses := by
  obtain ⟨hsource, -⟩ := Condition.build_eq_ok_iff.mp ht
  have hread : Condition.decompile t.script.source fallback =
      Condition.reread settings.condition.defaultConnector (s.form opened).clauses :=
    Condition.decompile_of_compile hsource
  -- The clauses were read from a script before, so reading them once more changes nothing.
  exact hread.trans (Condition.reread_decompile _ _ _)

/-- A form that says the same when it is printed. -/
structure Faithful (settings : Settings) (form : Form) : Prop where
  /-- The clauses are read back, also where other members are different. -/
  clauses : ∀ printed : Form, printed.clauses = form.clauses →
    Command.clauses printed.toJson.pretty = .ok form.clauses
  compiled : ∀ printed : Form, printed.clauses = form.clauses →
    compile settings printed.toJson.pretty =
      (Condition.build form.clauses settings.condition).mapError fun e => .failure e.failure
  message : ∀ printed : Form, printed.clauses = form.clauses →
    (compile settings printed.toJson.pretty).mapError Error.message =
      (Condition.build form.clauses settings.condition).mapError fun e => e.failure.message
  opened : ∀ s, compile settings form.toJson.pretty = .ok s →
    ∃ again, decompile settings s.toJson.pretty = .ok again ∧ again.clauses = form.clauses

theorem faithful_form (s : Selector) (fallback : Connector) :
    Faithful settings (s.form fallback) := by
  have hread : ∀ printed : Form, printed.clauses = (s.form fallback).clauses →
      clauses printed.toJson.pretty = .ok (s.form fallback).clauses := by
    intro printed hprinted
    rw [clauses_pretty_of_eq hprinted, hprinted]
  refine ⟨hread, ?_, ?_, ?_⟩
  · intro printed hprinted
    exact compile_of_clauses (hread printed hprinted)
  · intro printed hprinted
    exact message_of_clauses (hread printed hprinted)
  · intro t ht
    obtain ⟨cs, hcs, hbuild⟩ := compile_eq_ok_iff.mp ht
    obtain rfl : (s.form fallback).clauses = cs := Except.ok.inj ((hread _ rfl).symm.trans hcs)
    exact ⟨_, decompile_pretty t, clauses_of_build hbuild⟩

theorem decompile_eq_ok_iff {text : String} {form : Form} :
    decompile settings text = .ok form ↔
      ∃ s, decode .selector Selector.ofDocument? text = .ok s ∧
        s.form settings.condition.defaultConnector = form := by
  rw [decompile, Outcome.bind_eq_ok_iff]
  simp only [Outcome.pure_eq_ok_iff]

/-- Every selector text that is decompiled has a faithful form, whatever its script is. -/
theorem faithful_decompile {text : String} {form : Form}
    (hform : decompile settings text = .ok form) : Faithful settings form := by
  obtain ⟨s, -, rfl⟩ := decompile_eq_ok_iff.mp hform
  exact faithful_form s _

/-- The script was written by hand: `xor` is no connector, `total` has no mark and the number
    has more digits than it is shown with. -/
theorem faithful_decompile_by_hand :
    let text := "\x7b\"script\": \x7b\"source\": \"params.x > 080.50 xor total < low\"\x7d\x7d"
    ∃ form, decompile .standard text = .ok form ∧
      form.clauses = [⟨none, "x", some .above, some (Condition.Threshold.ofToken "80.5")⟩,
        ⟨some .and, "total", some .below, some (.text "low")⟩] ∧ Faithful .standard form := by
  intro text
  have hclauses : (decompile .standard text).toOption.map (·.clauses) =
      some [⟨none, "x", some .above, some (Condition.Threshold.ofToken "80.5")⟩,
        ⟨some .and, "total", some .below, some (.text "low")⟩] := by
    decide +kernel
  obtain ⟨form, hform, hclauses⟩ := Option.map_eq_some_iff.mp hclauses
  have hform := Outcome.toOption_eq_some_iff.mp hform
  exact ⟨form, hform, hclauses, faithful_decompile hform⟩

end TriggerCompose.Command
