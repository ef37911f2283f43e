import TriggerCompose.Cli.Command
import TriggerCompose.Proofs.Condition.Canonical
import TriggerCompose.Proofs.Condition.Codec
import TriggerCompose.Proofs.Condition.Rewriting
import TriggerCompose.Proofs.Settings.Requirements

/-!
# Compiled conditions opened and saved again

A compiled selector that is printed, decompiled, printed and compiled again keeps its
bindings and its metadata. Its script changes in one way only: a threshold that was given
as a text denoting a finite number is written as that number is shown.

## Main definitions

* `Command.Resaved`: what a selector becomes when it is opened and saved.

## Main statements

* `Command.compile_eq_ok_iff`: what compiling gives.
* `Command.decompile_pretty`, `Command.clauses_pretty`: printed selectors and forms.
* `Command.resaved_compile`: every compiled selector can be opened and saved again.
-/

namespace TriggerCompose.Command

open Condition (Clause Form Selector)

/-! ### Decoding -/

variable {α : Type} {input : Input} {decode? : Json.Document → Option α}

theorem decode_eq_ok_iff {text : String} {value : α} :
    decode input decode? text = .ok value ↔
      (Json.Document.ofText? text).bind decode? = some value := by
  rw [decode]
  cases (Json.Document.ofText? text).bind decode? with
  | none => simp
  | some found => simp

/-- A printed value decodes if its document does. -/
theorem decode_pretty {v : Json} {value : α} (h : decode? (.ofValue v) = some value) :
    decode input decode? v.pretty = .ok value := by
  rw [decode_eq_ok_iff, Json.Document.ofText?_pretty]
  exact h

/-! ### Compiling and decompiling -/

variable {settings : Settings}

theorem compile_eq_ok_iff {text : String} {s : Selector} :
    compile settings text = .ok s ↔
      ∃ cs, clauses text = .ok cs ∧ Condition.build cs settings.condition = .ok s := by
  simp only [compile, Outcome.bind_eq_ok_iff, Outcome.mapError_eq_ok_iff]

/-- A printed selector decompiles to its form. -/
theorem decompile_pretty (s : Selector) :
    decompile settings s.toJson.pretty = .ok (s.form settings.condition.defaultConnector) := by
  have hdecode : decode .selector Selector.ofDocument? s.toJson.pretty = .ok s :=
    decode_pretty s.ofDocument?_toJson
  rw [decompile, hdecode]
  rfl

theorem printable_of_mem_form {s : Selector} {fallback : Condition.Connector} {c : Clause}
    (hc : c ∈ (s.form fallback).clauses) (t : Condition.Threshold) (ht : c.threshold? = some t) :
    t.Printable := by
  have hwritable := (Clause.decoded_of_mem_decompile hc).writable t ht
  cases t with
  | number x => exact hwritable
  | text s => trivial

/-- The clauses of a printed form are read back, whatever script they came from and whatever
    the other members of the form are. -/
theorem clauses_pretty_of_eq {printed : Form} {s : Selector} {fallback : Condition.Connector}
    (hclauses : printed.clauses = (s.form fallback).clauses) :
    clauses printed.toJson.pretty = .ok printed.clauses := by
  refine decode_pretty (Condition.clauseList?_toJson ?_)
  intro c hc t ht
  rw [hclauses] at hc
  exact printable_of_mem_form hc t ht

theorem clauses_pretty (s : Selector) (fallback : Condition.Connector) :
    clauses (s.form fallback).toJson.pretty = .ok (s.form fallback).clauses :=
  clauses_pretty_of_eq rfl

/-! ### Opening and saving -/

/-- What a selector that was compiled from clauses becomes when it is opened and saved. -/
structure Resaved (fallback : Condition.Connector) (cs : List Clause) (s saved : Selector) :
    Prop where
  bucketsPath : saved.bucketsPath = s.bucketsPath
  parentBucketPath : saved.parentBucketPath = s.parentBucketPath
  language : saved.script.language = s.script.language
  gapPolicy? : saved.gapPolicy? = s.gapPolicy?
  /-- The new script is that of the same clauses, with numerals for the texts of finite
      numbers. -/
  source : Condition.compile (Condition.reread fallback cs) fallback = .ok saved.script.source
  unchanged : saved = s ↔ ∀ c ∈ cs, ∀ t, c.threshold? = some t → t.IsDisplayed

theorem source_eq_iff {fallback : Condition.Connector} {cs : List Clause} {source saved : String}
    (hsource : Condition.compile cs fallback = .ok source)
    (hsaved : Condition.compile (Condition.reread fallback cs) fallback = .ok saved) :
    saved = source ↔ ∀ c ∈ cs, ∀ t, c.threshold? = some t → t.IsDisplayed := by
  rw [← Condition.scriptWords_reread_eq_iff fallback cs, ← Condition.tokens_of_compile hsource,
    ← Condition.tokens_of_compile hsaved]
  constructor
  · intro h
    rw [h]
  · intro h
    -- Both scripts are their tokens with single spaces between them.
    have hjoin : ∀ {ds : List Clause} {script : String},
        Condition.compile ds fallback = .ok script →
          " ".intercalate (Condition.tokens script) = script := by
      intro ds script hscript
      rw [Condition.tokens_of_compile hscript, ← (Condition.compile_eq_ok_iff.mp hscript).2]
    rw [← hjoin hsaved, h, hjoin hsource]

theorem resaved_of_build {cs : List Clause} {s : Selector}
    (hs : Condition.build cs settings.condition = .ok s) :
    ∃ saved, compile settings (s.form settings.condition.defaultConnector).toJson.pretty = .ok saved ∧
      Resaved settings.condition.defaultConnector cs s saved := by
  obtain ⟨hsource, hbindings, hpath, hlanguage, hgap⟩ := Condition.build_eq_ok_iff.mp hs
  have hsaved := Condition.compile_reread hsource
  generalize " ".intercalate _ = source at hsaved
  have hform : (s.form settings.condition.defaultConnector).clauses =
      Condition.reread settings.condition.defaultConnector cs :=
    Condition.decompile_of_compile hsource
  refine ⟨{ s with script := { s.script with source } }, ?_, rfl, rfl, rfl, rfl, hsaved, ?_⟩
  · refine compile_eq_ok_iff.mpr ⟨_, clauses_pretty s _, Condition.build_eq_ok_iff.mpr ?_⟩
    rw [hform, Condition.bindings_reread]
    exact ⟨hsaved, hbindings, hpath, hlanguage, hgap⟩
  · rw [← source_eq_iff hsource hsaved]
    obtain ⟨bucketsPath, parentBucketPath, ⟨before, language⟩, gapPolicy?⟩ := s
    simp

/-- Every compiled selector can be printed, opened and saved again. It keeps its bindings
    and its metadata, and it keeps its script too unless a threshold was given as a text that
    denotes a finite number but is not the text that the number is shown as. -/
theorem resaved_compile {text : String} {s : Selector} (hs : compile settings text = .ok s) :
    ∃ cs form saved, clauses text = .ok cs ∧ decompile settings s.toJson.pretty = .ok form ∧
      compile settings form.toJson.pretty = .ok saved ∧
        Resaved settings.condition.defaultConnector cs s saved := by
  obtain ⟨cs, hcs, hbuild⟩ := compile_eq_ok_iff.mp hs
  obtain ⟨saved, hsaved, hresaved⟩ := resaved_of_build hbuild
  exact ⟨cs, _, saved, hcs, decompile_pretty s, hsaved, hresaved⟩

theorem resaved_compile_number :
    let text := "[\x7b\"field\": \"x\", \"operator\": \"ABOVE\", \"threshold\": 80\x7d]"
    ∃ s : Selector, s.script.source = "params.x > 80" ∧ compile .standard text = .ok s ∧
      ∃ cs form saved, clauses text = .ok cs ∧ decompile .standard s.toJson.pretty = .ok form ∧
        compile .standard form.toJson.pretty = .ok saved ∧ Resaved .and cs s saved := by
  intro text
  have hsource : (compile .standard text).toOption.map (·.script.source) =
      some "params.x > 80" := by
    decide +kernel
  obtain ⟨s, hs, hsource⟩ := Option.map_eq_some_iff.mp hsource
  have hs := Outcome.toOption_eq_some_iff.mp hs
  exact ⟨s, hsource, hs, resaved_compile hs⟩

/-- The text `80.0` denotes a number that is shown as `80`, so the script changes. -/
theorem saved_ne_of_trailing_zero :
    let text := "[\x7b\"field\": \"x\", \"operator\": \"ABOVE\", \"threshold\": \"80.0\"\x7d]"
    ∃ settings s form saved, Settings.ofText "" = .ok settings ∧ compile settings text = .ok s ∧
      decompile settings s.toJson.pretty = .ok form ∧
      compile settings form.toJson.pretty = .ok saved ∧
      s.script.source = "params.x > 80.0" ∧ saved.script.source = "params.x > 80" ∧ saved ≠ s := by
  intro text
  have hclauses : clauses text = .ok [⟨none, "x", some .above, some (.text "80.0")⟩] := by
    decide +kernel
  have hbuild : Condition.build [⟨none, "x", some .above, some (.text "80.0")⟩]
      Settings.standard.condition = .ok
        ⟨_, "composite_agg", ⟨"params.x > 80.0", "painless"⟩, some "skip"⟩ :=
    Condition.build_eq_ok_iff.mpr ⟨by decide +kernel, rfl, rfl, rfl, rfl⟩
  obtain ⟨saved, hsaved, hresaved⟩ := resaved_of_build hbuild
  have hagain : Condition.compile
      (Condition.reread .and [⟨none, "x", some .above, some (.text "80.0")⟩]) .and =
        .ok "params.x > 80" := by
    decide +kernel
  have hsource : saved.script.source = "params.x > 80" :=
    Except.ok.inj (hresaved.source.symm.trans hagain)
  refine ⟨.standard, _, _, saved, Settings.ofText_empty,
    compile_eq_ok_iff.mpr ⟨_, hclauses, hbuild⟩, decompile_pretty _, hsaved, rfl, hsource, ?_⟩
  rintro rfl
  exact absurd hsource (by decide)

end TriggerCompose.Command
