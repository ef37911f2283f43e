import TriggerCompose.Proofs.Predicate.Cursor
import TriggerCompose.Proofs.Predicate.Grammar
import TriggerCompose.Proofs.Text.Letters

/-!
# What lexers leave on their cursor

Lexers that are called one after another, in any order and whatever became of the calls
before, cut the text up into pieces: each call takes a piece off the front, the one that
its way to end says, and leaves the rest to the next.

## Main definitions

* `Predicate.Call`, `Predicate.Step`, `Predicate.steps`: calls, and what became of them.
* `Predicate.Takes`: the ways a call ends, each with the piece it takes.
* `Predicate.Step.Exact`, `Predicate.Conserved`: no character is lost or read twice.

## Main statements

* `Predicate.Call.step_eq`: a call on a cursor, and the lexer without one.
* `Predicate.Step.exact_step`: one call.
* `Predicate.conserved_steps`: any sequence of calls.
-/

namespace TriggerCompose.Predicate

/-! ### Runs of calls -/

/-- A call of a lexer, with its arguments. -/
inductive Call where
  | quoted
  | bare (stop : List Char)
  | operand (stop : List Char)
  | skipSpace
  | keyword (word : List Char)
  deriving DecidableEq, Repr

/-- The lexer of a call. An operand has a text; the others have nothing to return. -/
def Call.run (lib : Combinators) : Call → CursorLexer (Option (List Char))
  | quoted => some <$> lib.quoted
  | bare stop => some <$> lib.bare stop
  | operand stop => some <$> lib.operand stop
  | skipSpace => (fun _ => none) <$> lib.skipSpace
  | keyword word => (fun _ => none) <$> lib.keyword word

/-- What became of a call: the text before it, what it returned, and the text it left. -/
structure Step where
  call : Call
  before : List Char
  outcome : Except Refusal (Option (List Char))
  after : List Char
  deriving DecidableEq, Repr

/-- The call on a cursor in front of `text`. -/
def Call.step (lib : Combinators) (call : Call) (text : List Char) : Step :=
  match call.run lib text with
  | .ok lexeme left => { call, before := text, outcome := .ok lexeme, after := left }
  | .error refusal left => { call, before := text, outcome := .error refusal, after := left }

/-- Calls one after another. Each starts where the one before it left the cursor, also if
    that one refused. -/
def steps (lib : Combinators) : List Call → List Char → List Step
  | [], _ => []
  | call :: later, text =>
    let step := call.step lib text
    step :: steps lib later step.after

/-- The cursor after a run. -/
def leftBy (text : List Char) (run : List Step) : List Char :=
  (run.getLast?.map Step.after).getD text

/-! ### Calls without a cursor -/

/-- The lexer of a call without a cursor. -/
def Call.lexed : Call → List Char → Lexed (Option (List Char))
  | quoted, text => (Predicate.quoted text).map some
  | bare stop, text => (Predicate.bare stop text).map some
  | operand stop, text => (Predicate.operand stop text).map some
  | skipSpace, text => .found none (Predicate.skipSpace text)
  | keyword word, text => (Predicate.keyword word text).map fun _ => none

theorem Call.run_onCursor {lib : Combinators} (hlib : lib.Documented) (call : Call)
    (text : List Char) : call.run lib text = (call.lexed text).onCursor text := by
  cases call with
  | quoted => exact map_onCursor some (quoted_onCursor hlib text)
  | bare stop => exact map_onCursor some (bare_onCursor hlib stop text)
  | operand stop => exact map_onCursor some (operand_onCursor hlib stop text)
  | skipSpace =>
    have hskip : lib.skipSpace text =
        (Lexed.found () (Predicate.skipSpace text)).onCursor text := skipSpace_onCursor hlib text
    exact map_onCursor (fun _ => none) hskip
  | keyword word => exact map_onCursor (fun _ => none) (keyword_onCursor hlib word text)

/-- What a lexer without a cursor returns or refuses. -/
def Lexed.outcome {α : Type} : Lexed α → Except Refusal α
  | found lexeme _ => .ok lexeme
  | absent => .error (.backtrack [])
  | unclosed => .error (.cut [.closingQuote])

/-- What a lexer without a cursor leaves of the text. -/
def Lexed.left {α : Type} (text : List Char) : Lexed α → List Char
  | found _ rest => rest
  | absent => text
  | unclosed => []

theorem Call.step_eq {lib : Combinators} (hlib : lib.Documented) (call : Call)
    (text : List Char) :
    call.step lib text =
      { call, before := text, outcome := (call.lexed text).outcome,
        after := (call.lexed text).left text } := by
  rw [step, run_onCursor hlib]
  cases call.lexed text <;> rfl

/-! ### What a call takes -/

/-- A character that a bare operand may hold. -/
def IsBare (stop : List Char) (c : Char) : Prop :=
  Text.isBlank c = false ∧ c ≠ quote ∧ c ∉ stop

/-- White space of fragments. -/
def IsSpace (c : Char) : Prop :=
  c ∈ [' ', '\t', '\r', '\n']

/-- An ASCII letter or digit, or an underscore. -/
def IsWordChar (c : Char) : Prop :=
  ('A' ≤ c ∧ c ≤ 'Z') ∨ ('a' ≤ c ∧ c ≤ 'z') ∨ ('0' ≤ c ∧ c ≤ '9') ∨ c = '_'

/-- A text whose next character, if there is one, is not such a one. -/
def EndsRun (p : Char → Prop) (left : List Char) : Prop :=
  ∀ c ∈ left.head?, ¬ p c

/-- The ways a call ends: what it returns, the piece `taken` that it takes off the text,
    and the text `left` behind that piece. -/
inductive Takes : Call → Except Refusal (Option (List Char)) → List Char → List Char → Prop
  | quoted {content left : List Char} (hcontent : quote ∉ content) :
      Takes .quoted (.ok (some content)) (quote :: (content ++ [quote])) left
  | unclosed {body : List Char} (hbody : quote ∉ body) :
      Takes .quoted (.error (.cut [.closingQuote])) (quote :: body) []
  | notQuoted {left : List Char} (hhead : left.head? ≠ some quote) :
      Takes .quoted (.error (.backtrack [])) [] left
  | bare {stop run left : List Char} (hne : run ≠ []) (hrun : ∀ c ∈ run, IsBare stop c)
      (hleft : EndsRun (IsBare stop) left) : Takes (.bare stop) (.ok (some run)) run left
  | notBare {stop left : List Char} (hleft : EndsRun (IsBare stop) left) :
      Takes (.bare stop) (.error (.backtrack [])) [] left
  | operandQuoted {stop content taken left : List Char}
      (hquoted : Takes .quoted (.ok (some content)) taken left) :
      Takes (.operand stop) (.ok (some content)) taken left
  | operandUnclosed {stop taken left : List Char} {expected : List Expectation}
      (hquoted : Takes .quoted (.error (.cut expected)) taken left) :
      Takes (.operand stop) (.error (.cut expected)) taken left
  | operandBare {stop taken left : List Char} {outcome : Except Refusal (Option (List Char))}
      (hhead : (taken ++ left).head? ≠ some quote) (hbare : Takes (.bare stop) outcome taken left) :
      Takes (.operand stop) outcome taken left
  | skipSpace {run left : List Char} (hrun : ∀ c ∈ run, IsSpace c)
      (hleft : EndsRun IsSpace left) : Takes .skipSpace (.ok none) run left
  | keyword {word left : List Char} (hleft : EndsRun IsWordChar left) :
      Takes (.keyword word) (.ok none) word left
  | notKeyword {word left : List Char}
      (hword : ∀ rest, left = word ++ rest → ¬ EndsRun IsWordChar rest) :
      Takes (.keyword word) (.error (.backtrack [])) [] left

/-- The piece that a call took off the text before it. -/
def Step.taken (step : Step) : List Char :=
  step.before.take (step.before.length - step.after.length)

/-- What one call keeps of the text, and what its ways to end mean. It ends as the lexer
    that has no cursor does on the text before it. -/
structure Step.Exact (step : Step) : Prop where
  outcome_eq : step.outcome = (step.call.lexed step.before).outcome
  after_eq : step.after = (step.call.lexed step.before).left step.before
  split : step.before = step.taken ++ step.after
  suffix : step.after <:+ step.before
  takes : Takes step.call step.outcome step.taken step.after
  backtrack : ∀ expected, step.outcome = .error (.backtrack expected) → step.after = step.before
  cut : ∀ expected, step.outcome = .error (.cut expected) →
    ∃ body, step.before = quote :: body ∧ quote ∉ body
  keyword : ∀ word, step.call = .keyword word →
    (step.outcome = .ok none ↔ ∃ rest, step.before = word ++ rest ∧ EndsRun IsWordChar rest)

/-- What a run of calls on a text keeps of it: the pieces that were taken and the text
    that is left are the text, and each call finds all of it that the calls before did
    not take. -/
structure Conserved (text : List Char) (calls : List Call) (run : List Step) : Prop where
  calls_eq : run.map Step.call = calls
  pieces : text = (run.map Step.taken).flatten ++ leftBy text run
  place : ∀ earlier step later, run = earlier ++ step :: later →
    text = (earlier.map Step.taken).flatten ++ step.before
  each : ∀ step ∈ run, step.Exact

/-! ### One call -/

theorem continuesWord_iff {c : Char} : continuesWord c = true ↔ IsWordChar c := by
  rw [continuesWord, Bool.or_eq_true, Text.isAlphanum_iff, beq_iff_eq, or_assoc, or_assoc]
  rfl

/-- The end of a run, as the lexers look for it. -/
theorem endsRun_iff {p : Char → Prop} {test : Char → Bool} (htest : ∀ {c}, test c = true ↔ p c)
    {left : List Char} : EndsRun p left ↔ left.head?.any test = false := by
  rw [Option.any_eq_false]
  simp only [← Bool.not_eq_true, htest]
  rfl

/-- A call takes a piece off the text as one of its ways to end says. -/
def Call.Ends (call : Call) (text : List Char) (lexed : Lexed (Option (List Char))) : Prop :=
  ∃ taken, text = taken ++ lexed.left text ∧ Takes call lexed.outcome taken (lexed.left text)

namespace Call

theorem ends_quoted (text : List Char) : quoted.Ends text ((Predicate.quoted text).map some) := by
  rcases quote_cases text with ⟨content, rest, hcontent, rfl⟩ | ⟨body, hbody, rfl⟩ | hhead
  · rw [quoted_closed hcontent]
    refine ⟨quote :: (content ++ [quote]), ?_, .quoted hcontent⟩
    simp [Lexed.map, Lexed.left]
  · rw [quoted_unclosed hbody]
    exact ⟨quote :: body, (List.append_nil _).symm, .unclosed hbody⟩
  · rw [quoted_absent hhead]
    exact ⟨[], rfl, .notQuoted hhead⟩

theorem ends_bare (stop text : List Char) :
    (bare stop).Ends text ((Predicate.bare stop text).map some) := by
  have hends : EndsRun (IsBare stop) (text.dropWhile (isBare stop)) :=
    (endsRun_iff isBare_iff).mpr (Text.head?_dropWhile _ _)
  have hsplit := List.takeWhile_append_dropWhile (p := isBare stop) (l := text)
  unfold Predicate.bare
  cases hrun : text.takeWhile (isBare stop) with
  | nil =>
    rw [hrun, List.nil_append] at hsplit
    rw [hsplit] at hends
    exact ⟨[], rfl, .notBare hends⟩
  | cons c later =>
    rw [hrun] at hsplit
    refine ⟨c :: later, hsplit.symm, .bare (List.cons_ne_nil c later) ?_ hends⟩
    intro d hd
    rw [← hrun] at hd
    exact isBare_iff.mp (List.mem_takeWhile_imp hd)

theorem ends_operand (stop text : List Char) :
    (operand stop).Ends text ((Predicate.operand stop text).map some) := by
  obtain ⟨taken, htext, htakes⟩ := ends_quoted text
  unfold Predicate.operand
  cases hread : Predicate.quoted text with
  | found content rest =>
    rw [hread] at htext htakes
    exact ⟨taken, htext, .operandQuoted htakes⟩
  | absent =>
    rw [hread] at htakes
    have hhead : text.head? ≠ some quote := by
      cases htakes
      assumption
    obtain ⟨run, hrun, hbare⟩ := ends_bare stop text
    rw [hrun] at hhead
    exact ⟨run, hrun, .operandBare hhead hbare⟩
  | unclosed =>
    rw [hread] at htext htakes
    exact ⟨taken, htext, .operandUnclosed htakes⟩

theorem ends_skipSpace (text : List Char) :
    skipSpace.Ends text (.found none (Predicate.skipSpace text)) := by
  refine ⟨text.takeWhile isSpace, List.takeWhile_append_dropWhile.symm, .skipSpace ?_ ?_⟩
  · intro c hc
    exact isSpace_iff.mp (List.mem_takeWhile_imp hc)
  · exact (endsRun_iff isSpace_iff).mpr (Text.head?_dropWhile _ _)

theorem ends_keyword (word text : List Char) :
    (keyword word).Ends text ((Predicate.keyword word text).map fun _ => none) := by
  have hends {rest : List Char} : EndsRun IsWordChar rest ↔ rest.head?.any continuesWord = false :=
    endsRun_iff continuesWord_iff
  by_cases hword : ∃ rest, text = word ++ rest ∧ EndsRun IsWordChar rest
  · obtain ⟨rest, htext, hrest⟩ := hword
    rw [keyword_eq_found_iff.mpr ⟨htext, hends.mp hrest⟩]
    exact ⟨word, htext, .keyword hrest⟩
  · have habsent : Predicate.keyword word text = .absent := by
      by_cases hprefix : word <+: text
      · obtain ⟨rest, rfl⟩ := hprefix
        have hnext : rest.head?.any continuesWord = true := by
          by_contra hfalse
          exact hword ⟨rest, rfl, hends.mpr (Bool.not_eq_true _ ▸ hfalse)⟩
        rw [keyword_append, hnext]
        rfl
      · exact keyword_absent hprefix
    rw [habsent]
    exact ⟨[], rfl, .notKeyword fun rest htext hrest => hword ⟨rest, htext, hrest⟩⟩

theorem ends_lexed (call : Call) (text : List Char) : call.Ends text (call.lexed text) := by
  cases call with
  | quoted => exact ends_quoted text
  | bare stop => exact ends_bare stop text
  | operand stop => exact ends_operand stop text
  | skipSpace => exact ends_skipSpace text
  | keyword word => exact ends_keyword word text

end Call

namespace Takes

variable {call : Call} {taken left : List Char} {expected : List Expectation}

/-- Whatever lets another lexer try takes nothing. -/
theorem eq_nil_of_backtrack (htakes : Takes call (.error (.backtrack expected)) taken left) :
    taken = [] := by
  cases htakes with
  | notQuoted => rfl
  | notBare => rfl
  | operandBare _ hbare =>
    cases hbare
    rfl
  | notKeyword => rfl

/-- A final refusal takes an opening quote and all that follows, with no quote in it. -/
theorem exists_body_of_cut (htakes : Takes call (.error (.cut expected)) taken left) :
    left = [] ∧ ∃ body, taken = quote :: body ∧ quote ∉ body := by
  cases htakes with
  | unclosed hbody => exact ⟨rfl, _, rfl, hbody⟩
  | operandUnclosed hquoted =>
    cases hquoted with
    | unclosed hbody => exact ⟨rfl, _, rfl, hbody⟩
  | operandBare _ hbare => cases hbare

theorem keyword_iff {word : List Char} {outcome : Except Refusal (Option (List Char))}
    (htakes : Takes (.keyword word) outcome taken left) :
    outcome = .ok none ↔ ∃ rest, taken ++ left = word ++ rest ∧ EndsRun IsWordChar rest := by
  cases htakes with
  | keyword hleft => exact ⟨fun _ => ⟨left, rfl, hleft⟩, fun _ => rfl⟩
  | notKeyword hword =>
    constructor
    · intro hok
      cases hok
    · rintro ⟨rest, htext, hrest⟩
      exact absurd hrest (hword rest htext)

end Takes

theorem Step.taken_eq {step : Step} {taken : List Char}
    (hsplit : step.before = taken ++ step.after) : step.taken = taken := by
  rw [Step.taken, hsplit, List.length_append, Nat.add_sub_cancel]
  exact List.take_left

/-- A call that ends as the lexer without a cursor takes one piece off the front. -/
theorem Step.exact_of_lexed {step : Step}
    (houtcome : step.outcome = (step.call.lexed step.before).outcome)
    (hafter : step.after = (step.call.lexed step.before).left step.before) : step.Exact := by
  obtain ⟨taken, hsplit, htakes⟩ := step.call.ends_lexed step.before
  rw [← hafter] at hsplit
  rw [← houtcome, ← hafter] at htakes
  obtain rfl := taken_eq hsplit
  refine
    { outcome_eq := houtcome
      after_eq := hafter
      split := hsplit
      suffix := ⟨step.taken, hsplit.symm⟩
      takes := htakes
      backtrack := ?_
      cut := ?_
      keyword := ?_ }
  · intro expected hbacktrack
    rw [hbacktrack] at htakes
    rw [htakes.eq_nil_of_backtrack, List.nil_append] at hsplit
    exact hsplit.symm
  · intro expected hcut
    rw [hcut] at htakes
    obtain ⟨hleft, body, htaken, hbody⟩ := htakes.exists_body_of_cut
    rw [hleft, htaken, List.append_nil] at hsplit
    exact ⟨body, hsplit, hbody⟩
  · intro word hcall
    rw [hcall] at htakes
    rw [hsplit]
    exact htakes.keyword_iff

/-- One call, whatever the text and the call, if the combinators do as documented. -/
theorem Step.exact_step {lib : Combinators} (hlib : lib.Documented) (call : Call)
    (text : List Char) : (call.step lib text).Exact := by
  rw [Call.step_eq hlib]
  apply exact_of_lexed
  · rfl
  · rfl

/-! ### Runs -/

theorem Call.step_call (lib : Combinators) (call : Call) (text : List Char) :
    (call.step lib text).call = call := by
  unfold step
  split <;> rfl

theorem Call.step_before (lib : Combinators) (call : Call) (text : List Char) :
    (call.step lib text).before = text := by
  unfold step
  split <;> rfl

theorem leftBy_cons (text : List Char) (step : Step) (run : List Step) :
    leftBy text (step :: run) = leftBy step.after run := by
  unfold leftBy
  rw [List.getLast?_cons]
  cases run.getLast? <;> rfl

/-- A call in front of a run that starts where the call left the cursor. -/
theorem Conserved.cons {step : Step} {calls : List Call} {run : List Step} (hstep : step.Exact)
    (hrun : Conserved step.after calls run) :
    Conserved step.before (step.call :: calls) (step :: run) where
  calls_eq := by rw [List.map_cons, hrun.calls_eq]
  pieces := by
    calc step.before
        = step.taken ++ step.after := hstep.split
      _ = step.taken ++ ((run.map Step.taken).flatten ++ leftBy step.after run) := by
        rw [← hrun.pieces]
      _ = ((step :: run).map Step.taken).flatten ++ leftBy step.before (step :: run) := by
        rw [List.map_cons, List.flatten_cons, List.append_assoc, leftBy_cons]
  place := by
    intro earlier next later hnext
    cases earlier with
    | nil =>
      obtain ⟨rfl, -⟩ := List.cons.inj hnext
      rfl
    | cons first earlier =>
      obtain ⟨rfl, hlater⟩ := List.cons.inj hnext
      calc step.before
          = step.taken ++ step.after := hstep.split
        _ = step.taken ++ ((earlier.map Step.taken).flatten ++ next.before) := by
          rw [← hrun.place earlier next later hlater]
        _ = ((step :: earlier).map Step.taken).flatten ++ next.before := by
          rw [List.map_cons, List.flatten_cons, List.append_assoc]
  each := by
    intro next hnext
    rcases List.mem_cons.mp hnext with rfl | hmem
    · exact hstep
    · exact hrun.each next hmem

/-- Whichever lexers are called one after another, and whatever became of each call, no
    character of the text is lost, skipped or read twice, and each call takes what its way
    to end says. -/
theorem conserved_steps (lib : Combinators) (hlib : lib.Documented) (calls : List Call)
    (text : List Char) : Conserved text calls (steps lib calls text) := by
  induction calls generalizing text with
  | nil =>
    exact { calls_eq := rfl, pieces := rfl, place := by simp [steps], each := by simp [steps] }
  | cons call later ih =>
    have hrun := Conserved.cons (Step.exact_step hlib call text) (ih (call.step lib text).after)
    rw [call.step_call lib, call.step_before lib] at hrun
    exact hrun

/-- A word is found, refused where a longer one starts and read as an operand then; the
    last quote is not closed, and nothing is left behind it. -/
theorem conserved_steps_interleaved :
    let calls : List Call := [.quoted, .skipSpace, .keyword "NOT".toList, .skipSpace,
      .keyword "NOT".toList, .bare [':'], .quoted, .operand [], .operand [], .skipSpace, .bare []]
    let text := "\x22a b\x22 NOT NOTE:x\x22y".toList
    Combinators.standard.Documented ∧
      (steps Combinators.standard calls text).map Step.outcome =
        [.ok (some "a b".toList), .ok none, .ok none, .ok none, .error (.backtrack []),
          .ok (some "NOTE".toList), .error (.backtrack []), .ok (some ":x".toList),
          .error (.cut [.closingQuote]), .ok none, .error (.backtrack [])] ∧
      Conserved text calls (steps Combinators.standard calls text) := by
  intro calls text
  have hlib := Combinators.documented_standard
  exact ⟨hlib, by decide, conserved_steps Combinators.standard hlib calls text⟩

end TriggerCompose.Predicate
