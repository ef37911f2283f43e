import TriggerCompose.Predicate.Cursor
import TriggerCompose.Proofs.Predicate.Parser

/-!
# Lexers on a cursor and without

The lexers on a cursor do with it what the lexers without one say of the text: they leave
it behind the lexeme that they find, and in front of the text if they find none. No law of
the combinators says so of a lexer, since a refusal leaves the cursor where it arose. It
holds because the lexers refuse in front of what they read, put the cursor back, or find
the opening quote that nothing closes.

## Main definitions

* `Predicate.Lexed.onCursor`: what a lexer without a cursor says, on a cursor.

## Main statements

* `Predicate.quoted_onCursor`, `Predicate.bare_onCursor`, `Predicate.operand_onCursor`,
  `Predicate.skipSpace_onCursor`, `Predicate.keyword_onCursor`: the lexers.
* `Predicate.Combinators.documented_standard`: there are combinators that keep the laws.
-/

namespace TriggerCompose.Predicate

/-! ### On a cursor and without -/

/-- What a lexer without a cursor finds, as a result on a cursor in front of the text. -/
def Lexed.onCursor {α : Type} (text : List Char) : Lexed α → EStateM.Result Refusal (List Char) α
  | found lexeme rest => .ok lexeme rest
  | absent => .error (.backtrack []) text
  | unclosed => .error (.cut [.closingQuote]) []

section Agreement

variable {α β : Type}

theorem bind_of_ok {lexer : CursorLexer α} {next : α → CursorLexer β} {text left : List Char}
    {a : α} (hlexer : lexer text = .ok a left) : (lexer >>= next) text = next a left := by
  show EStateM.bind lexer next text = next a left
  rw [EStateM.bind, hlexer]

theorem bind_of_error {lexer : CursorLexer α} {next : α → CursorLexer β} {text left : List Char}
    {refusal : Refusal} (hlexer : lexer text = .error refusal left) :
    (lexer >>= next) text = .error refusal left := by
  show EStateM.bind lexer next text = .error refusal left
  rw [EStateM.bind, hlexer]

variable {lib : Combinators} (hlib : lib.Documented)
include hlib

/-- The closing quote is there, or the refusal is final. -/
theorem closing_append (rest : List Char) :
    lib.context .closingQuote (lib.cutErr (lib.literal [quote])) (quote :: rest) = .ok () rest :=
  hlib.context_ok (hlib.cutErr_ok (hlib.literal_append [quote] rest))

theorem closing_nil :
    lib.context .closingQuote (lib.cutErr (lib.literal [quote])) [] =
      .error (.cut [.closingQuote]) [] :=
  hlib.context_error (hlib.cutErr_error (hlib.literal_refused (by simp)))

theorem quoted_onCursor (text : List Char) : lib.quoted text = (quoted text).onCursor text := by
  have hcontent (text : List Char) : lib.takeWhile 0 (· != quote) text =
      .ok (text.takeWhile (· != quote)) (text.dropWhile (· != quote)) :=
    hlib.takeWhile_found (Nat.zero_le _)
  rcases quote_cases text with ⟨content, rest, hclosed, rfl⟩ | ⟨body, hbody, rfl⟩ | hhead
  · have hopen := hlib.literal_append [quote] (content ++ quote :: rest)
    have hspan := hcontent (content ++ quote :: rest)
    rw [(span_quote hclosed rest).1, (span_quote hclosed rest).2] at hspan
    rw [quoted_closed hclosed, Combinators.quoted]
    exact (bind_of_ok hopen).trans
      ((bind_of_ok hspan).trans (bind_of_ok (closing_append hlib rest)))
  · have hopen := hlib.literal_append [quote] body
    have hspan := hcontent body
    rw [(span_end hbody).1, (span_end hbody).2] at hspan
    rw [quoted_unclosed hbody, Combinators.quoted]
    exact (bind_of_ok hopen).trans ((bind_of_ok hspan).trans (bind_of_error (closing_nil hlib)))
  · have habsent : ¬ [quote] <+: text := by
      rintro ⟨rest, rfl⟩
      exact hhead rfl
    rw [quoted_absent hhead, Combinators.quoted]
    exact bind_of_error (hlib.literal_refused habsent)

theorem bare_onCursor (stop text : List Char) :
    lib.bare stop text = (bare stop text).onCursor text := by
  unfold bare Combinators.bare
  cases hrun : text.takeWhile (isBare stop) with
  | nil => exact hlib.takeWhile_refused (by simp [hrun])
  | cons c later =>
    rw [hlib.takeWhile_found (by simp [hrun]), hrun]
    rfl

/-- The first lexer backtracks in front of the text only, so it does not matter whether
    the second one starts there or where the first one stopped. -/
theorem operand_onCursor (stop text : List Char) :
    lib.operand stop text = (operand stop text).onCursor text := by
  have hquoted := quoted_onCursor hlib text
  unfold operand Combinators.operand
  cases hread : quoted text with
  | found lexeme rest =>
    rw [hread] at hquoted
    exact hlib.alt_ok hquoted
  | absent =>
    rw [hread] at hquoted
    rw [hlib.alt_backtrack hquoted]
    exact bare_onCursor hlib stop text
  | unclosed =>
    rw [hread] at hquoted
    exact hlib.alt_cut hquoted

theorem skipSpace_onCursor (text : List Char) : lib.skipSpace text = .ok () (skipSpace text) :=
  bind_of_ok (hlib.multispace_eq text)

theorem keyword_onCursor (word text : List Char) :
    lib.keyword word text = (keyword word text).onCursor text := by
  have hsaved : (get : CursorLexer (List Char)) text = .ok text text := rfl
  rw [Combinators.keyword, bind_of_ok hsaved]
  by_cases hprefix : word <+: text
  · obtain ⟨rest, rfl⟩ := hprefix
    have hnext : (get : CursorLexer (List Char)) rest = .ok rest rest := rfl
    rw [bind_of_ok (hlib.literal_append word rest), bind_of_ok hnext, keyword_append]
    cases rest.head?.any continuesWord with
    | false => rfl
    | true => rfl
  · rw [bind_of_error (hlib.literal_refused hprefix), keyword_absent hprefix]
    rfl

end Agreement

/-- What a lexer found, in other terms. -/
def Lexed.map {α β : Type} (f : α → β) : Lexed α → Lexed β
  | found lexeme rest => found (f lexeme) rest
  | absent => absent
  | unclosed => unclosed

theorem map_onCursor {α β : Type} (f : α → β) {lexer : CursorLexer α} {lexed : Lexed α}
    {text : List Char} (hlexer : lexer text = lexed.onCursor text) :
    (f <$> lexer) text = (lexed.map f).onCursor text := by
  show EStateM.map f lexer text = (lexed.map f).onCursor text
  rw [EStateM.map, hlexer]
  cases lexed <;> rfl

/-! ### Combinators that keep the laws -/

/-- The combinators of the model keep the laws. -/
theorem Combinators.documented_standard : standard.Documented where
  literal_append symbol rest := by
    have hprefix := isPrefixOf?_append_self symbol rest
    simp [standard, hprefix]
  literal_refused habsent := by
    have hprefix := isPrefixOf?_eq_none habsent
    simp [standard, hprefix]
  takeWhile_found hleast := if_pos hleast
  takeWhile_refused hleast := if_neg (Nat.not_le.mpr hleast)
  multispace_eq _ := rfl
  alt_ok hfirst := by simp [standard, hfirst]
  alt_cut hfirst := by simp [standard, hfirst]
  alt_backtrack hfirst := by simp [standard, hfirst]
  cutErr_ok hlexer := by simp [standard, hlexer]
  cutErr_error hlexer := by simp [standard, hlexer]
  context_ok hlexer := by simp [standard, hlexer]
  context_error hlexer := by simp [standard, hlexer]

end TriggerCompose.Predicate
