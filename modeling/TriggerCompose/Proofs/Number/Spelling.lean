import TriggerCompose.Number.Word
import TriggerCompose.Proofs.Number.Display
import TriggerCompose.Proofs.Text.Words

/-!
# How numbers are spelled

A number text is a sign that may be absent, digits with a point anywhere among them or none at
all, and an exponent that may be absent. Both readers of number texts read all of them: one
gives the nearest double of every text, the other the integer of a text that has neither point
nor exponent.

## Main definitions

* `Number.Spelling`: a number text in its parts.

## Main statements

* `Number.Spelling.ofText?_text`: the double of a number text.
* `Number.Spelling.integer?_text`: the integer of a number text.
* `Number.exists_spelling_of_integer?`, `Number.ofText?_of_forall_text_ne`: what the two readers
  make of any other text.
-/

namespace TriggerCompose.Number

open Decimal (spanSign spanDigits spanFraction spanExponent? spanLiteral?)

/-! ### Signs -/

/-- The sign of a number text, where it may be absent. -/
inductive Sign where
  | absent
  | plus
  | minus

namespace Sign

def text : Sign → List Char
  | absent => []
  | plus => ['+']
  | minus => ['-']

def isNegative : Sign → Bool
  | minus => true
  | _ => false

/-- The sign of a number that is written without a plus. -/
def ofNegative (negative : Bool) : Sign :=
  if negative then minus else absent

/-- The integer of a sign and a size. -/
def apply (sign : Sign) (size : Nat) : Int :=
  if sign.isNegative then -(size : Int) else size

theorem isNegative_ofNegative (negative : Bool) : (ofNegative negative).isNegative = negative := by
  cases negative <;> rfl

theorem apply_ofNegative (n : Int) : (ofNegative (decide (n < 0))).apply n.natAbs = n := by
  rw [apply, isNegative_ofNegative]
  split
  next hn =>
    rw [decide_eq_true_eq] at hn
    omega
  next hn =>
    rw [decide_eq_true_eq] at hn
    omega

theorem mem_text {sign : Sign} {c : Char} (hc : c ∈ sign.text) :
    c ∈ ['+', '-', '.', 'e', 'E'] := by
  cases sign with
  | absent => cases hc
  | plus =>
    rw [List.mem_singleton.mp hc]
    decide
  | minus =>
    rw [List.mem_singleton.mp hc]
    decide

end Sign

/-- A text that starts with no sign. -/
def Unsigned (text : List Char) : Prop :=
  text.head? ≠ some '+' ∧ text.head? ≠ some '-'

theorem unsigned_of_forall {text : List Char} (h : ∀ c ∈ text.head?, c.isDigit ∨ c = '.') :
    Unsigned text := by
  constructor
  · intro hhead
    simpa using h '+' hhead
  · intro hhead
    simpa using h '-' hhead

theorem spanSign_of_unsigned {text : List Char} (h : Unsigned text) :
    spanSign text = (false, text) := by
  unfold spanSign
  split
  next => exact absurd rfl h.1
  next => exact absurd rfl h.2
  next => rfl

theorem spanSign_append (sign : Sign) {text : List Char} (h : Unsigned text) :
    spanSign (sign.text ++ text) = (sign.isNegative, text) := by
  cases sign with
  | absent => exact spanSign_of_unsigned h
  | plus => rfl
  | minus => rfl

theorem integer?_append (sign : Sign) {text : List Char} (h : Unsigned text) :
    integer? (sign.text ++ text) = (natural? text).map sign.apply := by
  cases sign with
  | absent =>
    change integer? text = _
    unfold integer?
    split
    next => exact absurd rfl h.1
    next => exact absurd rfl h.2
    next => cases natural? text <;> rfl
  | plus =>
    change integer? ('+' :: text) = _
    rw [integer?]
    cases natural? text <;> rfl
  | minus =>
    change integer? ('-' :: text) = _
    rw [integer?]
    cases natural? text <;> rfl

/-! ### Number texts -/

/-- The exponent of a number text: the letter `e` in either case, a sign, and digits. -/
structure Exponent where
  mark : Char
  sign : Sign
  digits : List Char
  mark_eq : mark = 'e' ∨ mark = 'E'
  isDigit : ∀ c ∈ digits, c.isDigit
  ne_nil : digits ≠ []

namespace Exponent

def text (e : Exponent) : List Char :=
  e.mark :: (e.sign.text ++ e.digits)

def value (e : Exponent) : Int :=
  e.sign.apply (Nat.ofDigitChars 10 e.digits 0)

theorem spanExponent?_text (e : Exponent) : spanExponent? e.text = some (some e.value, []) := by
  have hunsigned : Unsigned e.digits :=
    unsigned_of_forall fun c hc => .inl (e.isDigit c (List.mem_of_mem_head? hc))
  have hdigits : spanDigits e.digits = (e.digits, []) := by
    have happend := @Decimal.spanDigits_append e.digits [] e.isDigit rfl
    rwa [List.append_nil] at happend
  have hmark : (e.mark == 'e' || e.mark == 'E') = true := by simpa using e.mark_eq
  rw [text, spanExponent?, if_pos hmark, spanSign_append e.sign hunsigned]
  simp [hdigits, e.ne_nil, value, Sign.apply]

end Exponent

/-- A number text in its parts. There is a digit before or after the point. -/
structure Spelling where
  sign : Sign
  whole : List Char
  fraction? : Option (List Char)
  exponent? : Option Exponent
  isDigit : ∀ c ∈ whole ++ fraction?.getD [], c.isDigit
  ne_nil : whole ++ fraction?.getD [] ≠ []

namespace Spelling

variable (s : Spelling)

/-- The text of the exponent. -/
def exponentText : List Char :=
  (s.exponent?.map Exponent.text).getD []

/-- The text behind the whole digits. -/
def fractionText : List Char :=
  (s.fraction?.map ('.' :: ·)).getD [] ++ s.exponentText

/-- The text without its sign. -/
def body : List Char :=
  s.whole ++ s.fractionText

def text : List Char :=
  s.sign.text ++ s.body

/-- The digits, the fraction and the exponent. -/
def literal : Decimal.Literal where
  whole := s.whole
  fraction? := s.fraction?
  exponent? := s.exponent?.map Exponent.value

/-- The double nearest to the number. -/
def nearest : Double :=
  .ofDecimal s.sign.isNegative s.literal.value

/-- The integer of a text that has neither point nor exponent. -/
def integer? : Option Int :=
  s.literal.natural?.map s.sign.apply

/-! ### Characters -/

theorem isDigit_of_mem_whole {c : Char} (hc : c ∈ s.whole) : c.isDigit :=
  s.isDigit c (List.mem_append_left _ hc)

/-- The characters of number texts. -/
theorem mem_text {c : Char} (hc : c ∈ s.text) : c.isDigit ∨ c ∈ ['+', '-', '.', 'e', 'E'] := by
  have hsome : ∀ {α : Type} {o : Option α} {f : α → List Char}, c ∈ (o.map f).getD [] →
      ∃ x, o = some x ∧ c ∈ f x := by
    intro α o f hc
    cases o with
    | none => cases hc
    | some x => exact ⟨x, rfl, hc⟩
  rw [text, body, fractionText, exponentText, List.mem_append, List.mem_append,
    List.mem_append] at hc
  rcases hc with hsign | hwhole | hfraction | hexponent
  · exact .inr (Sign.mem_text hsign)
  · exact .inl (s.isDigit_of_mem_whole hwhole)
  · obtain ⟨fraction, hfraction, hc⟩ := hsome hfraction
    rcases List.mem_cons.mp hc with rfl | hdigit
    · exact .inr (by decide)
    · exact .inl (s.isDigit c (by rw [hfraction]; exact List.mem_append_right _ hdigit))
  · obtain ⟨e, -, hc⟩ := hsome hexponent
    rcases List.mem_cons.mp hc with rfl | hc
    · rcases e.mark_eq with hmark | hmark <;> rw [hmark] <;> exact .inr (by decide)
    · rcases List.mem_append.mp hc with hsign | hdigit
      · exact .inr (Sign.mem_text hsign)
      · exact .inl (e.isDigit c hdigit)

/-- A number text has no blank character. -/
theorem isTrimmed_text : Text.IsTrimmed s.text := by
  refine .of_forall fun c hc => ?_
  rcases s.mem_text hc with hdigit | hsign
  · exact Text.isBlank_of_isDigit hdigit
  · have hsigns : ['+', '-', '.', 'e', 'E'].all (! Text.isBlank ·) := by decide
    simpa using List.all_eq_true.mp hsigns c hsign

theorem head?_exponentText : ∀ c ∈ s.exponentText.head?, c = 'e' ∨ c = 'E' := by
  rw [exponentText]
  cases s.exponent? with
  | none => simp
  | some e => simpa [Exponent.text] using e.mark_eq

theorem head?_fractionText : ∀ c ∈ s.fractionText.head?, c = '.' ∨ c = 'e' ∨ c = 'E' := by
  rw [fractionText]
  cases s.fraction? with
  | none =>
    intro c hc
    exact .inr (s.head?_exponentText c hc)
  | some fraction => simp

theorem head?_body : ∀ c ∈ s.body.head?, c.isDigit ∨ c = '.' := by
  intro c hc
  rw [body] at hc
  cases hwhole : s.whole with
  | nil =>
    -- Without whole digits there is a fraction, and its point stands in front.
    have hne := s.ne_nil
    rw [hwhole] at hc hne
    cases hfraction : s.fraction? with
    | none => simp [hfraction] at hne
    | some fraction =>
      simp [fractionText, hfraction] at hc
      exact .inr hc.symm
  | cons d rest =>
    rw [hwhole] at hc
    obtain rfl : d = c := by simpa using hc
    exact .inl (s.isDigit_of_mem_whole (by simp [hwhole]))

theorem unsigned_body : Unsigned s.body :=
  unsigned_of_forall s.head?_body

/-! ### Reading -/

theorem spanExponent?_exponentText :
    spanExponent? s.exponentText = some (s.literal.exponent?, []) := by
  rw [exponentText, literal]
  cases s.exponent? with
  | none => rfl
  | some e => exact e.spanExponent?_text

theorem spanFraction_fractionText :
    spanFraction s.fractionText = (s.fraction?, s.exponentText) := by
  have hexponent := s.head?_exponentText
  have hdigits := s.isDigit
  rw [fractionText]
  generalize s.exponentText = later at hexponent ⊢
  cases hfraction : s.fraction? with
  | none =>
    change spanFraction later = _
    unfold spanFraction
    split
    next => simpa using hexponent '.' rfl
    next => rfl
  | some fraction =>
    have hspan : spanDigits (fraction ++ later) = (fraction, later) := by
      refine Decimal.spanDigits_append (fun c hc => hdigits c (by simp [hfraction, hc])) ?_
      rw [Option.any_eq_false]
      intro c hc
      rcases hexponent c hc with rfl | rfl <;> decide
    change spanFraction ('.' :: (fraction ++ later)) = _
    rw [spanFraction, hspan]

theorem spanDigits_body : spanDigits s.body = (s.whole, s.fractionText) := by
  refine Decimal.spanDigits_append (fun c hc => s.isDigit_of_mem_whole hc) ?_
  rw [Option.any_eq_false]
  intro c hc
  rcases s.head?_fractionText c hc with rfl | rfl | rfl <;> decide

theorem spanLiteral?_body : spanLiteral? s.body = some (s.literal, []) := by
  have hne : (s.whole.isEmpty && (s.fraction?.getD []).isEmpty) = false := by
    have hne := s.ne_nil
    rw [← Bool.not_eq_true, Bool.and_eq_true, List.isEmpty_iff, List.isEmpty_iff]
    rintro ⟨hwhole, hfraction⟩
    exact hne (by rw [hwhole, hfraction, List.append_nil])
  rw [spanLiteral?, spanDigits_body]
  simp only [spanFraction_fractionText, hne, spanExponent?_exponentText]
  rfl

theorem ofText?_text : Double.ofText? s.text = some s.nearest :=
  Double.ofText?_of_spanLiteral? (spanSign_append s.sign s.unsigned_body) s.spanLiteral?_body

theorem natural?_body : natural? s.body = s.literal.natural? := by
  have hne := s.ne_nil
  have hdigits := s.isDigit
  cases hfraction : s.fraction? with
  | some fraction =>
    -- The point is no digit.
    have hpoint : natural? s.body = none := by
      simp [natural?, body, fractionText, hfraction]
    rw [hpoint, Decimal.Literal.natural?, literal, hfraction]
  | none =>
    cases hexponent : s.exponent? with
    | some e =>
      have hmark : e.mark.isDigit = false := by
        rcases e.mark_eq with hmark | hmark <;> rw [hmark] <;> decide
      have hletter : natural? s.body = none := by
        simp [natural?, body, fractionText, exponentText, Exponent.text, hfraction, hexponent, hmark]
      rw [hletter, Decimal.Literal.natural?, literal, hfraction, hexponent]
      rfl
    | none =>
      have hbody : s.body = s.whole := by
        simp [body, fractionText, exponentText, hfraction, hexponent]
      have hwhole : natural? s.whole = some (Nat.ofDigitChars 10 s.whole 0) := by
        simp only [hfraction, Option.getD_none, List.append_nil] at hne hdigits
        have hany : s.whole.any (! ·.isDigit) = false := by simpa using hdigits
        rw [natural?, hany, List.isEmpty_eq_false_iff.mpr hne]
        rfl
      rw [hbody, hwhole, Decimal.Literal.natural?, literal, hfraction, hexponent]
      rfl

theorem integer?_text : Number.integer? s.text = s.integer? := by
  rw [text, integer?_append s.sign s.unsigned_body, natural?_body]
  rfl

/-- The double of an integer depends on the integer and its sign only. -/
theorem nearest_of_integer? {n : Int} (h : s.integer? = some n) :
    s.nearest = .ofDecimal s.sign.isNegative { coefficient := n.natAbs, exponent := 0 } := by
  obtain ⟨size, hsize, happly⟩ := Option.map_eq_some_iff.mp h
  have hvalue : s.literal.value = { coefficient := size, exponent := 0 } := by
    unfold Decimal.Literal.natural? at hsize
    split at hsize
    next hfraction hexponent =>
      cases hsize
      simp [Decimal.Literal.value, hfraction, hexponent]
    next => cases hsize
  have habs : n.natAbs = size := by
    rw [← happly, Sign.apply]
    split
    · exact Int.natAbs_neg _
    · rfl
  rw [nearest, hvalue, habs]

end Spelling

/-! ### Texts that are read as numbers -/

theorem exists_sign_of_spanSign (text : List Char) :
    ∃ sign : Sign, text = sign.text ++ (spanSign text).2 ∧ sign.isNegative = (spanSign text).1 := by
  unfold spanSign
  split
  next rest => exact ⟨.plus, rfl, rfl⟩
  next rest => exact ⟨.minus, rfl, rfl⟩
  next => exact ⟨.absent, rfl, rfl⟩

theorem spanDigits_append_eq (text : List Char) :
    (spanDigits text).1 ++ (spanDigits text).2 = text :=
  List.takeWhile_append_dropWhile

theorem isDigit_of_mem_spanDigits {text : List Char} {c : Char} (hc : c ∈ (spanDigits text).1) :
    c.isDigit :=
  List.all_eq_true.mp List.all_takeWhile c hc

theorem exists_exponent_of_spanExponent? {text : List Char} {value? : Option Int}
    (h : spanExponent? text = some (value?, [])) :
    ∃ exponent? : Option Exponent, (exponent?.map Exponent.text).getD [] = text ∧
      exponent?.map Exponent.value = value? := by
  unfold spanExponent? at h
  split at h
  next =>
    cases h
    exact ⟨none, rfl, rfl⟩
  next mark rest =>
    split at h
    next hmark =>
      obtain ⟨sign, hrest, hsign⟩ := exists_sign_of_spanSign rest
      simp only [Option.ite_none_left_eq_some, Option.some.injEq, Prod.mk.injEq] at h
      obtain ⟨hne, rfl, hend⟩ := h
      have hdigits := spanDigits_append_eq (spanSign rest).2
      rw [hend, List.append_nil] at hdigits
      refine ⟨some ⟨mark, sign, (spanDigits (spanSign rest).2).1, by simpa using hmark,
        fun c hc => isDigit_of_mem_spanDigits hc, by simpa using hne⟩, ?_, ?_⟩
      · change mark :: (sign.text ++ (spanDigits (spanSign rest).2).1) = _
        rw [hdigits, ← hrest]
      · simp [Exponent.value, Sign.apply, hsign]
    next => simp at h

theorem exists_fraction_of_spanFraction (text : List Char) :
    text = ((spanFraction text).1.map ('.' :: ·)).getD [] ++ (spanFraction text).2 ∧
      ∀ c ∈ (spanFraction text).1.getD [], c.isDigit := by
  unfold spanFraction
  split
  next rest =>
    refine ⟨?_, fun c hc => isDigit_of_mem_spanDigits hc⟩
    change '.' :: rest = '.' :: ((spanDigits rest).1 ++ (spanDigits rest).2)
    rw [spanDigits_append_eq]
  next => exact ⟨rfl, by simp⟩

/-- A text that is read to its end as a literal is a number text, with any sign in front. -/
theorem exists_spelling_of_spanLiteral? {text : List Char} {l : Decimal.Literal}
    (h : spanLiteral? text = some (l, [])) (sign : Sign) :
    ∃ s : Spelling, s.text = sign.text ++ text ∧ s.sign = sign ∧ s.literal = l := by
  rw [spanLiteral?] at h
  simp only [Option.ite_none_left_eq_some, Option.map_eq_some_iff, Prod.exists, Prod.mk.injEq,
    Bool.and_eq_true, List.isEmpty_iff, not_and] at h
  obtain ⟨hne, value?, rest, hexponent, rfl, rfl⟩ := h
  obtain ⟨exponent?, htext, rfl⟩ := exists_exponent_of_spanExponent? hexponent
  obtain ⟨hafter, hfraction⟩ := exists_fraction_of_spanFraction (spanDigits text).2
  refine ⟨⟨sign, (spanDigits text).1, (spanFraction (spanDigits text).2).1, exponent?, ?_, ?_⟩,
    ?_, rfl, rfl⟩
  · intro c hc
    rcases List.mem_append.mp hc with hwhole | hc
    · exact isDigit_of_mem_spanDigits hwhole
    · exact hfraction c hc
  · rw [ne_eq, List.append_eq_nil_iff]
    rintro ⟨hwhole, hnone⟩
    exact hne hwhole hnone
  · rw [Spelling.text, Spelling.body, Spelling.fractionText, Spelling.exponentText, htext, ← hafter,
      spanDigits_append_eq]

theorem exists_spelling_of_natural? {text : List Char} {n : Nat} (h : natural? text = some n)
    (sign : Sign) : ∃ s : Spelling, s.text = sign.text ++ text := by
  simp only [natural?, Option.ite_none_left_eq_some, Bool.not_eq_true, Bool.or_eq_false_iff,
    List.isEmpty_eq_false_iff, List.any_eq_false, Bool.not_eq_eq_eq_not, Bool.not_true,
    Bool.not_eq_false] at h
  obtain ⟨⟨hne, hdigits⟩, -⟩ := h
  have hread := @Decimal.spanLiteral?_whole text [] hdigits hne rfl
  rw [List.append_nil] at hread
  obtain ⟨s, htext, -, -⟩ := exists_spelling_of_spanLiteral? hread sign
  exact ⟨s, htext⟩

/-- A text that is read as an integer is a number text. -/
theorem exists_spelling_of_integer? {text : List Char} {n : Int} (h : integer? text = some n) :
    ∃ s : Spelling, s.text = text := by
  have hread : ∃ (sign : Sign) (rest : List Char) (size : Nat), text = sign.text ++ rest ∧
      natural? rest = some size := by
    unfold integer? at h
    split at h
    next rest => exact ⟨.plus, rest, by cases hsize : natural? rest <;> simp_all [Sign.text]⟩
    next rest => exact ⟨.minus, rest, by cases hsize : natural? rest <;> simp_all [Sign.text]⟩
    next => exact ⟨.absent, text, by cases hsize : natural? text <;> simp_all [Sign.text]⟩
  obtain ⟨sign, rest, size, rfl, hsize⟩ := hread
  exact exists_spelling_of_natural? hsize sign

/-- A text that is no number text can be a word for a double, and nothing else. -/
theorem ofText?_of_forall_text_ne {text : List Char} (h : ∀ s : Spelling, s.text ≠ text) :
    Double.ofText? text = Double.ofWord? (spanSign text).1 (spanSign text).2 := by
  obtain ⟨sign, htext, -⟩ := exists_sign_of_spanSign text
  simp only [Double.ofText?]
  split
  next literal hliteral =>
    obtain ⟨s, hs, -, -⟩ := exists_spelling_of_spanLiteral? hliteral sign
    exact absurd (hs.trans htext.symm) (h s)
  next => rfl

/-! ### Texts of digits that go on with a hyphen -/

/-- The words for numbers that are not finite have no hyphen. -/
theorem ofWord?_of_hyphen {negative : Bool} {word : List Char} (hword : '-' ∈ word) :
    Double.ofWord? negative word = none := by
  have hlower : ∀ name : List Char, '-' ∉ name → (word.map Char.toLower == name) = false := by
    intro name hname
    rw [beq_eq_false_iff_ne]
    rintro rfl
    exact hname (List.mem_map.mpr ⟨'-', hword, rfl⟩)
  simp [Double.ofWord?, hlower]

section

variable {digits : List Char} (hdigits : ∀ c ∈ digits, c.isDigit) (hne : digits ≠ [])
  (rest : List Char)

include hdigits hne

theorem unsigned_of_digits : Unsigned (digits ++ rest) := by
  obtain ⟨d, later, rfl⟩ := List.exists_cons_of_ne_nil hne
  refine unsigned_of_forall fun c hc => .inl ?_
  obtain rfl : d = c := by simpa using hc
  exact hdigits d List.mem_cons_self

theorem signed?_of_hyphen : signed? (digits ++ '-' :: rest) = none := by
  have hnatural : natural? (digits ++ '-' :: rest) = none := by
    simp [natural?]
  have hinteger := integer?_append .absent (unsigned_of_digits hdigits hne ('-' :: rest))
  rw [hnatural] at hinteger
  rw [signed?, ← List.nil_append (digits ++ '-' :: rest)]
  exact congrArg (Option.bind · _) hinteger

theorem ofText?_of_hyphen : Double.ofText? (digits ++ '-' :: rest) = none := by
  have hsign := spanSign_of_unsigned (unsigned_of_digits hdigits hne ('-' :: rest))
  have hliteral := @Decimal.spanLiteral?_whole digits ('-' :: rest) hdigits hne rfl
  simp only [Double.ofText?, hsign, hliteral]
  exact ofWord?_of_hyphen (by simp)

end

end TriggerCompose.Number
