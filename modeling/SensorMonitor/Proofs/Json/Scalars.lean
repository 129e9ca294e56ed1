/-
# Proofs.Json.Scalars -- strings and numbers are read back

The reader undoes the writer piece by piece, whatever follows: it reads back a character
with its escapes (`units?_unit`), a string (`string?_string`), and a legible numeral that is
not followed by more of a number (`number?_numeral`).  Blanks in front of a value make no
difference.
-/
import SensorMonitor.Json.Reader
import SensorMonitor.Json.Writer
import SensorMonitor.Proofs.Json.Numerals

namespace SensorMonitor.Json

set_option autoImplicit false

open Number Reader

/-! ## Strings -/

theorem hexValue?_digitChar {n : Nat} (small : n < 16) :
    hexValue? (Nat.digitChar n) = some n := by
  have all : ∀ n < 16, hexValue? (Nat.digitChar n) = some n := by decide
  exact all n small

/-- The number of a control character is read back as the character. -/
theorem codeUnit?_control {c : Char} (control : c.toNat < 0x20) :
    codeUnit? '0' '0' (Nat.digitChar (c.toNat / 16)) (Nat.digitChar (c.toNat % 16)) =
        some c.toNat ∧
      StringUnit.ofCodeUnit c.toNat = .char c := by
  constructor
  · unfold codeUnit?
    rw [hexValue?_digitChar (by omega), hexValue?_digitChar (by omega)]
    have zero : hexValue? '0' = some 0 := rfl
    rw [zero]
    simp only [Option.bind_eq_bind, Option.bind_some]
    congr 1
    omega
  · unfold StringUnit.ofCodeUnit isLeadingHalf isTrailingHalf
    have low : ¬ 0xD800 ≤ c.toNat := by omega
    have low' : ¬ 0xDC00 ≤ c.toNat := by omega
    simp [low, low', Char.ofNat_toNat]

/-- The reader takes a written character as it was. -/
theorem units?_unit (read : List StringUnit) (c : Char) (rest : List Char) :
    units? read (Writer.unit c ++ rest) = units? (.char c :: read) rest := by
  unfold Writer.unit
  split
  · next quoted => rcases quoted with rfl | rfl <;> rfl
  split
  · next here => subst here; rfl
  split
  · next here => subst here; rfl
  split
  · next here => subst here; rfl
  split
  · next here => subst here; rfl
  split
  · next here => subst here; rfl
  split
  · next control =>
      obtain ⟨unit, char⟩ := codeUnit?_control control
      show units? read ('\\' :: 'u' :: '0' :: '0' :: _ :: _ :: rest) = _
      rw [units?, unit]
      dsimp only
      rw [char]
  · next special _ _ _ _ _ bare =>
      obtain ⟨quote, backslash⟩ := not_or.1 special
      show units? read (c :: rest) = _
      rw [units?]
      · rw [if_neg (not_or.2 ⟨backslash, bare⟩)]
      · exact quote
      · exact fun _ _ _ _ _ same => absurd same backslash
      · exact fun _ _ same => absurd same backslash

theorem units?_flatMap (read : List StringUnit) (text : List Char) (rest : List Char) :
    units? read (text.flatMap Writer.unit ++ '"' :: rest) =
      some (read.reverse ++ text.map .char, rest) := by
  induction text generalizing read with
  | nil =>
      rw [List.map_nil, List.append_nil]
      rfl
  | cons c text ih =>
      rw [List.flatMap_cons, List.append_assoc, units?_unit, ih]
      simp

theorem textOf?_map (read text : List Char) :
    textOf? read (text.map .char) = some (String.ofList (read.reverse ++ text)) := by
  induction text generalizing read with
  | nil => simp [textOf?]
  | cons c text ih =>
      rw [List.map_cons, textOf?, ih]
      simp

/-- A string is read back behind its opening quote. -/
theorem string?_string (s : String) (rest : List Char) :
    ∃ body, Writer.string (some s) = '"' :: body ∧
      string? (body ++ rest) = some (some s, rest) := by
  refine ⟨s.toList.flatMap Writer.unit ++ ['"'], rfl, ?_⟩
  unfold string?
  rw [List.append_assoc, List.singleton_append, units?_flatMap]
  simp [textOf?_map]

/-! ## Numbers -/

/-- The text does not go on with more of a number. -/
def EndsNumber (rest : List Char) : Prop :=
  ∀ c ∈ rest.head?, c.isDigit = false ∧ c ≠ '.' ∧ c ≠ 'e' ∧ c ≠ 'E'

/-- The text does not go on with a digit. -/
def EndsWord (rest : List Char) : Prop := ∀ c ∈ rest.head?, c.isDigit = false

theorem span_word {word rest : List Char} (digits : IsWord word) (ends : EndsWord rest) :
    (word ++ rest).span Char.isDigit = (word, rest) :=
  span_of_stops digits ends

theorem whole?_word {word rest : List Char} (some_ : word ≠ []) (digits : IsWord word)
    (leading : word.head? = some '0' → word = ['0']) (ends : EndsWord rest) :
    whole? (word ++ rest) = some (word, rest) := by
  have spanned := span_word digits ends
  unfold whole?
  split
  · next c rest' text =>
      -- a zero in front is the whole word, and no digit follows it
      cases word with
      | nil => exact absurd rfl some_
      | cons d word =>
          obtain ⟨rfl, behind⟩ := List.cons.inj ((List.cons_append ..).symm.trans text)
          obtain rfl : word = [] := (List.cons.inj (leading rfl)).2
          obtain rfl : rest = c :: rest' := behind
          have stops : c.isDigit = false := ends c rfl
          simp [stops]
  · rw [spanned]
    simp [some_]

theorem fraction?_word {word rest : List Char} (digits : IsWord word)
    (ends : EndsWord rest) (point : rest.head? ≠ some '.') :
    fraction? ((if word.isEmpty then [] else '.' :: word) ++ rest) = some (word, rest) := by
  cases word with
  | nil =>
      show fraction? rest = _
      cases rest with
      | nil => rfl
      | cons c rest =>
          unfold fraction?
          split
          · next text => exact absurd (congrArg List.head? text) point
          · rfl
  | cons d word =>
      show fraction? ('.' :: ((d :: word) ++ rest)) = _
      simp only [fraction?]
      rw [span_word digits ends]
      rfl

/-- An exponent with its sign, or none. -/
def exponentText (exponent : Option Int) : List Char :=
  match exponent with
  | none => []
  | some e => 'e' :: (if e < 0 then '-' else '+') :: Nat.toDigits 10 e.natAbs

theorem splitSign_sign (e : Int) (text : List Char) :
    Decimal.splitSign ((if e < 0 then '-' else '+') :: text) = (decide (e < 0), text) := by
  by_cases negative : e < 0
  · rw [if_pos negative, decide_eq_true negative]
    rfl
  · rw [if_neg negative, decide_eq_false negative]
    rfl

theorem signed_natAbs (e : Int) :
    (if decide (e < 0) then -(e.natAbs : Int) else e.natAbs) = e := by
  by_cases negative : e < 0
  · rw [if_pos (decide_eq_true negative)]
    omega
  · rw [if_neg (by rw [decide_eq_false negative]; exact Bool.false_ne_true)]
    omega

theorem exponent?_exponentText (exponent : Option Int) {rest : List Char}
    (ends : EndsNumber rest) :
    exponent? (exponentText exponent ++ rest) = some (exponent, rest) := by
  cases exponent with
  | none =>
      show exponent? rest = _
      cases rest with
      | nil => rfl
      | cons c rest =>
          obtain ⟨-, -, small, large⟩ := ends c rfl
          simp only [exponent?]
          rw [if_neg (by simp [small, large])]
  | some e =>
      have spanned := span_word (.toDigits e.natAbs) fun c first => (ends c first).1
      have some_ : (Nat.toDigits 10 e.natAbs).isEmpty = false := by
        simp
      show exponent? ('e' :: (if e < 0 then '-' else '+') :: (Nat.toDigits 10 e.natAbs ++ rest)) = _
      simp only [exponent?]
      rw [if_pos (Or.inl trivial), splitSign_sign]
      dsimp only
      rw [spanned]
      dsimp only
      rw [some_, Number.digitsValue_toDigits]
      show some (some (if decide (e < 0) then -(e.natAbs : Int) else e.natAbs), rest) = _
      rw [signed_natAbs]

/-- Behind the fraction no digit follows, and no point. -/
theorem ends_exponentText (exponent : Option Int) {rest : List Char} (ends : EndsNumber rest) :
    EndsWord (exponentText exponent ++ rest) ∧
      (exponentText exponent ++ rest).head? ≠ some '.' := by
  cases exponent with
  | none =>
      show EndsWord rest ∧ rest.head? ≠ some '.'
      exact ⟨fun c first => (ends c first).1, fun point => (ends '.' point).2.1 rfl⟩
  | some e =>
      refine ⟨fun c first => ?_, fun point => absurd (Option.some.inj point) (by decide)⟩
      obtain rfl : 'e' = c := Option.some.inj first
      rfl

/-- The text behind the sign of a numeral. -/
def unsignedText (n : Numeral) (rest : List Char) : List Char :=
  n.whole ++ ((if n.fraction.isEmpty then [] else '.' :: n.fraction) ++
    (exponentText n.exponent ++ rest))

theorem numeral_append (n : Numeral) (rest : List Char) : Writer.numeral n ++ rest =
    (if n.negative then ['-'] else []) ++ unsignedText n rest := by
  unfold Writer.numeral unsignedText exponentText
  exact (List.append_assoc ..).trans ((List.append_assoc ..).trans (List.append_assoc ..))

/-- Behind the sign a number is read part by part. -/
theorem number?_sign {n : Numeral} {rest : List Char}
    (first : ∃ c text, unsignedText n rest = c :: text ∧ c.isDigit = true) :
    number? (Writer.numeral n ++ rest) =
      (whole? (unsignedText n rest)).bind fun whole => (fraction? whole.2).bind fun fraction =>
        (exponent? fraction.2).bind fun exponent =>
          some (⟨n.negative, whole.1, fraction.1, exponent.1⟩, exponent.2) := by
  rw [numeral_append]
  cases n.negative with
  | true => rfl
  | false =>
      obtain ⟨c, tail, text, digit⟩ := first
      show number? (unsignedText n rest) = _
      rw [text]
      unfold number?
      split
      · next sign =>
          split at sign
          · next dash =>
              -- a digit is no sign
              obtain rfl : c = '-' := (List.cons.inj dash).1
              exact absurd digit (by decide)
          · cases sign
            rfl

/-- **A legible numeral is read back**, unless more of a number follows. -/
theorem number?_numeral {n : Numeral} (legible : n.Legible) {rest : List Char}
    (ends : EndsNumber rest) : number? (Writer.numeral n ++ rest) = some (n, rest) := by
  obtain ⟨some_, digits, leading, fraction⟩ := legible
  obtain ⟨behind, point⟩ := ends_exponentText n.exponent ends
  have before : EndsWord ((if n.fraction.isEmpty then [] else '.' :: n.fraction) ++
      (exponentText n.exponent ++ rest)) := by
    split
    · exact behind
    · intro c first
      obtain rfl : '.' = c := Option.some.inj first
      rfl
  have whole := whole?_word some_ digits leading before
  have first : ∃ c tail, unsignedText n rest = c :: tail ∧ c.isDigit = true := by
    unfold unsignedText
    cases word : n.whole with
    | nil => exact absurd word some_
    | cons c word' => exact ⟨c, _, rfl, digits c (word ▸ List.mem_cons_self)⟩
  rw [number?_sign first]
  unfold unsignedText
  rw [whole, Option.bind_some, fraction?_word fraction behind point, Option.bind_some,
    exponent?_exponentText n.exponent ends, Option.bind_some]

/-! ## Blanks -/

/-- Nothing but blanks. -/
def Blank (text : List Char) : Prop := ∀ c ∈ text, isBlank c = true

theorem blank_nil : Blank [] := List.forall_mem_nil _

theorem blank_space : Blank [' '] := List.forall_mem_singleton.2 rfl

theorem blank_newLine (depth : Nat) : Blank (Writer.newLine depth) := by
  intro c member
  rcases List.mem_cons.1 member with rfl | member
  · rfl
  · rw [List.eq_of_mem_replicate member]
    rfl

theorem skipBlanks_append {before : List Char} (blank : Blank before) (text : List Char) :
    skipBlanks (before ++ text) = skipBlanks text := by
  unfold skipBlanks
  exact List.dropWhile_append_of_pos blank

theorem skipBlanks_cons {c : Char} (shown : isBlank c = false) (text : List Char) :
    skipBlanks (c :: text) = c :: text := by
  unfold skipBlanks
  rw [List.dropWhile_cons_of_neg (by simp [shown])]

/-- Blanks before a value make no difference. -/
theorem value?_congr {text text' : List Char} (same : skipBlanks text = skipBlanks text')
    (fuel : Nat) : value? fuel text = value? fuel text' := by
  cases fuel with
  | zero => rfl
  | succ fuel =>
      unfold value?
      rw [same]

/-! ## Values -/

/-- A text with something to see in front, which closes nothing and opens nothing. -/
def StartsScalar (text : List Char) : Prop :=
  ∃ c rest, text = c :: rest ∧ isBlank c = false ∧ c ≠ ']' ∧ c ≠ '[' ∧ c ≠ '\x7b'

/-- The text of a value that is not a container. -/
theorem value?_of_startsScalar {text : List Char} (starts : StartsScalar text) (fuel : Nat) :
    value? (fuel + 1) text = scalar? text := by
  obtain ⟨c, rest, rfl, shown, -, bracket, brace⟩ := starts
  unfold value?
  rw [skipBlanks_cons shown]
  split
  · next open_ => exact absurd (List.cons.inj open_).1 bracket
  · next open_ => exact absurd (List.cons.inj open_).1 brace
  · rfl

theorem numeral_starts {n : Numeral} (legible : n.Legible) :
    ∃ c rest, Writer.numeral n = c :: rest ∧ (c = '-' ∨ c.isDigit = true) := by
  unfold Writer.numeral
  cases n.negative with
  | true => exact ⟨'-', _, rfl, Or.inl rfl⟩
  | false =>
      cases word : n.whole with
      | nil => exact absurd word legible.some_
      | cons c word' =>
          exact ⟨c, _, rfl, Or.inr (legible.whole c (word ▸ List.mem_cons_self))⟩

/-- What a sign or a digit is not. -/
theorem not_digit {c : Char} (front : c = '-' ∨ c.isDigit = true) :
    isBlank c = false ∧ c ≠ ']' ∧ c ≠ '[' ∧ c ≠ '\x7b' ∧ c ≠ '"' ∧ c ≠ 'n' ∧ c ≠ 't' ∧ c ≠ 'f' := by
  rcases front with rfl | digit
  · decide
  · have other : ∀ d, d.isDigit = false → c ≠ d := by
      rintro d none_ rfl
      cases digit.symm.trans none_
    refine ⟨?_, other _ rfl, other _ rfl, other _ rfl, other _ rfl, other _ rfl, other _ rfl,
      other _ rfl⟩
    simp [isBlank, other ' ' rfl, other '\t' rfl, other '\n' rfl, other '\r' rfl]

/-- A number is read back as a value. -/
theorem value?_number {n : Numeral} (legible : n.Legible) {rest : List Char}
    (ends : EndsNumber rest) (fuel : Nat) :
    value? (fuel + 1) (Writer.numeral n ++ rest) = some (.number n, rest) := by
  have read := number?_numeral legible ends
  obtain ⟨c, tail, text, front⟩ := numeral_starts legible
  obtain ⟨shown, close, bracket, brace, quote, n_, t_, f_⟩ := not_digit front
  rw [text, List.cons_append] at read ⊢
  rw [value?_of_startsScalar ⟨c, tail ++ rest, rfl, shown, close, bracket, brace⟩]
  unfold scalar?
  split
  · next other => exact absurd (List.cons.inj other).1 quote
  · next other => exact absurd (List.cons.inj other).1 n_
  · next other => exact absurd (List.cons.inj other).1 t_
  · next other => exact absurd (List.cons.inj other).1 f_
  · rw [read]
    rfl

/-- A text is read back as a value. -/
theorem value?_string (s : String) (rest : List Char) (fuel : Nat) :
    value? (fuel + 1) (Writer.string (some s) ++ rest) = some (.string (some s), rest) := by
  obtain ⟨body, text, read⟩ := string?_string s rest
  rw [text, List.cons_append]
  have starts : StartsScalar ('"' :: (body ++ rest)) :=
    ⟨'"', _, rfl, rfl, by decide, by decide, by decide⟩
  rw [value?_of_startsScalar starts]
  show (string? (body ++ rest)).map _ = _
  rw [read]
  rfl

theorem endsNumber_cons {c : Char} (ends : c.isDigit = false ∧ c ≠ '.' ∧ c ≠ 'e' ∧ c ≠ 'E')
    (rest : List Char) : EndsNumber (c :: rest) := by
  intro c' first
  obtain rfl : c = c' := Option.some.inj first
  exact ends

end SensorMonitor.Json
