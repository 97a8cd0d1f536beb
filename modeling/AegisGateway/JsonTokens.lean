import AegisGateway.Json
import Mathlib.Data.List.TakeWhile

set_option autoImplicit false

/-!
# The tokens of JSON

The parts of the standard library's decoder that know no nesting: spaces, strings and
numbers, on lists of characters. A scanner gets what it may read, takes what it needs and
hands on the rest. What it takes decides what it returns: behind it may stand anything
that does not go on a number.

What a Python value is beyond Lean's is left open: what `float` and `repr` make of the text
of a number with a fraction or an exponent, and which character stands for half a surrogate
pair in a string.
-/
namespace AegisGateway.JsonTokens

/-- The numbers and characters that have no counterpart here. -/
structure PyTexts where
  floatRepr : String → String
  surrogate : ℕ → Char

/-- For texts without floats and halves of pairs. -/
def plainTexts : PyTexts := ⟨id, fun _ => '?'⟩

section Scanners
variable {α : Type}

/-- With room enough, the scanner takes exactly this, whatever allowed follows. -/
def Takes (scan : ℕ → List Char → Option (α × List Char)) (follow : List Char → Prop)
    (used : List Char) (a : α) : Prop :=
  ∀ fuel rest, used.length ≤ fuel → follow rest → scan fuel (used ++ rest) = some (a, rest)

def Anything (_ : List Char) : Prop := True

variable {scan : ℕ → List Char → Option (α × List Char)} {used : List Char} {a : α}

theorem Takes.mono (h : Takes scan Anything used a) (follow : List Char → Prop) :
    Takes scan follow used a := fun fuel rest room _ => h fuel rest room trivial

end Scanners

section Spaces

def isJsonSpace (c : Char) : Bool := c = ' ' || c = '\t' || c = '\n' || c = '\r'

def skipSpaces (cs : List Char) : List Char := cs.dropWhile isJsonSpace

def Spaces (cs : List Char) : Prop := ∀ c ∈ cs, isJsonSpace c = true

/-- The text does not begin with a space. -/
def Trimmed (cs : List Char) : Prop := ∀ c ∈ cs.head?, isJsonSpace c = false

theorem skipSpaces_split (cs : List Char) : ∃ spaces, Spaces spaces ∧ cs = spaces ++ skipSpaces cs :=
  ⟨cs.takeWhile isJsonSpace, fun _ mem => List.mem_takeWhile_imp mem,
    List.takeWhile_append_dropWhile.symm⟩

theorem skipSpaces_trimmed (cs : List Char) : Trimmed (skipSpaces cs) := by
  have head := List.head?_dropWhile_not isJsonSpace cs
  intro c mem
  rw [skipSpaces] at mem
  cases first : (cs.dropWhile isJsonSpace).head? with
  | none => simp [first] at mem
  | some d =>
    rw [first] at head mem
    cases mem
    exact head

theorem skipSpaces_of_trimmed {cs : List Char} (h : Trimmed cs) : skipSpaces cs = cs := by
  cases cs with
  | nil => rfl
  | cons c rest => rw [skipSpaces, List.dropWhile_cons_of_neg (by simp [h c rfl])]

theorem skipSpaces_to {spaces cs : List Char} (h : Spaces spaces) (trimmed : Trimmed cs) :
    skipSpaces (spaces ++ cs) = cs := by
  rw [skipSpaces, List.dropWhile_append_of_pos h]
  exact skipSpaces_of_trimmed trimmed

/-- The first character behind the spaces, and what is behind it. -/
def nextMark (cs : List Char) : Option (Char × List Char) :=
  match skipSpaces cs with
  | [] => none
  | c :: rest => some (c, rest)

theorem nextMark_split {cs rest : List Char} {c : Char} (h : nextMark cs = some (c, rest)) :
    ∃ spaces, Spaces spaces ∧ isJsonSpace c = false ∧ cs = spaces ++ c :: rest := by
  obtain ⟨spaces, all, split⟩ := skipSpaces_split cs
  have trimmed := skipSpaces_trimmed cs
  rw [nextMark] at h
  cases skipped : skipSpaces cs with
  | nil => simp [skipped] at h
  | cons d tail =>
    rw [skipped] at h split trimmed
    cases h
    exact ⟨spaces, all, trimmed c rfl, split⟩

theorem nextMark_append {spaces rest : List Char} {c : Char} (h : Spaces spaces)
    (mark : isJsonSpace c = false) : nextMark (spaces ++ c :: rest) = some (c, rest) := by
  have trimmed : Trimmed (c :: rest) := by
    rintro d ⟨⟩
    exact mark
  rw [nextMark, skipSpaces_to h trimmed]

end Spaces

section Strings

def hexDigitValue (c : Char) : Option ℕ :=
  if '0' ≤ c ∧ c ≤ '9' then some (c.toNat - 48)
  else if 'a' ≤ c ∧ c ≤ 'f' then some (c.toNat - 87)
  else if 'A' ≤ c ∧ c ≤ 'F' then some (c.toNat - 55)
  else none

def hexCode (a b c d : Char) : Option ℕ := do
  let a ← hexDigitValue a
  let b ← hexDigitValue b
  let c ← hexDigitValue c
  let d ← hexDigitValue d
  return ((a * 16 + b) * 16 + c) * 16 + d

def isHighSurrogate (code : ℕ) : Bool := 55296 ≤ code && code < 56320

def isLowSurrogate (code : ℕ) : Bool := 56320 ≤ code && code < 57344

/-- The second half of a surrogate pair. -/
def lowSurrogate (high : ℕ) : List Char → Option (Char × List Char)
  | '\\' :: 'u' :: a :: b :: c :: d :: rest => do
    let low ← hexCode a b c d
    if isLowSurrogate low then
      some (Char.ofNat (65536 + (high - 55296) * 1024 + (low - 56320)), rest)
    else none
  | _ => none

/-- A pair is one character. Half a pair stands for itself. -/
def codeCharacter (surrogate : ℕ → Char) (code : ℕ) (rest : List Char) : Char × List Char :=
  if isHighSurrogate code then (lowSurrogate code rest).getD (surrogate code, rest)
  else if isLowSurrogate code then (surrogate code, rest)
  else (Char.ofNat code, rest)

def plainEscape (c : Char) : Option Char :=
  if c = '"' ∨ c = '\\' ∨ c = '/' then some c
  else if c = 'b' then some (Char.ofNat 8)
  else if c = 'f' then some (Char.ofNat 12)
  else if c = 'n' then some '\n'
  else if c = 'r' then some '\r'
  else if c = 't' then some '\t'
  else none

/-- What follows a backslash. -/
def scanEscape (surrogate : ℕ → Char) : List Char → Option (Char × List Char)
  | [] => none
  | c :: rest =>
    if c = 'u' then
      match rest with
      | a :: b :: c :: d :: rest' => (hexCode a b c d).map fun code => codeCharacter surrogate code rest'
      | _ => none
    else (plainEscape c).map fun escaped => (escaped, rest)

/-- From behind the opening quotation mark to behind the closing one. Control characters are
refused. -/
def scanString (surrogate : ℕ → Char) : ℕ → List Char → Option (List Char × List Char)
  | 0, _ | _, [] => none
  | fuel + 1, c :: rest =>
    if c = '"' then some ([], rest)
    else if c = '\\' then do
      let (escaped, rest') ← scanEscape surrogate rest
      let (chars, rest'') ← scanString surrogate fuel rest'
      return (escaped :: chars, rest'')
    else if c.toNat < 32 then none
    else do
      let (chars, rest') ← scanString surrogate fuel rest
      return (c :: chars, rest')

theorem hexDigitValue_quote : hexDigitValue '"' = none := by decide

theorem hexCode_unquoted {a b c d : Char} {code : ℕ} (h : hexCode a b c d = some code) :
    '"' ∉ [a, b, c, d] := by
  intro mem
  simp only [List.mem_cons, List.not_mem_nil, or_false] at mem
  rcases mem with rfl | rfl | rfl | rfl <;> simp [hexCode, hexDigitValue_quote] at h

theorem lowSurrogate_takes {high : ℕ} {cs rest : List Char} {ch : Char}
    (h : lowSurrogate high cs = some (ch, rest)) :
    ∃ used, cs = used ++ rest ∧ '"' ∉ used ∧
      ∀ rest', lowSurrogate high (used ++ rest') = some (ch, rest') := by
  unfold lowSurrogate at h
  split at h
  · rename_i a b c d tail
    cases code : hexCode a b c d with
    | none => simp [code] at h
    | some low =>
      simp only [code, Option.bind_eq_bind, Option.bind_some] at h
      split at h
      · rename_i isLow
        simp only [Option.some.injEq, Prod.mk.injEq] at h
        obtain ⟨rfl, rfl⟩ := h
        refine ⟨['\\', 'u', a, b, c, d], rfl, ?_, fun rest' => ?_⟩
        · simpa using hexCode_unquoted code
        simp only [List.cons_append, List.nil_append, lowSurrogate, code, Option.bind_eq_bind,
          Option.bind_some, isLow, if_true]
      · cases h
  · cases h

theorem lowSurrogate_alone {high : ℕ} {used rest : List Char} (closed : '"' ∈ used)
    (alone : lowSurrogate high (used ++ rest) = none) (rest' : List Char) :
    lowSurrogate high (used ++ rest') = none := by
  cases pair : lowSurrogate high (used ++ rest') with
  | none => rfl
  | some result =>
    exfalso
    obtain ⟨escape, split, unquoted, takes⟩ := lowSurrogate_takes pair
    rcases List.append_eq_append_iff.mp split with ⟨inside, rfl, _⟩ | ⟨tail, rfl, _⟩
    · exact unquoted (List.mem_append_left _ closed)
    · rw [List.append_assoc, takes] at alone
      cases alone

theorem codeCharacter_takes {surrogate : ℕ → Char} {code : ℕ} {cs behind : List Char} {ch : Char}
    (h : codeCharacter surrogate code cs = (ch, behind)) :
    ∃ escape, cs = escape ++ behind ∧ ∀ used rest rest', behind = used ++ rest → '"' ∈ used →
      codeCharacter surrogate code (escape ++ (used ++ rest')) = (ch, used ++ rest') := by
  unfold codeCharacter at h ⊢
  split at h
  · rename_i high
    cases pair : lowSurrogate code cs with
    | some result =>
      obtain ⟨c, tail⟩ := result
      rw [pair, Option.getD_some] at h
      obtain ⟨rfl, rfl⟩ := Prod.mk.inj h
      obtain ⟨escape, split, _, takes⟩ := lowSurrogate_takes pair
      refine ⟨escape, split, fun used rest rest' _ _ => ?_⟩
      rw [if_pos high, takes, Option.getD_some]
    | none =>
      rw [pair, Option.getD_none] at h
      obtain ⟨rfl, rfl⟩ := Prod.mk.inj h
      refine ⟨[], rfl, fun used rest rest' same closed => ?_⟩
      subst same
      rw [if_pos high, List.nil_append, lowSurrogate_alone closed pair, Option.getD_none]
  · rename_i notHigh
    split at h
    · rename_i low
      obtain ⟨rfl, rfl⟩ := Prod.mk.inj h
      exact ⟨[], rfl, fun used rest rest' _ _ => by rw [if_neg notHigh, if_pos low, List.nil_append]⟩
    · rename_i notLow
      obtain ⟨rfl, rfl⟩ := Prod.mk.inj h
      exact ⟨[], rfl, fun used rest rest' _ _ => by rw [if_neg notHigh, if_neg notLow, List.nil_append]⟩

theorem scanEscape_takes {surrogate : ℕ → Char} {cs behind : List Char} {ch : Char}
    (h : scanEscape surrogate cs = some (ch, behind)) :
    ∃ escape, cs = escape ++ behind ∧ ∀ used rest rest', behind = used ++ rest → '"' ∈ used →
      scanEscape surrogate (escape ++ (used ++ rest')) = some (ch, used ++ rest') := by
  cases cs with
  | nil => cases h
  | cons first tail =>
    unfold scanEscape at h
    simp only at h
    split at h
    · rename_i unicode
      split at h
      · rename_i a b c d tail'
        cases code : hexCode a b c d with
        | none => simp [code] at h
        | some n =>
          simp only [code, Option.map_some, Option.some.injEq] at h
          obtain ⟨escape, rfl, takes⟩ := codeCharacter_takes h
          refine ⟨first :: a :: b :: c :: d :: escape, rfl, fun used rest rest' same closed => ?_⟩
          simp [scanEscape, unicode, code, takes used rest rest' same closed]
      · cases h
    · rename_i plain
      cases escape : plainEscape first with
      | none => simp [escape] at h
      | some c =>
        simp only [escape, Option.map_some, Option.some.injEq, Prod.mk.injEq] at h
        obtain ⟨rfl, rfl⟩ := h
        exact ⟨[first], rfl, fun used rest rest' _ _ => by simp [scanEscape, plain, escape]⟩

variable {surrogate : ℕ → Char}

theorem takes_close : Takes (scanString surrogate) Anything ['"'] [] := by
  intro fuel rest room _
  cases fuel with
  | zero => simp at room
  | succ fuel => simp [scanString]

theorem takes_plain {c : Char} {used chars : List Char} (quote : c ≠ '"') (backslash : c ≠ '\\')
    (control : ¬ c.toNat < 32) (tail : Takes (scanString surrogate) Anything used chars) :
    Takes (scanString surrogate) Anything (c :: used) (c :: chars) := by
  intro fuel rest room anything
  cases fuel with
  | zero => simp at room
  | succ fuel =>
    have later := tail fuel rest (by simpa using room) anything
    simp [scanString, quote, backslash, control, later]

theorem takes_escape {c : Char} {escape used chars : List Char}
    (escaped : ∀ rest, scanEscape surrogate (escape ++ (used ++ rest)) = some (c, used ++ rest))
    (tail : Takes (scanString surrogate) Anything used chars) :
    Takes (scanString surrogate) Anything ('\\' :: (escape ++ used)) (c :: chars) := by
  intro fuel rest room anything
  cases fuel with
  | zero => simp at room
  | succ fuel =>
    have later := tail fuel rest (by simp at room; omega) anything
    simp [scanString, escaped, later]

theorem scanString_takes {fuel : ℕ} {cs rest chars : List Char}
    (h : scanString surrogate fuel cs = some (chars, rest)) :
    ∃ used, cs = used ++ rest ∧ '"' ∈ used ∧ Takes (scanString surrogate) Anything used chars := by
  induction fuel generalizing cs chars with
  | zero => simp [scanString] at h
  | succ fuel ih =>
    cases cs with
    | nil => simp [scanString] at h
    | cons c tail =>
      rw [scanString] at h
      split at h
      · rename_i quote
        cases h
        rw [quote]
        exact ⟨['"'], rfl, .head _, takes_close⟩
      · rename_i quote
        split at h
        · rename_i backslash
          cases escape : scanEscape surrogate tail with
          | none => simp [escape] at h
          | some result =>
            obtain ⟨ch, tail'⟩ := result
            cases later : scanString surrogate fuel tail' with
            | none => simp [escape, later] at h
            | some result =>
              obtain ⟨chars', rest'⟩ := result
              simp only [escape, later, Option.bind_eq_bind, Option.bind_some, Option.pure_def,
                Option.some.injEq, Prod.mk.injEq] at h
              obtain ⟨rfl, rfl⟩ := h
              obtain ⟨begun, rfl, escaped⟩ := scanEscape_takes escape
              obtain ⟨used, rfl, closed, takes⟩ := ih later
              refine ⟨'\\' :: (begun ++ used), ?_, ?_,
                takes_escape (fun rest' => escaped used _ rest' rfl closed) takes⟩
              · rw [backslash, List.cons_append, List.append_assoc]
              · exact List.mem_cons_of_mem _ (List.mem_append_right _ closed)
        · rename_i backslash
          split at h
          · cases h
          · rename_i control
            cases later : scanString surrogate fuel tail with
            | none => simp [later] at h
            | some result =>
              obtain ⟨chars', rest'⟩ := result
              simp only [later, Option.bind_eq_bind, Option.bind_some, Option.pure_def,
                Option.some.injEq, Prod.mk.injEq] at h
              obtain ⟨rfl, rfl⟩ := h
              obtain ⟨used, rfl, closed, takes⟩ := ih later
              exact ⟨c :: used, rfl, List.mem_cons_of_mem _ closed, takes_plain quote backslash control takes⟩

end Strings

section Numbers

def Digits (cs : List Char) : Prop := ∀ c ∈ cs, c.isDigit = true

/-- No digit goes on what stands before. -/
def NoDigit (cs : List Char) : Prop := ∀ c ∈ cs.head?, c.isDigit = false

/-- Nothing of this goes on a number that stands before. -/
def NumberEnd (cs : List Char) : Prop :=
  ∀ c ∈ cs.head?, c.isDigit = false ∧ c ≠ '.' ∧ c ≠ 'e' ∧ c ≠ 'E'

def takeDigits (cs : List Char) : List Char := cs.takeWhile Char.isDigit

def dropDigits (cs : List Char) : List Char := cs.dropWhile Char.isDigit

def scanInt : List Char → Option (List Char × List Char)
  | [] => none
  | c :: rest =>
    if c = '0' then some ([c], rest)
    else if c.isDigit then some (c :: takeDigits rest, dropDigits rest)
    else none

def scanFraction : List Char → List Char × List Char
  | [] => ([], [])
  | c :: rest =>
    if c = '.' ∧ takeDigits rest ≠ [] then (c :: takeDigits rest, dropDigits rest)
    else ([], c :: rest)

def scanExponentSign : List Char → List Char × List Char
  | [] => ([], [])
  | c :: rest => if c = '+' ∨ c = '-' then ([c], rest) else ([], c :: rest)

def scanExponent : List Char → List Char × List Char
  | [] => ([], [])
  | c :: rest =>
    let signed := scanExponentSign rest
    if (c = 'e' ∨ c = 'E') ∧ takeDigits signed.2 ≠ [] then
      (c :: (signed.1 ++ takeDigits signed.2), dropDigits signed.2)
    else ([], c :: rest)

def scanMinus : List Char → List Char × List Char
  | [] => ([], [])
  | c :: rest => if c = '-' then ([c], rest) else ([], c :: rest)

def digitsValue (digits : List Char) : ℕ := Nat.ofDigitChars 10 digits 0

/-- An `int`, or a `float` where there is a fraction or an exponent. -/
def numberValue (floatRepr : String → String) (minus digits fraction exponent : List Char) : Json :=
  if fraction = [] ∧ exponent = [] then
    .int (if minus = [] then digitsValue digits else -digitsValue digits)
  else .float (floatRepr (String.ofList (minus ++ (digits ++ (fraction ++ exponent)))))

def scanNumber (floatRepr : String → String) (cs : List Char) : Option (Json × List Char) := do
  let signed := scanMinus cs
  let (digits, afterInt) ← scanInt signed.2
  let fractional := scanFraction afterInt
  let exponential := scanExponent fractional.2
  return (numberValue floatRepr signed.1 digits fractional.1 exponential.1, exponential.2)

def MinusText (cs : List Char) : Prop := cs = [] ∨ cs = ['-']

def IntText (cs : List Char) : Prop := cs = ['0'] ∨ ∃ c tail, cs = c :: tail ∧ c ≠ '0' ∧ Digits cs

def FractionText (cs : List Char) : Prop := cs = [] ∨ ∃ digits, cs = '.' :: digits ∧ digits ≠ [] ∧ Digits digits

def ExponentText (cs : List Char) : Prop :=
  cs = [] ∨ ∃ e sign digits, cs = e :: (sign ++ digits) ∧ (e = 'e' ∨ e = 'E') ∧
    (sign = [] ∨ sign = ['+'] ∨ sign = ['-']) ∧ digits ≠ [] ∧ Digits digits

theorem digits_split (cs : List Char) : Digits (takeDigits cs) ∧ cs = takeDigits cs ++ dropDigits cs :=
  ⟨fun _ mem => List.mem_takeWhile_imp mem, List.takeWhile_append_dropWhile.symm⟩

theorem dropDigits_of_noDigit {rest : List Char} (stop : NoDigit rest) :
    takeDigits rest = [] ∧ dropDigits rest = rest := by
  cases rest with
  | nil => exact ⟨rfl, rfl⟩
  | cons c tail =>
    have other : c.isDigit = false := stop c rfl
    simp [takeDigits, dropDigits, other]

theorem takeDigits_append {digits rest : List Char} (all : Digits digits) (stop : NoDigit rest) :
    takeDigits (digits ++ rest) = digits ∧ dropDigits (digits ++ rest) = rest := by
  obtain ⟨none, kept⟩ := dropDigits_of_noDigit stop
  constructor
  · rw [takeDigits, List.takeWhile_append_of_pos all]
    change digits ++ takeDigits rest = digits
    rw [none, List.append_nil]
  · rw [dropDigits, List.dropWhile_append_of_pos all]
    exact kept

theorem scanMinus_split (cs : List Char) :
    MinusText (scanMinus cs).1 ∧ cs = (scanMinus cs).1 ++ (scanMinus cs).2 := by
  cases cs with
  | nil => exact ⟨.inl rfl, rfl⟩
  | cons c rest =>
    rw [scanMinus]
    split
    · rename_i minus
      rw [minus]
      exact ⟨.inr rfl, rfl⟩
    · exact ⟨.inl rfl, rfl⟩

theorem scanInt_split {cs digits rest : List Char} (h : scanInt cs = some (digits, rest)) :
    IntText digits ∧ cs = digits ++ rest := by
  cases cs with
  | nil => cases h
  | cons c tail =>
    rw [scanInt] at h
    split at h
    · rename_i zero
      cases h
      rw [zero]
      exact ⟨.inl rfl, rfl⟩
    · rename_i notZero
      split at h
      · rename_i digit
        cases h
        obtain ⟨all, split⟩ := digits_split tail
        refine ⟨.inr ⟨c, _, rfl, notZero, ?_⟩, by rw [List.cons_append, ← split]⟩
        exact List.forall_mem_cons.mpr ⟨digit, all⟩
      · cases h

theorem scanFraction_split (cs : List Char) :
    FractionText (scanFraction cs).1 ∧ cs = (scanFraction cs).1 ++ (scanFraction cs).2 := by
  cases cs with
  | nil => exact ⟨.inl rfl, rfl⟩
  | cons c rest =>
    rw [scanFraction]
    split
    · rename_i fraction
      obtain ⟨all, split⟩ := digits_split rest
      refine ⟨.inr ⟨takeDigits rest, ?_, fraction.2, all⟩, by rw [List.cons_append, ← split]⟩
      rw [fraction.1]
    · exact ⟨.inl rfl, rfl⟩

theorem scanExponentSign_split (cs : List Char) :
    ((scanExponentSign cs).1 = [] ∨ (scanExponentSign cs).1 = ['+'] ∨ (scanExponentSign cs).1 = ['-']) ∧
      cs = (scanExponentSign cs).1 ++ (scanExponentSign cs).2 := by
  cases cs with
  | nil => exact ⟨.inl rfl, rfl⟩
  | cons c rest =>
    rw [scanExponentSign]
    split
    · rename_i sign
      rcases sign with plus | minus
      · rw [plus]
        exact ⟨.inr (.inl rfl), rfl⟩
      · rw [minus]
        exact ⟨.inr (.inr rfl), rfl⟩
    · exact ⟨.inl rfl, rfl⟩

theorem scanExponent_split (cs : List Char) :
    ExponentText (scanExponent cs).1 ∧ cs = (scanExponent cs).1 ++ (scanExponent cs).2 := by
  cases cs with
  | nil => exact ⟨.inl rfl, rfl⟩
  | cons c rest =>
    rw [scanExponent]
    split
    · rename_i exponent
      obtain ⟨sign, signed⟩ := scanExponentSign_split rest
      obtain ⟨all, split⟩ := digits_split (scanExponentSign rest).2
      refine ⟨.inr ⟨c, _, _, rfl, exponent.1, sign, exponent.2, all⟩, ?_⟩
      rw [List.cons_append, List.append_assoc, ← split, ← signed]
    · exact ⟨.inl rfl, rfl⟩

theorem scanNumber_split {floatRepr : String → String} {cs rest : List Char} {v : Json}
    (h : scanNumber floatRepr cs = some (v, rest)) :
    ∃ minus digits fraction exponent, MinusText minus ∧ IntText digits ∧ FractionText fraction ∧
      ExponentText exponent ∧ cs = minus ++ (digits ++ (fraction ++ (exponent ++ rest))) ∧
      v = numberValue floatRepr minus digits fraction exponent := by
  rw [scanNumber] at h
  simp only at h
  cases int : scanInt (scanMinus cs).2 with
  | none => simp [int] at h
  | some result =>
    obtain ⟨digits, afterInt⟩ := result
    simp only [int, Option.bind_eq_bind, Option.bind_some, Option.pure_def, Option.some.injEq,
      Prod.mk.injEq] at h
    obtain ⟨rfl, rfl⟩ := h
    obtain ⟨isMinus, minus⟩ := scanMinus_split cs
    obtain ⟨isInt, ints⟩ := scanInt_split int
    obtain ⟨isFraction, fraction⟩ := scanFraction_split afterInt
    obtain ⟨isExponent, exponent⟩ := scanExponent_split (scanFraction afterInt).2
    refine ⟨_, _, _, _, isMinus, isInt, isFraction, isExponent, ?_, rfl⟩
    rw [← exponent, ← fraction, ← ints, ← minus]

theorem NumberEnd.noDigit {cs : List Char} (h : NumberEnd cs) : NoDigit cs := fun c mem => (h c mem).1

theorem scanMinus_append {minus rest : List Char} (h : MinusText minus)
    (unsigned : ∀ c ∈ rest.head?, c ≠ '-') : scanMinus (minus ++ rest) = (minus, rest) := by
  rcases h with rfl | rfl
  · cases rest with
    | nil => rfl
    | cons c tail =>
      rw [List.nil_append, scanMinus, if_neg (unsigned c rfl)]
  · rfl

theorem scanInt_append {digits rest : List Char} (h : IntText digits) (stop : NoDigit rest) :
    scanInt (digits ++ rest) = some (digits, rest) := by
  rcases h with rfl | ⟨c, tail, rfl, notZero, all⟩
  · rfl
  · obtain ⟨digit, tails⟩ := List.forall_mem_cons.mp all
    obtain ⟨taken, dropped⟩ := takeDigits_append tails stop
    rw [List.cons_append, scanInt, if_neg notZero, if_pos digit, taken, dropped]

theorem scanFraction_append {fraction rest : List Char} (h : FractionText fraction)
    (stop : NoDigit rest) (noPoint : ∀ c ∈ rest.head?, c ≠ '.') :
    scanFraction (fraction ++ rest) = (fraction, rest) := by
  rcases h with rfl | ⟨digits, rfl, some, all⟩
  · cases rest with
    | nil => rfl
    | cons c tail =>
      have other : ¬ (c = '.' ∧ takeDigits tail ≠ []) := fun point => noPoint c rfl point.1
      rw [List.nil_append, scanFraction, if_neg other]
  · obtain ⟨taken, dropped⟩ := takeDigits_append all stop
    rw [List.cons_append, scanFraction, taken, dropped, if_pos ⟨rfl, some⟩]

theorem digits_head {digits rest : List Char} (some : digits ≠ []) (all : Digits digits) :
    ∀ c ∈ (digits ++ rest).head?, c.isDigit = true := by
  cases digits with
  | nil => exact absurd rfl some
  | cons d tail =>
    rintro c ⟨⟩
    exact all d (.head _)

theorem scanExponentSign_append {sign digits rest : List Char}
    (h : sign = [] ∨ sign = ['+'] ∨ sign = ['-']) (some : digits ≠ []) (all : Digits digits) :
    scanExponentSign (sign ++ (digits ++ rest)) = (sign, digits ++ rest) := by
  rcases h with rfl | rfl | rfl
  · cases digits with
    | nil => exact absurd rfl some
    | cons d tail =>
      have digit : d.isDigit = true := all d (.head _)
      have unsigned : ¬ (d = '+' ∨ d = '-') := by
        rintro (rfl | rfl)
        · cases digit
        · cases digit
      rw [List.nil_append, List.cons_append, scanExponentSign, if_neg unsigned]
  · rfl
  · rfl

theorem scanExponent_append {exponent rest : List Char} (h : ExponentText exponent)
    (stop : NumberEnd rest) : scanExponent (exponent ++ rest) = (exponent, rest) := by
  rcases h with rfl | ⟨e, sign, digits, rfl, letter, signs, some, all⟩
  · cases rest with
    | nil => rfl
    | cons c tail =>
      have other : ¬ ((c = 'e' ∨ c = 'E') ∧ takeDigits (scanExponentSign tail).2 ≠ []) := by
        rintro ⟨small | capital, _⟩
        · exact (stop c rfl).2.2.1 small
        · exact (stop c rfl).2.2.2 capital
      rw [List.nil_append, scanExponent]
      rw [if_neg other]
  · obtain ⟨taken, dropped⟩ := takeDigits_append all stop.noDigit
    rw [List.cons_append, List.append_assoc, scanExponent]
    simp only [scanExponentSign_append signs some all, taken, dropped]
    rw [if_pos ⟨letter, some⟩]

theorem exponent_head {exponent rest : List Char} (h : ExponentText exponent) (stop : NumberEnd rest) :
    ∀ c ∈ (exponent ++ rest).head?, c.isDigit = false ∧ c ≠ '.' := by
  rcases h with rfl | ⟨e, sign, digits, rfl, letter, _⟩
  · exact fun c mem => ⟨(stop c mem).1, (stop c mem).2.1⟩
  · rintro c ⟨⟩
    rcases letter with rfl | rfl
    · decide
    · decide

theorem fraction_head {fraction exponent rest : List Char} (h : FractionText fraction)
    (h' : ExponentText exponent) (stop : NumberEnd rest) :
    NoDigit (fraction ++ (exponent ++ rest)) := by
  rcases h with rfl | ⟨digits, rfl, _⟩
  · exact fun c mem => (exponent_head h' stop c mem).1
  · rintro c ⟨⟩
    rfl

theorem int_head {digits rest : List Char} (h : IntText digits) :
    ∀ c ∈ (digits ++ rest).head?, c.isDigit = true := by
  rcases h with rfl | ⟨c, tail, rfl, _, all⟩
  · rintro c ⟨⟩
    rfl
  · exact digits_head (by simp) all

/-- The parts of a number are read as that number, whatever does not go on it follows. -/
theorem scanNumber_append {floatRepr : String → String} {minus digits fraction exponent rest : List Char}
    (isMinus : MinusText minus) (isInt : IntText digits) (isFraction : FractionText fraction)
    (isExponent : ExponentText exponent) (stop : NumberEnd rest) :
    scanNumber floatRepr (minus ++ (digits ++ (fraction ++ (exponent ++ rest)))) =
      some (numberValue floatRepr minus digits fraction exponent, rest) := by
  have unsigned : ∀ c ∈ (digits ++ (fraction ++ (exponent ++ rest))).head?, c ≠ '-' := by
    rintro c mem rfl
    have digit := int_head isInt _ mem
    cases digit
  have points := exponent_head isExponent stop
  rw [scanNumber]
  simp only [scanMinus_append isMinus unsigned,
    scanInt_append isInt (fraction_head isFraction isExponent stop),
    scanFraction_append isFraction (fun c mem => (points c mem).1) fun c mem => (points c mem).2,
    scanExponent_append isExponent stop, Option.bind_eq_bind, Option.bind_some, Option.pure_def]

end Numbers

end AegisGateway.JsonTokens
