import AegisGateway.JsonTokens

set_option autoImplicit false

/-!
# The values of JSON texts

The nested part of the standard library's decoder, with no limit to the size of a value.
Every scanner takes a part of its text and takes the same part wherever it stands, so that a
text that goes on behind its value is not the text of a value, and neither is what comes
before its end.
-/
namespace AegisGateway.JsonDecoder
open JsonTokens

section Values
variable (py : PyTexts)

def literals : List (List Char × Json) :=
  [(['n', 'u', 'l', 'l'], .null), (['t', 'r', 'u', 'e'], .bool true),
    (['f', 'a', 'l', 's', 'e'], .bool false), (['N', 'a', 'N'], .float "NaN"),
    (['I', 'n', 'f', 'i', 'n', 'i', 't', 'y'], .float "Infinity"),
    (['-', 'I', 'n', 'f', 'i', 'n', 'i', 't', 'y'], .float "-Infinity")]

def scanLiteral (cs : List Char) : Option (Json × List Char) :=
  (literals.find? fun literal => literal.1.isPrefixOf cs).map fun literal =>
    (literal.2, cs.drop literal.1.length)

/-- A key with its colon, up to the value. -/
def scanKey (fuel : ℕ) : List Char → Option (String × List Char)
  | [] => none
  | c :: rest =>
    if c = '"' then do
      let (chars, afterKey) ← scanString py.surrogate fuel rest
      let (mark, afterMark) ← nextMark afterKey
      if mark = ':' then some (String.ofList chars, skipSpaces afterMark) else none
    else none

/-- Whether the list is closed behind a value, or goes on. -/
def scanClosing (close : Char) (cs : List Char) : Option (Bool × List Char) := do
  let (mark, rest) ← nextMark cs
  if mark = close then some (true, rest)
  else if mark = ',' then some (false, skipSpaces rest)
  else none

mutual

/-- `scan_once`. -/
def scanOnce : ℕ → List Char → Option (Json × List Char)
  | 0, _ => none
  | _, [] => none
  | fuel + 1, c :: rest =>
    if c = '"' then (scanString py.surrogate fuel rest).map fun (chars, rest') => (.str (String.ofList chars), rest')
    else if c = '\x7b' then
      match skipSpaces rest with
      | '\x7d' :: rest' => some (.obj [], rest')
      | inner => (scanMembers fuel [] inner).map fun (members, rest') => (.obj members, rest')
    else if c = '[' then
      match skipSpaces rest with
      | ']' :: rest' => some (.arr [], rest')
      | inner => (scanItems fuel inner).map fun (items, rest') => (.arr items, rest')
    else (scanLiteral (c :: rest)).or (scanNumber py.floatRepr (c :: rest))

/-- The members of an object, added to those before: a repeated key gets the new value. -/
def scanMembers : ℕ → JsonObject → List Char → Option (JsonObject × List Char)
  | 0, _, _ => none
  | fuel + 1, members, cs => do
    let (key, atValue) ← scanKey py fuel cs
    let (value, afterValue) ← scanOnce fuel atValue
    let (closed, rest) ← scanClosing '\x7d' afterValue
    if closed then some (Json.set key value members, rest)
    else scanMembers fuel (Json.set key value members) rest

def scanItems : ℕ → List Char → Option (List Json × List Char)
  | 0, _ => none
  | fuel + 1, cs => do
    let (item, afterItem) ← scanOnce fuel cs
    let (closed, rest) ← scanClosing ']' afterItem
    if closed then some ([item], rest)
    else do
      let (items, rest') ← scanItems fuel rest
      return (item :: items, rest')

end

/-- The value of a JSON text. -/
def loads (s : String) : Option Json := do
  let (value, rest) ← scanOnce py s.toList.length (skipSpaces s.toList)
  if skipSpaces rest = [] then some value else none

variable {py}

theorem takes_key {used chars spaces spaces' : List Char} (key : Takes (scanString py.surrogate) Anything used chars)
    (before : Spaces spaces) (after : Spaces spaces') :
    Takes (scanKey py) Trimmed ('"' :: (used ++ (spaces ++ ':' :: spaces'))) (String.ofList chars) := by
  intro fuel rest room trimmed
  have later := key fuel (spaces ++ ':' :: (spaces' ++ rest)) (by simp at room; omega) trivial
  have colon : nextMark (spaces ++ ':' :: (spaces' ++ rest)) = some (':', spaces' ++ rest) :=
    nextMark_append before rfl
  simp only [List.cons_append, List.append_assoc, scanKey, if_true, later, colon,
    Option.bind_eq_bind, Option.bind_some, skipSpaces_to after trimmed]

theorem scanKey_takes {fuel : ℕ} {cs rest : List Char} {key : String}
    (h : scanKey py fuel cs = some (key, rest)) :
    ∃ tail, cs = '"' :: tail ++ rest ∧ Trimmed rest ∧ Takes (scanKey py) Trimmed ('"' :: tail) key := by
  cases cs with
  | nil => cases h
  | cons c tail =>
    rw [scanKey] at h
    split at h
    · rename_i quote
      cases string : scanString py.surrogate fuel tail with
      | none => simp [string] at h
      | some result =>
        obtain ⟨chars, afterKey⟩ := result
        cases marked : nextMark afterKey with
        | none => simp [string, marked] at h
        | some result =>
          obtain ⟨mark, afterMark⟩ := result
          simp only [string, marked, Option.bind_eq_bind, Option.bind_some] at h
          split at h
          · rename_i colon
            simp only [Option.some.injEq, Prod.mk.injEq] at h
            obtain ⟨rfl, rfl⟩ := h
            obtain ⟨used, rfl, _, takes⟩ := scanString_takes string
            obtain ⟨spaces, before, _, rfl⟩ := nextMark_split marked
            obtain ⟨spaces', after, split⟩ := skipSpaces_split afterMark
            refine ⟨used ++ (spaces ++ ':' :: spaces'), ?_, skipSpaces_trimmed _,
              takes_key takes before after⟩
            rw [quote, colon, List.cons_append, List.append_assoc, List.append_assoc, List.cons_append,
              ← split]
          · cases h
    · cases h

theorem closing_close {close : Char} {spaces rest : List Char} (h : Spaces spaces)
    (mark : isJsonSpace close = false) : scanClosing close (spaces ++ close :: rest) = some (true, rest) := by
  simp [scanClosing, nextMark_append h mark]

theorem closing_comma {close : Char} {spaces spaces' rest : List Char} (h : Spaces spaces)
    (h' : Spaces spaces') (trimmed : Trimmed rest) (other : ',' ≠ close) :
    scanClosing close (spaces ++ ',' :: (spaces' ++ rest)) = some (false, rest) := by
  simp [scanClosing, nextMark_append (c := ',') h rfl, other, skipSpaces_to h' trimmed]

theorem scanClosing_split {close : Char} {cs rest : List Char} {closed : Bool}
    (h : scanClosing close cs = some (closed, rest)) :
    (closed = true ∧ ∃ spaces, Spaces spaces ∧ cs = spaces ++ close :: rest) ∨
      closed = false ∧ ∃ spaces spaces', Spaces spaces ∧ Spaces spaces' ∧
        cs = spaces ++ ',' :: (spaces' ++ rest) := by
  rw [scanClosing] at h
  cases marked : nextMark cs with
  | none => simp [marked] at h
  | some result =>
    obtain ⟨mark, afterMark⟩ := result
    obtain ⟨spaces, all, _, rfl⟩ := nextMark_split marked
    simp only [marked, Option.bind_eq_bind, Option.bind_some] at h
    split at h
    · rename_i isClose
      simp only [Option.some.injEq, Prod.mk.injEq] at h
      obtain ⟨rfl, rfl⟩ := h
      rw [isClose]
      exact .inl ⟨rfl, spaces, all, rfl⟩
    · split at h
      · rename_i comma
        simp only [Option.some.injEq, Prod.mk.injEq] at h
        obtain ⟨rfl, rfl⟩ := h
        obtain ⟨spaces', all', split⟩ := skipSpaces_split afterMark
        refine .inr ⟨rfl, spaces, spaces', all, all', ?_⟩
        rw [comma, ← split]
      · cases h

theorem scanLiteral_append {word : List Char} {v : Json} (mem : (word, v) ∈ literals) (rest : List Char) :
    scanLiteral (word ++ rest) = some (v, rest) := by
  simp only [literals, List.mem_cons, Prod.mk.injEq, List.not_mem_nil, or_false] at mem
  rcases mem with ⟨rfl, rfl⟩ | ⟨rfl, rfl⟩ | ⟨rfl, rfl⟩ | ⟨rfl, rfl⟩ | ⟨rfl, rfl⟩ | ⟨rfl, rfl⟩ <;> rfl

theorem scanLiteral_split {cs rest : List Char} {v : Json} (h : scanLiteral cs = some (v, rest)) :
    ∃ word, (word, v) ∈ literals ∧ cs = word ++ rest := by
  rw [scanLiteral, Option.map_eq_some_iff] at h
  obtain ⟨⟨word, v'⟩, found, same⟩ := h
  simp only [Prod.mk.injEq] at same
  obtain ⟨rfl, rfl⟩ := same
  have begins : word.isPrefixOf cs = true := by simpa using List.find?_some found
  obtain ⟨behind, rfl⟩ := List.isPrefixOf_iff_prefix.mp begins
  refine ⟨word, List.mem_of_find?_eq_some found, ?_⟩
  rw [List.drop_left]

theorem scanLiteral_number {minus digits rest : List Char} (isMinus : MinusText minus)
    (isInt : IntText digits) : scanLiteral (minus ++ (digits ++ rest)) = none := by
  have digit := @int_head _ rest isInt
  generalize digits ++ rest = cs at digit
  have other (d : Char) (hd : d.isDigit = true) (c : Char) (hc : c.isDigit = false) : (c == d) = false := by
    rw [beq_eq_false_iff_ne]
    rintro rfl
    rw [hd] at hc
    cases hc
  cases cs with
  | nil => rcases isMinus with rfl | rfl <;> rfl
  | cons d tail =>
    have isDigit : d.isDigit = true := digit d rfl
    rcases isMinus with rfl | rfl
    · simp [scanLiteral, literals, List.isPrefixOf, other d isDigit]
    · simp [scanLiteral, literals, List.isPrefixOf, other d isDigit]

/-- What may follow a value: behind a number, nothing that goes on it. -/
def Ends : Json → List Char → Prop
  | .int _ | .float _ => NumberEnd
  | _ => Anything

theorem ends_of_numberEnd {cs : List Char} (h : NumberEnd cs) (v : Json) : Ends v cs := by
  cases v <;> first
    | exact h
    | trivial

theorem numberEnd_mark {spaces rest : List Char} {c : Char} (h : Spaces spaces)
    (mark : c = ',' ∨ c = ']' ∨ c = '\x7d') : NumberEnd (spaces ++ c :: rest) := by
  cases spaces with
  | nil =>
    rintro d ⟨⟩
    rcases mark with rfl | rfl | rfl <;> decide
  | cons space tail =>
    rintro _ ⟨⟩
    have isSpace : isJsonSpace space = true := h space (.head _)
    simp only [isJsonSpace, Bool.or_eq_true, decide_eq_true_eq] at isSpace
    rcases isSpace with ((rfl | rfl) | rfl) | rfl <;> decide

theorem scanOnce_head {fuel : ℕ} {c : Char} {cs : List Char} {result : Json × List Char}
    (h : scanOnce py fuel (c :: cs) = some result) : c ≠ ']' ∧ isJsonSpace c = false := by
  have refused (bad : scanLiteral (c :: cs) = none) (bad' : scanNumber py.floatRepr (c :: cs) = none)
      (quote : c ≠ '"') (brace : c ≠ '\x7b') (bracket : c ≠ '[') : False := by
    cases fuel with
    | zero => simp [scanOnce] at h
    | succ fuel => simp [scanOnce, quote, brace, bracket, bad, bad'] at h
  constructor
  · rintro rfl
    exact refused rfl rfl (by decide) (by decide) (by decide)
  · cases space : isJsonSpace c with
    | false => rfl
    | true =>
      simp only [isJsonSpace, Bool.or_eq_true, decide_eq_true_eq] at space
      exfalso
      rcases space with ((rfl | rfl) | rfl) | rfl <;>
        exact refused rfl rfl (by decide) (by decide) (by decide)

theorem takes_str {used chars : List Char} (string : Takes (scanString py.surrogate) Anything used chars) :
    Takes (scanOnce py) Anything ('"' :: used) (.str (String.ofList chars)) := by
  intro fuel rest room _
  cases fuel with
  | zero => simp at room
  | succ fuel =>
    have later := string fuel rest (by simpa using room) trivial
    simp [scanOnce, later]

theorem takes_literal {word : List Char} {v : Json} (mem : (word, v) ∈ literals) :
    Takes (scanOnce py) Anything word v := by
  intro fuel rest room _
  have read := scanLiteral_append mem rest
  simp only [literals, List.mem_cons, Prod.mk.injEq, List.not_mem_nil, or_false] at mem
  cases fuel with
  | zero =>
    rcases mem with ⟨rfl, rfl⟩ | ⟨rfl, rfl⟩ | ⟨rfl, rfl⟩ | ⟨rfl, rfl⟩ | ⟨rfl, rfl⟩ | ⟨rfl, rfl⟩ <;>
      simp at room
  | succ fuel =>
    rcases mem with ⟨rfl, rfl⟩ | ⟨rfl, rfl⟩ | ⟨rfl, rfl⟩ | ⟨rfl, rfl⟩ | ⟨rfl, rfl⟩ | ⟨rfl, rfl⟩ <;>
      rfl

theorem scanOnce_number {fuel : ℕ} {c : Char} (cs : List Char) (h : c = '-' ∨ c.isDigit = true) :
    scanOnce py (fuel + 1) (c :: cs) =
      (scanLiteral (c :: cs)).or (scanNumber py.floatRepr (c :: cs)) := by
  have other (d : Char) (notMinus : d ≠ '-') (notDigit : d.isDigit = false) : c ≠ d := by
    rintro rfl
    rcases h with minus | digit
    · exact notMinus minus
    · rw [notDigit] at digit
      cases digit
  have quote := other '"' (by decide) rfl
  have brace := other '\x7b' (by decide) rfl
  have bracket := other '[' (by decide) rfl
  simp [scanOnce, quote, brace, bracket]

theorem number_head {minus digits rest : List Char} (isMinus : MinusText minus) (isInt : IntText digits) :
    ∃ c tail, minus ++ (digits ++ rest) = c :: tail ∧ (c = '-' ∨ c.isDigit = true) := by
  rcases isMinus with rfl | rfl
  · have digit := @int_head _ rest isInt
    rw [List.nil_append]
    rcases isInt with rfl | ⟨c, tail, rfl, _⟩
    · exact ⟨_, _, rfl, .inr rfl⟩
    · exact ⟨c, _, rfl, .inr (digit c rfl)⟩
  · exact ⟨_, _, rfl, .inl rfl⟩

theorem takes_number {minus digits fraction exponent : List Char} (isMinus : MinusText minus)
    (isInt : IntText digits) (isFraction : FractionText fraction) (isExponent : ExponentText exponent) :
    Takes (scanOnce py) NumberEnd (minus ++ (digits ++ (fraction ++ exponent)))
      (numberValue py.floatRepr minus digits fraction exponent) := by
  intro fuel rest room stop
  have noLiteral := @scanLiteral_number _ _ (fraction ++ (exponent ++ rest)) isMinus isInt
  have number := @scanNumber_append py.floatRepr _ _ _ _ _ isMinus isInt isFraction isExponent stop
  obtain ⟨c, tail, text, head⟩ :=
    @number_head _ _ (fraction ++ (exponent ++ rest)) isMinus isInt
  cases fuel with
  | zero =>
    rcases isInt with rfl | ⟨_, _, rfl, _⟩ <;> simp at room
  | succ fuel =>
    rw [List.append_assoc, List.append_assoc, List.append_assoc, text, scanOnce_number tail head,
      ← text, noLiteral, number, Option.none_or]

theorem takes_empty_obj {spaces : List Char} (h : Spaces spaces) :
    Takes (scanOnce py) Anything ('\x7b' :: (spaces ++ ['\x7d'])) (.obj []) := by
  intro fuel rest room _
  have skipped : skipSpaces (spaces ++ '\x7d' :: rest) = '\x7d' :: rest := by
    refine skipSpaces_to h ?_
    rintro c ⟨⟩
    rfl
  cases fuel with
  | zero => simp at room
  | succ fuel => simp [scanOnce, skipped]

theorem takes_obj {spaces tail : List Char} {members : JsonObject} (h : Spaces spaces)
    (each : Takes (fun fuel => scanMembers py fuel []) Anything ('"' :: tail) members) :
    Takes (scanOnce py) Anything ('\x7b' :: (spaces ++ '"' :: tail)) (.obj members) := by
  intro fuel rest room _
  cases fuel with
  | zero => simp at room
  | succ fuel =>
    have skipped : skipSpaces (spaces ++ '"' :: (tail ++ rest)) = '"' :: (tail ++ rest) := by
      refine skipSpaces_to h ?_
      rintro c ⟨⟩
      rfl
    have later := each fuel rest (by simp at room ⊢; omega) trivial
    rw [List.cons_append] at later
    simp [scanOnce, skipped, later]

theorem takes_empty_arr {spaces : List Char} (h : Spaces spaces) :
    Takes (scanOnce py) Anything ('[' :: (spaces ++ [']'])) (.arr []) := by
  intro fuel rest room _
  have skipped : skipSpaces (spaces ++ ']' :: rest) = ']' :: rest := by
    refine skipSpaces_to h ?_
    rintro c ⟨⟩
    rfl
  cases fuel with
  | zero => simp at room
  | succ fuel => simp [scanOnce, skipped]

theorem takes_arr {spaces tail : List Char} {c : Char} {items : List Json} (h : Spaces spaces)
    (open_ : c ≠ ']') (solid : isJsonSpace c = false)
    (each : Takes (scanItems py) Anything (c :: tail) items) :
    Takes (scanOnce py) Anything ('[' :: (spaces ++ c :: tail)) (.arr items) := by
  intro fuel rest room _
  cases fuel with
  | zero => simp at room
  | succ fuel =>
    have skipped : skipSpaces (spaces ++ c :: (tail ++ rest)) = c :: (tail ++ rest) := by
      refine skipSpaces_to h ?_
      rintro d ⟨⟩
      exact solid
    have later := each fuel rest (by simp at room ⊢; omega) trivial
    rw [List.cons_append] at later
    simp [scanOnce, skipped, later, open_]

theorem takes_value_head {used : List Char} {v : Json} (value : Takes (scanOnce py) (Ends v) used v) :
    ∃ c tail, used = c :: tail ∧ c ≠ ']' ∧ isJsonSpace c = false := by
  have ends : Ends v [] := ends_of_numberEnd (by simp [NumberEnd]) v
  have scanned := value used.length [] le_rfl ends
  rw [List.append_nil] at scanned
  cases used with
  | nil => simp [scanOnce] at scanned
  | cons c tail => exact ⟨c, tail, rfl, scanOnce_head scanned⟩

theorem trimmed_value {used : List Char} {v : Json} (value : Takes (scanOnce py) (Ends v) used v)
    (rest : List Char) : Trimmed (used ++ rest) := by
  obtain ⟨c, tail, rfl, _, solid⟩ := takes_value_head value
  rintro d ⟨⟩
  exact solid

theorem takes_last_member {keyText used spaces : List Char} {key : String} {v : Json}
    {members : JsonObject} (keyed : Takes (scanKey py) Trimmed keyText key)
    (value : Takes (scanOnce py) (Ends v) used v) (h : Spaces spaces) :
    Takes (fun fuel => scanMembers py fuel members) Anything
      (keyText ++ (used ++ (spaces ++ ['\x7d']))) (Json.set key v members) := by
  intro fuel rest room _
  cases fuel with
  | zero => simp at room
  | succ fuel =>
    simp only [List.length_append, List.length_cons, List.length_nil] at room
    have atValue := keyed fuel (used ++ (spaces ++ '\x7d' :: rest)) (by omega) (trimmed_value value _)
    have ends : Ends v (spaces ++ '\x7d' :: rest) :=
      ends_of_numberEnd (numberEnd_mark h (.inr (.inr rfl))) v
    have afterValue := value fuel (spaces ++ '\x7d' :: rest) (by omega) ends
    have closed := @closing_close '\x7d' _ rest h (by decide)
    simp [scanMembers, atValue, afterValue, closed]

theorem takes_more_members {keyText used spaces spaces' tail : List Char} {key : String} {v : Json}
    {members members' : JsonObject} (keyed : Takes (scanKey py) Trimmed keyText key)
    (value : Takes (scanOnce py) (Ends v) used v) (h : Spaces spaces) (h' : Spaces spaces')
    (more : Takes (fun fuel => scanMembers py fuel (Json.set key v members)) Anything
      ('"' :: tail) members') :
    Takes (fun fuel => scanMembers py fuel members) Anything
      (keyText ++ (used ++ (spaces ++ ',' :: (spaces' ++ '"' :: tail)))) members' := by
  intro fuel rest room _
  cases fuel with
  | zero => simp at room
  | succ fuel =>
    simp only [List.length_append, List.length_cons] at room
    have atValue := keyed fuel (used ++ (spaces ++ ',' :: (spaces' ++ '"' :: (tail ++ rest)))) (by omega)
      (trimmed_value value _)
    have ends : Ends v (spaces ++ ',' :: (spaces' ++ '"' :: (tail ++ rest))) :=
      ends_of_numberEnd (numberEnd_mark h (.inl rfl)) v
    have afterValue := value fuel (spaces ++ ',' :: (spaces' ++ '"' :: (tail ++ rest))) (by omega) ends
    have trimmed : Trimmed ('"' :: (tail ++ rest)) := by
      rintro c ⟨⟩
      rfl
    have goesOn := closing_comma h h' trimmed (by decide : ',' ≠ '\x7d')
    have later := more fuel rest (by simp; omega) trivial
    rw [List.cons_append] at later
    simp [scanMembers, atValue, afterValue, goesOn, later]

theorem takes_last_item {used spaces : List Char} {v : Json}
    (value : Takes (scanOnce py) (Ends v) used v) (h : Spaces spaces) :
    Takes (scanItems py) Anything (used ++ (spaces ++ [']'])) [v] := by
  intro fuel rest room _
  cases fuel with
  | zero => simp at room
  | succ fuel =>
    simp only [List.length_append, List.length_cons, List.length_nil] at room
    have ends : Ends v (spaces ++ ']' :: rest) :=
      ends_of_numberEnd (numberEnd_mark h (.inr (.inl rfl))) v
    have afterValue := value fuel (spaces ++ ']' :: rest) (by omega) ends
    have closed := @closing_close ']' _ rest h (by decide)
    simp [scanItems, afterValue, closed]

theorem takes_more_items {used spaces spaces' more : List Char} {v : Json} {items : List Json}
    (value : Takes (scanOnce py) (Ends v) used v) (h : Spaces spaces) (h' : Spaces spaces')
    (trimmed : ∀ rest, Trimmed (more ++ rest)) (others : Takes (scanItems py) Anything more items) :
    Takes (scanItems py) Anything (used ++ (spaces ++ ',' :: (spaces' ++ more))) (v :: items) := by
  intro fuel rest room _
  cases fuel with
  | zero => simp at room
  | succ fuel =>
    simp only [List.length_append, List.length_cons] at room
    have ends : Ends v (spaces ++ ',' :: (spaces' ++ (more ++ rest))) :=
      ends_of_numberEnd (numberEnd_mark h (.inl rfl)) v
    have afterValue := value fuel (spaces ++ ',' :: (spaces' ++ (more ++ rest))) (by omega) ends
    have goesOn := closing_comma h h' (trimmed rest) (by decide : ',' ≠ ']')
    have later := others fuel rest (by omega) trivial
    simp [scanItems, afterValue, goesOn, later]

/-- The text of an object stands in braces. -/
def Braced (v : Json) (used : List Char) : Prop :=
  ∀ members, v = .obj members → used.head? = some '\x7b' ∧ used.getLast? = some '\x7d'

variable (py)

/-- Every scanner takes a part of its text, and takes the same part wherever it stands. -/
structure ScansTake (fuel : ℕ) : Prop where
  once : ∀ cs v rest, scanOnce py fuel cs = some (v, rest) →
    ∃ used, cs = used ++ rest ∧ Braced v used ∧ Takes (scanOnce py) (Ends v) used v
  members : ∀ members cs members' rest, scanMembers py fuel members cs = some (members', rest) →
    ∃ tail, cs = '"' :: tail ++ rest ∧ tail.getLast? = some '\x7d' ∧
      Takes (fun fuel => scanMembers py fuel members) Anything ('"' :: tail) members'
  items : ∀ cs items rest, scanItems py fuel cs = some (items, rest) →
    ∃ c tail, cs = c :: tail ++ rest ∧ c ≠ ']' ∧ isJsonSpace c = false ∧
      Takes (scanItems py) Anything (c :: tail) items

variable {py}

theorem braced_other {v : Json} {used : List Char} (other : ∀ members, v ≠ .obj members) :
    Braced v used := fun members same => absurd same (other members)

variable (py) in
/-- What `scanOnce` reads, by the first character. -/
inductive Scanned (fuel : ℕ) : List Char → Json → List Char → Prop where
  | string {cs chars rest : List Char} (string : scanString py.surrogate fuel cs = some (chars, rest)) :
      Scanned fuel ('"' :: cs) (.str (String.ofList chars)) rest
  | emptyObject {spaces rest : List Char} (all : Spaces spaces) :
      Scanned fuel ('\x7b' :: (spaces ++ '\x7d' :: rest)) (.obj []) rest
  | object {spaces inner rest : List Char} {members : JsonObject} (all : Spaces spaces)
      (scanned : scanMembers py fuel [] inner = some (members, rest)) :
      Scanned fuel ('\x7b' :: (spaces ++ inner)) (.obj members) rest
  | emptyArray {spaces rest : List Char} (all : Spaces spaces) :
      Scanned fuel ('[' :: (spaces ++ ']' :: rest)) (.arr []) rest
  | array {spaces inner rest : List Char} {items : List Json} (all : Spaces spaces)
      (scanned : scanItems py fuel inner = some (items, rest)) :
      Scanned fuel ('[' :: (spaces ++ inner)) (.arr items) rest
  | literal {cs rest : List Char} {v : Json} (read : scanLiteral cs = some (v, rest)) : Scanned fuel cs v rest
  | number {cs rest : List Char} {v : Json} (read : scanNumber py.floatRepr cs = some (v, rest)) :
      Scanned fuel cs v rest

theorem scanOnce_scanned {fuel : ℕ} {cs rest : List Char} {v : Json}
    (h : scanOnce py (fuel + 1) cs = some (v, rest)) : Scanned py fuel cs v rest := by
  cases cs with
  | nil => simp [scanOnce] at h
  | cons c tail =>
    rw [scanOnce] at h
    obtain ⟨spaces, all, split⟩ := skipSpaces_split tail
    split at h
    · rename_i quote
      rw [Option.map_eq_some_iff] at h
      obtain ⟨⟨chars, rest'⟩, string, ⟨⟩⟩ := h
      rw [quote]
      exact .string string
    · split at h
      · rename_i brace
        rw [brace, split]
        split at h
        · rename_i rest' inner
          cases h
          rw [inner]
          exact .emptyObject all
        · rw [Option.map_eq_some_iff] at h
          obtain ⟨⟨members, rest'⟩, scanned, ⟨⟩⟩ := h
          exact .object all scanned
      · split at h
        · rename_i bracket
          rw [bracket, split]
          split at h
          · rename_i rest' inner
            cases h
            rw [inner]
            exact .emptyArray all
          · rw [Option.map_eq_some_iff] at h
            obtain ⟨⟨items, rest'⟩, scanned, ⟨⟩⟩ := h
            exact .array all scanned
        · rw [Option.or_eq_some_iff] at h
          rcases h with literal | ⟨_, number⟩
          · exact .literal literal
          · exact .number number

theorem number_ends (minus digits fraction exponent : List Char) :
    Ends (numberValue py.floatRepr minus digits fraction exponent) = NumberEnd := by
  rw [numberValue]
  split <;> rfl

theorem scanOnce_step {fuel : ℕ} (ih : ScansTake py fuel) (cs : List Char) (v : Json)
    (rest : List Char) (h : scanOnce py (fuel + 1) cs = some (v, rest)) :
    ∃ used, cs = used ++ rest ∧ Braced v used ∧ Takes (scanOnce py) (Ends v) used v := by
  cases scanOnce_scanned h with
  | string string =>
    obtain ⟨used, rfl, _, takes⟩ := scanString_takes string
    exact ⟨'"' :: used, rfl, braced_other (by simp), (takes_str takes).mono _⟩
  | @emptyObject spaces _ all =>
    refine ⟨'\x7b' :: (spaces ++ ['\x7d']), by simp, fun _ _ => ⟨rfl, ?_⟩, (takes_empty_obj all).mono _⟩
    rw [← List.cons_append, List.getLast?_append]
    rfl
  | @object spaces _ _ members all scanned =>
    obtain ⟨tail, rfl, last, takes⟩ := ih.members _ _ _ _ scanned
    refine ⟨'\x7b' :: (spaces ++ '"' :: tail), by simp, fun _ _ => ⟨rfl, ?_⟩, (takes_obj all takes).mono _⟩
    rw [List.getLast?_cons, List.getLast?_append, List.getLast?_cons, last]
    rfl
  | @emptyArray spaces _ all =>
    exact ⟨'[' :: (spaces ++ [']']), by simp, braced_other (by simp), (takes_empty_arr all).mono _⟩
  | @array spaces _ _ items all scanned =>
    obtain ⟨c, tail, rfl, open_, solid, takes⟩ := ih.items _ _ _ scanned
    exact ⟨'[' :: (spaces ++ c :: tail), by simp, braced_other (by simp),
      (takes_arr all open_ solid takes).mono _⟩
  | literal read =>
    obtain ⟨word, mem, text⟩ := scanLiteral_split read
    refine ⟨word, text, braced_other ?_, (takes_literal mem).mono _⟩
    simp only [literals, List.mem_cons, Prod.mk.injEq, List.not_mem_nil, or_false] at mem
    rcases mem with ⟨_, rfl⟩ | ⟨_, rfl⟩ | ⟨_, rfl⟩ | ⟨_, rfl⟩ | ⟨_, rfl⟩ | ⟨_, rfl⟩ <;> simp
  | number read =>
    obtain ⟨minus, digits, fraction, exponent, isMinus, isInt, isFraction, isExponent, rfl, rfl⟩ :=
      scanNumber_split read
    refine ⟨minus ++ (digits ++ (fraction ++ exponent)), by simp, braced_other fun members => ?_, ?_⟩
    · rw [numberValue]
      split <;> rintro ⟨⟩
    · rw [number_ends]
      exact takes_number isMinus isInt isFraction isExponent

theorem scanMembers_step {fuel : ℕ} (ih : ScansTake py fuel) (members : JsonObject)
    (cs : List Char) (members' : JsonObject) (rest : List Char)
    (h : scanMembers py (fuel + 1) members cs = some (members', rest)) :
    ∃ tail, cs = '"' :: tail ++ rest ∧ tail.getLast? = some '\x7d' ∧
      Takes (fun fuel => scanMembers py fuel members) Anything ('"' :: tail) members' := by
  rw [scanMembers] at h
  simp only [Option.bind_eq_bind, Option.bind_eq_some_iff, Prod.exists] at h
  obtain ⟨key, atValue, keyed, v, afterValue, scanned, closed, rest', closing, ended⟩ := h
  obtain ⟨keyTail, rfl, trimmed, takesKey⟩ := scanKey_takes keyed
  obtain ⟨used, rfl, _, takesValue⟩ := ih.once _ _ _ scanned
  rcases scanClosing_split closing with ⟨rfl, spaces, all, rfl⟩ | ⟨rfl, spaces, spaces', all, all', rfl⟩
  · simp only [if_true, Option.some.injEq, Prod.mk.injEq] at ended
    obtain ⟨rfl, rfl⟩ := ended
    refine ⟨keyTail ++ (used ++ (spaces ++ ['\x7d'])), by simp, by simp, ?_⟩
    exact takes_last_member takesKey takesValue all
  · simp only [Bool.false_eq_true, if_false] at ended
    obtain ⟨tail, rfl, last, takes⟩ := ih.members _ _ _ _ ended
    refine ⟨keyTail ++ (used ++ (spaces ++ ',' :: (spaces' ++ '"' :: tail))), by simp, ?_, ?_⟩
    · simp [List.getLast?_cons, List.getLast?_append, last]
    · exact takes_more_members takesKey takesValue all all' takes

theorem scanItems_step {fuel : ℕ} (ih : ScansTake py fuel) (cs : List Char) (items : List Json)
    (rest : List Char) (h : scanItems py (fuel + 1) cs = some (items, rest)) :
    ∃ c tail, cs = c :: tail ++ rest ∧ c ≠ ']' ∧ isJsonSpace c = false ∧
      Takes (scanItems py) Anything (c :: tail) items := by
  rw [scanItems] at h
  simp only [Option.bind_eq_bind, Option.bind_eq_some_iff, Prod.exists] at h
  obtain ⟨v, afterItem, scanned, closed, rest', closing, ended⟩ := h
  obtain ⟨used, rfl, _, takesValue⟩ := ih.once _ _ _ scanned
  obtain ⟨c, tail, rfl, open_, solid⟩ := takes_value_head takesValue
  rcases scanClosing_split closing with ⟨rfl, spaces, all, rfl⟩ | ⟨rfl, spaces, spaces', all, all', rfl⟩
  · simp only [if_true, Option.some.injEq, Prod.mk.injEq] at ended
    obtain ⟨rfl, rfl⟩ := ended
    exact ⟨c, tail ++ (spaces ++ [']']), by simp, open_, solid, takes_last_item takesValue all⟩
  · simp only [Bool.false_eq_true, if_false, Option.bind_eq_some_iff, Prod.exists, Option.pure_def,
      Option.some.injEq, Prod.mk.injEq] at ended
    obtain ⟨others, rest'', scanned', rfl, rfl⟩ := ended
    obtain ⟨d, tail', rfl, _, solid', takes⟩ := ih.items _ _ _ scanned'
    have trimmed (rest : List Char) : Trimmed (d :: tail' ++ rest) := by
      rintro _ ⟨⟩
      exact solid'
    refine ⟨c, tail ++ (spaces ++ ',' :: (spaces' ++ d :: tail')), by simp, open_, solid, ?_⟩
    exact takes_more_items takesValue all all' trimmed takes

theorem scansTake (fuel : ℕ) : ScansTake py fuel := by
  induction fuel with
  | zero =>
    exact {
      once := fun cs v rest h => by simp [scanOnce] at h
      members := fun members cs members' rest h => by simp [scanMembers] at h
      items := fun cs items rest h => by simp [scanItems] at h }
  | succ fuel ih =>
    exact {
      once := scanOnce_step ih
      members := scanMembers_step ih
      items := scanItems_step ih }

end Values

section Loads
variable {py : PyTexts}

theorem numberEnd_spaces {cs : List Char} (h : Spaces cs) : NumberEnd cs := by
  intro c mem
  have isSpace : isJsonSpace c = true := by
    cases cs with
    | nil => cases mem
    | cons d rest =>
      cases mem
      exact h _ (.head _)
  simp only [isJsonSpace, Bool.or_eq_true, decide_eq_true_eq] at isSpace
  rcases isSpace with ((rfl | rfl) | rfl) | rfl <;> decide

theorem skipSpaces_spaces {cs : List Char} (h : Spaces cs) : skipSpaces cs = [] := by
  have skipped := skipSpaces_to h (by simp [Trimmed] : Trimmed [])
  rwa [List.append_nil] at skipped

theorem loads_value {before used after : List Char} {v : Json} (spaces : Spaces before)
    (value : Takes (scanOnce py) (Ends v) used v) (spaces' : Spaces after) :
    loads py (String.ofList (before ++ (used ++ after))) = some v := by
  have room : used.length ≤ (before ++ (used ++ after)).length := by
    simp only [List.length_append]
    omega
  have scanned := value _ after room (ends_of_numberEnd (numberEnd_spaces spaces') v)
  rw [loads, String.toList_ofList, skipSpaces_to spaces (trimmed_value value after), scanned]
  simp [skipSpaces_spaces spaces']

theorem loads_split {s : String} {v : Json} (h : loads py s = some v) :
    ∃ before used after, s.toList = before ++ (used ++ after) ∧ Spaces before ∧ Spaces after ∧
      Braced v used ∧ Takes (scanOnce py) (Ends v) used v := by
  rw [loads] at h
  simp only [Option.bind_eq_bind, Option.bind_eq_some_iff, Prod.exists] at h
  obtain ⟨v', rest, scanned, ended⟩ := h
  split at ended
  · rename_i nothing
    cases ended
    obtain ⟨before, spaces, split⟩ := skipSpaces_split s.toList
    obtain ⟨after, spaces', split'⟩ := skipSpaces_split rest
    obtain ⟨used, text, braced, takes⟩ := (scansTake _).once _ _ _ scanned
    refine ⟨before, used, rest, by rw [← text, ← split], spaces, ?_, braced, takes⟩
    rw [split', nothing, List.append_nil]
    exact spaces'
  · cases ended

theorem scanOnce_brace {fuel : ℕ} {cs rest : List Char} {v : Json}
    (h : scanOnce py fuel ('\x7b' :: cs) = some (v, rest)) : ∃ members, v = .obj members := by
  cases fuel with
  | zero => simp [scanOnce] at h
  | succ fuel =>
    rw [scanOnce, if_neg (by decide), if_pos rfl] at h
    split at h
    · cases h
      exact ⟨_, rfl⟩
    · rw [Option.map_eq_some_iff] at h
      obtain ⟨⟨members, rest'⟩, _, same⟩ := h
      cases same
      exact ⟨members, rfl⟩

theorem loads_unfinished {begun missing : List Char} {members : JsonObject}
    (object : Takes (scanOnce py) (Ends (.obj members)) (begun ++ missing) (.obj members))
    (braced : Braced (.obj members) (begun ++ missing)) (some_ : begun ≠ []) (more : missing ≠ []) :
    loads py (String.ofList begun) = none := by
  cases read : loads py (String.ofList begun) with
  | none => rfl
  | some v =>
    exfalso
    obtain ⟨before, used, after, text, spaces, spaces', _, takes⟩ := loads_split read
    rw [String.toList_ofList] at text
    cases begun with
    | nil => exact some_ rfl
    | cons first tail =>
      obtain rfl : first = '\x7b' := Option.some.inj (braced members rfl).1
      have unspaced : before = [] := by
        cases before with
        | nil => rfl
        | cons space others =>
          obtain ⟨rfl, _⟩ := List.cons.inj text
          exact absurd (spaces _ (.head _)) (by decide)
      subst unspaced
      obtain ⟨members', rfl⟩ : ∃ members', v = .obj members' := by
        have scanned := takes used.length after le_rfl
          (ends_of_numberEnd (numberEnd_spaces spaces') v)
        rw [show used ++ after = '\x7b' :: tail from text.symm] at scanned
        exact scanOnce_brace scanned
      have short := takes ('\x7b' :: tail ++ missing).length (after ++ missing) (by simp [text]) trivial
      have whole := object ('\x7b' :: tail ++ missing).length [] le_rfl trivial
      rw [List.append_nil, text, List.nil_append, List.append_assoc] at whole
      rw [text, List.nil_append, List.append_assoc, whole] at short
      simp only [Option.some.injEq, Prod.mk.injEq] at short
      exact more (List.append_eq_nil_iff.mp short.2.symm).2

end Loads
end AegisGateway.JsonDecoder
