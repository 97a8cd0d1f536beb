import AegisGateway.JsonTokens
import AegisGateway.PrefixCodes

set_option autoImplicit false

/-!
# Canonical JSON

`json.dumps` with sorted keys gives two values the same text exactly if they are the same
up to the order of their members. Sorting the members throughout gives a normal form, and
the text of a value without sorting tells the value, so that only the normal form has to
be read back.
-/
namespace AegisGateway.Json
open PrefixCodes JsonTokens

section Values

@[elab_as_elim]
theorem valueInduction {P : Json → Prop} (null : P .null) (bool : ∀ b, P (.bool b))
    (int : ∀ n, P (.int n)) (float : ∀ text, P (.float text)) (str : ∀ s, P (.str s))
    (arr : ∀ items, (∀ x ∈ items, P x) → P (.arr items))
    (obj : ∀ members, (∀ m ∈ members, P m.2) → P (.obj members)) (v : Json) : P v :=
  @Json.rec P (fun items => ∀ x ∈ items, P x) (fun members => ∀ m ∈ members, P m.2) (fun m => P m.2)
    null bool int float str arr obj (by simp)
    (fun x items hx hitems => by simpa using ⟨hx, hitems⟩) (by simp)
    (fun m members hm hmembers => List.forall_mem_cons.mpr ⟨hm, hmembers⟩) (fun _ _ h => h) v

/-- The same JSON value: the members of an object have no order. -/
inductive Same : Json → Json → Prop where
  | null : Same .null .null
  | bool (b : Bool) : Same (.bool b) (.bool b)
  | int (n : ℤ) : Same (.int n) (.int n)
  | float (text : String) : Same (.float text) (.float text)
  | str (s : String) : Same (.str s) (.str s)
  | arr {items items' : List Json} (each : List.Forall₂ Same items items') :
      Same (.arr items) (.arr items')
  | obj {members members' : JsonObject}
      (each : ∀ key, Option.Rel Same (members.lookup key) (members'.lookup key)) :
      Same (.obj members) (.obj members')

def isFloatChar (c : Char) : Bool := c.isDigit || c = '-' || c = '+' || c = '.' || c = 'e'

/-- A text that `json.dumps` gives a float: never that of an `int`. -/
def isFloatRepr (text : String) : Bool :=
  text = "NaN" || text = "Infinity" || text = "-Infinity" ||
    ((text.toList.head?.any fun c => c.isDigit || c = '-') && text.toList.all isFloatChar &&
      text.toList.any fun c => c = '.' || c = 'e')

/-- A value as Python has it: the keys of a `dict` are distinct. -/
inductive Proper : Json → Prop where
  | null : Proper .null
  | bool (b : Bool) : Proper (.bool b)
  | int (n : ℤ) : Proper (.int n)
  | float {text : String} (rendered : isFloatRepr text = true) : Proper (.float text)
  | str (s : String) : Proper (.str s)
  | arr {items : List Json} (each : ∀ x ∈ items, Proper x) : Proper (.arr items)
  | obj {members : JsonObject} (distinct : (members.map Prod.fst).Nodup)
      (each : ∀ m ∈ members, Proper m.2) : Proper (.obj members)

end Values

section Strings

theorem hexDigit_read : ∀ n < 16, hexDigitValue (hexDigit n) = some n := by decide

theorem hexCode_read {n : ℕ} (h : n < 65536) :
    hexCode (hexDigit (n / 4096 % 16)) (hexDigit (n / 256 % 16)) (hexDigit (n / 16 % 16))
      (hexDigit (n % 16)) = some n := by
  have value : ((n / 4096 % 16 * 16 + n / 256 % 16) * 16 + n / 16 % 16) * 16 + n % 16 = n := by omega
  rw [hexCode, hexDigit_read _ (Nat.mod_lt _ (by omega)),
    hexDigit_read _ (Nat.mod_lt _ (by omega)), hexDigit_read _ (Nat.mod_lt _ (by omega)),
    hexDigit_read _ (Nat.mod_lt _ (by omega))]
  simp only [Option.bind_eq_bind, Option.bind_some, Option.pure_def, value]

theorem toNat_cases (c : Char) : c.toNat < 55296 ∨ 57343 < c.toNat ∧ c.toNat < 1114112 := c.valid

/-- The letter behind the backslash, for the characters that have one. -/
def shortEscapes : List (Char × Char) :=
  [('"', '"'), ('\\', '\\'), ('n', '\n'), ('r', '\r'), ('t', '\t'), ('b', Char.ofNat 8),
    ('f', Char.ofNat 12)]

variable {surrogate : ℕ → Char}

theorem scanEscape_small {c : Char} (small : c.toNat < 65536) (rest : List Char) :
    scanEscape surrogate ((unicodeEscape c.toNat).tail ++ rest) = some (c, rest) := by
  have bounds := toNat_cases c
  have notHigh : isHighSurrogate c.toNat = false := by
    simp only [isHighSurrogate, Bool.and_eq_false_iff, decide_eq_false_iff_not]
    omega
  have notLow : isLowSurrogate c.toNat = false := by
    simp only [isLowSurrogate, Bool.and_eq_false_iff, decide_eq_false_iff_not]
    omega
  simp only [unicodeEscape, List.tail_cons, List.cons_append, List.nil_append, scanEscape, if_true,
    hexCode_read small, Option.map_some, codeCharacter, notHigh, notLow, Bool.false_eq_true, if_false,
    Char.ofNat_toNat]

theorem scanEscape_pair {high low : ℕ} (isHigh : isHighSurrogate high = true)
    (isLow : isLowSurrogate low = true) (rest : List Char) :
    scanEscape surrogate ((unicodeEscape high).tail ++ (unicodeEscape low ++ rest)) =
      some (Char.ofNat (65536 + (high - 55296) * 1024 + (low - 56320)), rest) := by
  have highCode : high < 65536 := by
    simp only [isHighSurrogate, Bool.and_eq_true, decide_eq_true_eq] at isHigh
    omega
  have lowCode : low < 65536 := by
    simp only [isLowSurrogate, Bool.and_eq_true, decide_eq_true_eq] at isLow
    omega
  simp only [unicodeEscape, List.tail_cons, List.cons_append, List.nil_append, scanEscape, if_true,
    hexCode_read highCode, Option.map_some, codeCharacter, isHigh, lowSurrogate, hexCode_read lowCode,
    Option.bind_eq_bind, Option.bind_some, isLow, Option.getD_some]

theorem scanEscape_large {c : Char} (large : ¬ c.toNat < 65536) (rest : List Char) :
    scanEscape surrogate ((unicodeEscape (55296 + (c.toNat - 65536) / 1024)).tail ++
      (unicodeEscape (56320 + (c.toNat - 65536) % 1024) ++ rest)) = some (c, rest) := by
  have bounds := toNat_cases c
  obtain ⟨high, isSum⟩ : ∃ high, high = 55296 + (c.toNat - 65536) / 1024 := ⟨_, rfl⟩
  obtain ⟨low, isSum'⟩ : ∃ low, low = 56320 + (c.toNat - 65536) % 1024 := ⟨_, rfl⟩
  have isHigh : isHighSurrogate high = true := by
    simp only [isHighSurrogate, Bool.and_eq_true, decide_eq_true_eq]
    omega
  have isLow : isLowSurrogate low = true := by
    simp only [isLowSurrogate, Bool.and_eq_true, decide_eq_true_eq]
    omega
  have code : 65536 + (high - 55296) * 1024 + (low - 56320) = c.toNat := by omega
  rw [← isSum, ← isSum', scanEscape_pair isHigh isLow, code, Char.ofNat_toNat]

theorem scanEscape_short {letter c : Char} (mem : (letter, c) ∈ shortEscapes) (rest : List Char) :
    scanEscape surrogate (letter :: rest) = some (c, rest) := by
  simp only [shortEscapes, List.mem_cons, Prod.mk.injEq, List.not_mem_nil, or_false] at mem
  rcases mem with ⟨rfl, rfl⟩ | ⟨rfl, rfl⟩ | ⟨rfl, rfl⟩ | ⟨rfl, rfl⟩ | ⟨rfl, rfl⟩ | ⟨rfl, rfl⟩ | ⟨rfl, rfl⟩
    <;> rfl

/-- What `escapeChar` makes of a character: a letter, the character itself, or its code. -/
theorem escapeChar_cases {P : List Char → Prop} (c : Char)
    (short : ∀ letter, (letter, c) ∈ shortEscapes → P ['\\', letter])
    (plain : c ≠ '"' → c ≠ '\\' → 32 ≤ c.toNat ∧ c.toNat ≤ 126 → P [c])
    (code : c.toNat < 65536 → P (unicodeEscape c.toNat))
    (pair : ¬ c.toNat < 65536 → P (unicodeEscape (55296 + (c.toNat - 65536) / 1024) ++
      unicodeEscape (56320 + (c.toNat - 65536) % 1024))) : P (escapeChar c) := by
  have ofCode {n : ℕ} (h : c.toNat = n) : c = Char.ofNat n := by rw [← h, Char.ofNat_toNat]
  rw [escapeChar]
  by_cases quote : c = '"'
  · rw [if_pos quote]
    exact short _ (by simp [shortEscapes, quote])
  rw [if_neg quote]
  by_cases backslash : c = '\\'
  · rw [if_pos backslash]
    exact short _ (by simp [shortEscapes, backslash])
  rw [if_neg backslash]
  by_cases newline : c = '\n'
  · rw [if_pos newline]
    exact short _ (by simp [shortEscapes, newline])
  rw [if_neg newline]
  by_cases carriage : c = '\r'
  · rw [if_pos carriage]
    exact short _ (by simp [shortEscapes, carriage])
  rw [if_neg carriage]
  by_cases tab : c = '\t'
  · rw [if_pos tab]
    exact short _ (by simp [shortEscapes, tab])
  rw [if_neg tab]
  by_cases backspace : c.toNat = 8
  · rw [if_pos backspace]
    exact short _ (by simp [shortEscapes, ofCode backspace])
  rw [if_neg backspace]
  by_cases formfeed : c.toNat = 12
  · rw [if_pos formfeed]
    exact short _ (by simp [shortEscapes, ofCode formfeed])
  rw [if_neg formfeed]
  by_cases printable : 32 ≤ c.toNat ∧ c.toNat ≤ 126
  · rw [if_pos printable]
    exact plain quote backslash printable
  rw [if_neg printable]
  by_cases small : c.toNat < 65536
  · rw [if_pos small]
    exact code small
  · rw [if_neg small]
    exact pair small

/-- Reads one character of a JSON string back. -/
def unescape : List Char → Option (Char × List Char)
  | '\\' :: rest => scanEscape plainTexts.surrogate rest
  | c :: rest => some (c, rest)
  | [] => none

theorem unescape_escapeChar (c : Char) (rest : List Char) :
    unescape (escapeChar c ++ rest) = some (c, rest) := by
  refine escapeChar_cases (P := fun text => unescape (text ++ rest) = some (c, rest)) c ?_ ?_ ?_ ?_
  · exact fun letter mem => scanEscape_short mem rest
  · intro quote backslash printable
    rw [List.singleton_append, unescape]
    exact backslash
  · exact fun small => scanEscape_small small rest
  · intro large
    rw [List.append_assoc]
    exact scanEscape_large large rest

theorem escapeChar_avoids_quote (c : Char) : Avoids ['"'] (escapeChar c) := by
  have escaped (rest : List Char) : Avoids ['"'] ('\\' :: rest) := ⟨'\\', rest, rfl, by decide⟩
  refine escapeChar_cases c (fun _ _ => escaped _) ?_ (fun _ => escaped _) fun _ => escaped _
  exact fun quote _ _ => ⟨c, [], rfl, by simpa using quote⟩

def quotedText (s : String) : List Char := '"' :: s.toList.flatMap escapeChar ++ ['"']

theorem quotedText_tells (s : String) : Tells quotedText (fun _ => True) (fun _ => True) s := by
  intro s' u v _ _ _ same
  have each : ∀ c ∈ s.toList, Tells escapeChar (fun _ => True) (fun _ => True) c :=
    fun c _ => tells_of_decode unescape (fun c _ => unescape_escapeChar c) trivial
  have chars := flatMap_tells (fun c _ => escapeChar_avoids_quote c) (fun _ _ => trivial)
    (fun _ _ _ => trivial) each (fun _ _ => trivial)
  rw [quotedText, quotedText, List.cons_append, List.cons_append, List.append_assoc,
    List.append_assoc] at same
  obtain ⟨chars_eq, rest⟩ := chars s'.toList ('"' :: u) ('"' :: v) (fun _ _ => trivial)
    ⟨'"', .head _, u, rfl⟩ ⟨'"', .head _, v, rfl⟩ (List.cons.inj same).2
  exact ⟨String.toList_inj.mp chars_eq, (List.cons.inj rest).2⟩

end Strings

section Texts

/-- The canonical separators without the sorting. -/
def compactDump : DumpOptions := ⟨",", ":", false⟩

def text (v : Json) : List Char := (dumps compactDump v).toList

def memberText (options : DumpOptions) (m : String × Json) : List Char :=
  (quoted m.1).toList ++ (options.keySeparator.toList ++ (dumps options m.2).toList)

theorem dumpsItems_eq (options : DumpOptions) (items : List Json) :
    dumpsItems options items = items.map (dumps options) := by
  induction items with
  | nil => rfl
  | cons item rest ih => rw [dumpsItems, ih, List.map_cons]

theorem dumpsMembers_eq (options : DumpOptions) (members : JsonObject) :
    dumpsMembers options members = members.map fun m => (m.1, dumps options m.2) := by
  induction members with
  | nil => rfl
  | cons m rest ih =>
    obtain ⟨key, value⟩ := m
    rw [dumpsMembers, ih, List.map_cons]

theorem text_arr (items : List Json) :
    text (.arr items) = '[' :: separated ',' text items ++ [']'] := by
  rw [text, dumps, dumpsItems_eq, String.toList_append, String.toList_append,
    String.toList_intercalate, List.map_map]
  rfl

theorem dumps_obj {options : DumpOptions} (unsorted : options.sortKeys = false) (members : JsonObject) :
    (dumps options (.obj members)).toList =
      '\x7b' :: (options.itemSeparator.toList.intercalate (members.map (memberText options)) ++ ['\x7d']) := by
  have member (m : String × Json) :
      (quoted m.1 ++ options.keySeparator ++ dumps options m.2).toList = memberText options m := by
    rw [String.toList_append, String.toList_append, List.append_assoc, memberText]
  have shown : members.map ((String.toList ∘ fun m => quoted m.1 ++ options.keySeparator ++ m.2) ∘
      fun m => (m.1, dumps options m.2)) = members.map (memberText options) :=
    List.map_congr_left fun m _ => member m
  rw [dumps, dumpsMembers_eq, String.toList_append, String.toList_append, String.toList_intercalate,
    sortedMembers, if_neg (by simp [unsorted]), List.map_map, List.map_map, shown]
  rfl

theorem text_obj (members : JsonObject) :
    text (.obj members) = '\x7b' :: separated ',' (memberText compactDump) members ++ ['\x7d'] :=
  dumps_obj rfl members

theorem memberText_compact (m : String × Json) :
    memberText compactDump m = quotedText m.1 ++ ':' :: text m.2 := by
  rw [memberText, quoted, String.toList_ofList]
  rfl

end Texts

section Numbers

theorem digits_inj {m n : ℕ} (h : Nat.toDigits 10 m = Nat.toDigits 10 n) : m = n := by
  have values := congrArg (fun digits => Nat.ofDigitChars 10 digits 0) h
  simpa using values

theorem int_text (n : ℤ) : text (.int n) =
    if 0 ≤ n then Nat.toDigits 10 n.toNat else '-' :: Nat.toDigits 10 (-n).toNat := by
  rw [text, dumps, Int.toString_eq_repr, Int.repr_eq_if]
  split
  · exact Nat.toList_repr
  · rw [String.toList_append, Nat.toList_repr]
    rfl

theorem dash_not_digit (n : ℕ) (rest : List Char) : Nat.toDigits 10 n ≠ '-' :: rest := by
  intro same
  have digit : '-'.isDigit = true := Nat.isDigit_of_mem_toDigits (by omega) le_rfl (by
    rw [same]
    exact .head _)
  cases digit

theorem int_text_inj {m n : ℤ} (h : text (.int m) = text (.int n)) : m = n := by
  rw [int_text, int_text] at h
  split at h <;> split at h
  · have := digits_inj h
    omega
  · exact absurd h (dash_not_digit _ _)
  · exact absurd h.symm (dash_not_digit _ _)
  · have := digits_inj (List.cons.inj h).2
    omega

theorem int_chars (n : ℤ) : ∀ c ∈ text (.int n), c.isDigit = true ∨ c = '-' := by
  intro c mem
  rw [int_text] at mem
  split at mem
  · exact .inl (Nat.isDigit_of_mem_toDigits (by omega) le_rfl mem)
  · rcases List.mem_cons.mp mem with rfl | mem
    · exact .inr rfl
    · exact .inl (Nat.isDigit_of_mem_toDigits (by omega) le_rfl mem)

theorem int_text_ne_nil (n : ℤ) : text (.int n) ≠ [] := by
  rw [int_text]
  split
  · exact Nat.toDigits_ne_nil
  · simp

theorem isFloatRepr_cases {text : String} (h : isFloatRepr text = true) :
    (text = "NaN" ∨ text = "Infinity" ∨ text = "-Infinity") ∨
      (∃ c rest, text.toList = c :: rest ∧ (c.isDigit = true ∨ c = '-')) ∧
        (∀ c ∈ text.toList, isFloatChar c = true) ∧ ∃ c ∈ text.toList, c = '.' ∨ c = 'e' := by
  simp only [isFloatRepr, Bool.or_eq_true, decide_eq_true_eq, Bool.and_eq_true, List.all_eq_true,
    List.any_eq_true, or_assoc] at h
  rcases h with h | h | h | ⟨⟨first, chars⟩, fraction⟩
  · exact .inl (.inl h)
  · exact .inl (.inr (.inl h))
  · exact .inl (.inr (.inr h))
  · refine .inr ⟨?_, chars, fraction⟩
    cases shape : text.toList with
    | nil =>
      rw [shape] at first
      cases first
    | cons c rest =>
      rw [shape] at first
      exact ⟨c, rest, rfl, by simpa using first⟩

theorem float_text_ne_int {float : String} (h : isFloatRepr float = true) (n : ℤ) :
    text (.float float) ≠ text (.int n) := by
  intro same
  have chars := int_chars n
  rw [← same] at chars
  change ∀ c ∈ float.toList, _ at chars
  rcases isFloatRepr_cases h with (rfl | rfl | rfl) | ⟨_, _, c, mem, point | exponent⟩
  · exact absurd (chars 'N' (by decide)) (by decide)
  · exact absurd (chars 'I' (by decide)) (by decide)
  · exact absurd (chars 'I' (by decide)) (by decide)
  · rw [point] at mem
    exact absurd (chars '.' mem) (by decide)
  · rw [exponent] at mem
    exact absurd (chars 'e' mem) (by decide)

def stopChars : List Char := [',', ']', '\x7d']

/-- What may follow a value. -/
def Stops (rest : List Char) : Prop := rest = [] ∨ Begins stopChars rest

theorem digit_not_stop {c : Char} (h : c.isDigit = true ∨ c = '-') : c ∉ stopChars := by
  intro mem
  simp only [stopChars, List.mem_cons, List.not_mem_nil, or_false] at mem
  rcases mem with rfl | rfl | rfl <;> revert h <;> decide

theorem floatChar_not_stop {c : Char} (h : isFloatChar c = true) : c ∉ stopChars := by
  intro mem
  simp only [stopChars, List.mem_cons, List.not_mem_nil, or_false] at mem
  rcases mem with rfl | rfl | rfl <;> revert h <;> decide

theorem float_chars {float : String} (h : isFloatRepr float = true) :
    ∀ c ∈ text (.float float), c ∉ stopChars := by
  change ∀ c ∈ float.toList, _
  rcases isFloatRepr_cases h with (rfl | rfl | rfl) | ⟨_, chars, _⟩
  · exact List.forall_mem_iff_forall_getElem.mpr (by decide)
  · exact List.forall_mem_iff_forall_getElem.mpr (by decide)
  · exact List.forall_mem_iff_forall_getElem.mpr (by decide)
  · exact fun c mem => floatChar_not_stop (chars c mem)

end Numbers

section Reading

inductive Kind where
  | null
  | bool
  | number
  | string
  | array
  | object
  deriving DecidableEq, Repr

def kind : Json → Kind
  | .null => .null
  | .bool _ => .bool
  | .int _ | .float _ => .number
  | .str _ => .string
  | .arr _ => .array
  | .obj _ => .object

/-- The kind of value that begins with this character. -/
def leads (c : Char) : Kind :=
  if c = 'n' then .null
  else if c = 't' ∨ c = 'f' then .bool
  else if c = '"' then .string
  else if c = '[' then .array
  else if c = '\x7b' then .object
  else .number

theorem leads_digit {c : Char} (h : c.isDigit = true ∨ c = '-') : leads c = .number := by
  have apart (d : Char) (no : ¬ (d.isDigit = true ∨ d = '-')) : c ≠ d := by
    rintro rfl
    exact no h
  have letters : ¬ (c = 't' ∨ c = 'f') := by
    rintro (same | same)
    · exact apart 't' (by decide) same
    · exact apart 'f' (by decide) same
  rw [leads, if_neg (apart 'n' (by decide)), if_neg letters, if_neg (apart '"' (by decide)),
    if_neg (apart '[' (by decide)), if_neg (apart '\x7b' (by decide))]

/-- The first character tells the kind of a value, and cannot follow one. -/
theorem text_leads {v : Json} (h : Proper v) :
    ∃ c rest, text v = c :: rest ∧ leads c = kind v ∧ c ∉ stopChars := by
  cases h with
  | null => exact ⟨'n', _, rfl, rfl, by decide⟩
  | bool b =>
    cases b with
    | true => exact ⟨'t', _, rfl, rfl, by decide⟩
    | false => exact ⟨'f', _, rfl, rfl, by decide⟩
  | int n =>
    obtain ⟨c, rest, shape⟩ := List.exists_cons_of_ne_nil (int_text_ne_nil n)
    have digit : c.isDigit = true ∨ c = '-' := int_chars n c (by
      rw [shape]
      exact .head _)
    exact ⟨c, rest, shape, leads_digit digit, digit_not_stop digit⟩
  | float rendered =>
    rcases isFloatRepr_cases rendered with (rfl | rfl | rfl) | ⟨⟨c, rest, shape, digit⟩, _⟩
    · exact ⟨'N', _, rfl, rfl, by decide⟩
    · exact ⟨'I', _, rfl, rfl, by decide⟩
    · exact ⟨'-', _, rfl, rfl, by decide⟩
    · exact ⟨c, rest, shape, leads_digit digit, digit_not_stop digit⟩
  | str s =>
    have shape : text (.str s) = quotedText s := String.toList_ofList
    exact ⟨'"', _, shape, rfl, by decide⟩
  | arr each => exact ⟨'[', _, text_arr _, rfl, by decide⟩
  | obj distinct each => exact ⟨'\x7b', _, text_obj _, rfl, by decide⟩

theorem kind_of_text {v w : Json} (hv : Proper v) (hw : Proper w) {u u' : List Char}
    (same : text v ++ u = text w ++ u') : kind v = kind w := by
  obtain ⟨c, rest, shape, leads_c, _⟩ := text_leads hv
  obtain ⟨d, rest', shape', leads_d, _⟩ := text_leads hw
  rw [shape, shape'] at same
  rw [← leads_c, ← leads_d, (List.cons.inj same).1]

theorem text_avoids {c : Char} (stop : c ∈ stopChars) {v : Json} (h : Proper v) :
    Avoids [c] (text v) := by
  obtain ⟨d, rest, shape, _, out⟩ := text_leads h
  refine ⟨d, rest, shape, fun mem => out ?_⟩
  rw [List.mem_singleton.mp mem]
  exact stop

theorem number_chars {v : Json} (h : Proper v) (number : kind v = .number) :
    ∀ c ∈ text v, c ∉ stopChars := by
  cases h with
  | int n => exact fun c mem => digit_not_stop (int_chars n c mem)
  | float rendered => exact float_chars rendered
  | _ => cases number

theorem number_text_inj {v w : Json} (hv : Proper v) (hw : Proper w) (number : kind v = .number)
    (number' : kind w = .number) (same : text v = text w) : v = w := by
  cases hv with
  | int n =>
    cases hw with
    | int m => rw [int_text_inj same]
    | float rendered => exact absurd same.symm (float_text_ne_int rendered n)
    | _ => cases number'
  | float rendered =>
    cases hw with
    | int m => exact absurd same (float_text_ne_int rendered m)
    | float rendered' => exact congrArg Json.float (String.toList_inj.mp same)
    | _ => cases number'
  | _ => cases number

theorem number_tells {v : Json} (hv : Proper v) (number : kind v = .number) :
    Tells text Proper Stops v := by
  intro w u u' hw hu hu' same
  have number' : kind w = .number := (kind_of_text hv hw same).symm.trans number
  obtain ⟨texts, rests⟩ := append_inj_of_letters (number_chars hv number) (number_chars hw number')
    hu hu' same
  exact ⟨number_text_inj hv hw number number' texts, rests⟩

theorem stops_of_begins {letters : List Char} (sub : letters ⊆ stopChars) (u : List Char)
    (h : Begins letters u) : Stops u := by
  obtain ⟨c, mem, t, rfl⟩ := h
  exact .inr ⟨c, sub mem, t, rfl⟩

theorem memberText_tells {m : String × Json} (h : Tells text Proper Stops m.2) :
    Tells (memberText compactDump) (fun m => Proper m.2) (Begins [',', '\x7d']) m := by
  intro m' u v hm' hu hv same
  rw [memberText_compact, memberText_compact, List.append_assoc, List.append_assoc] at same
  obtain ⟨keys, values⟩ := quotedText_tells m.1 m'.1 _ _ trivial trivial trivial same
  obtain ⟨values, rests⟩ := h m'.2 u v hm' (stops_of_begins (by decide) u hu)
    (stops_of_begins (by decide) v hv) (List.cons.inj values).2
  exact ⟨Prod.ext keys values, rests⟩

theorem text_tells {v : Json} (hv : Proper v) : Tells text Proper Stops v := by
  induction v using valueInduction with
  | null =>
    intro w u u' hw _ _ same
    have kinds := kind_of_text hv hw same
    cases w with
    | null => exact ⟨rfl, List.append_cancel_left same⟩
    | _ => cases kinds
  | bool b =>
    intro w u u' hw _ _ same
    have kinds := kind_of_text hv hw same
    cases w with
    | bool b' =>
      cases b <;> cases b'
      · exact ⟨rfl, List.append_cancel_left same⟩
      · cases (List.cons.inj same).1
      · cases (List.cons.inj same).1
      · exact ⟨rfl, List.append_cancel_left same⟩
    | _ => cases kinds
  | int n => exact number_tells hv rfl
  | float rendered => exact number_tells hv rfl
  | str s =>
    intro w u u' hw _ _ same
    have kinds := kind_of_text hv hw same
    cases w with
    | str s' =>
      have shape (s : String) : text (.str s) = quotedText s := String.toList_ofList
      rw [shape, shape] at same
      obtain ⟨strings, rests⟩ := quotedText_tells s s' u u' trivial trivial trivial same
      rw [strings]
      exact ⟨rfl, rests⟩
    | _ => cases kinds
  | arr items ih =>
    intro w u u' hw _ _ same
    have kinds := kind_of_text hv hw same
    cases w with
    | arr items' =>
      cases hv with
      | arr each =>
        cases hw with
        | arr each' =>
          have apart : ',' ≠ ']' := by decide
          have tells := bracketed_tells '[' apart (fun _ => text_avoids (by decide))
            (fun x mem => (ih x mem (each x mem)).mono (stops_of_begins (by decide))) each
          rw [text_arr, text_arr] at same
          obtain ⟨items_eq, rests⟩ := tells items' u u' each' trivial trivial same
          rw [items_eq]
          exact ⟨rfl, rests⟩
    | _ => cases kinds
  | obj members ih =>
    intro w u u' hw _ _ same
    have kinds := kind_of_text hv hw same
    cases w with
    | obj members' =>
      cases hv with
      | obj distinct each =>
        cases hw with
        | obj distinct' each' =>
          have avoids (m : String × Json) (_ : Proper m.2) : Avoids ['\x7d'] (memberText compactDump m) :=
            ⟨'"', _, memberText_compact m, by decide⟩
          have tells := bracketed_tells '\x7b' (by decide) avoids
            (fun m mem => memberText_tells (ih m mem (each m mem))) each
          rw [text_obj, text_obj] at same
          obtain ⟨members_eq, rests⟩ := tells members' u u' each' trivial trivial same
          rw [members_eq]
          exact ⟨rfl, rests⟩
    | _ => cases kinds

theorem dumps_compact_inj {v w : Json} (hv : Proper v) (hw : Proper w)
    (same : dumps compactDump v = dumps compactDump w) : v = w := by
  have texts : text v ++ [] = text w ++ [] := by rw [text, text, same]
  exact (text_tells hv w [] [] hw (.inl rfl) (.inl rfl) texts).1

end Reading

section Members
variable {α : Type} {members members' : List (String × α)}

theorem lookup_of_mem (distinct : (members.map Prod.fst).Nodup) {m : String × α}
    (mem : m ∈ members) : members.lookup m.1 = some m.2 := by
  induction members with
  | nil => cases mem
  | cons first rest ih =>
    obtain ⟨fresh, distinct⟩ := List.nodup_cons.mp distinct
    rcases List.mem_cons.mp mem with rfl | mem
    · exact List.lookup_cons_self
    · have apart : m.1 ≠ first.1 := by
        intro same
        rw [← same] at fresh
        exact fresh (List.mem_map_of_mem mem)
      rw [List.lookup_cons, beq_false_of_ne apart]
      exact ih distinct mem

theorem mem_of_lookup {key : String} {value : α} (found : members.lookup key = some value) :
    (key, value) ∈ members := by
  obtain ⟨before, after, rfl, _⟩ := List.lookup_eq_some_iff.mp found
  exact List.mem_append_right _ (.head _)

theorem mem_iff_lookup (distinct : (members.map Prod.fst).Nodup) (m : String × α) :
    m ∈ members ↔ members.lookup m.1 = some m.2 :=
  ⟨lookup_of_mem distinct, mem_of_lookup⟩

theorem perm_iff_lookup (distinct : (members.map Prod.fst).Nodup)
    (distinct' : (members'.map Prod.fst).Nodup) :
    members.Perm members' ↔ ∀ key, members.lookup key = members'.lookup key := by
  rw [List.perm_ext_iff_of_nodup (.of_map _ distinct) (.of_map _ distinct')]
  constructor
  · intro same key
    rw [Option.ext_iff]
    intro value
    exact (mem_iff_lookup distinct (key, value)).symm.trans
      ((same _).trans (mem_iff_lookup distinct' (key, value)))
  · intro same m
    rw [mem_iff_lookup distinct, mem_iff_lookup distinct', same]

theorem lookup_map {β : Type} (f : α → β) (members : List (String × α)) (key : String) :
    (members.map fun m => (m.1, f m.2)).lookup key = (members.lookup key).map f := by
  induction members with
  | nil => rfl
  | cons m rest ih =>
    rw [List.map_cons, List.lookup_cons, List.lookup_cons, ih]
    cases key == m.1 <;> rfl

def sorted (members : List (String × α)) : List (String × α) :=
  members.insertionSort fun a b => a.1 ≤ b.1

theorem sorted_perm (members : List (String × α)) : (sorted members).Perm members :=
  List.perm_insertionSort _ members

theorem sorted_distinct (distinct : (members.map Prod.fst).Nodup) :
    ((sorted members).map Prod.fst).Nodup :=
  ((sorted_perm members).map _).nodup_iff.mpr distinct

theorem sorted_eq_iff (distinct : (members.map Prod.fst).Nodup) :
    sorted members = sorted members' ↔ members.Perm members' := by
  constructor
  · intro same
    have perm := sorted_perm members
    rw [same] at perm
    exact perm.symm.trans (sorted_perm members')
  · intro perm
    have total : Std.Total fun a b : String × α => a.1 ≤ b.1 := ⟨fun a b => le_total a.1 b.1⟩
    have trans : IsTrans (String × α) fun a b => a.1 ≤ b.1 := ⟨fun _ _ _ => le_trans⟩
    have antisymm : ∀ a b, a ∈ sorted members → b ∈ sorted members' → a.1 ≤ b.1 → b.1 ≤ a.1 →
        a = b := by
      intro a b ha hb below above
      have ha' : a ∈ members := (sorted_perm members).mem_iff.mp ha
      have hb' : b ∈ members := perm.mem_iff.mpr ((sorted_perm members').mem_iff.mp hb)
      exact List.inj_on_of_nodup_map distinct ha' hb' (le_antisymm below above)
    exact List.Perm.eq_of_pairwise antisymm (List.pairwise_insertionSort _ _)
      (List.pairwise_insertionSort _ _) ((sorted_perm members).trans (perm.trans (sorted_perm members').symm))

end Members

section Canonical

mutual

/-- The value with all members sorted by key. -/
def canon : Json → Json
  | .null => .null
  | .bool b => .bool b
  | .int n => .int n
  | .float text => .float text
  | .str s => .str s
  | .arr items => .arr (canonItems items)
  | .obj members => .obj (sorted (canonMembers members))

def canonItems : List Json → List Json
  | [] => []
  | item :: rest => canon item :: canonItems rest

def canonMembers : JsonObject → JsonObject
  | [] => []
  | (key, value) :: rest => (key, canon value) :: canonMembers rest

end

theorem canonItems_eq (items : List Json) : canonItems items = items.map canon := by
  induction items with
  | nil => rfl
  | cons item rest ih => rw [canonItems, ih, List.map_cons]

theorem canonMembers_eq (members : JsonObject) :
    canonMembers members = members.map fun m => (m.1, canon m.2) := by
  induction members with
  | nil => rfl
  | cons m rest ih =>
    obtain ⟨key, value⟩ := m
    rw [canonMembers, ih, List.map_cons]

theorem canonMembers_keys (members : JsonObject) :
    (canonMembers members).map Prod.fst = members.map Prod.fst := by
  rw [canonMembers_eq, List.map_map]
  rfl

theorem canon_proper {v : Json} (hv : Proper v) : Proper (canon v) := by
  induction hv with
  | null => exact .null
  | bool b => exact .bool b
  | int n => exact .int n
  | float rendered => exact .float rendered
  | str s => exact .str s
  | arr each ih =>
    rw [canon, canonItems_eq]
    refine .arr fun x mem => ?_
    obtain ⟨item, inside, rfl⟩ := List.mem_map.mp mem
    exact ih item inside
  | @obj members distinct each ih =>
    rw [canon]
    refine .obj (sorted_distinct ?_) fun m mem => ?_
    · rw [canonMembers_keys]
      exact distinct
    · rw [(sorted_perm _).mem_iff, canonMembers_eq] at mem
      obtain ⟨m', inside, rfl⟩ := List.mem_map.mp mem
      exact ih m' inside

theorem dumps_canonical (v : Json) : dumps canonicalDump v = dumps compactDump (canon v) := by
  induction v using valueInduction with
  | null => rfl
  | bool b => cases b <;> rfl
  | int n => rfl
  | float text => rfl
  | str s => rfl
  | arr items ih =>
    have items_eq : items.map (dumps canonicalDump) = (items.map canon).map (dumps compactDump) := by
      rw [List.map_map]
      exact List.map_congr_left ih
    rw [canon, dumps, dumps, dumpsItems_eq, dumpsItems_eq, canonItems_eq, items_eq]
    rfl
  | obj members ih =>
    have members_eq : members.map (fun m => (m.1, dumps canonicalDump m.2)) =
        (members.map fun m => (m.1, canon m.2)).map fun m => (m.1, dumps compactDump m.2) := by
      rw [List.map_map]
      exact List.map_congr_left fun m mem => Prod.ext rfl (ih m mem)
    have sorting : sortedMembers canonicalDump (members.map fun m => (m.1, dumps canonicalDump m.2)) =
        (sorted (canonMembers members)).map fun m => (m.1, dumps compactDump m.2) := by
      rw [sortedMembers, if_pos (by decide), members_eq, sorted, canonMembers_eq]
      symm
      apply List.map_insertionSort
      exact fun _ _ _ _ => Iff.rfl
    rw [canon, dumps, dumps, dumpsMembers_eq, dumpsMembers_eq, sorting, sortedMembers,
      if_neg (by decide)]
    rfl

theorem forall₂_iff_of_mem {R S : Json → Json → Prop} {items items' : List Json}
    (each : ∀ x ∈ items, ∀ y ∈ items', R x y ↔ S x y) :
    List.Forall₂ R items items' ↔ List.Forall₂ S items items' := by
  rw [List.forall₂_iff_zip, List.forall₂_iff_zip]
  constructor
  · rintro ⟨lengths, pairs⟩
    refine ⟨lengths, fun mem => ?_⟩
    obtain ⟨left, right⟩ := List.of_mem_zip mem
    exact (each _ left _ right).mp (pairs mem)
  · rintro ⟨lengths, pairs⟩
    refine ⟨lengths, fun mem => ?_⟩
    obtain ⟨left, right⟩ := List.of_mem_zip mem
    exact (each _ left _ right).mpr (pairs mem)

theorem map_eq_iff_rel {R : Json → Json → Prop} {x y : Option Json}
    (each : ∀ a, x = some a → ∀ b, y = some b → (canon a = canon b ↔ R a b)) :
    x.map canon = y.map canon ↔ Option.Rel R x y := by
  cases x with
  | none =>
    cases y with
    | none => exact ⟨fun _ => .none, fun _ => rfl⟩
    | some b => exact ⟨fun same => (by cases same), fun rel => (by cases rel)⟩
  | some a =>
    cases y with
    | none => exact ⟨fun same => (by cases same), fun rel => (by cases rel)⟩
    | some b =>
      have pair := each a rfl b rfl
      constructor
      · intro same
        exact .some (pair.mp (Option.some.inj same))
      · rintro ⟨rel⟩
        exact congrArg some (pair.mpr rel)

theorem canon_eq_iff {v w : Json} (hv : Proper v) (hw : Proper w) :
    canon v = canon w ↔ Same v w := by
  induction v using valueInduction generalizing w with
  | null =>
    cases w with
    | null => exact ⟨fun _ => .null, fun _ => rfl⟩
    | _ => exact ⟨fun same => (by cases same), fun same => (by cases same)⟩
  | bool b =>
    cases w with
    | bool b' => exact ⟨fun same => (by cases same; exact .bool b), fun same => (by cases same; rfl)⟩
    | _ => exact ⟨fun same => (by cases same), fun same => (by cases same)⟩
  | int n =>
    cases w with
    | int n' => exact ⟨fun same => (by cases same; exact .int n), fun same => (by cases same; rfl)⟩
    | _ => exact ⟨fun same => (by cases same), fun same => (by cases same)⟩
  | float text =>
    cases w with
    | float text' =>
      exact ⟨fun same => (by cases same; exact .float text), fun same => (by cases same; rfl)⟩
    | _ => exact ⟨fun same => (by cases same), fun same => (by cases same)⟩
  | str s =>
    cases w with
    | str s' => exact ⟨fun same => (by cases same; exact .str s), fun same => (by cases same; rfl)⟩
    | _ => exact ⟨fun same => (by cases same), fun same => (by cases same)⟩
  | arr items ih =>
    cases w with
    | arr items' =>
      cases hv with
      | arr each =>
        cases hw with
        | arr each' =>
          have step : items.map canon = items'.map canon ↔ List.Forall₂ Same items items' := by
            rw [← List.forall₂_eq_eq_eq, List.forall₂_map_left_iff, List.forall₂_map_right_iff]
            exact forall₂_iff_of_mem fun x hx y hy => ih x hx (each x hx) (each' y hy)
          rw [canon, canon, canonItems_eq, canonItems_eq, Json.arr.injEq, step]
          exact ⟨.arr, fun same => (by cases same; assumption)⟩
    | _ => exact ⟨fun same => (by cases same), fun same => (by cases same)⟩
  | obj members ih =>
    cases w with
    | obj members' =>
      cases hv with
      | obj distinct each =>
        cases hw with
        | obj distinct' each' =>
          have step : sorted (canonMembers members) = sorted (canonMembers members') ↔
              ∀ key, Option.Rel Same (members.lookup key) (members'.lookup key) := by
            rw [sorted_eq_iff (by rwa [canonMembers_keys]), perm_iff_lookup
              (by rwa [canonMembers_keys]) (by rwa [canonMembers_keys]), canonMembers_eq, canonMembers_eq]
            refine forall_congr' fun key => ?_
            rw [lookup_map, lookup_map]
            refine map_eq_iff_rel fun a found b found' => ?_
            have mem := mem_of_lookup found
            exact ih _ mem (each _ mem) (each' _ (mem_of_lookup found'))
          rw [canon, canon, Json.obj.injEq, step]
          exact ⟨.obj, fun same => (by cases same; assumption)⟩
    | _ => exact ⟨fun same => (by cases same), fun same => (by cases same)⟩

theorem dumps_canonical_eq_iff {v w : Json} (hv : Proper v) (hw : Proper w) :
    dumps canonicalDump v = dumps canonicalDump w ↔ Same v w := by
  rw [← canon_eq_iff hv hw, dumps_canonical, dumps_canonical]
  constructor
  · exact dumps_compact_inj (canon_proper hv) (canon_proper hw)
  · intro same
    rw [same]

end Canonical
end AegisGateway.Json
