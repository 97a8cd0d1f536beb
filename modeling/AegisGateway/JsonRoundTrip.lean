import AegisGateway.CanonicalJson
import AegisGateway.JsonDecoder

set_option autoImplicit false

/-!
# A JSON text has the value that was dumped

The text of a value is printable ASCII, and the decoder takes it as that value wherever
it stands. A float must be one whose `repr` `float` reads back as the same number.
-/
namespace AegisGateway.JsonRoundTrip
open JsonTokens JsonDecoder
open Json (dumps plainDump memberText quoted escapeChar unicodeEscape hexDigit scanEscape_small scanEscape_large
  scanEscape_short)

section Texts

def Printable (text : List Char) : Prop := ∀ c ∈ text, 32 ≤ c.toNat ∧ c.toNat ≤ 126

theorem printable_append {text more : List Char} (h : Printable text) (h' : Printable more) :
    Printable (text ++ more) := by
  intro c mem
  rcases List.mem_append.mp mem with before | behind
  · exact h c before
  · exact h' c behind

theorem printable_cons {c : Char} {text : List Char} (first : 32 ≤ c.toNat ∧ c.toNat ≤ 126)
    (h : Printable text) : Printable (c :: text) := List.forall_mem_cons.mpr ⟨first, h⟩

theorem printable_nil : Printable [] := by simp [Printable]

theorem printable_intercalate {separator : List Char} {texts : List (List Char)}
    (between : Printable separator) (each : ∀ text ∈ texts, Printable text) :
    Printable (separator.intercalate texts) := by
  induction texts with
  | nil => exact printable_nil
  | cons text rest ih =>
    obtain ⟨first, others⟩ := List.forall_mem_cons.mp each
    cases rest with
    | nil =>
      rw [List.intercalate_singleton]
      exact first
    | cons next more =>
      rw [List.intercalate_cons_cons]
      exact printable_append (printable_append first between) (ih others)

theorem intercalate_begins (separator text : List Char) (texts : List (List Char)) :
    ∃ behind, separator.intercalate (text :: texts) = text ++ behind := by
  cases texts with
  | nil => exact ⟨[], by rw [List.intercalate_singleton, List.append_nil]⟩
  | cons next more => exact ⟨_, by rw [List.intercalate_cons_cons, List.append_assoc]⟩

end Texts

section Strings

theorem hexDigit_printable : ∀ n < 16, 32 ≤ (hexDigit n).toNat ∧ (hexDigit n).toNat ≤ 126 := by decide

theorem unicodeEscape_printable (n : ℕ) : Printable (unicodeEscape n) := by
  have digit (m : ℕ) := hexDigit_printable (m % 16) (Nat.mod_lt _ (by omega))
  exact printable_cons (by decide) (printable_cons (by decide) (printable_cons (digit _)
    (printable_cons (digit _) (printable_cons (digit _) (printable_cons (digit _) printable_nil)))))

theorem escapeChar_printable (c : Char) : Printable (escapeChar c) := by
  refine Json.escapeChar_cases c ?_ ?_ (fun _ => unicodeEscape_printable _) fun _ => ?_
  · intro letter mem
    simp only [Json.shortEscapes, List.mem_cons, Prod.mk.injEq, List.not_mem_nil, or_false] at mem
    rcases mem with ⟨rfl, _⟩ | ⟨rfl, _⟩ | ⟨rfl, _⟩ | ⟨rfl, _⟩ | ⟨rfl, _⟩ | ⟨rfl, _⟩ | ⟨rfl, _⟩ <;>
      exact printable_cons (by decide) (printable_cons (by decide) printable_nil)
  · exact fun _ _ printable => printable_cons printable printable_nil
  · exact printable_append (unicodeEscape_printable _) (unicodeEscape_printable _)

theorem quoted_printable (s : String) : Printable (quoted s).toList := by
  have inside : Printable (s.toList.flatMap escapeChar) := by
    intro c mem
    obtain ⟨d, _, escaped⟩ := List.mem_flatMap.mp mem
    exact escapeChar_printable d c escaped
  rw [quoted, String.toList_ofList]
  exact printable_cons (by decide) (printable_append inside (printable_cons (by decide) printable_nil))

variable {surrogate : ℕ → Char}

/-- The decoder takes what `escapeChar` made of a character as that character. -/
theorem takes_char (c : Char) {used chars : List Char} (tail : Takes (scanString surrogate) Anything used chars) :
    Takes (scanString surrogate) Anything (escapeChar c ++ used) (c :: chars) := by
  refine Json.escapeChar_cases
    (P := fun text => Takes (scanString surrogate) Anything (text ++ used) (c :: chars)) c ?_ ?_ ?_ ?_
  · intro letter mem
    exact @takes_escape _ c [letter] _ _ (fun _ => scanEscape_short mem _) tail
  · intro quote backslash printable
    exact takes_plain quote backslash (by omega) tail
  · exact fun small => takes_escape (fun _ => scanEscape_small small _) tail
  · intro large
    have pair : ∀ rest, scanEscape surrogate ((unicodeEscape (55296 + (c.toNat - 65536) / 1024)).tail ++
        unicodeEscape (56320 + (c.toNat - 65536) % 1024) ++ rest) = some (c, rest) := by
      intro rest
      rw [List.append_assoc]
      exact scanEscape_large large rest
    exact takes_escape (fun _ => pair _) tail

theorem takes_chars (chars : List Char) :
    Takes (scanString surrogate) Anything (chars.flatMap escapeChar ++ ['"']) chars := by
  induction chars with
  | nil => exact takes_close
  | cons c rest ih =>
    rw [List.flatMap_cons, List.append_assoc]
    exact takes_char c ih

theorem takes_quoted (py : PyTexts) (s : String) :
    Takes (scanOnce py) Anything (quoted s).toList (.str s) := by
  have inside := @takes_str py _ _ (takes_chars s.toList)
  rw [String.ofList_toList] at inside
  rw [quoted, String.toList_ofList]
  exact inside

end Strings

section Numbers
variable (py : PyTexts)

theorem toDigits_head {n : ℕ} (pos : 0 < n) :
    ∃ c tail, Nat.toDigits 10 n = c :: tail ∧ c ≠ '0' := by
  induction n using Nat.strong_induction_on with
  | h n ih =>
    by_cases small : n < 10
    · have letter : ∀ m < 10, 0 < m → m.digitChar ≠ '0' := by decide
      exact ⟨_, [], Nat.toDigits_of_lt_base small, letter n small pos⟩
    · obtain ⟨c, tail, digits, notZero⟩ := ih (n / 10) (by omega) (by omega)
      refine ⟨c, tail ++ [(n % 10).digitChar], ?_, notZero⟩
      rw [Nat.toDigits_of_base_le (by decide) (by omega), digits, List.cons_append]

theorem toDigits_int (n : ℕ) : IntText (Nat.toDigits 10 n) := by
  by_cases zero : n = 0
  · left
    rw [zero, Nat.toDigits_zero]
  · obtain ⟨c, tail, digits, notZero⟩ := toDigits_head (Nat.pos_of_ne_zero zero)
    right
    refine ⟨c, tail, digits, notZero, fun d mem => ?_⟩
    exact Nat.isDigit_of_mem_toDigits (by omega) le_rfl mem

theorem digitsValue_toDigits (n : ℕ) : digitsValue (Nat.toDigits 10 n) = n :=
  Nat.ofDigitChars_ten_toDigits

theorem takes_int (n : ℤ) : Takes (scanOnce py) NumberEnd (Json.text (.int n)) (.int n) := by
  have whole {minus : List Char} (isMinus : MinusText minus) (m : ℕ) :=
    @takes_number py minus _ [] [] isMinus (toDigits_int m) (.inl rfl) (.inl rfl)
  rw [Json.int_text]
  split
  · have taken := whole (.inl rfl) n.toNat
    rw [numberValue, if_pos ⟨rfl, rfl⟩, if_pos rfl, digitsValue_toDigits] at taken
    rwa [List.append_nil, List.append_nil, List.nil_append, Int.toNat_of_nonneg ‹_›] at taken
  · have taken := whole (.inr rfl) (-n).toNat
    rw [numberValue, if_pos ⟨rfl, rfl⟩, if_neg (by simp), digitsValue_toDigits] at taken
    rwa [List.append_nil, List.append_nil, Int.toNat_of_nonneg (by omega), Int.neg_neg] at taken

def unfinite : List String := ["NaN", "Infinity", "-Infinity"]

/-- A text that `json.dumps` gives a float, and `float` reads back as the same number. -/
def FloatText (text : String) : Prop :=
  text ∈ unfinite ∨ ∃ minus digits fraction exponent, MinusText minus ∧ IntText digits ∧
    FractionText fraction ∧ ExponentText exponent ∧ ¬ (fraction = [] ∧ exponent = []) ∧
    text.toList = minus ++ (digits ++ (fraction ++ exponent)) ∧ py.floatRepr text = text

variable {py}

theorem takes_float {text : String} (h : FloatText py text) :
    Takes (scanOnce py) NumberEnd text.toList (.float text) := by
  rcases h with literal | ⟨minus, digits, fraction, exponent, isMinus, isInt, isFraction, isExponent,
    inexact, parts, same⟩
  · have word : (text.toList, .float text) ∈ literals := by
      simp only [unfinite, List.mem_cons, List.not_mem_nil, or_false] at literal
      rcases literal with rfl | rfl | rfl <;> simp [literals]
    exact (takes_literal word).mono _
  · have taken := @takes_number py _ _ _ _ isMinus isInt isFraction isExponent
    rw [numberValue, if_neg inexact, ← parts, String.ofList_toList, same] at taken
    exact taken

theorem digit_printable {c : Char} (h : c.isDigit = true) : 32 ≤ c.toNat ∧ c.toNat ≤ 126 := by
  simp only [Char.isDigit, Bool.and_eq_true, decide_eq_true_eq, UInt32.le_iff_toNat_le] at h
  change 48 ≤ c.toNat ∧ c.toNat ≤ 57 at h
  omega

theorem digits_printable {digits : List Char} (h : Digits digits) : Printable digits :=
  fun c mem => digit_printable (h c mem)

theorem minus_printable {minus : List Char} (h : MinusText minus) : Printable minus := by
  rcases h with rfl | rfl <;> simp [Printable]

theorem int_printable {digits : List Char} (h : IntText digits) : Printable digits := by
  rcases h with rfl | ⟨c, tail, rfl, _, all⟩
  · simp [Printable]
  · exact digits_printable all

theorem fraction_printable {fraction : List Char} (h : FractionText fraction) : Printable fraction := by
  rcases h with rfl | ⟨digits, rfl, _, all⟩
  · exact printable_nil
  · exact printable_cons (by decide) (digits_printable all)

theorem exponent_printable {exponent : List Char} (h : ExponentText exponent) : Printable exponent := by
  rcases h with rfl | ⟨e, sign, digits, rfl, letter, signs, _, all⟩
  · exact printable_nil
  · have first : 32 ≤ e.toNat ∧ e.toNat ≤ 126 := by
      rcases letter with rfl | rfl <;> decide
    have second : Printable sign := by
      rcases signs with rfl | rfl | rfl <;> simp [Printable]
    exact printable_cons first (printable_append second (digits_printable all))

theorem float_printable {text : String} (h : FloatText py text) : Printable text.toList := by
  rcases h with literal | ⟨minus, digits, fraction, exponent, isMinus, isInt, isFraction, isExponent,
    _, parts, _⟩
  · simp only [unfinite, List.mem_cons, List.not_mem_nil, or_false] at literal
    rcases literal with rfl | rfl | rfl <;> simp [Printable]
  · rw [parts]
    exact printable_append (minus_printable isMinus) (printable_append (int_printable isInt)
      (printable_append (fraction_printable isFraction) (exponent_printable isExponent)))

end Numbers

section Values
variable (py : PyTexts)

/-- A value as the decoder gives it: the keys of a `dict` are distinct, and floats read back. -/
inductive Decoded : Json → Prop where
  | null : Decoded .null
  | bool (b : Bool) : Decoded (.bool b)
  | int (n : ℤ) : Decoded (.int n)
  | float {text : String} (reads : FloatText py text) : Decoded (.float text)
  | str (s : String) : Decoded (.str s)
  | arr {items : List Json} (each : ∀ x ∈ items, Decoded x) : Decoded (.arr items)
  | obj {members : JsonObject} (distinct : (members.map Prod.fst).Nodup)
      (each : ∀ m ∈ members, Decoded m.2) : Decoded (.obj members)

def dumpText (v : Json) : List Char := (dumps plainDump v).toList

theorem dumpText_arr (items : List Json) :
    dumpText (.arr items) = '[' :: ([',', ' '].intercalate (items.map dumpText) ++ [']']) := by
  rw [dumpText, dumps, Json.dumpsItems_eq, String.toList_append, String.toList_append,
    String.toList_intercalate, List.map_map]
  rfl

theorem dumpText_obj (members : JsonObject) :
    dumpText (.obj members) =
      '\x7b' :: ([',', ' '].intercalate (members.map (memberText plainDump)) ++ ['\x7d']) :=
  Json.dumps_obj rfl members

theorem memberText_plain (m : String × Json) :
    memberText plainDump m = (quoted m.1).toList ++ ':' :: ' ' :: dumpText m.2 := rfl

variable {py}

theorem memberText_printable {m : String × Json} (h : Printable (dumpText m.2)) :
    Printable (memberText plainDump m) :=
  printable_append (quoted_printable m.1) (printable_cons (by decide) (printable_cons (by decide) h))

theorem dumps_printable {v : Json} (h : Decoded py v) : Printable (dumpText v) := by
  have between : Printable [',', ' '] := by simp [Printable]
  induction h with
  | null => simp [Printable, dumpText, dumps]
  | bool b => cases b <;> simp [Printable, dumpText, dumps]
  | int n =>
    intro c mem
    rcases Json.int_chars n c mem with digit | rfl
    · exact digit_printable digit
    · decide
  | float reads => exact float_printable reads
  | str s => exact quoted_printable s
  | arr each ih =>
    rw [dumpText_arr]
    refine printable_cons (by decide) (printable_append ?_ (printable_cons (by decide) printable_nil))
    exact printable_intercalate between (List.forall_mem_map.mpr ih)
  | obj distinct each ih =>
    rw [dumpText_obj]
    refine printable_cons (by decide) (printable_append ?_ (printable_cons (by decide) printable_nil))
    exact printable_intercalate between
      (List.forall_mem_map.mpr fun m mem => memberText_printable (ih m mem))

theorem no_spaces : Spaces [] := by simp [Spaces]

theorem one_space : Spaces [' '] := by simp [Spaces, isJsonSpace]

theorem takes_items {items : List Json} (some : items ≠ [])
    (each : ∀ x ∈ items, Takes (scanOnce py) (Ends x) (dumpText x) x) :
    Takes (scanItems py) Anything ([',', ' '].intercalate (items.map dumpText) ++ [']']) items := by
  induction items with
  | nil => exact absurd rfl some
  | cons item rest ih =>
    obtain ⟨first, others⟩ := List.forall_mem_cons.mp each
    cases rest with
    | nil =>
      have last := takes_last_item first no_spaces
      simpa using last
    | cons next more =>
      have later := ih (List.cons_ne_nil _ _) others
      obtain ⟨behind, begins⟩ := intercalate_begins [',', ' '] (dumpText next) (more.map dumpText)
      have trimmed (far : List Char) :
          Trimmed ([',', ' '].intercalate ((next :: more).map dumpText) ++ [']'] ++ far) := by
        rw [List.map_cons, begins, List.append_assoc, List.append_assoc]
        exact trimmed_value (others next (.head _)) _
      have both := takes_more_items first no_spaces one_space trimmed later
      rw [List.map_cons, List.map_cons, List.intercalate_cons_cons, ← List.map_cons]
      simpa using both

theorem set_fresh {key : String} {value : Json} {members : JsonObject}
    (fresh : key ∉ members.map Prod.fst) : Json.set key value members = members ++ [(key, value)] := by
  induction members with
  | nil => rfl
  | cons m rest ih =>
    obtain ⟨k, v⟩ := m
    rw [List.map_cons, List.mem_cons, not_or] at fresh
    rw [Json.set, if_neg (Ne.symm fresh.1), ih fresh.2, List.cons_append]

theorem takes_quoted_key (key : String) :
    Takes (scanKey py) Trimmed ((quoted key).toList ++ [':', ' ']) key := by
  have inside := @takes_key py _ _ _ _ (takes_chars key.toList) no_spaces one_space
  rw [String.ofList_toList] at inside
  rw [quoted, String.toList_ofList]
  simpa using inside

theorem members_begin (m : String × Json) (rest : JsonObject) :
    ∃ tail, [',', ' '].intercalate ((m :: rest).map (memberText plainDump)) = '"' :: tail := by
  obtain ⟨behind, begins⟩ := intercalate_begins [',', ' '] (memberText plainDump m) (rest.map (memberText plainDump))
  rw [List.map_cons, begins, memberText_plain, quoted, String.toList_ofList]
  exact ⟨_, rfl⟩

theorem takes_members {members : JsonObject} (some : members ≠ [])
    (each : ∀ m ∈ members, Takes (scanOnce py) (Ends m.2) (dumpText m.2) m.2)
    (before : JsonObject) (distinct : ((before ++ members).map Prod.fst).Nodup) :
    Takes (fun fuel => scanMembers py fuel before) Anything
      ([',', ' '].intercalate (members.map (memberText plainDump)) ++ ['\x7d']) (before ++ members) := by
  induction members generalizing before with
  | nil => exact absurd rfl some
  | cons m rest ih =>
    obtain ⟨first, others⟩ := List.forall_mem_cons.mp each
    have fresh : m.1 ∉ before.map Prod.fst := by
      rw [List.map_append, List.nodup_append] at distinct
      exact fun mem => distinct.2.2 _ mem _ (.head _) rfl
    cases rest with
    | nil =>
      have last := @takes_last_member py _ _ _ _ _ before (takes_quoted_key m.1) first no_spaces
      rw [set_fresh fresh] at last
      simpa [memberText_plain] using last
    | cons next more =>
      have same : before ++ m :: next :: more = (before ++ [m]) ++ next :: more := by simp
      rw [same] at distinct
      have later := ih (List.cons_ne_nil _ _) others (before ++ [m]) distinct
      obtain ⟨tail, begins⟩ := members_begin next more
      rw [begins, List.cons_append, ← set_fresh fresh] at later
      have both := takes_more_members (takes_quoted_key m.1) first no_spaces one_space later
      rw [same, ← set_fresh fresh, List.map_cons, List.map_cons, List.intercalate_cons_cons,
        ← List.map_cons, begins]
      simpa [memberText_plain] using both

theorem dumps_takes {v : Json} (h : Decoded py v) :
    Takes (scanOnce py) (Ends v) (dumpText v) v := by
  induction h with
  | null => exact takes_literal (.head _)
  | bool b =>
    cases b with
    | false => exact takes_literal (by simp [dumpText, dumps, literals])
    | true => exact takes_literal (by simp [dumpText, dumps, literals])
  | int n => exact takes_int py n
  | float reads => exact takes_float reads
  | str s => exact takes_quoted py s
  | @arr items each ih =>
    rw [dumpText_arr]
    cases items with
    | nil => exact takes_empty_arr no_spaces
    | cons item rest =>
      have inside := takes_items (List.cons_ne_nil item rest) ih
      obtain ⟨c, tail, text, open_, solid⟩ := takes_value_head (ih item (.head _))
      obtain ⟨behind, begins⟩ := intercalate_begins [',', ' '] (dumpText item) (rest.map dumpText)
      rw [List.map_cons, begins, text, List.cons_append, List.cons_append] at inside ⊢
      exact takes_arr no_spaces open_ solid inside
  | @obj members distinct each ih =>
    rw [dumpText_obj]
    cases members with
    | nil => exact takes_empty_obj no_spaces
    | cons m rest =>
      have inside := takes_members (List.cons_ne_nil m rest) ih [] distinct
      obtain ⟨tail, begins⟩ := members_begin m rest
      rw [begins, List.cons_append] at inside ⊢
      exact takes_obj no_spaces inside

theorem loads_dumps {v : Json} (h : Decoded py v) : loads py (dumps plainDump v) = some v := by
  have read := loads_value no_spaces (dumps_takes h) no_spaces
  rwa [List.nil_append, List.append_nil, dumpText, String.ofList_toList] at read

end Values

section Loaded
variable {py : PyTexts}

theorem set_keys (key : String) (value : Json) (members : JsonObject) :
    (Json.set key value members).map Prod.fst =
      if key ∈ members.map Prod.fst then members.map Prod.fst else members.map Prod.fst ++ [key] := by
  induction members with
  | nil => rfl
  | cons m rest ih =>
    obtain ⟨k, v⟩ := m
    rw [Json.set, List.map_cons]
    by_cases same : k = key
    · rw [if_pos same, same, List.map_cons, if_pos (.head _)]
    · rw [if_neg same, List.map_cons, ih]
      simp only [List.mem_cons, Ne.symm same, false_or]
      split <;> rfl

theorem mem_set {key : String} {value : Json} {members : JsonObject} {m : String × Json}
    (h : m ∈ Json.set key value members) : m = (key, value) ∨ m ∈ members := by
  induction members with
  | nil => exact .inl (List.mem_singleton.mp h)
  | cons n rest ih =>
    obtain ⟨k, v⟩ := n
    rw [Json.set] at h
    split at h
    · exact (List.mem_cons.mp h).imp_right (.tail _)
    · rcases List.mem_cons.mp h with first | later
      · exact .inr (first ▸ .head _)
      · exact (ih later).imp_right (.tail _)

theorem decoded_set {key : String} {value : Json} {members : JsonObject}
    (h : Decoded py (.obj members)) (new : Decoded py value) :
    Decoded py (.obj (Json.set key value members)) := by
  cases h with
  | obj distinct each =>
    constructor
    · rw [set_keys]
      split
      · exact distinct
      · rename_i fresh
        exact distinct.append (List.nodup_singleton _) (by simpa using fresh)
    · intro m mem
      rcases mem_set mem with rfl | old
      · exact new
      · exact each m old

variable (py) in
structure ScansDecoded (fuel : ℕ) : Prop where
  once : ∀ cs v rest, scanOnce py fuel cs = some (v, rest) → Decoded py v
  members : ∀ members cs members' rest, Decoded py (.obj members) →
    scanMembers py fuel members cs = some (members', rest) → Decoded py (.obj members')
  items : ∀ cs items rest, scanItems py fuel cs = some (items, rest) →
    ∀ x ∈ items, Decoded py x

theorem literal_decoded {cs rest : List Char} {v : Json} (h : scanLiteral cs = some (v, rest)) :
    Decoded py v := by
  obtain ⟨word, mem, _⟩ := scanLiteral_split h
  simp only [literals, List.mem_cons, Prod.mk.injEq, List.not_mem_nil, or_false] at mem
  rcases mem with ⟨_, rfl⟩ | ⟨_, rfl⟩ | ⟨_, rfl⟩ | ⟨_, rfl⟩ | ⟨_, rfl⟩ | ⟨_, rfl⟩
  · exact .null
  · exact .bool true
  · exact .bool false
  · exact .float (.inl (by decide))
  · exact .float (.inl (by decide))
  · exact .float (.inl (by decide))

variable (real : ∀ text, FloatText py (py.floatRepr text))
include real

theorem number_decoded {cs rest : List Char} {v : Json} (h : scanNumber py.floatRepr cs = some (v, rest)) :
    Decoded py v := by
  obtain ⟨minus, digits, fraction, exponent, _, _, _, _, _, rfl⟩ := scanNumber_split h
  rw [numberValue]
  split
  · exact .int _
  · exact .float (real _)

theorem once_decoded {fuel : ℕ} (ih : ScansDecoded py fuel) {cs rest : List Char} {v : Json}
    (h : scanOnce py (fuel + 1) cs = some (v, rest)) : Decoded py v := by
  have empty : Decoded py (.obj []) := .obj (by simp) (by simp)
  cases scanOnce_scanned h with
  | string => exact .str _
  | emptyObject => exact empty
  | object _ scanned => exact ih.members _ _ _ _ empty scanned
  | emptyArray => exact .arr (by simp)
  | array _ scanned => exact .arr (ih.items _ _ _ scanned)
  | literal read => exact literal_decoded read
  | number read => exact number_decoded real read

theorem scansDecoded (fuel : ℕ) : ScansDecoded py fuel := by
  induction fuel with
  | zero =>
    exact {
      once := fun cs v rest h => by simp [scanOnce] at h
      members := fun members cs members' rest _ h => by simp [scanMembers] at h
      items := fun cs items rest h => by simp [scanItems] at h }
  | succ fuel ih =>
    refine { once := fun cs v rest h => once_decoded real ih h, members := ?_, items := ?_ }
    · intro members cs members' rest decoded h
      rw [scanMembers] at h
      simp only [Option.bind_eq_bind, Option.bind_eq_some_iff, Prod.exists] at h
      obtain ⟨key, atValue, _, v, afterValue, scanned, closed, rest', _, ended⟩ := h
      have set := @decoded_set py key v members decoded (ih.once _ _ _ scanned)
      split at ended
      · cases ended
        exact set
      · exact ih.members _ _ _ _ set ended
    · intro cs items rest h
      rw [scanItems] at h
      simp only [Option.bind_eq_bind, Option.bind_eq_some_iff, Prod.exists] at h
      obtain ⟨v, afterItem, scanned, closed, rest', _, ended⟩ := h
      have first := ih.once _ _ _ scanned
      split at ended
      · cases ended
        simpa using first
      · simp only [Option.bind_eq_some_iff, Prod.exists, Option.pure_def, Option.some.injEq,
          Prod.mk.injEq] at ended
        obtain ⟨items', rest'', scanned', rfl, rfl⟩ := ended
        exact List.forall_mem_cons.mpr ⟨first, ih.items _ _ _ scanned'⟩

theorem loads_decoded {s : String} {v : Json} (h : loads py s = some v) : Decoded py v := by
  rw [loads] at h
  simp only [Option.bind_eq_bind, Option.bind_eq_some_iff, Prod.exists] at h
  obtain ⟨v', rest, scanned, ended⟩ := h
  split at ended
  · cases ended
    exact (scansDecoded real _).once _ _ _ scanned
  · cases ended

theorem loads_dumps_loads {s : String} {v : Json} (h : loads py s = some v) :
    loads py (dumps plainDump v) = some v := loads_dumps (loads_decoded real h)

end Loaded

end AegisGateway.JsonRoundTrip
