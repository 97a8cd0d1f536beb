import AegisGateway.JsonDecoder
import AegisGateway.Schemas

set_option autoImplicit false

/-!
# `json.loads`

The decoder under the interpreter's limits: `int` refuses more digits than it is set to, and
every array and object takes a level of recursion. It goes through the text once and raises
at the first thing that it cannot take. What it returns is the value of the text.
-/
namespace AegisGateway.JsonLimits
open JsonTokens JsonDecoder

/-- What is left of the interpreter's limits where the text is loaded. -/
structure Limits where
  /-- `sys.get_int_max_str_digits()`. -/
  intDigits : ℕ
  levels : ℕ

section Loading
variable {α : Type}

def decoded : Option α → Except LoadError α
  | some a => .ok a
  | none => .error .jsonDecodeError

/-- `int` of a number's text. The text of an integer has no leading zeros. -/
def withinDigits (limits : Limits) (read : Json × List Char) : Except LoadError (Json × List Char) :=
  match read.1 with
  | .int n => if n.natAbs < 10 ^ limits.intDigits then .ok read else .error .valueError
  | _ => .ok read

/-- A value inside another takes a level. -/
def enter : ℕ → Except LoadError ℕ
  | 0 => .error .recursionError
  | levels + 1 => .ok levels

variable (limits : Limits) (py : PyTexts)

mutual

/-- `scan_once`, with so many levels left. -/
def loadOnce : ℕ → ℕ → List Char → Except LoadError (Json × List Char)
  | 0, _, _ => .error .jsonDecodeError
  | _, _, [] => .error .jsonDecodeError
  | fuel + 1, levels, c :: rest =>
    if c = '"' then
      decoded ((scanString py.surrogate fuel rest).map fun (chars, rest') =>
        (.str (String.ofList chars), rest'))
    else if c = '\x7b' then
      (enter levels).bind fun levels =>
        if (skipSpaces rest).head? = some '\x7d' then .ok (.obj [], (skipSpaces rest).tail)
        else (loadMembers fuel levels [] (skipSpaces rest)).map fun (members, rest') =>
          (.obj members, rest')
    else if c = '[' then
      (enter levels).bind fun levels =>
        if (skipSpaces rest).head? = some ']' then .ok (.arr [], (skipSpaces rest).tail)
        else (loadItems fuel levels (skipSpaces rest)).map fun (items, rest') => (.arr items, rest')
    else
      match scanLiteral (c :: rest) with
      | some read => .ok read
      | none => (decoded (scanNumber py.floatRepr (c :: rest))).bind (withinDigits limits)

def loadMembers : ℕ → ℕ → JsonObject → List Char → Except LoadError (JsonObject × List Char)
  | 0, _, _, _ => .error .jsonDecodeError
  | fuel + 1, levels, members, cs => do
    let (key, atValue) ← decoded (scanKey py fuel cs)
    let (value, afterValue) ← loadOnce fuel levels atValue
    let (closed, rest) ← decoded (scanClosing '\x7d' afterValue)
    if closed then .ok (Json.set key value members, rest)
    else loadMembers fuel levels (Json.set key value members) rest

def loadItems : ℕ → ℕ → List Char → Except LoadError (List Json × List Char)
  | 0, _, _ => .error .jsonDecodeError
  | fuel + 1, levels, cs => do
    let (item, afterItem) ← loadOnce fuel levels cs
    let (closed, rest) ← decoded (scanClosing ']' afterItem)
    if closed then .ok ([item], rest)
    else do
      let (items, rest') ← loadItems fuel levels rest
      return (item :: items, rest')

end

/-- `json.loads` of a `str`. -/
def jsonLoads (s : String) : Except LoadError Json := do
  let (value, rest) ← loadOnce limits py s.toList.length limits.levels (skipSpaces s.toList)
  if skipSpaces rest = [] then .ok value else .error .jsonDecodeError

end Loading

section Agreement
variable {α β : Type}

/-- What was loaded is what is read without limits, and what does not decode is not read. -/
structure LoadsAs (loaded : Except LoadError α) (read : Option α) : Prop where
  ok : ∀ a, loaded = .ok a → read = some a
  malformed : loaded = .error .jsonDecodeError → read = none

theorem agrees_decoded (read : Option α) : LoadsAs (decoded read) read := by
  cases read with
  | none => exact ⟨by simp [decoded], fun _ => rfl⟩
  | some a => exact ⟨by simp [decoded], by simp [decoded]⟩

theorem agrees_ok (a : α) : LoadsAs (.ok a) (some a) := agrees_decoded (some a)

theorem agrees_malformed : LoadsAs (.error .jsonDecodeError : Except LoadError α) none :=
  agrees_decoded none

theorem agrees_refused {loaded : Except LoadError α} {e : LoadError} (refused : loaded = .error e)
    (limit : e ≠ .jsonDecodeError) (read : Option α) : LoadsAs loaded read := by
  subst refused
  exact ⟨by simp, fun same => absurd (Except.error.inj same) limit⟩

theorem LoadsAs.bind {loaded : Except LoadError α} {read : Option α} {f : α → Except LoadError β}
    {g : α → Option β} (h : LoadsAs loaded read) (next : ∀ a, LoadsAs (f a) (g a)) :
    LoadsAs (loaded >>= f) (read >>= g) := by
  cases loaded with
  | ok a =>
    rw [h.ok a rfl]
    exact next a
  | error e =>
    constructor
    · rintro b ⟨⟩
    · rintro ⟨⟩
      rw [h.malformed rfl]
      rfl

theorem LoadsAs.map {loaded : Except LoadError α} {read : Option α} (h : LoadsAs loaded read) (f : α → β) :
    LoadsAs (loaded.map f) (read.map f) := by
  cases loaded with
  | ok a =>
    rw [h.ok a rfl]
    exact agrees_ok (f a)
  | error e =>
    constructor
    · rintro b ⟨⟩
    · rintro ⟨⟩
      rw [h.malformed rfl]
      rfl

variable {limits : Limits} {py : PyTexts}

theorem withinDigits_agrees (read : Json × List Char) : LoadsAs (withinDigits limits read) (some read) := by
  unfold withinDigits
  split
  · split
    · exact agrees_ok read
    · exact agrees_refused rfl (by simp) _
  · exact agrees_ok read

variable (limits py) in
structure LoadsAgree (fuel : ℕ) : Prop where
  once : ∀ levels cs, LoadsAs (loadOnce limits py fuel levels cs) (scanOnce py fuel cs)
  members : ∀ levels members cs,
    LoadsAs (loadMembers limits py fuel levels members cs) (scanMembers py fuel members cs)
  items : ∀ levels cs, LoadsAs (loadItems limits py fuel levels cs) (scanItems py fuel cs)

theorem loadOnce_agrees {fuel : ℕ} (ih : LoadsAgree limits py fuel) (levels : ℕ) (cs : List Char) :
    LoadsAs (loadOnce limits py (fuel + 1) levels cs) (scanOnce py (fuel + 1) cs) := by
  cases cs with
  | nil => exact agrees_malformed
  | cons c rest =>
    rw [loadOnce, scanOnce]
    by_cases quote : c = '"'
    · rw [if_pos quote, if_pos quote]
      exact agrees_decoded _
    rw [if_neg quote, if_neg quote]
    by_cases brace : c = '\x7b'
    · rw [if_pos brace, if_pos brace]
      cases levels with
      | zero => exact agrees_refused rfl (by simp) _
      | succ levels =>
        simp only [enter, Except.bind]
        generalize skipSpaces rest = inner
        split
        · rename_i closing
          obtain ⟨rest', rfl⟩ := List.head?_eq_some_iff.mp closing
          exact agrees_ok _
        · rename_i goesOn
          split
          · exact absurd rfl goesOn
          · exact (ih.members _ _ _).map _
    rw [if_neg brace, if_neg brace]
    by_cases bracket : c = '['
    · rw [if_pos bracket, if_pos bracket]
      cases levels with
      | zero => exact agrees_refused rfl (by simp) _
      | succ levels =>
        simp only [enter, Except.bind]
        generalize skipSpaces rest = inner
        split
        · rename_i closing
          obtain ⟨rest', rfl⟩ := List.head?_eq_some_iff.mp closing
          exact agrees_ok _
        · rename_i goesOn
          split
          · exact absurd rfl goesOn
          · exact (ih.items _ _).map _
    rw [if_neg bracket, if_neg bracket]
    cases literal : scanLiteral (c :: rest) with
    | some read => exact agrees_ok read
    | none =>
      have number : LoadsAs ((decoded (scanNumber py.floatRepr (c :: rest))).bind (withinDigits limits))
          ((scanNumber py.floatRepr (c :: rest)).bind some) :=
        (agrees_decoded _).bind withinDigits_agrees
      rw [Option.none_or]
      simpa using number

theorem loadMembers_agrees {fuel : ℕ} (ih : LoadsAgree limits py fuel) (levels : ℕ)
    (members : JsonObject) (cs : List Char) :
    LoadsAs (loadMembers limits py (fuel + 1) levels members cs) (scanMembers py (fuel + 1) members cs) := by
  rw [loadMembers, scanMembers]
  refine (agrees_decoded _).bind ?_
  rintro ⟨key, atValue⟩
  refine (ih.once levels atValue).bind ?_
  rintro ⟨value, afterValue⟩
  refine (agrees_decoded _).bind ?_
  rintro ⟨closed, rest⟩
  cases closed with
  | true => exact agrees_ok _
  | false => exact ih.members _ _ _

theorem loadItems_agrees {fuel : ℕ} (ih : LoadsAgree limits py fuel) (levels : ℕ) (cs : List Char) :
    LoadsAs (loadItems limits py (fuel + 1) levels cs) (scanItems py (fuel + 1) cs) := by
  rw [loadItems, scanItems]
  refine (ih.once levels cs).bind ?_
  rintro ⟨item, afterItem⟩
  refine (agrees_decoded _).bind ?_
  rintro ⟨closed, rest⟩
  cases closed with
  | true => exact agrees_ok _
  | false => exact (ih.items levels rest).bind fun _ => agrees_ok _

theorem loadsAgree (fuel : ℕ) : LoadsAgree limits py fuel := by
  induction fuel with
  | zero =>
    exact {
      once := fun levels cs => by
        rw [loadOnce, scanOnce]
        exact agrees_malformed
      members := fun levels members cs => agrees_malformed
      items := fun levels cs => agrees_malformed }
  | succ fuel ih =>
    exact {
      once := loadOnce_agrees ih
      members := loadMembers_agrees ih
      items := loadItems_agrees ih }

/-- Without a limit in its way, `json.loads` gives the value of the text. -/
theorem jsonLoads_agrees (s : String) : LoadsAs (jsonLoads limits py s) (loads py s) := by
  refine ((loadsAgree _).once _ _).bind ?_
  rintro ⟨value, rest⟩
  simp only
  split
  · exact agrees_ok value
  · exact agrees_malformed

end Agreement
end AegisGateway.JsonLimits
