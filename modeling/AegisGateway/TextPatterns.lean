import Mathlib.Data.List.Basic

set_option autoImplicit false

/-!
# Searching a text for a pattern

Patterns over an arbitrary alphabet: literals up to an equivalence of characters,
runs of characters other than a line break, word boundaries, and their sequences,
alternatives and options. A position of a text is the rest of it, together with
whether a word character stands before it. `ends` lists the positions at which a
match can end, so that a search asks whether some position has any.
-/
namespace AegisGateway.TextPatterns

structure Alphabet (χ : Type) where
  /-- The character of the pattern matches the character of the text. -/
  same : χ → χ → Bool
  isWord : χ → Bool
  isBreak : χ → Bool

inductive Pattern (χ : Type) where
  | literal (text : List χ)
  | anyRun
  | boundary
  | seq (p q : Pattern χ)
  | alt (p q : Pattern χ)
  | opt (p : Pattern χ)

structure Position (χ : Type) where
  afterWord : Bool
  rest : List χ

section Matching
variable {χ : Type} (A : Alphabet χ)

def literalEnds : List χ → Position χ → List (Position χ)
  | [], at' => [at']
  | _ :: _, ⟨_, []⟩ => []
  | c :: text, ⟨_, d :: rest⟩ => if A.same c d then literalEnds text ⟨A.isWord d, rest⟩ else []

/-- The positions from here on that no line break separates from this one. -/
def anyRunEnds : Bool → List χ → List (Position χ)
  | afterWord, [] => [⟨afterWord, []⟩]
  | afterWord, d :: rest =>
    ⟨afterWord, d :: rest⟩ :: if A.isBreak d then [] else anyRunEnds (A.isWord d) rest

def startsWord : List χ → Bool
  | [] => false
  | d :: _ => A.isWord d

def ends : Pattern χ → Position χ → List (Position χ)
  | .literal text, at' => literalEnds A text at'
  | .anyRun, at' => anyRunEnds A at'.afterWord at'.rest
  | .boundary, at' => if at'.afterWord = startsWord A at'.rest then [] else [at']
  | .seq p q, at' => (ends p at').flatMap (ends q)
  | .alt p q, at' => ends p at' ++ ends q at'
  | .opt p, at' => ends p at' ++ [at']

/-- Some match begins at this position or later. -/
def searchFrom (p : Pattern χ) : Bool → List χ → Bool
  | afterWord, [] => !(ends A p ⟨afterWord, []⟩).isEmpty
  | afterWord, d :: rest =>
    !(ends A p ⟨afterWord, d :: rest⟩).isEmpty || searchFrom p (A.isWord d) rest

def search (p : Pattern χ) (text : List χ) : Bool := searchFrom A p false text

end Matching

section Extension
variable {χ : Type} {A : Alphabet χ}

/-- The same position in a text that goes on. -/
def Position.followedBy (at' : Position χ) (more : List χ) : Position χ :=
  ⟨at'.afterWord, at'.rest ++ more⟩

theorem literalEnds_extend (more : List χ) {text : List χ} {at' stop : Position χ}
    (h : stop ∈ literalEnds A text at') :
    stop.followedBy more ∈ literalEnds A text (at'.followedBy more) := by
  induction text generalizing at' with
  | nil =>
    rw [List.mem_singleton.mp h]
    exact .head _
  | cons c text ih =>
    obtain ⟨afterWord, rest⟩ := at'
    cases rest with
    | nil => cases h
    | cons d rest =>
      by_cases hit : A.same c d = true
      · simp only [literalEnds, if_pos hit, Position.followedBy, List.cons_append] at h ⊢
        exact ih h
      · simp only [literalEnds, if_neg hit] at h
        cases h

theorem anyRunEnds_extend (more : List χ) {afterWord : Bool} {rest : List χ} {stop : Position χ}
    (h : stop ∈ anyRunEnds A afterWord rest) :
    stop.followedBy more ∈ anyRunEnds A afterWord (rest ++ more) := by
  induction rest generalizing afterWord with
  | nil =>
    rw [List.mem_singleton.mp h]
    cases more with
    | nil => exact .head _
    | cons d more => exact .head _
  | cons d rest ih =>
    rw [List.cons_append, anyRunEnds]
    rcases List.mem_cons.mp h with rfl | later
    · exact .head _
    · by_cases line : A.isBreak d = true
      · rw [if_pos line] at later
        cases later
      · rw [if_neg line] at later ⊢
        exact .tail _ (ih later)

theorem startsWord_append {more : List χ} (outside : startsWord A more = false) (rest : List χ) :
    startsWord A (rest ++ more) = startsWord A rest := by
  cases rest with
  | nil => exact outside
  | cons d rest => rfl

theorem ends_extend {more : List χ} (outside : startsWord A more = false) {p : Pattern χ}
    {at' stop : Position χ} (h : stop ∈ ends A p at') :
    stop.followedBy more ∈ ends A p (at'.followedBy more) := by
  induction p generalizing at' stop with
  | literal text => exact literalEnds_extend more h
  | anyRun => exact anyRunEnds_extend more h
  | boundary =>
    by_cases flat : at'.afterWord = startsWord A at'.rest
    · simp only [ends, if_pos flat] at h
      cases h
    · simp only [ends, if_neg flat] at h
      have still : (at'.followedBy more).afterWord ≠ startsWord A (at'.followedBy more).rest := by
        rw [Position.followedBy, startsWord_append outside]
        exact flat
      rw [List.mem_singleton.mp h, ends, if_neg still]
      exact .head _
  | seq p q ihp ihq =>
    obtain ⟨mid, first, second⟩ := List.mem_flatMap.mp h
    exact List.mem_flatMap.mpr ⟨mid.followedBy more, ihp first, ihq second⟩
  | alt p q ihp ihq =>
    rcases List.mem_append.mp h with left | right
    · exact List.mem_append_left _ (ihp left)
    · exact List.mem_append_right _ (ihq right)
  | opt p ih =>
    rcases List.mem_append.mp h with taken | skipped
    · exact List.mem_append_left _ (ih taken)
    · rw [List.mem_singleton.mp skipped]
      exact List.mem_append_right _ (.head _)

theorem ends_nonempty_extend {more : List χ} (outside : startsWord A more = false) {p : Pattern χ}
    {at' : Position χ} (h : (!(ends A p at').isEmpty) = true) :
    (!(ends A p (at'.followedBy more)).isEmpty) = true := by
  rw [Bool.not_eq_true', List.isEmpty_eq_false_iff_exists_mem] at h ⊢
  obtain ⟨stop, mem⟩ := h
  exact ⟨_, ends_extend outside mem⟩

theorem searchFrom_extend {more : List χ} (outside : startsWord A more = false) {p : Pattern χ}
    {afterWord : Bool} {text : List χ} (h : searchFrom A p afterWord text = true) :
    searchFrom A p afterWord (text ++ more) = true := by
  induction text generalizing afterWord with
  | nil =>
    have here := ends_nonempty_extend outside h
    cases more with
    | nil => exact here
    | cons d more =>
      rw [List.nil_append, searchFrom, Bool.or_eq_true]
      exact .inl here
  | cons d text ih =>
    rw [List.cons_append, searchFrom, Bool.or_eq_true]
    rw [searchFrom, Bool.or_eq_true] at h
    exact h.imp (ends_nonempty_extend outside) ih

theorem searchFrom_behind {separator : χ} (outside : A.isWord separator = false) {p : Pattern χ}
    {text : List χ} (h : search A p text = true) (before : List χ) (afterWord : Bool) :
    searchFrom A p afterWord (before ++ separator :: text) = true := by
  induction before generalizing afterWord with
  | nil =>
    rw [List.nil_append, searchFrom, outside, Bool.or_eq_true]
    exact .inr h
  | cons d before ih =>
    rw [List.cons_append, searchFrom, Bool.or_eq_true]
    exact .inr (ih (A.isWord d))

theorem search_intercalate {separator : χ} (outside : A.isWord separator = false) {p : Pattern χ}
    {part : List χ} {parts : List (List χ)} (mem : part ∈ parts) (h : search A p part = true) :
    search A p ([separator].intercalate parts) = true := by
  have apart (later : List χ) : startsWord A (separator :: later) = false := outside
  induction parts with
  | nil => cases mem
  | cons first others ih =>
    cases others with
    | nil =>
      rw [List.mem_singleton.mp mem] at h
      rw [List.intercalate_singleton]
      exact h
    | cons second others =>
      rw [List.intercalate_cons_cons, List.append_assoc, List.singleton_append]
      rcases List.mem_cons.mp mem with rfl | mem
      · exact searchFrom_extend (apart _) h
      · exact searchFrom_behind outside (ih mem) first false

end Extension
end AegisGateway.TextPatterns
