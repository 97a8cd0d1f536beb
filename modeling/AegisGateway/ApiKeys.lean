import AegisGateway.Schemas
import Mathlib.Data.List.Infix
import Mathlib.Tactic.Linarith

set_option autoImplicit false

/-!
# API keys and the header that carries them

`generate_api_key` and `parse_api_key` of `core/security.py`, and how
`get_current_tenant` finds the key in the Authorization header. A full key is a fixed
label, the key id, a dot and the secret; the parser undoes exactly that.
-/
namespace AegisGateway.ApiKeys

section Keys

def apiKeyPrefix : String := "agk_live_"

def fullKey (keyId secretPart : String) : String := apiKeyPrefix ++ keyId ++ "." ++ secretPart

def parseApiKey (key : String) : Option (String × String) :=
  if apiKeyPrefix.toList.isPrefixOf key.toList then
    let remainder := key.toList.drop apiKeyPrefix.toList.length
    let keyId := remainder.takeWhile (· ≠ '.')
    let secretPart := (remainder.dropWhile (· ≠ '.')).drop 1
    if keyId = [] ∨ secretPart = [] then none
    else some (String.ofList keyId, String.ofList secretPart)
  else none

theorem fullKey_toList (keyId secretPart : String) :
    (fullKey keyId secretPart).toList =
      apiKeyPrefix.toList ++ (keyId.toList ++ '.' :: secretPart.toList) := by
  delta fullKey
  simp only [String.toList_append, List.append_assoc]
  rfl

theorem cut_at_dot {keyId s : List Char} (undotted : '.' ∉ keyId) :
    (keyId ++ '.' :: s).takeWhile (· ≠ '.') = keyId ∧
      (keyId ++ '.' :: s).dropWhile (· ≠ '.') = '.' :: s := by
  have all : ∀ c ∈ keyId, decide (c ≠ '.') = true := by
    intro c mem
    simp only [ne_eq, decide_eq_true_eq]
    rintro rfl
    exact undotted mem
  rw [List.takeWhile_append_of_pos all, List.dropWhile_append_of_pos all]
  simp

theorem parse_fullKey {keyId secretPart : String} (named : keyId ≠ "") (undotted : '.' ∉ keyId.toList)
    (secret : secretPart ≠ "") : parseApiKey (fullKey keyId secretPart) = some (keyId, secretPart) := by
  obtain ⟨first, second⟩ := cut_at_dot (s := secretPart.toList) undotted
  have given : ¬ (keyId.toList = [] ∨ secretPart.toList = []) := by
    simp [named, secret]
  have labelled : apiKeyPrefix.toList.isPrefixOf (fullKey keyId secretPart).toList = true := by
    rw [fullKey_toList, List.isPrefixOf_iff_prefix]
    exact List.prefix_append _ _
  rw [parseApiKey, if_pos labelled, fullKey_toList]
  simp only [List.drop_left, first, second, List.drop_one, List.tail_cons, String.ofList_toList]
  rw [if_neg given]

theorem rejoin_at_dot {s : List Char} (h : (s.dropWhile (· ≠ '.')).drop 1 ≠ []) :
    s.takeWhile (· ≠ '.') ++ '.' :: (s.dropWhile (· ≠ '.')).drop 1 = s := by
  induction s with
  | nil => exact absurd rfl h
  | cons c s ih =>
    by_cases dot : c = '.'
    · subst dot
      simp
    · simp only [List.dropWhile_cons, List.takeWhile_cons, dot, ne_eq, not_false_eq_true,
        decide_true, if_true] at h ⊢
      rw [List.cons_append, ih h]

theorem eq_fullKey_of_parse {key keyId secretPart : String}
    (h : parseApiKey key = some (keyId, secretPart)) : key = fullKey keyId secretPart := by
  rw [parseApiKey] at h
  split at h
  case isFalse => cases h
  case isTrue labelled =>
    obtain ⟨remainder, split⟩ := List.isPrefixOf_iff_prefix.mp labelled
    simp only [← split, List.drop_left] at h
    split at h
    · cases h
    · rename_i given
      simp only [Option.some.injEq, Prod.mk.injEq] at h
      obtain ⟨rfl, rfl⟩ := h
      rw [← String.toList_inj, fullKey_toList, String.toList_ofList, String.toList_ofList, ← split,
        rejoin_at_dot (not_or.mp given).2]

end Keys

section Header

/-- A header value, decoded as Latin-1. The server delivers no NUL. -/
structure HeaderValue where
  chars : List Char
  latin1 : ∀ c ∈ chars, 0 < c.toNat ∧ c.toNat < 256

/-- `str.lower` on a Latin-1 character. -/
def lowerChar (c : Char) : Char :=
  if (65 ≤ c.toNat ∧ c.toNat ≤ 90) ∨ (192 ≤ c.toNat ∧ c.toNat ≤ 222 ∧ c.toNat ≠ 215) then
    Char.ofNat (c.toNat + 32)
  else c

def hasBearer (header : List Char) : Bool :=
  "bearer ".toList.isPrefixOf (header.map lowerChar)

/-- `auth_header.split(" ", 1)[1].strip()`. -/
def presentedKey (header : List Char) : String :=
  strip (String.ofList ((header.dropWhile (· ≠ ' ')).drop 1))

theorem toNat_ofNat_latin1 {n : ℕ} (h : n < 256) : (Char.ofNat n).toNat = n := by
  rw [Char.ofNat, dif_pos (Or.inl (by omega))]
  rfl

theorem lowerChar_eq_space {c : Char} (h : lowerChar c = ' ') : c = ' ' := by
  rw [lowerChar] at h
  split at h
  case isFalse => exact h
  case isTrue upper =>
    have code := congrArg Char.toNat h
    rw [toNat_ofNat_latin1 (by omega)] at code
    change c.toNat + 32 = 32 at code
    omega

/-- The header is `bearer ` in any case and a token around which there may be whitespace. -/
def Carries (header : List Char) (token : String) : Prop :=
  ∃ word rest, header = word ++ ' ' :: rest ∧ word.map lowerChar = "bearer".toList ∧
    strip (String.ofList rest) = token

theorem hasBearer_of_carries {header : List Char} {token : String} (h : Carries header token) :
    hasBearer header = true ∧ presentedKey header = token := by
  obtain ⟨word, rest, rfl, lowered, rfl⟩ := h
  have unspaced : ∀ c ∈ word, decide (c ≠ ' ') = true := by
    intro c mem
    simp only [ne_eq, decide_eq_true_eq]
    rintro rfl
    have spaced : lowerChar ' ' ∈ word.map lowerChar := List.mem_map_of_mem mem
    rw [lowered] at spaced
    exact absurd spaced (by decide)
  constructor
  · rw [hasBearer, List.isPrefixOf_iff_prefix, List.map_append, lowered]
    exact ⟨rest.map lowerChar, rfl⟩
  · rw [presentedKey, List.dropWhile_append_of_pos unspaced]
    simp

theorem carries_of_hasBearer {header : List Char} (h : hasBearer header = true) :
    Carries header (presentedKey header) := by
  obtain ⟨rest, split⟩ := List.isPrefixOf_iff_prefix.mp h
  obtain ⟨front, back, rfl, lowered, _⟩ := List.map_eq_append_iff.mp split.symm
  have spelled : front.map lowerChar = "bearer".toList ++ [' '] := lowered
  obtain ⟨word, last, rfl, bearer, space⟩ := List.map_eq_append_iff.mp spelled
  obtain ⟨c, rfl, lower⟩ := List.map_eq_singleton_iff.mp space
  cases lowerChar_eq_space lower
  have carried : Carries (word ++ [' '] ++ back) (strip (String.ofList back)) :=
    ⟨word, back, by simp, bearer, rfl⟩
  rw [(hasBearer_of_carries carried).2]
  exact carried

end Header
end AegisGateway.ApiKeys
