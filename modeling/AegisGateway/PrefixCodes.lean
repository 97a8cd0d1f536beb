import Mathlib.Data.List.Basic

set_option autoImplicit false

/-!
# Codes that tell where they end

A code writes each value as a word. It tells a value if the word, with an admissible
rest after it, can only be that value with that rest. Words that each tell their value
can be put one after the other, or be separated and closed by letters of their own. Words of which none goes on from an
earlier one can be looked up in order: the first that starts a text is the longest.
-/
namespace AegisGateway.PrefixCodes

variable {α β : Type} {code : α → List β} {P : α → Prop} {F : List β → Prop}

/-- Of the values of `P`, only `a` is written like this before a rest of `F`. -/
def Tells (code : α → List β) (P : α → Prop) (F : List β → Prop) (a : α) : Prop :=
  ∀ b u v, P b → F u → F v → code a ++ u = code b ++ v → a = b ∧ u = v

theorem Tells.mono {F' : List β → Prop} {a : α} (h : Tells code P F a) (imp : ∀ u, F' u → F u) :
    Tells code P F' a := fun b u v hb hu hv => h b u v hb (imp u hu) (imp v hv)

def Begins (letters : List β) (rest : List β) : Prop := ∃ c ∈ letters, ∃ t, rest = c :: t

/-- The word begins, and not with one of these letters. -/
def Avoids (letters : List β) (word : List β) : Prop := ∃ c t, word = c :: t ∧ c ∉ letters

theorem Begins.not_avoids {letters word rest : List β} (h : Begins letters (word ++ rest)) :
    ¬ Avoids letters word := by
  rintro ⟨c, t, rfl, out⟩
  obtain ⟨d, mem, t', same⟩ := h
  cases same
  exact out mem

theorem tells_of_decode (decode : List β → Option (α × List β))
    (reads : ∀ a, P a → ∀ rest, decode (code a ++ rest) = some (a, rest)) {a : α} (mem : P a) :
    Tells code P F a := by
  intro b u v other _ _ same
  have first := reads a mem u
  rw [same, reads b other v] at first
  cases first
  exact ⟨rfl, rfl⟩

theorem append_inj_of_letters {letters x y u v : List β} (hx : ∀ c ∈ x, c ∉ letters)
    (hy : ∀ c ∈ y, c ∉ letters) (hu : u = [] ∨ Begins letters u) (hv : v = [] ∨ Begins letters v)
    (same : x ++ u = y ++ v) : x = y ∧ u = v := by
  induction x generalizing y with
  | nil =>
    cases y with
    | nil => exact ⟨rfl, same⟩
    | cons c y =>
      rcases hu with rfl | ⟨d, mem, t, rfl⟩
      · cases same
      · cases same
        exact absurd mem (hy _ (.head _))
  | cons c x ih =>
    cases y with
    | nil =>
      rcases hv with rfl | ⟨d, mem, t, rfl⟩
      · cases same
      · cases same
        exact absurd mem (hx _ (.head _))
    | cons d y =>
      obtain ⟨rfl, tails⟩ := List.cons.inj same
      obtain ⟨rfl, rests⟩ := ih (fun e mem => hx e (.tail _ mem)) (fun e mem => hy e (.tail _ mem)) tails
      exact ⟨rfl, rests⟩

section Sequences
variable {close : β}

theorem flatMap_tells (avoids : ∀ a, P a → Avoids [close] (code a))
    (closed : ∀ u, Begins [close] u → F u) (follows : ∀ a u, P a → F (code a ++ u)) {xs : List α}
    (each : ∀ x ∈ xs, Tells code P F x) (all : ∀ x ∈ xs, P x) :
    Tells (List.flatMap code) (fun ys => ∀ y ∈ ys, P y) (Begins [close]) xs := by
  have ready {zs : List α} (mem : ∀ z ∈ zs, P z) {u : List β} (hu : Begins [close] u) :
      F (zs.flatMap code ++ u) := by
    cases zs with
    | nil => exact closed u hu
    | cons z zs =>
      rw [List.flatMap_cons, List.append_assoc]
      exact follows z _ (mem z (.head _))
  induction xs with
  | nil =>
    intro ys u v others hu _ same
    cases ys with
    | nil => exact ⟨rfl, same⟩
    | cons y ys =>
      rw [List.flatMap_nil, List.nil_append, List.flatMap_cons, List.append_assoc] at same
      rw [same] at hu
      exact absurd (avoids y (others y (.head _))) hu.not_avoids
  | cons x xs ih =>
    intro ys u v others hu hv same
    cases ys with
    | nil =>
      rw [List.flatMap_nil, List.nil_append, List.flatMap_cons, List.append_assoc] at same
      rw [← same] at hv
      exact absurd (avoids x (all x (.head _))) hv.not_avoids
    | cons y ys =>
      have all' : ∀ z ∈ xs, P z := fun z mem => all z (.tail _ mem)
      have others' : ∀ z ∈ ys, P z := fun z mem => others z (.tail _ mem)
      rw [List.flatMap_cons, List.flatMap_cons, List.append_assoc, List.append_assoc] at same
      obtain ⟨heads, tails⟩ := each x (.head _) y _ _ (others y (.head _)) (ready all' hu)
        (ready others' hv) same
      obtain ⟨rests, ends⟩ := ih (fun z mem => each z (.tail _ mem)) all' ys u v others' hu hv tails
      rw [heads, rests]
      exact ⟨rfl, ends⟩

def separated (sep : β) (code : α → List β) (xs : List α) : List β :=
  [sep].intercalate (xs.map code)

variable {sep : β}

theorem separated_nil : separated sep code [] = [] := rfl

theorem separated_cons (x : α) (xs : List α) :
    separated sep code (x :: xs) = code x ++ xs.flatMap fun y => sep :: code y := by
  induction xs generalizing x with
  | nil => simp [separated]
  | cons y ys ih =>
    have step : separated sep code (x :: y :: ys) = code x ++ sep :: separated sep code (y :: ys) := by
      simp [separated, List.intercalate_cons_cons]
    rw [step, ih y, List.flatMap_cons]
    rfl

theorem separated_tells (apart : sep ≠ close) (avoids : ∀ a, P a → Avoids [close] (code a))
    {xs : List α} (each : ∀ x ∈ xs, Tells code P (Begins [sep, close]) x) (all : ∀ x ∈ xs, P x) :
    Tells (separated sep code) (fun ys => ∀ y ∈ ys, P y) (Begins [close]) xs := by
  have closed (u : List β) (hu : Begins [close] u) : Begins [sep, close] u := by
    obtain ⟨c, mem, t, rfl⟩ := hu
    exact ⟨c, .tail _ mem, t, rfl⟩
  have follows (a : α) (u : List β) (_ : P a) : Begins [sep, close] (sep :: code a ++ u) :=
    ⟨sep, .head _, _, rfl⟩
  have ready {zs : List α} (mem : ∀ z ∈ zs, P z) {u : List β} (hu : Begins [close] u) :
      Begins [sep, close] ((zs.flatMap fun y => sep :: code y) ++ u) := by
    cases zs with
    | nil => exact closed u hu
    | cons z zs => exact ⟨sep, .head _, _, rfl⟩
  intro ys u v others hu hv same
  cases xs with
  | nil =>
    cases ys with
    | nil => exact ⟨rfl, same⟩
    | cons y ys =>
      rw [separated_nil, List.nil_append, separated_cons, List.append_assoc] at same
      rw [same] at hu
      exact absurd (avoids y (others y (.head _))) hu.not_avoids
  | cons x xs =>
    cases ys with
    | nil =>
      rw [separated_nil, List.nil_append, separated_cons, List.append_assoc] at same
      rw [← same] at hv
      exact absurd (avoids x (all x (.head _))) hv.not_avoids
    | cons y ys =>
      have all' : ∀ z ∈ xs, P z := fun z mem => all z (.tail _ mem)
      have others' : ∀ z ∈ ys, P z := fun z mem => others z (.tail _ mem)
      rw [separated_cons, separated_cons, List.append_assoc, List.append_assoc] at same
      obtain ⟨heads, tails⟩ := each x (.head _) y _ _ (others y (.head _)) (ready all' hu)
        (ready others' hv) same
      have separators : ∀ a, P a → Avoids [close] (sep :: code a) :=
        fun a _ => ⟨sep, _, rfl, fun mem => apart (List.mem_singleton.mp mem)⟩
      have later : ∀ z ∈ xs, Tells (fun y => sep :: code y) P (Begins [sep, close]) z := by
        intro z mem b u v hb hu hv same
        exact each z (.tail _ mem) b u v hb hu hv (List.cons.inj same).2
      obtain ⟨rests, ends⟩ := flatMap_tells separators closed follows later all' ys u v others' hu hv
        tails
      rw [heads, rests]
      exact ⟨rfl, ends⟩

theorem bracketed_tells (opening : β) (apart : sep ≠ close)
    (avoids : ∀ a, P a → Avoids [close] (code a)) {xs : List α}
    (each : ∀ x ∈ xs, Tells code P (Begins [sep, close]) x) (all : ∀ x ∈ xs, P x) :
    Tells (fun ys => opening :: separated sep code ys ++ [close]) (fun ys => ∀ y ∈ ys, P y)
      (fun _ => True) xs := by
  intro ys u v others _ _ same
  rw [List.append_assoc, List.append_assoc] at same
  obtain ⟨words, rests⟩ := separated_tells apart avoids each all ys (close :: u) (close :: v) others
    ⟨close, .head _, u, rfl⟩ ⟨close, .head _, v, rfl⟩ (List.cons.inj same).2
  exact ⟨words, (List.cons.inj rests).2⟩

end Sequences

section Lookup
variable {τ : Type} {word : τ → List β} {entries : List τ} {text : List β}

/-- No word goes on from the word of an entry before it. -/
def LongestFirst (word : τ → List β) (entries : List τ) : Prop :=
  entries.Pairwise fun earlier later => ¬ word earlier <+: word later

/-- Of the words that start the text, this entry's is the longest. -/
structure Longest (word : τ → List β) (entries : List τ) (text : List β) (entry : τ) : Prop where
  listed : entry ∈ entries
  starts : word entry <+: text
  longest : ∀ other ∈ entries, word other <+: text → (word other).length ≤ (word entry).length

theorem LongestFirst.find?_eq_some_iff [DecidableEq β] (order : LongestFirst word entries)
    {entry : τ} :
    entries.find? (fun e => (word e).isPrefixOf text) = some entry ↔
      Longest word entries text entry := by
  have first : ∀ {e}, entries.find? (fun e => (word e).isPrefixOf text) = some e →
      word e <+: text ∧ ∃ before after, entries = before ++ e :: after ∧
        (∀ b ∈ before, ¬ word b <+: text) ∧ ∀ a ∈ after, ¬ word e <+: word a := by
    intro e found
    obtain ⟨starts, before, after, rfl, misses⟩ := List.find?_eq_some_iff_append.mp found
    refine ⟨List.isPrefixOf_iff_prefix.mp starts, before, after, rfl, ?_, ?_⟩
    · intro b mem matching
      have miss := misses b mem
      rw [List.isPrefixOf_iff_prefix.mpr matching] at miss
      exact absurd miss Bool.false_ne_true
    · exact (List.pairwise_cons.mp (List.pairwise_append.mp order).2.1).1
  constructor
  · intro found
    obtain ⟨starts, before, after, parts, misses, later⟩ := first found
    refine ⟨List.mem_of_find?_eq_some found, starts, ?_⟩
    intro other mem matching
    rw [parts, List.mem_append, List.mem_cons] at mem
    rcases mem with mem | rfl | mem
    · exact absurd matching (misses other mem)
    · exact Nat.le_refl _
    · -- two words that start one text: the shorter starts the longer
      by_contra longer
      exact later other mem (List.prefix_of_prefix_length_le starts matching (by omega))
  · intro best
    have matched : (entries.find? fun e => (word e).isPrefixOf text).isSome :=
      List.find?_isSome.mpr ⟨entry, best.listed, List.isPrefixOf_iff_prefix.mpr best.starts⟩
    obtain ⟨e, found⟩ := Option.isSome_iff_exists.mp matched
    obtain ⟨starts, before, after, parts, misses, later⟩ := first found
    have listed := best.listed
    rw [parts, List.mem_append, List.mem_cons] at listed
    rcases listed with mem | rfl | mem
    · exact absurd best.starts (misses entry mem)
    · exact found
    · have shorter := best.longest e (List.mem_of_find?_eq_some found) starts
      exact absurd (List.prefix_of_prefix_length_le starts best.starts shorter) (later entry mem)

end Lookup
end AegisGateway.PrefixCodes
