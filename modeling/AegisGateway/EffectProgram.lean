import Mathlib.Data.List.Induction

set_option autoImplicit false

/-!
# Programs that call an environment and may raise

A program is a tree of calls. Each call is answered by the environment with a
value or an exception, and the tree says how the program goes on in either
case. A monitor follows a program from outside: it says which calls are
permitted in its state, which answers the environment may give, and how its
state advances. `Holds` is the weakest precondition of a program against a
monitor, and `Holds.sound` is its meaning on finished runs.
-/
namespace AegisGateway.EffectProgram

inductive Prog (Op : Type) (Ret : Op → Type) (ε α : Type) where
  | done (result : Except ε α)
  | call (op : Op) (next : Except ε (Ret op) → Prog Op Ret ε α)

section Combinators
variable {Op : Type} {Ret : Op → Type} {ε α β : Type}

/-- Go on from either way the first program can end. -/
def Prog.andThen : Prog Op Ret ε α → (Except ε α → Prog Op Ret ε β) → Prog Op Ret ε β
  | .done r, f => f r
  | .call op next, f => .call op (fun o => (next o).andThen f)

def Prog.onValue (f : α → Prog Op Ret ε β) : Except ε α → Prog Op Ret ε β
  | .ok a => f a
  | .error e => .done (.error e)

instance : Monad (Prog Op Ret ε) where
  pure a := .done (.ok a)
  bind p f := p.andThen (Prog.onValue f)

def Prog.perform (op : Op) : Prog Op Ret ε (Ret op) := .call op .done

def Prog.raise (e : ε) : Prog Op Ret ε α := .done (.error e)

/-- `try: p; except: h`. A handler that does not match re-raises. -/
def Prog.handle (p : Prog Op Ret ε α) (h : ε → Prog Op Ret ε α) : Prog Op Ret ε α :=
  p.andThen fun
    | .ok a => .done (.ok a)
    | .error e => h e

/-- `try: p; finally: cleanup`. An exception of the cleanup replaces the result. -/
def Prog.ensure (p : Prog Op Ret ε α) (cleanup : Prog Op Ret ε Unit) : Prog Op Ret ε α :=
  p.andThen fun r => cleanup.andThen (Prog.onValue fun _ => .done r)

/-- How the program ends, as a value. -/
def Prog.attempt (p : Prog Op Ret ε α) : Prog Op Ret ε (Except ε α) :=
  p.andThen fun r => .done (.ok r)

theorem Prog.bind_def (p : Prog Op Ret ε α) (f : α → Prog Op Ret ε β) :
    p >>= f = p.andThen (Prog.onValue f) := rfl

theorem Prog.andThen_done (p : Prog Op Ret ε α) : p.andThen .done = p := by
  induction p with
  | done r => rfl
  | call op next ih =>
    simp only [Prog.andThen]
    congr 1
    funext o
    exact ih o

theorem Prog.andThen_assoc {γ : Type} (p : Prog Op Ret ε α) (f : Except ε α → Prog Op Ret ε β)
    (g : Except ε β → Prog Op Ret ε γ) :
    (p.andThen f).andThen g = p.andThen fun r => (f r).andThen g := by
  induction p with
  | done r => rfl
  | call op next ih =>
    simp only [Prog.andThen]
    congr 1
    funext o
    exact ih o

theorem Prog.bind_assoc {γ : Type} (p : Prog Op Ret ε α) (f : α → Prog Op Ret ε β)
    (g : β → Prog Op Ret ε γ) : p >>= f >>= g = p >>= fun a => f a >>= g := by
  simp only [Prog.bind_def, Prog.andThen_assoc]
  congr 1
  funext r
  cases r <;> rfl

end Combinators

section Runs
variable {Op : Type} {Ret : Op → Type} {ε α : Type}

/-- One answered call. -/
abbrev Event (Op : Type) (Ret : Op → Type) (ε : Type) := (op : Op) × Except ε (Ret op)

/-- A finished run: the answered calls in order, and how the program ended. -/
inductive Runs : Prog Op Ret ε α → List (Event Op Ret ε) → Except ε α → Prop where
  | done (r : Except ε α) : Runs (.done r) [] r
  | call {op : Op} {next : Except ε (Ret op) → Prog Op Ret ε α} {o : Except ε (Ret op)}
      {t : List (Event Op Ret ε)} {r : Except ε α} (tail : Runs (next o) t r) :
      Runs (.call op next) (⟨op, o⟩ :: t) r

theorem runs_andThen {β : Type} {p : Prog Op Ret ε α} {f : Except ε α → Prog Op Ret ε β}
    {t : List (Event Op Ret ε)} {r : Except ε β} :
    Runs (p.andThen f) t r ↔
      ∃ t₁ r₁ t₂, t = t₁ ++ t₂ ∧ Runs p t₁ r₁ ∧ Runs (f r₁) t₂ r := by
  constructor
  · intro run
    induction p generalizing t with
    | done r₁ => exact ⟨[], r₁, t, rfl, .done r₁, run⟩
    | call op next ih =>
      cases run with
      | call tail =>
        obtain ⟨t₁, r₁, t₂, rfl, first, second⟩ := ih _ tail
        exact ⟨_ :: t₁, r₁, t₂, rfl, .call first, second⟩
  · rintro ⟨t₁, r₁, t₂, rfl, first, second⟩
    induction first with
    | done r₁ => exact second
    | call tail ih => exact .call (ih second)

theorem runs_bind {β : Type} {p : Prog Op Ret ε α} {f : α → Prog Op Ret ε β}
    {t : List (Event Op Ret ε)} {r : Except ε β} (run : Runs (p >>= f) t r) :
    (∃ e, Runs p t (.error e) ∧ r = .error e) ∨
      ∃ t₁ a t₂, t = t₁ ++ t₂ ∧ Runs p t₁ (.ok a) ∧ Runs (f a) t₂ r := by
  obtain ⟨t₁, r₁, t₂, rfl, first, second⟩ := runs_andThen.mp run
  cases r₁ with
  | error e =>
    cases second
    exact .inl ⟨e, by simpa using first, rfl⟩
  | ok a => exact .inr ⟨t₁, a, t₂, rfl, first, second⟩

theorem runs_bind_ok {β : Type} {p : Prog Op Ret ε α} {f : α → Prog Op Ret ε β}
    {t : List (Event Op Ret ε)} {b : β} (run : Runs (p >>= f) t (.ok b)) :
    ∃ t₁ a t₂, t = t₁ ++ t₂ ∧ Runs p t₁ (.ok a) ∧ Runs (f a) t₂ (.ok b) := by
  rcases runs_bind run with ⟨e, _, eq⟩ | value
  · cases eq
  · exact value

theorem Runs.bind {β : Type} {p : Prog Op Ret ε α} {f : α → Prog Op Ret ε β}
    {t₁ t₂ : List (Event Op Ret ε)} {a : α} {r : Except ε β} (first : Runs p t₁ (.ok a))
    (second : Runs (f a) t₂ r) : Runs (p >>= f) (t₁ ++ t₂) r :=
  runs_andThen.mpr ⟨t₁, .ok a, t₂, rfl, first, second⟩

theorem Runs.raised {β : Type} {p : Prog Op Ret ε α} {t : List (Event Op Ret ε)} {e : ε}
    (run : Runs p t (.error e)) (f : α → Prog Op Ret ε β) : Runs (p >>= f) t (.error e) := by
  have ended : Runs (p >>= f) (t ++ []) (.error e) :=
    runs_andThen.mpr ⟨t, .error e, [], rfl, run, .done _⟩
  rwa [List.append_nil] at ended

theorem runs_perform {op : Op} {t : List (Event Op Ret ε)} {r : Except ε (Ret op)}
    (run : Runs (Prog.perform op) t r) : t = [⟨op, r⟩] := by
  cases run with
  | call tail =>
    cases tail
    rfl

theorem runs_done {t : List (Event Op Ret ε)} {r r' : Except ε α} (run : Runs (.done r) t r') :
    t = [] ∧ r' = r := by
  cases run
  exact ⟨rfl, rfl⟩

theorem runs_attempted {β : Type} {op : Op} {f : Except ε (Ret op) → Prog Op Ret ε β}
    {t : List (Event Op Ret ε)} {r : Except ε β}
    (run : Runs ((Prog.perform op).attempt >>= f) t r) :
    ∃ o rest, t = ⟨op, o⟩ :: rest ∧ Runs (f o) rest r := by
  cases run with
  | call tail => exact ⟨_, _, rfl, tail⟩

/-- With these calls answered the first program has become the second. -/
inductive Reaches : Prog Op Ret ε α → List (Event Op Ret ε) → Prog Op Ret ε α → Prop where
  | refl (p : Prog Op Ret ε α) : Reaches p [] p
  | call {op : Op} {next : Except ε (Ret op) → Prog Op Ret ε α} {o : Except ε (Ret op)}
      {t : List (Event Op Ret ε)} {q : Prog Op Ret ε α} (tail : Reaches (next o) t q) :
      Reaches (.call op next) (⟨op, o⟩ :: t) q

theorem Runs.reaches {p : Prog Op Ret ε α} {t : List (Event Op Ret ε)} {r : Except ε α}
    (run : Runs p t r) : Reaches p t (.done r) := by
  induction run with
  | done r => exact .refl _
  | call tail ih => exact .call ih

theorem Reaches.stop {p q : Prog Op Ret ε α} {t₁ t₂ : List (Event Op Ret ε)}
    (h : Reaches p (t₁ ++ t₂) q) : ∃ mid, Reaches p t₁ mid ∧ Reaches mid t₂ q := by
  induction t₁ generalizing p with
  | nil => exact ⟨p, .refl p, h⟩
  | cons e t ih =>
    cases h with
    | call tail =>
      obtain ⟨mid, first, second⟩ := ih tail
      exact ⟨mid, .call first, second⟩

/-- Run a program against a handler that answers from a state. -/
def Prog.runState {σ : Type} (handler : σ → (op : Op) → Except ε (Ret op) × σ) :
    Prog Op Ret ε α → σ → Except ε α × σ
  | .done r, s => (r, s)
  | .call op next, s =>
    let answered := handler s op
    (next answered.1).runState handler answered.2

theorem Prog.runState_andThen {β σ : Type} (handler : σ → (op : Op) → Except ε (Ret op) × σ)
    (p : Prog Op Ret ε α) (f : Except ε α → Prog Op Ret ε β) (s : σ) :
    (p.andThen f).runState handler s =
      (f (p.runState handler s).1).runState handler (p.runState handler s).2 := by
  induction p generalizing s with
  | done r => rfl
  | call op next ih => exact ih _ _

theorem Prog.runState_bind {β σ : Type} {handler : σ → (op : Op) → Except ε (Ret op) × σ}
    {p : Prog Op Ret ε α} {f : α → Prog Op Ret ε β} {s t : σ} {r : Except ε β}
    (run : (p >>= f).runState handler s = (r, t)) :
    (∃ e, p.runState handler s = (.error e, t) ∧ r = .error e) ∨
      ∃ a s', p.runState handler s = (.ok a, s') ∧ (f a).runState handler s' = (r, t) := by
  rw [Prog.bind_def, Prog.runState_andThen] at run
  generalize p.runState handler s = first at run ⊢
  obtain ⟨result, s'⟩ := first
  cases result with
  | error e =>
    cases run
    exact .inl ⟨e, rfl, rfl⟩
  | ok a => exact .inr ⟨a, s', rfl, run⟩

end Runs

section Uses
variable {Op : Type} {Ret : Op → Type} {ε α β : Type} {S : Op → Prop}

/-- Every call the program can make is one of `S`. -/
def Prog.Uses (S : Op → Prop) : Prog Op Ret ε α → Prop
  | .done _ => True
  | .call op next => S op ∧ ∀ o, (next o).Uses S

theorem Prog.uses_perform {op : Op} (h : S op) : (Prog.perform op : Prog Op Ret ε _).Uses S :=
  ⟨h, fun _ => trivial⟩

theorem Prog.Uses.andThen {p : Prog Op Ret ε α} {f : Except ε α → Prog Op Ret ε β}
    (hp : p.Uses S) (hf : ∀ r, (f r).Uses S) : (p.andThen f).Uses S := by
  induction p with
  | done r => exact hf r
  | call op next ih => exact ⟨hp.1, fun o => ih o (hp.2 o)⟩

theorem Prog.Uses.bind {p : Prog Op Ret ε α} {f : α → Prog Op Ret ε β}
    (hp : p.Uses S) (hf : ∀ a, (f a).Uses S) : (p >>= f).Uses S :=
  hp.andThen fun
    | .ok a => hf a
    | .error _ => trivial

theorem Prog.Uses.handle {p : Prog Op Ret ε α} {h : ε → Prog Op Ret ε α}
    (hp : p.Uses S) (hh : ∀ e, (h e).Uses S) : (p.handle h).Uses S :=
  hp.andThen fun
    | .ok _ => trivial
    | .error e => hh e

theorem Prog.Uses.ensure {p : Prog Op Ret ε α} {cleanup : Prog Op Ret ε Unit}
    (hp : p.Uses S) (hc : cleanup.Uses S) : (p.ensure cleanup).Uses S :=
  hp.andThen fun _ => hc.andThen fun
    | .ok _ => trivial
    | .error _ => trivial

theorem Prog.Uses.mono {S' : Op → Prop} {p : Prog Op Ret ε α} (h : p.Uses S)
    (imp : ∀ op, S op → S' op) : p.Uses S' := by
  induction p with
  | done r => trivial
  | call op next ih => exact ⟨imp op h.1, fun o => ih o (h.2 o)⟩

/-- Each call carried out by a program of other calls. -/
def Prog.expand {Op' : Type} {Ret' : Op' → Type} (f : (op : Op) → Prog Op' Ret' ε (Ret op)) :
    Prog Op Ret ε α → Prog Op' Ret' ε α
  | .done r => .done r
  | .call op next => (f op).andThen fun o => (next o).expand f

theorem Runs.expand {Op' : Type} {Ret' : Op' → Type} {f : (op : Op) → Prog Op' Ret' ε (Ret op)}
    {p : Prog Op Ret ε α} {t : List (Event Op Ret ε)} {r : Except ε α}
    {parts : Event Op Ret ε → List (Event Op' Ret' ε)} (run : Runs p t r)
    (carried : ∀ e ∈ t, Runs (f e.1) (parts e) e.2) : Runs (p.expand f) (t.flatMap parts) r := by
  induction run with
  | done r => exact .done r
  | call tail ih =>
    rw [List.flatMap_cons]
    refine runs_andThen.mpr ⟨_, _, _, rfl, carried _ (.head _), ?_⟩
    exact ih fun e mem => carried e (.tail _ mem)

theorem runs_expand {Op' : Type} {Ret' : Op' → Type} {f : (op : Op) → Prog Op' Ret' ε (Ret op)}
    {p : Prog Op Ret ε α} {t : List (Event Op' Ret' ε)} {r : Except ε α} (run : Runs (p.expand f) t r) :
    ∃ t', Runs p t' r ∧ ∀ e ∈ t', ∃ part, Runs (f e.1) part e.2 ∧ part ⊆ t := by
  induction p generalizing t with
  | done r' =>
    obtain ⟨_, rfl⟩ := runs_done run
    exact ⟨[], .done _, by simp⟩
  | call op next ih =>
    obtain ⟨t₁, o, t₂, rfl, first, second⟩ := runs_andThen.mp run
    obtain ⟨t', rest, carried⟩ := ih o second
    refine ⟨⟨op, o⟩ :: t', .call rest, ?_⟩
    intro e mem
    rcases List.mem_cons.mp mem with rfl | mem
    · exact ⟨t₁, first, List.subset_append_left _ _⟩
    · obtain ⟨part, carries, among⟩ := carried e mem
      exact ⟨part, carries, List.Subset.trans among (List.subset_append_right _ _)⟩

theorem Prog.Uses.expand {Op' : Type} {Ret' : Op' → Type} {S' : Op' → Prop}
    {f : (op : Op) → Prog Op' Ret' ε (Ret op)} {p : Prog Op Ret ε α} (h : p.Uses S)
    (carried : ∀ op, S op → (f op).Uses S') : (p.expand f).Uses S' := by
  induction p with
  | done r => trivial
  | call op next ih => exact (carried op h.1).andThen fun o => ih o (h.2 o)

theorem Prog.Uses.of_runs {p : Prog Op Ret ε α} (h : p.Uses S) {t : List (Event Op Ret ε)}
    {r : Except ε α} (run : Runs p t r) : ∀ e ∈ t, S e.1 := by
  induction run with
  | done r => simp
  | @call op next o t r tail ih =>
    intro e mem
    rcases List.mem_cons.mp mem with rfl | mem
    · exact h.1
    · exact ih (h.2 o) e mem

end Uses

section Handlers
variable {Op : Type} {Ret : Op → Type} {ε α β : Type}

theorem runs_handle {p : Prog Op Ret ε α} {h : ε → Prog Op Ret ε α} {t : List (Event Op Ret ε)}
    {r : Except ε α} (run : Runs (p.handle h) t r) :
    (∃ a, Runs p t (.ok a) ∧ r = .ok a) ∨
      ∃ t₁ e t₂, t = t₁ ++ t₂ ∧ Runs p t₁ (.error e) ∧ Runs (h e) t₂ r := by
  obtain ⟨t₁, r₁, t₂, rfl, first, second⟩ := runs_andThen.mp run
  cases r₁ with
  | ok a =>
    cases second
    exact .inl ⟨a, by simpa using first, rfl⟩
  | error e => exact .inr ⟨t₁, e, t₂, rfl, first, second⟩

theorem Runs.handle {p : Prog Op Ret ε α} {t : List (Event Op Ret ε)} {a : α}
    (run : Runs p t (.ok a)) (h : ε → Prog Op Ret ε α) : Runs (p.handle h) t (.ok a) := by
  have handled : Runs (p.handle h) (t ++ []) (.ok a) :=
    runs_andThen.mpr ⟨t, .ok a, [], rfl, run, .done _⟩
  rwa [List.append_nil] at handled

/-- The program ends only with an exception. -/
def Prog.NeverReturns (p : Prog Op Ret ε α) : Prop := ∀ t a, ¬ Runs p t (.ok a)

theorem Prog.neverReturns_raise (e : ε) : (Prog.raise e : Prog Op Ret ε α).NeverReturns := by
  intro t a run
  cases run

theorem Prog.NeverReturns.after {p : Prog Op Ret ε α} {f : α → Prog Op Ret ε β}
    (h : ∀ a, (f a).NeverReturns) : (p >>= f).NeverReturns := by
  intro t b run
  rcases runs_bind run with ⟨e, _, eq⟩ | ⟨t₁, a, t₂, rfl, _, second⟩
  · cases eq
  · exact h a t₂ b second

theorem runs_handle_ok {p : Prog Op Ret ε α} {h : ε → Prog Op Ret ε α}
    (raises : ∀ e, (h e).NeverReturns) {t : List (Event Op Ret ε)} {a : α}
    (run : Runs (p.handle h) t (.ok a)) : Runs p t (.ok a) := by
  rcases runs_handle run with ⟨b, first, eq⟩ | ⟨t₁, e, t₂, rfl, _, second⟩
  · cases eq
    exact first
  · exact absurd second (raises e t₂ a)

end Handlers

section Raises
variable {Op : Type} {Ret : Op → Type} {ε α β : Type} {B : Event Op Ret ε → Prop}

/-- The program raises only after an event of `B`: it has no exceptions of its own. -/
def Prog.RaisesBy (B : Event Op Ret ε → Prop) (p : Prog Op Ret ε α) : Prop :=
  ∀ t e, Runs p t (.error e) → ∃ ev ∈ t, B ev

theorem Prog.raisesBy_pure (a : α) : (pure a : Prog Op Ret ε α).RaisesBy B := by
  intro t e run
  cases run

theorem Prog.raisesBy_perform {op : Op} (h : ∀ e, B ⟨op, .error e⟩) :
    (Prog.perform op : Prog Op Ret ε _).RaisesBy B := by
  intro t e run
  rw [runs_perform run]
  exact ⟨_, .head _, h e⟩

theorem Prog.RaisesBy.bind {p : Prog Op Ret ε α} {f : α → Prog Op Ret ε β} (hp : p.RaisesBy B)
    (hf : ∀ a, (f a).RaisesBy B) : (p >>= f).RaisesBy B := by
  intro t e run
  rcases runs_bind run with ⟨e', first, _⟩ | ⟨t₁, a, t₂, rfl, _, second⟩
  · exact hp t e' first
  · obtain ⟨ev, mem, h⟩ := hf a t₂ e second
    exact ⟨ev, List.mem_append_right _ mem, h⟩

end Raises

/-- What an observer with state `G` demands of a program and grants to its environment. -/
structure Monitor (Op : Type) (Ret : Op → Type) (ε G : Type) where
  permits : G → Op → Prop
  answers : G → (op : Op) → Except ε (Ret op) → Prop
  advance : G → (op : Op) → Except ε (Ret op) → G

section Holds
variable {Op : Type} {Ret : Op → Type} {ε α β G : Type} (M : Monitor Op Ret ε G)

/-- Every call of the program is permitted and `Q` holds where it ends. -/
def Holds : Prog Op Ret ε α → (Except ε α → G → Prop) → G → Prop
  | .done r, Q, g => Q r g
  | .call op next, Q, g =>
    M.permits g op ∧ ∀ o, M.answers g op o → Holds (next o) Q (M.advance g op o)

variable {M}

theorem Holds.mono {p : Prog Op Ret ε α} {Q Q' : Except ε α → G → Prop} {g : G}
    (h : Holds M p Q g) (imp : ∀ r g', Q r g' → Q' r g') : Holds M p Q' g := by
  induction p generalizing g with
  | done r => exact imp r g h
  | call op next ih => exact ⟨h.1, fun o ho => ih o (h.2 o ho)⟩

theorem Holds.and {p : Prog Op Ret ε α} {Q Q' : Except ε α → G → Prop} {g : G}
    (h : Holds M p Q g) (h' : Holds M p Q' g) : Holds M p (fun r g' => Q r g' ∧ Q' r g') g := by
  induction p generalizing g with
  | done r => exact ⟨h, h'⟩
  | call op next ih => exact ⟨h.1, fun o granted => ih o (h.2 o granted) (h'.2 o granted)⟩

theorem holds_andThen (p : Prog Op Ret ε α) (f : Except ε α → Prog Op Ret ε β)
    (Q : Except ε β → G → Prop) (g : G) :
    Holds M (p.andThen f) Q g ↔ Holds M p (fun r g' => Holds M (f r) Q g') g := by
  induction p generalizing g with
  | done r => rfl
  | call op next ih =>
    change (M.permits g op ∧ ∀ o, M.answers g op o → Holds M ((next o).andThen f) Q _) ↔ _
    exact and_congr_right fun _ => forall_congr' fun o => imp_congr_right fun _ => ih o _

@[simp] theorem holds_pure (a : α) (Q : Except ε α → G → Prop) (g : G) :
    Holds M (pure a : Prog Op Ret ε α) Q g ↔ Q (.ok a) g := Iff.rfl

@[simp] theorem holds_done (r : Except ε α) (Q : Except ε α → G → Prop) (g : G) :
    Holds M (.done r) Q g ↔ Q r g := Iff.rfl

@[simp] theorem holds_raise (e : ε) (Q : Except ε α → G → Prop) (g : G) :
    Holds M (Prog.raise e : Prog Op Ret ε α) Q g ↔ Q (.error e) g := Iff.rfl

/-- The postcondition of a bind: a value goes on, an exception is passed through. -/
def afterValue (f : α → Prog Op Ret ε β) (Q : Except ε β → G → Prop) : Except ε α → G → Prop
  | .ok a, g => Holds M (f a) Q g
  | .error e, g => Q (.error e) g

theorem holds_bind (p : Prog Op Ret ε α) (f : α → Prog Op Ret ε β)
    (Q : Except ε β → G → Prop) (g : G) :
    Holds M (p >>= f) Q g ↔ Holds M p (afterValue (M := M) f Q) g := by
  rw [Prog.bind_def, holds_andThen]
  constructor <;> intro h <;> refine h.mono fun r g' hr => ?_ <;> cases r <;> exact hr

theorem Holds.bind {p : Prog Op Ret ε α} {f : α → Prog Op Ret ε β} {Q : Except ε β → G → Prop}
    {g : G} (h : Holds M p (afterValue (M := M) f Q) g) : Holds M (p >>= f) Q g :=
  (holds_bind p f Q g).mpr h

theorem Holds.skip {p : Prog Op Ret ε α} {f : α → Prog Op Ret ε β} {Q : Except ε β → G → Prop}
    {g : G} (h : Holds M p (fun _ g' => g' = g) g) (raised : ∀ e, Q (.error e) g)
    (next : ∀ a, Holds M (f a) Q g) : Holds M (p >>= f) Q g := by
  apply Holds.bind
  refine h.mono fun r g' same => ?_
  subst same
  cases r with
  | ok a => exact next a
  | error e => exact raised e

theorem Holds.call_bind {op : Op} {f : Ret op → Prog Op Ret ε β} {Q : Except ε β → G → Prop} {g : G}
    (permitted : M.permits g op)
    (returned : ∀ a, M.answers g op (.ok a) → Holds M (f a) Q (M.advance g op (.ok a)))
    (raised : ∀ e, M.answers g op (.error e) → Q (.error e) (M.advance g op (.error e))) :
    Holds M (Prog.perform op >>= f) Q g := by
  refine ⟨permitted, fun o granted => ?_⟩
  cases o with
  | ok a => exact returned a granted
  | error e => exact raised e granted

theorem holds_handle (p : Prog Op Ret ε α) (h : ε → Prog Op Ret ε α)
    (Q : Except ε α → G → Prop) (g : G) :
    Holds M (p.handle h) Q g ↔
      Holds M p (fun r g' => match r with
        | .ok a => Q (.ok a) g'
        | .error e => Holds M (h e) Q g') g := by
  rw [Prog.handle, holds_andThen]
  constructor <;> intro hp <;> refine hp.mono fun r g' hr => ?_ <;> cases r <;> exact hr

/-- How `try: … finally: …` ends, from the ends of its two parts. -/
def ensured : Except ε α → Except ε Unit → Except ε α
  | r, .ok _ => r
  | _, .error e => .error e

theorem holds_ensure (p : Prog Op Ret ε α) (cleanup : Prog Op Ret ε Unit)
    (Q : Except ε α → G → Prop) (g : G) :
    Holds M (p.ensure cleanup) Q g ↔
      Holds M p (fun r g' => Holds M cleanup (fun c g'' => Q (ensured r c) g'') g') g := by
  rw [Prog.ensure, holds_andThen]
  constructor <;> intro hp <;> refine hp.mono fun r g' hr => ?_
  · rw [holds_andThen] at hr
    exact hr.mono fun c g'' hc => by cases c <;> exact hc
  · rw [holds_andThen]
    exact hr.mono fun c g'' hc => by cases c <;> exact hc

theorem Prog.Uses.holds {S : Op → Prop} {p : Prog Op Ret ε α} {g : G} (h : p.Uses S)
    (permitted : ∀ op, S op → M.permits g op)
    (ignored : ∀ op o, S op → M.answers g op o → M.advance g op o = g) :
    Holds M p (fun _ g' => g' = g) g := by
  induction p with
  | done r => rfl
  | call op next ih =>
    refine ⟨permitted op h.1, fun o granted => ?_⟩
    rw [ignored op o h.1 granted]
    exact ih o (h.2 o)

theorem Prog.Uses.keeps {S : Op → Prop} {p : Prog Op Ret ε α} {P : G → Prop} (h : p.Uses S)
    (permitted : ∀ g op, S op → M.permits g op)
    (kept : ∀ g op o, S op → P g → P (M.advance g op o)) {g : G} (holds : P g) :
    Holds M p (fun _ => P) g := by
  induction p generalizing g with
  | done r => exact holds
  | call op next ih =>
    exact ⟨permitted g op h.1, fun o _ => ih o (h.2 o) (kept g op o h.1 holds)⟩

variable (M)

/-- The monitor's state after a list of answered calls. -/
def Monitor.after (g : G) (t : List (Event Op Ret ε)) : G :=
  t.foldl (fun g e => M.advance g e.1 e.2) g

/-- The environment kept to the monitor's assumption all along. -/
def Monitor.Answers (M : Monitor Op Ret ε G) : G → List (Event Op Ret ε) → Prop
  | _, [] => True
  | g, e :: t => M.answers g e.1 e.2 ∧ M.Answers (M.advance g e.1 e.2) t

/-- Where the assumption does not depend on the monitor's state, each answer can be taken alone. -/
theorem Monitor.Answers.of_each {M : Monitor Op Ret ε G} {t : List (Event Op Ret ε)}
    (each : ∀ e ∈ t, ∀ g, M.answers g e.1 e.2) (g : G) : M.Answers g t := by
  induction t generalizing g with
  | nil => trivial
  | cons e t ih => exact ⟨each e (.head _) g, ih (fun e' mem => each e' (.tail _ mem)) _⟩

/-- Every call was permitted and every answer granted. -/
def Monitor.Accepts (M : Monitor Op Ret ε G) : G → List (Event Op Ret ε) → Prop
  | _, [] => True
  | g, e :: t => M.permits g e.1 ∧ M.answers g e.1 e.2 ∧ M.Accepts (M.advance g e.1 e.2) t

variable {M}

theorem Monitor.after_concat (g : G) (t : List (Event Op Ret ε)) (e : Event Op Ret ε) :
    M.after g (t ++ [e]) = M.advance (M.after g t) e.1 e.2 := by
  simp [Monitor.after]

theorem Monitor.accepts_concat (g : G) (t : List (Event Op Ret ε)) (e : Event Op Ret ε) :
    M.Accepts g (t ++ [e]) ↔
      M.Accepts g t ∧ M.permits (M.after g t) e.1 ∧ M.answers (M.after g t) e.1 e.2 := by
  induction t generalizing g with
  | nil => simp [Monitor.Accepts, Monitor.after]
  | cons head rest ih =>
    simp only [List.cons_append, Monitor.Accepts, ih, and_assoc]
    rfl

/-- What every accepted call keeps true of the monitor's state and the past is
true after any accepted list of calls. -/
theorem Monitor.Accepts.past {R : G → List (Event Op Ret ε) → Prop} {g : G}
    (start : R g [])
    (step : ∀ x past op o, R x past → M.permits x op → M.answers x op o →
      R (M.advance x op o) (past ++ [⟨op, o⟩]))
    {t : List (Event Op Ret ε)} (h : M.Accepts g t) : R (M.after g t) t := by
  induction t using List.reverseRecOn with
  | nil => exact start
  | append_singleton past e ih =>
    obtain ⟨before, permitted, granted⟩ := (M.accepts_concat g past e).mp h
    rw [Monitor.after_concat]
    exact step _ past e.1 e.2 (ih before) permitted granted

theorem Holds.sound {p : Prog Op Ret ε α} {Q : Except ε α → G → Prop} {g : G}
    {t : List (Event Op Ret ε)} {r : Except ε α} (h : Holds M p Q g) (run : Runs p t r)
    (env : M.Answers g t) : Q r (M.after g t) := by
  induction run generalizing g with
  | done r => exact h
  | @call op next o t r tail ih => exact ih (h.2 o env.1) env.2

theorem Holds.accepts {p : Prog Op Ret ε α} {Q : Except ε α → G → Prop} {g : G}
    {t : List (Event Op Ret ε)} {r : Except ε α} (h : Holds M p Q g) (run : Runs p t r)
    (env : M.Answers g t) : M.Accepts g t := by
  induction run generalizing g with
  | done r => trivial
  | @call op next o t r tail ih => exact ⟨h.1, env.1, ih (h.2 o env.1) env.2⟩

theorem Monitor.Accepts.permitted {g : G} {before after : List (Event Op Ret ε)}
    {e : Event Op Ret ε} (h : M.Accepts g (before ++ e :: after)) :
    M.permits (M.after g before) e.1 := by
  induction before generalizing g with
  | nil => exact h.1
  | cons head rest ih => exact ih h.2.2

end Holds

section Steady
variable {Op : Type} {Ret : Op → Type} {ε α β G : Type} {M : Monitor Op Ret ε G} {m : ε → G → G}
  {p : Prog Op Ret ε α} {f : α → Prog Op Ret ε β}

/-- A program that leaves the monitor's state alone when it returns and marks it when
it raises. -/
def Steady (M : Monitor Op Ret ε G) (m : ε → G → G) (p : Prog Op Ret ε α) : Prop :=
  ∀ g, Holds M p (fun r g' => match r with
    | .ok _ => g' = g
    | .error e => g' = m e g) g

theorem steady_pure (a : α) : Steady M m (pure a) := fun _ => rfl

theorem steady_perform {op : Op} (permitted : ∀ g, M.permits g op)
    (returned : ∀ g a, M.answers g op (.ok a) → M.advance g op (.ok a) = g)
    (raised : ∀ g e, M.answers g op (.error e) → M.advance g op (.error e) = m e g) :
    Steady M m (Prog.perform op) := by
  intro g
  refine ⟨permitted g, fun o granted => ?_⟩
  cases o with
  | ok a => exact returned g a granted
  | error e => exact raised g e granted

theorem Steady.step {Q : Except ε β → G → Prop} {g : G} (h : Steady M m p)
    (raised : ∀ e, Q (.error e) (m e g)) (next : ∀ a, Holds M (f a) Q g) :
    Holds M (p >>= f) Q g := by
  rw [holds_bind]
  refine (h g).mono fun r g' eq => ?_
  cases r with
  | ok a =>
    subst eq
    exact next a
  | error e =>
    subst eq
    exact raised e

theorem Steady.bind (h : Steady M m p) (hf : ∀ a, Steady M m (f a)) : Steady M m (p >>= f) :=
  fun g => h.step (fun _ => rfl) fun a => hf a g

end Steady

section Decided
variable {Op : Type} {Ret : Op → Type} {ε α β G : Type} {M : Monitor Op Ret ε G} {e : ε} {P P' : Prop}
  {p : Prog Op Ret ε α} {f : α → Prog Op Ret ε β}

/-- A program that leaves the monitor's state alone, returns if the condition holds, and raises
this exception if not. -/
def ReturnsIff (M : Monitor Op Ret ε G) (e : ε) (P : Prop) (p : Prog Op Ret ε α) : Prop :=
  ∀ g, Holds M p (fun r g' => g' = g ∧ (P ∧ (∃ a, r = .ok a) ∨ ¬ P ∧ r = .error e)) g

theorem returnsIff_pure (a : α) : ReturnsIff M e True (pure a : Prog Op Ret ε α) :=
  fun _ => ⟨rfl, .inl ⟨trivial, a, rfl⟩⟩

theorem ReturnsIff.congr (h : ReturnsIff M e P p) (same : P ↔ P') : ReturnsIff M e P' p := by
  rw [← same]
  exact h

theorem ReturnsIff.step {Q : Except ε β → G → Prop} {g : G} (h : ReturnsIff M e P p)
    (raised : ¬ P → Q (.error e) g) (next : P → ∀ a, Holds M (f a) Q g) : Holds M (p >>= f) Q g := by
  apply Holds.bind
  refine (h g).mono ?_
  rintro r _ ⟨rfl, ⟨holds, a, rfl⟩ | ⟨fails, rfl⟩⟩
  · exact next holds a
  · exact raised fails

theorem ReturnsIff.bind (h : ReturnsIff M e P p) (hf : ∀ a, ReturnsIff M e P' (f a)) :
    ReturnsIff M e (P ∧ P') (p >>= f) := by
  intro g
  refine h.step (fun fails => ⟨rfl, .inr ⟨fun both => fails both.1, rfl⟩⟩) fun holds a => ?_
  refine (hf a g).mono ?_
  rintro r _ ⟨rfl, ⟨holds', b, rfl⟩ | ⟨fails, rfl⟩⟩
  · exact ⟨rfl, .inl ⟨⟨holds, holds'⟩, b, rfl⟩⟩
  · exact ⟨rfl, .inr ⟨fun both => fails both.2, rfl⟩⟩

theorem ReturnsIff.followed {Q : Except ε β → G → Prop} {g : G} (h : ReturnsIff M e True p)
    (next : ∀ a, Holds M (f a) Q g) : Holds M (p >>= f) Q g :=
  h.step (fun fails => (fails trivial).elim) fun _ => next

theorem ReturnsIff.before (h : ReturnsIff M e True p) (hf : ∀ a, ReturnsIff M e P' (f a)) :
    ReturnsIff M e P' (p >>= f) :=
  (h.bind hf).congr (iff_of_eq (true_and P'))

end Decided

section History
variable {Op : Type} {Ret : Op → Type} {ε α : Type}

/-- A monitor that remembers everything and demands something of each call. -/
def historyMonitor (permits : List (Event Op Ret ε) → Op → Prop) :
    Monitor Op Ret ε (List (Event Op Ret ε)) where
  permits := permits
  answers _ _ _ := True
  advance past op o := past ++ [⟨op, o⟩]

variable {permits : List (Event Op Ret ε) → Op → Prop}

theorem historyMonitor_after (past t : List (Event Op Ret ε)) :
    (historyMonitor permits).after past t = past ++ t := by
  induction t generalizing past with
  | nil => simp [Monitor.after]
  | cons e t ih =>
    change (historyMonitor permits).after (past ++ [e]) t = _
    rw [ih, List.append_assoc, List.singleton_append]

theorem historyMonitor_answers (past t : List (Event Op Ret ε)) :
    (historyMonitor permits).Answers past t := .of_each (fun _ _ _ => trivial) past

theorem Prog.Uses.holds_history {S : Op → Prop} {p : Prog Op Ret ε α} (h : p.Uses S)
    (free : ∀ past op, S op → permits past op) (past : List (Event Op Ret ε)) :
    Holds (historyMonitor permits) p (fun r past' => ∃ new, past' = past ++ new ∧ Runs p new r)
      past := by
  induction p generalizing past with
  | done r => exact ⟨[], by simp, .done r⟩
  | call op next ih =>
    refine ⟨free past op h.1, fun o _ => ?_⟩
    refine (ih o (h.2 o) (past ++ [⟨op, o⟩])).mono ?_
    rintro r past' ⟨new, rfl, run⟩
    exact ⟨⟨op, o⟩ :: new, by simp, .call run⟩

theorem Holds.permitted {p : Prog Op Ret ε α} {Q : Except ε α → List (Event Op Ret ε) → Prop}
    (h : Holds (historyMonitor permits) p Q []) {before after : List (Event Op Ret ε)}
    {e : Event Op Ret ε} {r : Except ε α} (run : Runs p (before ++ e :: after) r) :
    permits before e.1 := by
  have permitted := (h.accepts run (historyMonitor_answers _ _)).permitted
  rw [historyMonitor_after, List.nil_append] at permitted
  exact permitted

end History
section Parts
variable {Op : Type} {Ret : Op → Type} {ε α β : Type} {K : {α : Type} → Prog Op Ret ε α → Prop}

/-- A property that a program has when its parts have it. -/
structure Composes (K : {α : Type} → Prog Op Ret ε α → Prop) : Prop where
  done {α : Type} (r : Except ε α) : K (.done r)
  andThen {α β : Type} {p : Prog Op Ret ε α} {f : Except ε α → Prog Op Ret ε β} :
    K p → (∀ r, K (f r)) → K (p.andThen f)

theorem Composes.bind (h : Composes K) {p : Prog Op Ret ε α} {f : α → Prog Op Ret ε β}
    (hp : K p) (hf : ∀ a, K (f a)) : K (p >>= f) := by
  refine h.andThen hp fun r => ?_
  cases r with
  | ok a => exact hf a
  | error e => exact h.done _

theorem Composes.handle (h : Composes K) {p : Prog Op Ret ε α} {handler : ε → Prog Op Ret ε α}
    (hp : K p) (hh : ∀ e, K (handler e)) : K (p.handle handler) := by
  refine h.andThen hp fun r => ?_
  cases r with
  | ok a => exact h.done _
  | error e => exact hh e

theorem Composes.ensure (h : Composes K) {p : Prog Op Ret ε α} {cleanup : Prog Op Ret ε Unit}
    (hp : K p) (hc : K cleanup) : K (p.ensure cleanup) := by
  refine h.andThen hp fun r => h.andThen hc fun c => ?_
  cases c with
  | ok _ => exact h.done r
  | error e => exact h.done _

theorem Composes.of_uses (h : Composes K) {S : Op → Prop} {p : Prog Op Ret ε α} (uses : p.Uses S)
    (calls : ∀ op, S op → K (Prog.perform op)) : K p := by
  induction p with
  | done r => exact h.done r
  | call op next ih =>
    have first : Prog.call op next = (Prog.perform op).andThen next := rfl
    rw [first]
    exact h.andThen (calls op uses.1) fun o => ih o (uses.2 o)

theorem composes_uses (S : Op → Prop) : Composes fun {_} (p : Prog Op Ret ε _) => p.Uses S where
  done _ := trivial
  andThen hp hf := hp.andThen hf

theorem composes_invariant {G : Type} (M : Monitor Op Ret ε G) (I : G → Prop) :
    Composes fun {_} (p : Prog Op Ret ε _) => ∀ g, I g → Holds M p (fun _ g' => I g') g where
  done _ _ kept := kept
  andThen hp hf g kept := (holds_andThen _ _ _ _).mpr ((hp g kept).mono fun r g' kept' => hf r g' kept')

theorem Prog.expand_andThen {Op' : Type} {Ret' : Op' → Type} (f : (op : Op) → Prog Op' Ret' ε (Ret op))
    (p : Prog Op Ret ε α) (next : Except ε α → Prog Op Ret ε β) :
    (p.andThen next).expand f = (p.expand f).andThen fun r => (next r).expand f := by
  induction p with
  | done r => rfl
  | call op after ih =>
    simp only [Prog.andThen, Prog.expand, Prog.andThen_assoc]
    congr 1
    funext o
    exact ih o

theorem Prog.expand_bind {Op' : Type} {Ret' : Op' → Type} (f : (op : Op) → Prog Op' Ret' ε (Ret op))
    (p : Prog Op Ret ε α) (next : α → Prog Op Ret ε β) :
    (p >>= next).expand f = p.expand f >>= fun a => (next a).expand f := by
  rw [Prog.bind_def, Prog.expand_andThen, Prog.bind_def]
  congr 1
  funext r
  cases r <;> rfl

theorem Prog.expand_perform {Op' : Type} {Ret' : Op' → Type} (f : (op : Op) → Prog Op' Ret' ε (Ret op))
    (op : Op) : (Prog.perform op).expand f = f op := Prog.andThen_done (f op)

theorem Composes.expand {Op' : Type} {Ret' : Op' → Type} {K' : {α : Type} → Prog Op' Ret' ε α → Prop}
    (h : Composes K') (f : (op : Op) → Prog Op' Ret' ε (Ret op)) :
    Composes fun {_} (p : Prog Op Ret ε _) => K' (p.expand f) where
  done r := h.done r
  andThen hp hf := by
    rw [Prog.expand_andThen]
    exact h.andThen hp hf

theorem Holds.expand {Op' : Type} {Ret' : Op' → Type} {G G' : Type} {M : Monitor Op Ret ε G}
    {M' : Monitor Op' Ret' ε G'} {R : G → G' → Prop} {f : (op : Op) → Prog Op' Ret' ε (Ret op)}
    (carried : ∀ g g' op, R g g' → M.permits g op →
      Holds M' (f op) (fun o x' => M.answers g op o ∧ R (M.advance g op o) x') g')
    {p : Prog Op Ret ε α} {Q : Except ε α → G → Prop} {g : G} {g' : G'} (related : R g g')
    (h : Holds M p Q g) : Holds M' (p.expand f) (fun r x' => ∃ x, R x x' ∧ Q r x) g' := by
  induction p generalizing g g' with
  | done r => exact ⟨g, related, h⟩
  | call op next ih =>
    refine (holds_andThen _ _ _ _).mpr ((carried g g' op related h.1).mono ?_)
    rintro o x' ⟨granted, rel⟩
    exact ih o rel (h.2 o granted)

end Parts
end AegisGateway.EffectProgram
