import AegisGateway.EffectProgram
import AegisGateway.TransitionRuns
import Mathlib.Algebra.BigOperators.Ring.Finset
import Mathlib.Data.Fintype.BigOperators
import Mathlib.Tactic.Abel

set_option autoImplicit false

/-!
# Programs run side by side

Any number of programs share a state. In one step one of them has its next call
answered from the shared state, or the environment moves on its own. Every
interleaving is a run of `Step`. When each program holds against a monitor, a
claim about a run only has to look at the shared state and at the monitors'
states: `step_cases` says what one step does to both. `World.Ends` is how one program
can end when no other moves.
-/
namespace AegisGateway.ProgramPool
open EffectProgram TransitionRuns

/-- How the shared state answers calls, and how it changes by itself. -/
structure World (Op : Type) (Ret : Op → Type) (ε ι σ κ : Type) where
  answer : σ → ι → (op : Op) → Except ε (Ret op) → σ → Prop
  passes : σ → κ → σ → Prop

structure Pool (Op : Type) (Ret : Op → Type) (ε α ι σ : Type) where
  shared : σ
  threads : ι → Prog Op Ret ε α
  history : ι → List (Event Op Ret ε)

inductive Label (Op : Type) (Ret : Op → Type) (ε ι κ : Type) where
  | call (i : ι) (event : Event Op Ret ε)
  | env (k : κ)

section Steps
variable {Op : Type} {Ret : Op → Type} {ε α ι σ κ G : Type}

/-- The programs at their beginning. -/
def Pool.start (s : σ) (threads : ι → Prog Op Ret ε α) : Pool Op Ret ε α ι σ :=
  ⟨s, threads, fun _ => []⟩

section Tracking
variable (M : Monitor Op Ret ε G) (Q : ι → Except ε α → G → Prop) (g : ι → G)

/-- The state of each program's monitor. -/
def Pool.monitored (p : Pool Op Ret ε α ι σ) (i : ι) : G := M.after (g i) (p.history i)

/-- Each program has kept to its monitor and still holds from the state reached. -/
def Pool.Tracked (p : Pool Op Ret ε α ι σ) : Prop :=
  ∀ i, M.Accepts (g i) (p.history i) ∧ Holds M (p.threads i) (Q i) (p.monitored M g i)

variable {M Q g}

theorem Pool.start_tracked {s : σ} {threads : ι → Prog Op Ret ε α}
    (holds : ∀ i, Holds M (threads i) (Q i) (g i)) :
    (Pool.start s threads).Tracked M Q g := fun i => ⟨trivial, holds i⟩

end Tracking

/-- The state answers these calls of one program in turn, each in a state that meets `C`. -/
def World.Serves (W : World Op Ret ε ι σ κ) (C : σ → Event Op Ret ε → Prop) (i : ι) :
    σ → List (Event Op Ret ε) → σ → Prop
  | s, [], s' => s' = s
  | s, e :: t, s' => C s e ∧ ∃ mid, W.answer s i e.1 e.2 mid ∧ W.Serves C i mid t s'

theorem World.Serves.append {W : World Op Ret ε ι σ κ} {C : σ → Event Op Ret ε → Prop} {i : ι}
    {s s' s'' : σ} {t t' : List (Event Op Ret ε)} (h : W.Serves C i s t s')
    (h' : W.Serves C i s' t' s'') : W.Serves C i s (t ++ t') s'' := by
  induction t generalizing s with
  | nil =>
    cases h
    exact h'
  | cons e t ih =>
    obtain ⟨meets, mid, answered, rest⟩ := h
    exact ⟨meets, mid, answered, ih rest⟩

section Alone
variable {β : Type} {W : World Op Ret ε ι σ κ} {i : ι} {s s' : σ}

/-- Alone from the state, the program can end like this. -/
def World.Ends (W : World Op Ret ε ι σ κ) (i : ι) (p : Prog Op Ret ε α) (s : σ) (r : Except ε α)
    (s' : σ) : Prop :=
  ∃ t, Runs p t r ∧ W.Serves (fun _ _ => True) i s t s'

theorem World.ends_done {r r' : Except ε α} :
    W.Ends i (.done r) s r' s' ↔ r' = r ∧ s' = s := by
  constructor
  · rintro ⟨t, run, serves⟩
    obtain ⟨rfl, same⟩ := runs_done run
    exact ⟨same, serves⟩
  · rintro ⟨rfl, rfl⟩
    exact ⟨[], .done _, rfl⟩

theorem World.ends_call {op : Op} {next : Except ε (Ret op) → Prog Op Ret ε α} {r : Except ε α} :
    W.Ends i (.call op next) s r s' ↔ ∃ o mid, W.answer s i op o mid ∧ W.Ends i (next o) mid r s' := by
  constructor
  · rintro ⟨t, run, serves⟩
    cases run with
    | @call _ _ o t _ tail =>
      obtain ⟨_, mid, answered, rest⟩ := serves
      exact ⟨o, mid, answered, t, tail, rest⟩
  · rintro ⟨o, mid, answered, t, tail, rest⟩
    exact ⟨⟨op, o⟩ :: t, .call tail, trivial, mid, answered, rest⟩

theorem World.ends_bind {p : Prog Op Ret ε α} {f : α → Prog Op Ret ε β} {r : Except ε β} :
    W.Ends i (p >>= f) s r s' ↔
      (∃ e, W.Ends i p s (.error e) s' ∧ r = .error e) ∨
        ∃ a mid, W.Ends i p s (.ok a) mid ∧ W.Ends i (f a) mid r s' := by
  induction p generalizing s with
  | done result =>
    change W.Ends i (Prog.onValue f result) s r s' ↔ _
    simp only [ends_done]
    cases result with
    | error e =>
      change W.Ends i (.done (.error e)) s r s' ↔ _
      rw [ends_done]
      constructor
      · rintro ⟨rfl, rfl⟩
        exact .inl ⟨e, ⟨rfl, rfl⟩, rfl⟩
      · rintro (⟨_, ⟨same, rfl⟩, rfl⟩ | ⟨_, _, ⟨same, _⟩, _⟩)
        · exact ⟨congrArg _ (Except.error.inj same), rfl⟩
        · cases same
    | ok a =>
      constructor
      · intro ends
        exact .inr ⟨a, s, ⟨rfl, rfl⟩, ends⟩
      · rintro (⟨_, ⟨same, _⟩, _⟩ | ⟨_, _, ⟨same, rfl⟩, ends⟩)
        · cases same
        · cases same
          exact ends
  | call op next ih =>
    have unfolded : W.Ends i (.call op next >>= f) s r s' ↔
        ∃ o mid, W.answer s i op o mid ∧ W.Ends i (next o >>= f) mid r s' := ends_call
    simp only [unfolded, ih, ends_call]
    constructor
    · rintro ⟨o, mid, answered, ⟨e, ends, rfl⟩ | ⟨a, mid', ends, rest⟩⟩
      · exact .inl ⟨e, ⟨o, mid, answered, ends⟩, rfl⟩
      · exact .inr ⟨a, mid', ⟨o, mid, answered, ends⟩, rest⟩
    · rintro (⟨e, ⟨o, mid, answered, ends⟩, rfl⟩ | ⟨a, mid', ⟨o, mid, answered, ends⟩, rest⟩)
      · exact ⟨o, mid, answered, .inl ⟨e, ends, rfl⟩⟩
      · exact ⟨o, mid, answered, .inr ⟨a, mid', ends, rest⟩⟩

theorem World.ends_perform {op : Op} {r : Except ε (Ret op)} :
    W.Ends i (Prog.perform op) s r s' ↔ W.answer s i op r s' := by
  refine ends_call.trans ?_
  constructor
  · rintro ⟨o, mid, answered, ends⟩
    obtain ⟨rfl, rfl⟩ := ends_done.mp ends
    exact answered
  · intro answered
    exact ⟨r, s', answered, ends_done.mpr ⟨rfl, rfl⟩⟩

theorem World.exists_ends (total : ∀ s op, ∃ o s', W.answer s i op o s') (p : Prog Op Ret ε α)
    (s : σ) : ∃ r s', W.Ends i p s r s' := by
  induction p generalizing s with
  | done r => exact ⟨r, s, ends_done.mpr ⟨rfl, rfl⟩⟩
  | call op next ih =>
    obtain ⟨o, mid, answered⟩ := total s op
    obtain ⟨r, s', ends⟩ := ih o mid
    exact ⟨r, s', ends_call.mpr ⟨o, mid, answered, ends⟩⟩

end Alone

/-- A call meets the condition in the shared state in which it is answered. -/
def Pool.Meets (C : σ → Event Op Ret ε → Prop) (p : Pool Op Ret ε α ι σ) : Label Op Ret ε ι κ → Prop
  | .call _ e => C p.shared e
  | .env _ => True

variable [DecidableEq ι]

inductive Step (W : World Op Ret ε ι σ κ) :
    Pool Op Ret ε α ι σ → Label Op Ret ε ι κ → Pool Op Ret ε α ι σ → Prop where
  | call {p : Pool Op Ret ε α ι σ} {i : ι} {op : Op}
      {next : Except ε (Ret op) → Prog Op Ret ε α} {o : Except ε (Ret op)} {s : σ}
      (head : p.threads i = .call op next) (answered : W.answer p.shared i op o s) :
      Step W p (.call i ⟨op, o⟩)
        ⟨s, Function.update p.threads i (next o),
          Function.update p.history i (p.history i ++ [⟨op, o⟩])⟩
  | env {p : Pool Op Ret ε α ι σ} {k : κ} {s : σ} (moved : W.passes p.shared k s) :
      Step W p (.env k) { p with shared := s }

theorem Step.history_mono {W : World Op Ret ε ι σ κ} {p p' : Pool Op Ret ε α ι σ}
    {l : Label Op Ret ε ι κ} (step : Step W p l p') (i : ι) {e : Event Op Ret ε}
    (mem : e ∈ p.history i) : e ∈ p'.history i := by
  cases step with
  | @call j op next o s head answered =>
    change e ∈ Function.update p.history j (p.history j ++ [⟨op, o⟩]) i
    by_cases same : i = j
    · subst same
      rw [Function.update_self]
      exact List.mem_append_left _ mem
    · rw [Function.update_of_ne same]
      exact mem
  | env moved => exact mem

variable {M : Monitor Op Ret ε G} {Q : ι → Except ε α → G → Prop} {g : ι → G}

theorem step_cases {W : World Op Ret ε ι σ κ}
    (granted : ∀ s i op o s' x, W.answer s i op o s' → M.answers x op o)
    {p p' : Pool Op Ret ε α ι σ} {l : Label Op Ret ε ι κ}
    (tracked : p.Tracked M Q g) (step : Step W p l p') :
    p'.Tracked M Q g ∧
    ((∃ i op o, l = .call i ⟨op, o⟩ ∧ M.permits (p.monitored M g i) op ∧
        W.answer p.shared i op o p'.shared ∧
        p'.monitored M g = Function.update (p.monitored M g) i
          (M.advance (p.monitored M g i) op o)) ∨
      ∃ k, l = .env k ∧ W.passes p.shared k p'.shared ∧ p'.monitored M g = p.monitored M g) := by
  cases step with
  | @call i op next o s head answered =>
    obtain ⟨past, here⟩ := tracked i
    rw [head] at here
    have mon : Pool.monitored M g (⟨s, Function.update p.threads i (next o),
        Function.update p.history i (p.history i ++ [⟨op, o⟩])⟩ : Pool Op Ret ε α ι σ) =
        Function.update (p.monitored M g) i (M.advance (p.monitored M g i) op o) := by
      funext j
      by_cases hj : j = i
      · subst hj
        simp [Pool.monitored, Monitor.after_concat]
      · simp [Pool.monitored, hj]
    have granted_here := granted _ _ _ _ _ (p.monitored M g i) answered
    refine ⟨?_, .inl ⟨i, op, o, rfl, here.1, answered, mon⟩⟩
    intro j
    rw [mon]
    by_cases hj : j = i
    · subst hj
      simp only [Function.update_self]
      exact ⟨(M.accepts_concat _ _ _).mpr ⟨past, here.1, granted_here⟩, here.2 o granted_here⟩
    · simp only [Function.update_of_ne hj]
      exact tracked j
  | env moved => exact ⟨tracked, .inr ⟨_, rfl, moved, rfl⟩⟩

/-- The same world, with answers that meet `C` only. -/
def World.given (W : World Op Ret ε ι σ κ) (C : Event Op Ret ε → Prop) : World Op Ret ε ι σ κ where
  answer s i op o s' := W.answer s i op o s' ∧ C ⟨op, o⟩
  passes := W.passes

theorem Step.given {W : World Op Ret ε ι σ κ} {C : Event Op Ret ε → Prop}
    {p p' : Pool Op Ret ε α ι σ} {l : Label Op Ret ε ι κ} (step : Step W p l p')
    (meets : p.Meets (fun _ e => C e) l) : Step (W.given C) p l p' := by
  cases step with
  | call head answered => exact .call head ⟨answered, meets⟩
  | env moved => exact .env moved

theorem solo_run {W : World Op Ret ε ι σ κ} {C : σ → Event Op Ret ε → Prop}
    {p : Pool Op Ret ε α ι σ} {i : ι} {t : List (Event Op Ret ε)} {q : Prog Op Ret ε α} {s : σ}
    (reaches : Reaches (p.threads i) t q) (serves : W.Serves C i p.shared t s) :
    ∃ run, IsRun (Step W) p run ∧ StepsMeet (Pool.Meets C) p run ∧
      final p run = ⟨s, Function.update p.threads i q,
        Function.update p.history i (p.history i ++ t)⟩ ∧
      run.map Prod.fst = t.map (.call i) := by
  generalize thread : p.threads i = prog at reaches
  induction reaches generalizing p with
  | refl prog =>
    cases serves
    refine ⟨[], trivial, trivial, ?_, rfl⟩
    rw [← thread, List.append_nil, Function.update_eq_self, Function.update_eq_self]
    rfl
  | @call op next o t q tail ih =>
    obtain ⟨meets, mid, answered, rest⟩ := serves
    let moved : Pool Op Ret ε α ι σ := ⟨mid, Function.update p.threads i (next o),
      Function.update p.history i (p.history i ++ [⟨op, o⟩])⟩
    obtain ⟨run, isRun, allMeet, ends, labels⟩ := ih (p := moved) rest (Function.update_self _ _ _)
    refine ⟨(.call i ⟨op, o⟩, moved) :: run, ⟨.call thread answered, isRun⟩, ⟨meets, allMeet⟩, ?_, ?_⟩
    · change final moved run = _
      rw [ends]
      simp [moved]
    · rw [List.map_cons, List.map_cons, labels]

section Updates
variable {x : ι → G} {i j : ι} {y : G} {Q : G → Prop}

theorem update_cases (h : Q (Function.update x i y j)) : j = i ∧ Q y ∨ j ≠ i ∧ Q (x j) := by
  by_cases mover : j = i
  · rw [mover, Function.update_self] at h
    exact .inl ⟨mover, h⟩
  · rw [Function.update_of_ne mover] at h
    exact .inr ⟨mover, h⟩

theorem unique_update (unique : ∀ j k, Q (x j) → Q (x k) → j = k)
    (alone : Q y → ∀ j, j ≠ i → ¬ Q (x j)) (j k : ι) (first : Q (Function.update x i y j))
    (second : Q (Function.update x i y k)) : j = k := by
  rcases update_cases first with ⟨mover, has⟩ | ⟨other, had⟩
  · rcases update_cases second with ⟨mover', _⟩ | ⟨other', had'⟩
    · exact mover.trans mover'.symm
    · exact absurd had' (alone has k other')
  · rcases update_cases second with ⟨_, has'⟩ | ⟨_, had'⟩
    · exact absurd had (alone has' j other)
    · exact unique j k had had'

end Updates

theorem sum_update [Fintype ι] (w : G → ℤ) (x : ι → G) (i : ι) (y : G) :
    ∑ j, w (Function.update x i y j) = ∑ j, w (x j) + (w y - w (x i)) := by
  have hcomp : (fun j => w (Function.update x i y j)) =
      Function.update (fun j => w (x j)) i (w y) := by
    funext j
    exact Function.apply_update (fun _ => w) x i y j
  rw [hcomp, Finset.sum_update_of_mem (Finset.mem_univ i),
    ← Finset.add_sum_erase Finset.univ (fun j => w (x j)) (Finset.mem_univ i),
    Finset.sdiff_singleton_eq_erase]
  abel

end Steps
end AegisGateway.ProgramPool
