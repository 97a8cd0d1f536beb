import AegisGateway.ProgramPool
import Mathlib.Algebra.Order.BigOperators.Group.Finset
import Mathlib.Algebra.Order.Field.Rat
import Mathlib.Tactic.Linarith
import Mathlib.Tactic.Ring

set_option autoImplicit false

/-!
# What the programs of a run have spent

A run is charged from outside. A potential on the states pays for what the steps spend, and
`potential_le` bounds what it has paid by what has passed. What the programs of a pool have
spent is read off their histories. A program that was checked against its past before it
was expanded is checked against it afterwards: the past is carried out in the new one.
-/
namespace AegisGateway.RunAccounts
open EffectProgram TransitionRuns ProgramPool

section Potential
variable {σ α : Type}

/-- How much passes in a run. -/
def total (measure : α → ℚ) (run : List (α × σ)) : ℚ := (run.map fun step => measure step.1).sum

theorem total_cons (measure : α → ℚ) (head : α × σ) (rest : List (α × σ)) :
    total measure (head :: rest) = measure head.1 + total measure rest := rfl

theorem total_nonneg {measure : α → ℚ} (nonneg : ∀ a, 0 ≤ measure a) (run : List (α × σ)) :
    0 ≤ total measure run := by
  induction run with
  | nil => exact le_refl _
  | cons head rest ih =>
    rw [total_cons]
    exact add_nonneg (nonneg _) ih

/-- No step raises the potential by more than its measure at the rate. The invariant may speak
of how much is still to pass. -/
theorem potential_le {step : σ → α → σ → Prop} {I : σ → ℚ → Prop} (potential : σ → ℚ) (rate : ℚ)
    {measure : α → ℚ} (nonneg : ∀ a, 0 ≤ measure a)
    (kept : ∀ s a t rest, 0 ≤ rest → I s (measure a + rest) → step s a t →
      I t rest ∧ potential t ≤ potential s + rate * measure a)
    {s : σ} {run : List (α × σ)} (isRun : IsRun step s run) (start : I s (total measure run)) :
    I (final s run) 0 ∧ potential (final s run) ≤ potential s + rate * total measure run := by
  induction run generalizing s with
  | nil =>
    refine ⟨start, ?_⟩
    change potential s ≤ potential s + rate * 0
    linarith
  | cons head rest ih =>
    obtain ⟨a, t⟩ := head
    rw [total_cons] at start
    obtain ⟨next, raised⟩ := kept s a t (total measure rest) (total_nonneg nonneg rest) start isRun.1
    obtain ⟨ends, later⟩ := ih isRun.2 next
    refine ⟨ends, ?_⟩
    calc potential (final s ((a, t) :: rest))
      _ ≤ potential t + rate * total measure rest := later
      _ ≤ potential s + rate * measure a + rate * total measure rest := by linarith
      _ = potential s + rate * total measure ((a, t) :: rest) := by
        rw [total_cons]
        ring

/-- Each step raises the potential by what it gains, if the potential does not reach the cap. So
the potential has gained what some last stretch of the run gains, from the cap on or from the start. -/
theorem potential_floor {step : σ → α → σ → Prop} {I : σ → Prop} {ok : σ → α → Prop} (potential : σ → ℚ)
    (cap : ℚ) (gain : α → ℚ)
    (kept : ∀ s a t, I s → ok s a → step s a t →
      I t ∧ (potential s + gain a ≤ potential t ∨ cap ≤ potential t))
    {s : σ} {run : List (α × σ)} (isRun : IsRun step s run) (meets : StepsMeet ok s run) (start : I s) :
    I (final s run) ∧ ∃ before stretch, run = before ++ stretch ∧ ∃ held,
      (held = cap ∨ before = [] ∧ held = potential s) ∧
        held + total gain stretch ≤ potential (final s run) := by
  induction run generalizing s with
  | nil =>
    refine ⟨start, [], [], rfl, potential s, .inr ⟨rfl, rfl⟩, ?_⟩
    exact le_of_eq (add_zero _)
  | cons head rest ih =>
    obtain ⟨a, t⟩ := head
    obtain ⟨next, raised⟩ := kept s a t start meets.1 isRun.1
    obtain ⟨ends, before, stretch, rfl, held, origin, reaches⟩ := ih isRun.2 meets.2 next
    refine ⟨ends, ?_⟩
    rcases origin with full | ⟨rfl, same⟩
    · exact ⟨(a, t) :: before, stretch, rfl, held, .inl full, reaches⟩
    · subst same
      rcases raised with gained | full
      · refine ⟨[], (a, t) :: stretch, rfl, potential s, .inr ⟨rfl, rfl⟩, ?_⟩
        rw [total_cons]
        refine le_trans ?_ reaches
        linarith
      · refine ⟨[(a, t)], stretch, rfl, cap, .inl rfl, ?_⟩
        refine le_trans ?_ reaches
        linarith

theorem run_earlier {step : σ → α → σ → Prop} {s : σ} {run run' : List (α × σ)}
    (h : IsRun step s (run ++ run')) : IsRun step s run := by
  induction run generalizing s with
  | nil => trivial
  | cons head rest ih => exact ⟨h.1, ih h.2⟩

theorem meets_earlier {ok : σ → α → Prop} {s : σ} {run run' : List (α × σ)}
    (h : StepsMeet ok s (run ++ run')) : StepsMeet ok s run := by
  induction run generalizing s with
  | nil => trivial
  | cons head rest ih => exact ⟨h.1, ih h.2⟩

end Potential

section Histories
variable {Op : Type} {Ret : Op → Type} {ε α ι σ κ : Type}

/-- Each program can make only the calls that are allowed to it. -/
def EachUses (S : ι → Op → Prop) (p : Pool Op Ret ε α ι σ) : Prop :=
  ∀ i, (p.threads i).Uses (S i)

/-- What these programs have spent, by their answered calls. -/
def spent (weight : Event Op Ret ε → ℚ) (s : Finset ι) (p : Pool Op Ret ε α ι σ) : ℚ :=
  ∑ i ∈ s, ((p.history i).map weight).sum

theorem spent_fresh {weight : Event Op Ret ε → ℚ} {s : Finset ι} {p : Pool Op Ret ε α ι σ}
    (fresh : ∀ i ∈ s, p.history i = []) : spent weight s p = 0 := by
  refine Finset.sum_eq_zero fun i mem => ?_
  rw [fresh i mem]
  rfl

theorem cost_le_spent {weight : Event Op Ret ε → ℚ} {s : Finset ι} {p : Pool Op Ret ε α ι σ}
    {cost : ι → ℚ} (nonneg : ∀ e, 0 ≤ weight e)
    (made : ∀ i ∈ s, cost i ≤ 0 ∨ ∃ e ∈ p.history i, cost i ≤ weight e) :
    ∑ i ∈ s, cost i ≤ spent weight s p := by
  refine Finset.sum_le_sum fun i mem => ?_
  have weights : ∀ x ∈ (p.history i).map weight, 0 ≤ x := by
    intro x mem
    obtain ⟨e, -, rfl⟩ := List.mem_map.mp mem
    exact nonneg e
  rcases made i mem with free | ⟨e, here, covered⟩
  · exact free.trans (List.sum_nonneg weights)
  · exact covered.trans (List.single_le_sum weights _ (List.mem_map_of_mem here))

variable [DecidableEq ι] {W : World Op Ret ε ι σ κ} {p p' : Pool Op Ret ε α ι σ}

theorem EachUses.called {S : ι → Op → Prop} {i : ι} {e : Event Op Ret ε} (h : EachUses S p)
    (step : Step W p (.call i e) p') : S i e.1 := by
  cases step with
  | call head answered =>
    have uses := h i
    rw [head] at uses
    exact uses.1

theorem EachUses.step {S : ι → Op → Prop} {l : Label Op Ret ε ι κ} (h : EachUses S p)
    (step : Step W p l p') : EachUses S p' := by
  cases step with
  | @call i op next o s head answered =>
    intro j
    have here := h i
    rw [head] at here
    by_cases mover : j = i
    · subst mover
      simpa using here.2 o
    · simpa [mover] using h j
  | env moved => exact h

theorem Step.answered {i : ι} {e : Event Op Ret ε} (step : Step W p (.call i e) p') :
    W.answer p.shared i e.1 e.2 p'.shared := by
  cases step with
  | call head answered => exact answered

theorem history_called {i : ι} {e : Event Op Ret ε} (step : Step W p (.call i e) p') :
    p'.history = Function.update p.history i (p.history i ++ [e]) := by
  cases step with
  | call head answered => rfl

theorem mem_history_called {i j : ι} {e e' : Event Op Ret ε} (step : Step W p (.call i e) p')
    (mem : e' ∈ p'.history j) : e' ∈ p.history j ∨ j = i ∧ e' = e := by
  rw [history_called step] at mem
  by_cases mover : j = i
  · subst mover
    rw [Function.update_self] at mem
    rcases List.mem_append.mp mem with old | new
    · exact .inl old
    · exact .inr ⟨rfl, List.mem_singleton.mp new⟩
  · rw [Function.update_of_ne mover] at mem
    exact .inl mem

/-- The call, if it is one of the program's. -/
def calledBy (i : ι) : Label Op Ret ε ι κ → Option (Event Op Ret ε)
  | .call j e => if j = i then some e else none
  | .env _ => none

/-- The calls that a run answers of one program. -/
def calls (i : ι) (run : List (Label Op Ret ε ι κ × Pool Op Ret ε α ι σ)) : List (Event Op Ret ε) :=
  run.filterMap fun step => calledBy i step.1

theorem history_step {l : Label Op Ret ε ι κ} (step : Step W p l p') (i : ι) :
    p'.history i = p.history i ++ (calledBy i l).toList := by
  cases step with
  | @call j op next o s head answered =>
    rw [calledBy]
    by_cases mover : j = i
    · subst mover
      simp
    · simp [mover, Ne.symm mover]
  | env moved => exact (List.append_nil _).symm

theorem history_calls {run : List (Label Op Ret ε ι κ × Pool Op Ret ε α ι σ)}
    (isRun : IsRun (Step W) p run) (i : ι) :
    (final p run).history i = p.history i ++ calls i run := by
  induction run generalizing p with
  | nil => exact (List.append_nil _).symm
  | cons head rest ih =>
    have first := history_step isRun.1 i
    have later := ih isRun.2
    change (final head.2 rest).history i = _
    rw [later, first, List.append_assoc]
    congr 1
    rw [calls, calls, List.filterMap_cons]
    cases calledBy i head.1 <;> rfl

theorem calls_split {run : List (Label Op Ret ε ι κ × Pool Op Ret ε α ι σ)} {i : ι} {e : Event Op Ret ε}
    {t t' : List (Event Op Ret ε)} (split : calls i run = t ++ e :: t') :
    ∃ before s after, run = before ++ (.call i e, s) :: after ∧ calls i before = t ∧ calls i after = t' := by
  obtain ⟨before, rest, rfl, first, later⟩ := List.filterMap_eq_append_iff.mp split
  obtain ⟨skipped, ⟨l, s⟩, after, rfl, silent, called, last⟩ := List.filterMap_eq_cons_iff.mp later
  cases l with
  | env k => cases called
  | call j e' =>
    rw [calledBy] at called
    split at called
    case isFalse => cases called
    case isTrue own =>
      subst own
      cases called
      refine ⟨before ++ skipped, s, after, (List.append_assoc _ _ _).symm, ?_, last⟩
      have none : calls j skipped = [] := List.filterMap_eq_nil_iff.mpr silent
      rw [calls, List.filterMap_append]
      change _ ++ calls j skipped = t
      rw [none, List.append_nil]
      exact first

theorem history_from {run : List (Label Op Ret ε ι κ × Pool Op Ret ε α ι σ)} (isRun : IsRun (Step W) p run)
    {i : ι} {e : Event Op Ret ε} (mem : e ∈ (final p run).history i) :
    e ∈ p.history i ∨ ∃ before s after, run = before ++ (.call i e, s) :: after := by
  induction run generalizing p with
  | nil => exact .inl mem
  | cons head rest ih =>
    obtain ⟨l, q⟩ := head
    rcases ih isRun.2 mem with old | ⟨before, s, after, rfl⟩
    · cases l with
      | call j e' =>
        rcases mem_history_called isRun.1 old with earlier | ⟨rfl, rfl⟩
        · exact .inl earlier
        · exact .inr ⟨[], q, rest, rfl⟩
      | env k =>
        cases isRun.1 with
        | env moved => exact .inl old
    · exact .inr ⟨(l, q) :: before, s, after, rfl⟩

theorem spent_call {weight : Event Op Ret ε → ℚ} {s : Finset ι} {i : ι} {e : Event Op Ret ε}
    (step : Step W p (.call i e) p') :
    spent weight s p' = spent weight s p + if i ∈ s then weight e else 0 := by
  have charged (j : ι) : ((p'.history j).map weight).sum =
      ((p.history j).map weight).sum + if j = i then weight e else 0 := by
    cases step with
    | @call i op next o s head answered =>
      by_cases mover : j = i
      · subst mover
        simp
      · simp [mover]
  calc spent weight s p'
    _ = ∑ j ∈ s, (((p.history j).map weight).sum + if j = i then weight e else 0) :=
      Finset.sum_congr rfl fun j _ => charged j
    _ = spent weight s p + ∑ j ∈ s, if j = i then weight e else 0 := Finset.sum_add_distrib
    _ = spent weight s p + if i ∈ s then weight e else 0 := by rw [Finset.sum_ite_eq']

theorem spent_env {weight : Event Op Ret ε → ℚ} {s : Finset ι} {k : κ}
    (step : Step W p (.env k) p') : spent weight s p' = spent weight s p := by
  cases step with
  | env moved => rfl

end Histories

section Followed
variable {Op : Type} {Ret : Op → Type} {ε α ι σ κ G : Type} {p q : Prog Op Ret ε α}
  {t : List (Event Op Ret ε)}

theorem reaches_concat {op : Op} {next : Except ε (Ret op) → Prog Op Ret ε α}
    (h : Reaches p t (.call op next)) (o : Except ε (Ret op)) :
    Reaches p (t ++ [⟨op, o⟩]) (next o) := by
  generalize target : Prog.call op next = q at h
  induction h with
  | refl q =>
    subst target
    exact .call (.refl _)
  | call tail ih => exact .call (ih target)

theorem reaches_runs {r : Except ε α} (h : Reaches p t (.done r)) : Runs p t r := by
  generalize target : Prog.done r = q at h
  induction h with
  | refl q =>
    subst target
    exact .done r
  | call tail ih => exact .call (ih target)

theorem holds_reached {M : Monitor Op Ret ε G} {Q : Except ε α → G → Prop} {g : G}
    (h : Holds M p Q g) (reaches : Reaches p t q) (env : M.Answers g t) :
    Holds M q Q (M.after g t) := by
  induction reaches generalizing g with
  | refl q => exact h
  | @call op next o t q tail ih => exact ih (h.2 o env.1) env.2

theorem reached_permitted {permits : List (Event Op Ret ε) → Op → Prop}
    {Q : Except ε α → List (Event Op Ret ε) → Prop} (h : Holds (historyMonitor permits) p Q [])
    {before after : List (Event Op Ret ε)} {e : Event Op Ret ε}
    (reaches : Reaches p (before ++ e :: after) q) : permits before e.1 := by
  obtain ⟨mid, first, second⟩ := reaches.stop
  have here := holds_reached h first (historyMonitor_answers _ _)
  rw [historyMonitor_after, List.nil_append] at here
  cases second with
  | call tail => exact here.1

theorem reached_ended {permits : List (Event Op Ret ε) → Op → Prop}
    {Q : Except ε α → List (Event Op Ret ε) → Prop} (h : Holds (historyMonitor permits) p Q [])
    {r : Except ε α} (reaches : Reaches p t (.done r)) : Q r t := by
  have ended := holds_reached h reaches (historyMonitor_answers _ _)
  rw [historyMonitor_after, List.nil_append] at ended
  exact ended

theorem uses_and_history {S : Op → Prop} {permits : List (Event Op Ret ε) → Op → Prop}
    {Q : Except ε α → List (Event Op Ret ε) → Prop} {past : List (Event Op Ret ε)} (uses : p.Uses S)
    (h : Holds (historyMonitor permits) p Q past) :
    Holds (historyMonitor fun past op => S op ∧ permits past op) p Q past := by
  induction p generalizing past with
  | done r => exact h
  | call op next ih => exact ⟨⟨uses.1, h.1⟩, fun o _ => ih o (uses.2 o) (h.2 o trivial)⟩

/-- Each program has come to where it is by its answered calls. -/
def Followed (programs : ι → Prog Op Ret ε α) (pool : Pool Op Ret ε α ι σ) : Prop :=
  ∀ i, Reaches (programs i) (pool.history i) (pool.threads i)

theorem start_followed (s : σ) (programs : ι → Prog Op Ret ε α) :
    Followed programs (Pool.start s programs) := fun i => .refl (programs i)

variable [DecidableEq ι] {W : World Op Ret ε ι σ κ} {pool pool' : Pool Op Ret ε α ι σ}

theorem Followed.step {programs : ι → Prog Op Ret ε α} {l : Label Op Ret ε ι κ}
    (h : Followed programs pool) (step : Step W pool l pool') : Followed programs pool' := by
  cases step with
  | @call i op next o s head answered =>
    intro j
    by_cases mover : j = i
    · subst mover
      have here := h j
      rw [head] at here
      simpa using reaches_concat here o
    · simpa [mover] using h j
  | env moved => exact h

theorem Followed.run {programs : ι → Prog Op Ret ε α}
    {run : List (Label Op Ret ε ι κ × Pool Op Ret ε α ι σ)} (h : Followed programs pool)
    (isRun : IsRun (Step W) pool run) : Followed programs (final pool run) :=
  isRun.always (I := Followed programs) (fun _ _ _ held step => held.step step) h _
    (final_mem_visited pool run)

end Followed

section Carried
variable {Op : Type} {Ret : Op → Type} {ε α : Type} {Op' : Type} {Ret' : Op' → Type}
  {f : (op : Op) → Prog Op' Ret' ε (Ret op)}

/-- Each call of the past was carried out by a run among the new calls. -/
def CarriedOut (f : (op : Op) → Prog Op' Ret' ε (Ret op)) (past : List (Event Op Ret ε))
    (new : List (Event Op' Ret' ε)) : Prop :=
  ∀ e ∈ past, ∃ part, Runs (f e.1) part e.2 ∧ part ⊆ new

theorem CarriedOut.grow {past : List (Event Op Ret ε)} {new more : List (Event Op' Ret' ε)}
    (h : CarriedOut f past new) (grown : new ⊆ more) : CarriedOut f past more := by
  intro e mem
  obtain ⟨part, run, among⟩ := h e mem
  exact ⟨part, run, List.Subset.trans among grown⟩

/-- A new call is part of an old one, and what is demanded of that one was demanded of its past. -/
def carriedPermits (f : (op : Op) → Prog Op' Ret' ε (Ret op)) (partOf : Op → Op' → Prop)
    (permits : List (Event Op Ret ε) → Op → Prop) (new : List (Event Op' Ret' ε)) (op' : Op') : Prop :=
  ∃ op past, partOf op op' ∧ CarriedOut f past new ∧ permits past op

theorem carried_part {permits : List (Event Op' Ret' ε) → Op' → Prop} {S : Op' → Prop}
    {p : Prog Op' Ret' ε α} (uses : p.Uses S) (new : List (Event Op' Ret' ε))
    (free : ∀ part op, S op → permits (new ++ part) op) :
    Holds (historyMonitor permits) p (fun r new' => ∃ part, new' = new ++ part ∧ Runs p part r)
      new := by
  induction p generalizing new with
  | done r => exact ⟨[], (List.append_nil _).symm, .done r⟩
  | call op next ih =>
    have here := free [] op uses.1
    rw [List.append_nil] at here
    refine ⟨here, fun o _ => ?_⟩
    refine (ih o (uses.2 o) (new ++ [⟨op, o⟩]) fun part op' used => ?_).mono ?_
    · rw [List.append_assoc]
      exact free _ op' used
    · rintro r new' ⟨part, rfl, run⟩
      exact ⟨⟨op, o⟩ :: part, by simp, .call run⟩

theorem expand_history {partOf : Op → Op' → Prop} {permits : List (Event Op Ret ε) → Op → Prop}
    (parts : ∀ op, (f op).Uses (partOf op)) {p : Prog Op Ret ε α}
    {Q : Except ε α → List (Event Op Ret ε) → Prop} (h : Holds (historyMonitor permits) p Q []) :
    Holds (historyMonitor (carriedPermits f partOf permits)) (p.expand f)
      (fun r new => ∃ past, CarriedOut f past new ∧ Q r past) [] := by
  have empty : CarriedOut f [] [] := by simp [CarriedOut]
  have carries (past : List (Event Op Ret ε)) (new : List (Event Op' Ret' ε)) (op : Op)
      (carried : CarriedOut f past new) (permitted : permits past op) :
      Holds (historyMonitor (carriedPermits f partOf permits)) (f op)
        (fun o new' => True ∧ CarriedOut f (past ++ [⟨op, o⟩]) new') new := by
    refine (carried_part (parts op) new ?_).mono ?_
    · intro part op' used
      exact ⟨op, past, used, carried.grow (List.subset_append_left _ _), permitted⟩
    · rintro o _ ⟨part, rfl, run⟩
      refine ⟨trivial, fun e mem => ?_⟩
      rcases List.mem_append.mp mem with old | here
      · exact carried.grow (List.subset_append_left _ _) e old
      · rw [List.mem_singleton.mp here]
        exact ⟨part, run, List.subset_append_right _ _⟩
  exact Holds.expand carries empty h

end Carried
end AegisGateway.RunAccounts
