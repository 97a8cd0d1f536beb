import Mathlib.Data.List.Basic

set_option autoImplicit false

/-!
# Runs of a labelled transition relation

A run carries the label and the state of each of its steps, so that a statement
can speak of every state a run visits and of every step it takes.
-/
namespace AegisGateway.TransitionRuns

variable {σ α : Type}

def IsRun (step : σ → α → σ → Prop) : σ → List (α × σ) → Prop
  | _, [] => True
  | s, (a, t) :: rest => step s a t ∧ IsRun step t rest

/-- Each step is taken from a state in which its label meets the condition. -/
def StepsMeet (ok : σ → α → Prop) : σ → List (α × σ) → Prop
  | _, [] => True
  | s, (a, t) :: rest => ok s a ∧ StepsMeet ok t rest

def visited (s : σ) (run : List (α × σ)) : List σ := s :: run.map Prod.snd

theorem mem_visited_cons {s t u : σ} {a : α} {rest : List (α × σ)} :
    u ∈ visited s ((a, t) :: rest) ↔ u = s ∨ u ∈ visited t rest := by
  simp [visited]

def final : σ → List (α × σ) → σ
  | s, [] => s
  | _, (_, t) :: rest => final t rest

theorem final_mem_visited (s : σ) (run : List (α × σ)) : final s run ∈ visited s run := by
  induction run generalizing s with
  | nil => exact .head _
  | cons head rest ih => exact mem_visited_cons.mpr (.inr (ih head.2))

theorem final_append (s : σ) (run run' : List (α × σ)) :
    final s (run ++ run') = final (final s run) run' := by
  induction run generalizing s with
  | nil => rfl
  | cons head rest ih => exact ih head.2

theorem IsRun.append {step : σ → α → σ → Prop} {s : σ} {run run' : List (α × σ)}
    (h : IsRun step s run) (h' : IsRun step (final s run) run') : IsRun step s (run ++ run') := by
  induction run generalizing s with
  | nil => exact h'
  | cons head rest ih => exact ⟨h.1, ih h.2 h'⟩

theorem StepsMeet.append {ok : σ → α → Prop} {s : σ} {run run' : List (α × σ)}
    (h : StepsMeet ok s run) (h' : StepsMeet ok (final s run) run') :
    StepsMeet ok s (run ++ run') := by
  induction run generalizing s with
  | nil => exact h'
  | cons head rest ih => exact ⟨h.1, ih h.2 h'⟩

theorem StepsMeet.mono {ok ok' : σ → α → Prop} (imp : ∀ s a, ok s a → ok' s a) {s : σ}
    {run : List (α × σ)} (h : StepsMeet ok s run) : StepsMeet ok' s run := by
  induction run generalizing s with
  | nil => trivial
  | cons head rest ih => exact ⟨imp s head.1 h.1, ih h.2⟩

theorem IsRun.later {step : σ → α → σ → Prop} {s : σ} {run run' : List (α × σ)}
    (h : IsRun step s (run ++ run')) : IsRun step (final s run) run' := by
  induction run generalizing s with
  | nil => exact h
  | cons head rest ih => exact ih h.2

theorem StepsMeet.later {ok : σ → α → Prop} {s : σ} {run run' : List (α × σ)}
    (h : StepsMeet ok s (run ++ run')) : StepsMeet ok (final s run) run' := by
  induction run generalizing s with
  | nil => exact h
  | cons head rest ih => exact ih h.2

theorem mem_visited_append {s t : σ} {run run' : List (α × σ)} (h : t ∈ visited s run) :
    t ∈ visited s (run ++ run') := by
  induction run generalizing s with
  | nil =>
    rw [List.mem_singleton.mp h]
    exact .head _
  | cons head rest ih =>
    rcases mem_visited_cons.mp h with rfl | h
    · exact .head _
    · exact mem_visited_cons.mpr (.inr (ih h))

theorem IsRun.invariant {step : σ → α → σ → Prop} {ok : σ → α → Prop} {I : σ → Prop}
    (preserved : ∀ s a t, I s → ok s a → step s a t → I t) {s : σ} {run : List (α × σ)}
    (h : IsRun step s run) (meets : StepsMeet ok s run) (start : I s) :
    ∀ t ∈ visited s run, I t := by
  induction run generalizing s with
  | nil =>
    intro t ht
    rw [List.mem_singleton.mp ht]
    exact start
  | cons head rest ih =>
    obtain ⟨a, u⟩ := head
    intro t ht
    rcases mem_visited_cons.mp ht with rfl | ht
    · exact start
    · exact ih h.2 meets.2 (preserved s a u start meets.1 h.1) t ht

theorem IsRun.meeting {step step' : σ → α → σ → Prop} {ok : σ → α → Prop}
    (imp : ∀ s a t, step s a t → ok s a → step' s a t) {s : σ} {run : List (α × σ)}
    (h : IsRun step s run) (meets : StepsMeet ok s run) : IsRun step' s run := by
  induction run generalizing s with
  | nil => trivial
  | cons head rest ih => exact ⟨imp s head.1 head.2 h.1 meets.1, ih h.2 meets.2⟩

theorem IsRun.always {step : σ → α → σ → Prop} {I : σ → Prop}
    (preserved : ∀ s a t, I s → step s a t → I t) {s : σ} {run : List (α × σ)}
    (h : IsRun step s run) (start : I s) : ∀ t ∈ visited s run, I t := by
  have meets : StepsMeet (fun _ _ => True) s run := by
    clear h start
    induction run generalizing s with
    | nil => trivial
    | cons head rest ih => exact ⟨trivial, ih⟩
  exact h.invariant (fun s a t hs _ taken => preserved s a t hs taken) meets start

/-- Where a step keeps `P` exactly when it meets the condition, a run satisfies
`P` throughout exactly when all its steps meet it. `I` may be assumed throughout. -/
theorem IsRun.throughout_iff {step : σ → α → σ → Prop} {ok : σ → α → Prop} {I P : σ → Prop}
    (preserved : ∀ s a t, I s → step s a t → I t)
    (exact_step : ∀ s a t, I s → P s → step s a t → (P t ↔ ok s a))
    {s : σ} {run : List (α × σ)} (h : IsRun step s run) (start : I s) (holds : P s) :
    (∀ t ∈ visited s run, P t) ↔ StepsMeet ok s run := by
  induction run generalizing s with
  | nil => simpa [visited, StepsMeet] using holds
  | cons head rest ih =>
    obtain ⟨a, u⟩ := head
    have hu := exact_step s a u start holds h.1
    have hI := preserved s a u start h.1
    constructor
    · intro all
      have hPu : P u := all u (mem_visited_cons.mpr (.inr (by simp [visited])))
      refine ⟨hu.mp hPu, (ih h.2 hI hPu).mp ?_⟩
      exact fun t ht => all t (mem_visited_cons.mpr (.inr ht))
    · intro meets t ht
      rcases mem_visited_cons.mp ht with rfl | ht
      · exact holds
      · exact (ih h.2 hI (hu.mpr meets.1)).mpr meets.2 t ht

theorem IsRun.simulates {τ β : Type} {step : σ → α → σ → Prop} {step' : τ → β → τ → Prop}
    {R : σ → τ → Prop}
    (matched : ∀ s a t u, R s u → step s a t → ∃ run, IsRun step' u run ∧ R t (final u run))
    {s : σ} {u : τ} {run : List (α × σ)} (h : IsRun step s run) (related : R s u) :
    ∃ run', IsRun step' u run' ∧ R (final s run) (final u run') := by
  induction run generalizing s u with
  | nil => exact ⟨[], trivial, related⟩
  | cons head rest ih =>
    obtain ⟨first, isFirst, related'⟩ := matched s head.1 head.2 u related h.1
    obtain ⟨others, isOthers, ends⟩ := ih h.2 related'
    refine ⟨first ++ others, isFirst.append isOthers, ?_⟩
    rw [final_append]
    exact ends

end AegisGateway.TransitionRuns
