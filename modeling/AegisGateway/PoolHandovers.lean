import AegisGateway.RunAccounts

set_option autoImplicit false

/-!
# What one pool hands to another

Two pools side by side. Some answered calls of the first give the second something, as a move
of its environment. What has been handed over is a list, and a program that makes such a call
at most once is in it at most once.
-/
namespace AegisGateway.PoolHandovers
open EffectProgram TransitionRuns ProgramPool RunAccounts

section Once
variable {Op : Type} {Ret : Op → Type} {ε α β : Type} {C : Op → Bool} {past : List (Event Op Ret ε)}

/-- None of these calls has been made. -/
def Unmade (C : Op → Bool) (past : List (Event Op Ret ε)) : Prop := ∀ e ∈ past, C e.1 = false

/-- No second call of the kind. -/
def onceMonitor (C : Op → Bool) : Monitor Op Ret ε (List (Event Op Ret ε)) :=
  historyMonitor fun past op => C op = true → Unmade C past

theorem unmade_nil : Unmade C ([] : List (Event Op Ret ε)) := by
  intro e mem
  cases mem

theorem free_holds {p : Prog Op Ret ε α} (free : p.Uses (C · = false)) (past : List (Event Op Ret ε)) :
    Holds (onceMonitor C) p (fun _ past' => past ⊆ past' ∧ (Unmade C past → Unmade C past')) past := by
  have permitted (past : List (Event Op Ret ε)) (op : Op) (other : C op = false) :
      C op = true → Unmade C past := by
    intro same
    rw [other] at same
    cases same
  refine (free.holds_history permitted past).mono ?_
  rintro r _ ⟨new, rfl, run⟩
  refine ⟨List.subset_append_left past new, fun unmade e mem => ?_⟩
  rcases List.mem_append.mp mem with old | here
  · exact unmade e old
  · exact free.of_runs run e here

theorem before_call {p : Prog Op Ret ε α} {f : α → Prog Op Ret ε β}
    {Q : Except ε β → List (Event Op Ret ε) → Prop} (free : p.Uses (C · = false)) (unmade : Unmade C past)
    (raised : ∀ e past', Q (.error e) past')
    (next : ∀ a past', Unmade C past' → Holds (onceMonitor C) (f a) Q past') :
    Holds (onceMonitor C) (p >>= f) Q past := by
  apply Holds.bind
  refine (free_holds free past).mono fun r past' kept => ?_
  cases r with
  | ok a => exact next a past' (kept.2 unmade)
  | error e => exact raised e past'

/-- Such a program and what follows it, when the call may have been made. -/
theorem after_call {p : Prog Op Ret ε α} {Q : Except ε α → List (Event Op Ret ε) → Prop}
    (free : p.Uses (C · = false)) (ended : ∀ r past', past ⊆ past' → Q r past') :
    Holds (onceMonitor C) p Q past :=
  (free_holds free past).mono fun r past' kept => ended r past' kept.1

end Once

section Coupled
variable {Op Op' : Type} {Ret : Op → Type} {Ret' : Op' → Type} {ε ε' α α' ι ι' σ σ' κ κ' : Type}

/-- What an answered call can hand over. One that keeps may hand over nothing. -/
structure Handover (Op : Type) (Ret : Op → Type) (ε κ' : Type) where
  keeps : Event Op Ret ε → Prop
  hands : Event Op Ret ε → κ' → Prop

structure Coupled (Op : Type) (Ret : Op → Type) (ε α ι σ : Type) (Op' : Type) (Ret' : Op' → Type)
    (ε' α' ι' σ' : Type) where
  first : Pool Op Ret ε α ι σ
  second : Pool Op' Ret' ε' α' ι' σ'

inductive CoupledLabel (Op : Type) (Ret : Op → Type) (ε ι κ : Type) (Op' : Type) (Ret' : Op' → Type)
    (ε' ι' κ' : Type) where
  | first (l : Label Op Ret ε ι κ)
  | handed (i : ι) (e : Event Op Ret ε) (k : κ')
  | second (i : ι') (e : Event Op' Ret' ε')

variable [DecidableEq ι] [DecidableEq ι']

inductive CoupledStep (W : World Op Ret ε ι σ κ) (W' : World Op' Ret' ε' ι' σ' κ')
    (H : Handover Op Ret ε κ') :
    Coupled Op Ret ε α ι σ Op' Ret' ε' α' ι' σ' → CoupledLabel Op Ret ε ι κ Op' Ret' ε' ι' κ' →
      Coupled Op Ret ε α ι σ Op' Ret' ε' α' ι' σ' → Prop where
  | first {p : Pool Op Ret ε α ι σ} {p' : Pool Op Ret ε α ι σ} {q : Pool Op' Ret' ε' α' ι' σ'}
      {l : Label Op Ret ε ι κ} (step : Step W p l p') (kept : p.Meets (fun _ e => H.keeps e) l) :
      CoupledStep W W' H ⟨p, q⟩ (.first l) ⟨p', q⟩
  | handed {p : Pool Op Ret ε α ι σ} {p' : Pool Op Ret ε α ι σ} {q q' : Pool Op' Ret' ε' α' ι' σ'}
      {i : ι} {e : Event Op Ret ε} {k : κ'} (step : Step W p (.call i e) p') (hands : H.hands e k)
      (moved : Step W' q (.env k) q') : CoupledStep W W' H ⟨p, q⟩ (.handed i e k) ⟨p', q'⟩
  | second {p : Pool Op Ret ε α ι σ} {q q' : Pool Op' Ret' ε' α' ι' σ'} {i : ι'} {e : Event Op' Ret' ε'}
      (step : Step W' q (.call i e) q') : CoupledStep W W' H ⟨p, q⟩ (.second i e) ⟨p, q'⟩

/-- What a step is to the first pool. -/
def firstLabel : CoupledLabel Op Ret ε ι κ Op' Ret' ε' ι' κ' → Option (Label Op Ret ε ι κ)
  | .first l => some l
  | .handed i e _ => some (.call i e)
  | .second _ _ => none

/-- What a step is to the second pool. -/
def secondLabel : CoupledLabel Op Ret ε ι κ Op' Ret' ε' ι' κ' → Option (Label Op' Ret' ε' ι' κ')
  | .first _ => none
  | .handed _ _ k => some (.env k)
  | .second i e => some (.call i e)

def handoverOf : CoupledLabel Op Ret ε ι κ Op' Ret' ε' ι' κ' → Option (ι × κ')
  | .handed i _ k => some (i, k)
  | _ => none

abbrev CoupledRun (Op : Type) (Ret : Op → Type) (ε α ι σ κ : Type) (Op' : Type) (Ret' : Op' → Type)
    (ε' α' ι' σ' κ' : Type) :=
  List (CoupledLabel Op Ret ε ι κ Op' Ret' ε' ι' κ' × Coupled Op Ret ε α ι σ Op' Ret' ε' α' ι' σ')

/-- Who handed over what, in order. -/
def handovers (run : CoupledRun Op Ret ε α ι σ κ Op' Ret' ε' α' ι' σ' κ') : List (ι × κ') :=
  run.filterMap fun step => handoverOf step.1

end Coupled

section Projections
variable {τ τ' β β' : Type} {step : τ → β → τ → Prop} {step' : τ' → β' → τ' → Prop} {view : τ → τ'}
  {label : β → Option β'}

/-- The steps of a run that are seen from a part of the system. -/
def projected (view : τ → τ') (label : β → Option β') (run : List (β × τ)) : List (β' × τ') :=
  run.filterMap fun taken => (label taken.1).map fun b => (b, view taken.2)

theorem projected_run (silent : ∀ s b t, step s b t → label b = none → view t = view s)
    (shown : ∀ s b t b', step s b t → label b = some b' → step' (view s) b' (view t)) {s : τ}
    {run : List (β × τ)} (isRun : IsRun step s run) :
    IsRun step' (view s) (projected view label run) ∧
      final (view s) (projected view label run) = view (final s run) := by
  induction run generalizing s with
  | nil => exact ⟨trivial, rfl⟩
  | cons head rest ih =>
    obtain ⟨b, t⟩ := head
    obtain ⟨later, ends⟩ := ih isRun.2
    cases seen : label b with
    | none =>
      have skipped : projected view label ((b, t) :: rest) = projected view label rest := by
        simp [projected, seen]
      rw [skipped, ← silent s b t isRun.1 seen]
      exact ⟨later, ends⟩
    | some b' =>
      have taken : projected view label ((b, t) :: rest) = (b', view t) :: projected view label rest := by
        simp [projected, seen]
      rw [taken]
      exact ⟨⟨shown s b t b' isRun.1 seen, later⟩, ends⟩

theorem projected_meets {ok : τ → β → Prop} {ok' : τ' → β' → Prop}
    (silent : ∀ s b t, step s b t → label b = none → view t = view s)
    (meets : ∀ s b b', ok s b → label b = some b' → ok' (view s) b') {s : τ} {run : List (β × τ)}
    (isRun : IsRun step s run) (h : StepsMeet ok s run) :
    StepsMeet ok' (view s) (projected view label run) := by
  induction run generalizing s with
  | nil => trivial
  | cons head rest ih =>
    obtain ⟨b, t⟩ := head
    have later := ih isRun.2 h.2
    cases seen : label b with
    | none =>
      have skipped : projected view label ((b, t) :: rest) = projected view label rest := by
        simp [projected, seen]
      rw [skipped, ← silent s b t isRun.1 seen]
      exact later
    | some b' =>
      have taken : projected view label ((b, t) :: rest) = (b', view t) :: projected view label rest := by
        simp [projected, seen]
      rw [taken]
      exact ⟨meets s b b' h.1 seen, later⟩

end Projections

section Runs
variable {Op Op' : Type} {Ret : Op → Type} {Ret' : Op' → Type} {ε ε' α α' ι ι' σ σ' κ κ' : Type}
  [DecidableEq ι] [DecidableEq ι'] {W : World Op Ret ε ι σ κ} {W' : World Op' Ret' ε' ι' σ' κ'}
  {H : Handover Op Ret ε κ'} {s t : Coupled Op Ret ε α ι σ Op' Ret' ε' α' ι' σ'}
  {run : CoupledRun Op Ret ε α ι σ κ Op' Ret' ε' α' ι' σ' κ'}

theorem first_run (isRun : IsRun (CoupledStep W W' H) s run) :
    IsRun (Step W) s.first (projected Coupled.first firstLabel run) ∧
      final s.first (projected Coupled.first firstLabel run) = (final s run).first := by
  apply projected_run _ _ isRun
  · intro s b t step silent
    cases step with
    | second step => rfl
    | _ => cases silent
  · intro s b t b' step seen
    cases step with
    | first step kept =>
      cases seen
      exact step
    | handed step hands moved =>
      cases seen
      exact step
    | second step => cases seen

theorem second_silent (s : Coupled Op Ret ε α ι σ Op' Ret' ε' α' ι' σ')
    (b : CoupledLabel Op Ret ε ι κ Op' Ret' ε' ι' κ') (t : Coupled Op Ret ε α ι σ Op' Ret' ε' α' ι' σ')
    (step : CoupledStep W W' H s b t) (silent : secondLabel b = none) : t.second = s.second := by
  cases step with
  | first step kept => rfl
  | _ => cases silent

theorem second_run (isRun : IsRun (CoupledStep W W' H) s run) :
    IsRun (Step W') s.second (projected Coupled.second secondLabel run) ∧
      final s.second (projected Coupled.second secondLabel run) = (final s run).second := by
  apply projected_run second_silent _ isRun
  intro s b t b' step seen
  cases step with
  | first step kept => cases seen
  | handed step hands moved =>
    cases seen
    exact moved
  | second step =>
    cases seen
    exact step

theorem second_meets {ok : Coupled Op Ret ε α ι σ Op' Ret' ε' α' ι' σ' →
      CoupledLabel Op Ret ε ι κ Op' Ret' ε' ι' κ' → Prop}
    {ok' : Pool Op' Ret' ε' α' ι' σ' → Label Op' Ret' ε' ι' κ' → Prop}
    (meets : ∀ s b b', ok s b → secondLabel b = some b' → ok' s.second b')
    (isRun : IsRun (CoupledStep W W' H) s run) (h : StepsMeet ok s run) :
    StepsMeet ok' s.second (projected Coupled.second secondLabel run) :=
  projected_meets second_silent meets isRun h

/-- A run of the first pool that hands nothing over, while the second waits. -/
def beside (q : Pool Op' Ret' ε' α' ι' σ') (run : List (Label Op Ret ε ι κ × Pool Op Ret ε α ι σ)) :
    CoupledRun Op Ret ε α ι σ κ Op' Ret' ε' α' ι' σ' κ' :=
  run.map fun taken => (.first taken.1, ⟨taken.2, q⟩)

theorem beside_run {p : Pool Op Ret ε α ι σ} {q : Pool Op' Ret' ε' α' ι' σ'}
    {alone : List (Label Op Ret ε ι κ × Pool Op Ret ε α ι σ)} (isRun : IsRun (Step W) p alone)
    (kept : StepsMeet (Pool.Meets fun _ e => H.keeps e) p alone) :
    IsRun (CoupledStep W W' H) ⟨p, q⟩ (beside q alone) ∧
      final ⟨p, q⟩ (beside q alone : CoupledRun Op Ret ε α ι σ κ Op' Ret' ε' α' ι' σ' κ') =
        ⟨final p alone, q⟩ := by
  induction alone generalizing p with
  | nil => exact ⟨trivial, rfl⟩
  | cons head rest ih =>
    obtain ⟨later, ends⟩ := ih isRun.2 kept.2
    exact ⟨⟨.first isRun.1 kept.1, later⟩, ends⟩

omit [DecidableEq ι] [DecidableEq ι'] in
theorem beside_meets {ok : Coupled Op Ret ε α ι σ Op' Ret' ε' α' ι' σ' →
      CoupledLabel Op Ret ε ι κ Op' Ret' ε' ι' κ' → Prop} {q : Pool Op' Ret' ε' α' ι' σ'}
    (free : ∀ p l, ok ⟨p, q⟩ (.first l)) (p : Pool Op Ret ε α ι σ)
    (alone : List (Label Op Ret ε ι κ × Pool Op Ret ε α ι σ)) :
    StepsMeet ok ⟨p, q⟩ (beside q alone) := by
  induction alone generalizing p with
  | nil => trivial
  | cons head rest ih => exact ⟨free p head.1, ih head.2⟩

omit [DecidableEq ι] [DecidableEq ι'] in
theorem beside_hands (q : Pool Op' Ret' ε' α' ι' σ')
    (alone : List (Label Op Ret ε ι κ × Pool Op Ret ε α ι σ)) :
    handovers (beside q alone : CoupledRun Op Ret ε α ι σ κ Op' Ret' ε' α' ι' σ' κ') = [] := by
  simp [handovers, beside, handoverOf]

theorem handover_called (isRun : IsRun (CoupledStep W W' H) s run) {i : ι} {k : κ'}
    (mem : (i, k) ∈ handovers run) : ∃ e ∈ (final s run).first.history i, H.hands e k := by
  induction run generalizing s with
  | nil => cases mem
  | cons head rest ih =>
    obtain ⟨b, t⟩ := head
    have step := isRun.1
    cases step with
    | first step kept => exact ih isRun.2 mem
    | second step => exact ih isRun.2 mem
    | @handed p p' q q' j e k' step hands moved =>
      rcases List.mem_cons.mp mem with here | later
      · cases here
        refine ⟨e, ?_, hands⟩
        have grown := history_calls (first_run isRun.2).1 i
        rw [(first_run isRun.2).2] at grown
        change e ∈ (final _ rest).first.history i
        rw [grown, history_called step]
        simp
      · exact ih isRun.2 later

/-- An answered call that does not keep has handed something over. -/
theorem handed_over (isRun : IsRun (CoupledStep W W' H) s run) {i : ι} {e : Event Op Ret ε}
    (mem : e ∈ (final s run).first.history i) (spends : ¬ H.keeps e) :
    e ∈ s.first.history i ∨ ∃ k, H.hands e k ∧ (i, k) ∈ handovers run := by
  induction run generalizing s with
  | nil => exact .inl mem
  | cons head rest ih =>
    obtain ⟨b, t⟩ := head
    have step := isRun.1
    cases step with
    | @first p p' q l step kept =>
      rcases ih isRun.2 mem with old | new
      · cases l with
        | call j e' =>
          rcases mem_history_called step old with earlier | ⟨rfl, rfl⟩
          · exact .inl earlier
          · exact absurd kept spends
        | env k =>
          cases step with
          | env moved => exact .inl old
      · exact .inr new
    | second step =>
      have later := ih isRun.2 mem
      exact later
    | @handed p p' q q' j e' k step hands moved =>
      rcases ih isRun.2 mem with old | ⟨k', hands', later⟩
      · rcases mem_history_called step old with earlier | ⟨rfl, rfl⟩
        · exact .inl earlier
        · exact .inr ⟨k, hands, .head _⟩
      · exact .inr ⟨k', hands', .tail _ later⟩

omit [DecidableEq ι] [DecidableEq ι'] in
theorem handovers_append (run' : CoupledRun Op Ret ε α ι σ κ Op' Ret' ε' α' ι' σ' κ') :
    handovers (run ++ run') = handovers run ++ handovers run' := List.filterMap_append

theorem tracked_run {Q : ι → Except ε α → List (Event Op Ret ε) → Prop} {C : Op → Bool}
    (tracked : s.first.Tracked (onceMonitor C) Q fun _ => []) (isRun : IsRun (CoupledStep W W' H) s run) :
    (final s run).first.Tracked (onceMonitor C) Q fun _ => [] := by
  obtain ⟨first, ends⟩ := first_run isRun
  rw [← ends]
  refine first.always (I := fun p => p.Tracked (onceMonitor C) Q fun _ => []) ?_ tracked _
    (final_mem_visited _ _)
  intro p l p' held step
  exact (step_cases (fun _ _ _ _ _ _ _ => trivial) held step).1

theorem called_unmade {C : Op → Bool} {Q : ι → Except ε α → List (Event Op Ret ε) → Prop}
    {p p' : Pool Op Ret ε α ι σ} {i : ι} {e : Event Op Ret ε}
    (tracked : p.Tracked (onceMonitor C) Q fun _ => []) (step : Step W p (.call i e) p')
    (kind : C e.1 = true) : Unmade C (p.history i) := by
  obtain ⟨_, ⟨_, _, _, same, permitted, _⟩ | ⟨_, other, _⟩⟩ :=
    step_cases (fun _ _ _ _ _ _ _ => trivial) tracked step
  · cases same
    have unmade := permitted kind
    rw [Pool.monitored, onceMonitor, historyMonitor_after] at unmade
    exact unmade
  · cases other

theorem handovers_once {C : Op → Bool} {Q : ι → Except ε α → List (Event Op Ret ε) → Prop}
    (made : ∀ e k, H.hands e k → C e.1 = true)
    (tracked : s.first.Tracked (onceMonitor C) Q fun _ => [])
    (isRun : IsRun (CoupledStep W W' H) s run) : ((handovers run).map Prod.fst).Nodup := by
  induction run using List.reverseRecOn with
  | nil => exact List.nodup_nil
  | append_singleton before last ih =>
    have earlier := run_earlier isRun
    have apart := ih earlier
    obtain ⟨b, t⟩ := last
    have step : CoupledStep W W' H (final s before) b t := isRun.later.1
    rw [handovers_append, List.map_append, List.nodup_append]
    cases b with
    | first l => simpa [handovers, handoverOf] using apart
    | second i e => simpa [handovers, handoverOf] using apart
    | handed i e k =>
      refine ⟨apart, List.nodup_singleton i, ?_⟩
      intro j mem i' here same
      obtain rfl : i' = i := List.mem_singleton.mp here
      subst same
      -- The call that handed over before is on record when this one is permitted.
      obtain ⟨⟨j', k'⟩, mem', rfl⟩ := List.mem_map.mp mem
      obtain ⟨e', called, hands'⟩ := handover_called earlier mem'
      have past := tracked_run tracked earlier
      generalize final s before = u at step past called
      cases step with
      | handed step hands moved =>
        have unmade := called_unmade past step (made _ _ hands)
        have free := unmade e' called
        rw [made _ _ hands'] at free
        cases free

end Runs
end AegisGateway.PoolHandovers
