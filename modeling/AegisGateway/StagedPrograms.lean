import AegisGateway.RunAccounts

set_option autoImplicit false

/-!
# Programs in two stages

A program of one kind of calls, and another kind of calls from what it returned on. Each
kind of calls is answered from a state of its own. Side by side, such programs seen from the
second state alone are their second stages, each at the value that its first stage returned.
-/
namespace AegisGateway.StagedPrograms
open EffectProgram TransitionRuns ProgramPool RunAccounts

section Stages
variable {Op₁ Op₂ : Type} {Ret₁ : Op₁ → Type} {Ret₂ : Op₂ → Type} {ε α β : Type}

abbrev EitherRet (Ret₁ : Op₁ → Type) (Ret₂ : Op₂ → Type) : Op₁ ⊕ Op₂ → Type
  | .inl op => Ret₁ op
  | .inr op => Ret₂ op

abbrev BothProg (Ret₁ : Op₁ → Type) (Ret₂ : Op₂ → Type) := Prog (Op₁ ⊕ Op₂) (EitherRet Ret₁ Ret₂)

abbrev BothEvent (Ret₁ : Op₁ → Type) (Ret₂ : Op₂ → Type) := Event (Op₁ ⊕ Op₂) (EitherRet Ret₁ Ret₂)

def onFirst (p : Prog Op₁ Ret₁ ε α) : BothProg Ret₁ Ret₂ ε α :=
  p.expand fun op => Prog.perform (.inl op)

def onSecond (p : Prog Op₂ Ret₂ ε α) : BothProg Ret₁ Ret₂ ε α :=
  p.expand fun op => Prog.perform (.inr op)

def staged (p : Prog Op₁ Ret₁ ε α) (f : α → Prog Op₂ Ret₂ ε β) : BothProg Ret₁ Ret₂ ε β :=
  onFirst p >>= fun a => onSecond (f a)

def firstEvent (e : Event Op₁ Ret₁ ε) : BothEvent Ret₁ Ret₂ ε := ⟨.inl e.1, e.2⟩

def secondEvent (e : Event Op₂ Ret₂ ε) : BothEvent Ret₁ Ret₂ ε := ⟨.inr e.1, e.2⟩

def secondOf : BothEvent Ret₁ Ret₂ ε → Option (Event Op₂ Ret₂ ε)
  | ⟨.inl _, _⟩ => none
  | ⟨.inr op, o⟩ => some ⟨op, o⟩

theorem seconds_first (t : List (Event Op₁ Ret₁ ε)) :
    (t.map firstEvent : List (BothEvent Ret₁ Ret₂ ε)).filterMap secondOf = [] := by
  induction t with
  | nil => rfl
  | cons e t ih => exact ih

theorem seconds_second (t : List (Event Op₂ Ret₂ ε)) :
    (t.map secondEvent : List (BothEvent Ret₁ Ret₂ ε)).filterMap secondOf = t := by
  induction t with
  | nil => rfl
  | cons e t ih => exact congrArg (e :: ·) ih

theorem firstEvent_injective :
    Function.Injective (firstEvent : Event Op₁ Ret₁ ε → BothEvent Ret₁ Ret₂ ε) := by
  rintro ⟨op, o⟩ ⟨op', o'⟩ same
  cases same
  rfl

theorem staged_uses {S : Op₁ ⊕ Op₂ → Prop} {p : Prog Op₁ Ret₁ ε α} {f : α → Prog Op₂ Ret₂ ε β}
    (first : p.Uses fun op => S (.inl op)) (second : ∀ a, (f a).Uses fun op => S (.inr op)) :
    (staged p f).Uses S := by
  refine Prog.Uses.bind ?_ fun a => ?_
  · exact first.expand fun op used => Prog.uses_perform used
  · exact (second a).expand fun op used => Prog.uses_perform used

theorem first_unique {p : Prog Op₁ Ret₁ ε α} {t t' : List (Event Op₁ Ret₁ ε)} {r r' : Except ε α}
    {rest rest' : List (BothEvent Ret₁ Ret₂ ε)} (run : Runs p t r) (run' : Runs p t' r')
    (alike : t.map firstEvent ++ rest = t'.map firstEvent ++ rest') : r = r' := by
  induction run generalizing t' with
  | done r =>
    obtain ⟨-, same⟩ := runs_done run'
    exact same.symm
  | call tail ih =>
    cases run' with
    | call tail' =>
      rw [List.map_cons, List.map_cons, List.cons_append, List.cons_append, List.cons.injEq] at alike
      obtain ⟨head, later⟩ := alike
      cases firstEvent_injective head
      exact ih tail' later

theorem onSecond_reaches {p q : Prog Op₂ Ret₂ ε α} {t : List (Event Op₂ Ret₂ ε)} (h : Reaches p t q) :
    Reaches (onSecond p : BothProg Ret₁ Ret₂ ε α) (t.map secondEvent) (onSecond q) := by
  induction h with
  | refl q => exact .refl _
  | call tail ih => exact .call ih

theorem staged_reaches {p : Prog Op₁ Ret₁ ε α} {f : α → Prog Op₂ Ret₂ ε β} {t₁ : List (Event Op₁ Ret₁ ε)}
    {t₂ : List (Event Op₂ Ret₂ ε)} {a : α} {q : Prog Op₂ Ret₂ ε β} (returned : Runs p t₁ (.ok a))
    (reaches : Reaches (f a) t₂ q) :
    Reaches (staged p f) (t₁.map firstEvent ++ t₂.map secondEvent) (onSecond q) := by
  generalize result : Except.ok a = r at returned
  induction returned with
  | done r =>
    cases result
    exact onSecond_reaches reaches
  | call tail ih => exact .call (ih result)

end Stages

section Worlds
variable {Op₁ Op₂ : Type} {Ret₁ : Op₁ → Type} {Ret₂ : Op₂ → Type} {ε α β ι σ₁ σ₂ κ₁ κ₂ : Type}

/-- Each kind of calls is answered from its own state. -/
def bothAnswer (W₁ : World Op₁ Ret₁ ε ι σ₁ κ₁) (W₂ : World Op₂ Ret₂ ε ι σ₂ κ₂) (s : σ₁ × σ₂) (i : ι) :
    (op : Op₁ ⊕ Op₂) → Except ε (EitherRet Ret₁ Ret₂ op) → σ₁ × σ₂ → Prop
  | .inl op, o, s' => W₁.answer s.1 i op o s'.1 ∧ s'.2 = s.2
  | .inr op, o, s' => s'.1 = s.1 ∧ W₂.answer s.2 i op o s'.2

def bothPasses (W₁ : World Op₁ Ret₁ ε ι σ₁ κ₁) (W₂ : World Op₂ Ret₂ ε ι σ₂ κ₂) (s : σ₁ × σ₂) :
    κ₁ ⊕ κ₂ → σ₁ × σ₂ → Prop
  | .inl k, s' => W₁.passes s.1 k s'.1 ∧ s'.2 = s.2
  | .inr k, s' => s'.1 = s.1 ∧ W₂.passes s.2 k s'.2

def bothWorld (W₁ : World Op₁ Ret₁ ε ι σ₁ κ₁) (W₂ : World Op₂ Ret₂ ε ι σ₂ κ₂) :
    World (Op₁ ⊕ Op₂) (EitherRet Ret₁ Ret₂) ε ι (σ₁ × σ₂) (κ₁ ⊕ κ₂) where
  answer s i op o s' := bothAnswer W₁ W₂ s i op o s'
  passes s k s' := bothPasses W₁ W₂ s k s'

abbrev BothPool (Ret₁ : Op₁ → Type) (Ret₂ : Op₂ → Type) (ε β ι σ₁ σ₂ : Type) :=
  Pool (Op₁ ⊕ Op₂) (EitherRet Ret₁ Ret₂) ε β ι (σ₁ × σ₂)

/-- The step as the second state sees it. -/
def secondLabel : Label (Op₁ ⊕ Op₂) (EitherRet Ret₁ Ret₂) ε ι (κ₁ ⊕ κ₂) → Option (Label Op₂ Ret₂ ε ι κ₂)
  | .call i e => (secondOf e).map (.call i)
  | .env (.inl _) => none
  | .env (.inr k) => some (.env k)

/-- Where the first stage has returned, it has returned this. -/
def Settles (p : ι → Prog Op₁ Ret₁ ε α) (chosen : ι → α) (both : BothPool Ret₁ Ret₂ ε β ι σ₁ σ₂) : Prop :=
  ∀ i t₁ rest a, both.history i = t₁.map firstEvent ++ rest → Runs (p i) t₁ (.ok a) → chosen i = a

theorem exists_settles (p : ι → Prog Op₁ Ret₁ ε α) (unsettled : α) (both : BothPool Ret₁ Ret₂ ε β ι σ₁ σ₂) :
    ∃ chosen, Settles p chosen both ∧ ∀ i, chosen i = unsettled ∨
      ∃ t₁ rest, both.history i = t₁.map firstEvent ++ rest ∧ Runs (p i) t₁ (.ok (chosen i)) := by
  have each (i : ι) : ∃ a, (∀ t₁ rest a', both.history i = t₁.map firstEvent ++ rest →
      Runs (p i) t₁ (.ok a') → a = a') ∧ (a = unsettled ∨
        ∃ t₁ rest, both.history i = t₁.map firstEvent ++ rest ∧ Runs (p i) t₁ (.ok a)) := by
    by_cases returned : ∃ t₁ rest a, both.history i = t₁.map firstEvent ++ rest ∧ Runs (p i) t₁ (.ok a)
    · obtain ⟨t₁, rest, a, split, run⟩ := returned
      refine ⟨a, fun t₁' rest' a' split' run' => ?_, .inr ⟨t₁, rest, split, run⟩⟩
      exact Except.ok.inj (first_unique run run' (split.symm.trans split'))
    · refine ⟨unsettled, fun t₁ rest a' split run => ?_, .inl rfl⟩
      exact absurd ⟨t₁, rest, a', split, run⟩ returned
  choose chosen settles using each
  exact ⟨chosen, fun i => (settles i).1, fun i => (settles i).2⟩

/-- A program beside its second stage, which waits until the first has returned. -/
inductive StageAt (p : Prog Op₁ Ret₁ ε α) (f : α → Prog Op₂ Ret₂ ε β) (a : α) :
    BothProg Ret₁ Ret₂ ε β → List (BothEvent Ret₁ Ret₂ ε) → Prog Op₂ Ret₂ ε β → List (Event Op₂ Ret₂ ε) → Prop where
  | first {t₁ : List (Event Op₁ Ret₁ ε)} {q₁ : Prog Op₁ Ret₁ ε α} (reaches : Reaches p t₁ q₁) :
    StageAt p f a (staged q₁ f) (t₁.map firstEvent) (f a) []
  | second {t₁ : List (Event Op₁ Ret₁ ε)} {t₂ : List (Event Op₂ Ret₂ ε)} {q₂ : Prog Op₂ Ret₂ ε β}
    (returned : Runs p t₁ (.ok a)) :
    StageAt p f a (onSecond q₂) (t₁.map firstEvent ++ t₂.map secondEvent) q₂ t₂

structure Beside (p : ι → Prog Op₁ Ret₁ ε α) (f : ι → α → Prog Op₂ Ret₂ ε β) (chosen : ι → α)
    (both : BothPool Ret₁ Ret₂ ε β ι σ₁ σ₂) (second : Pool Op₂ Ret₂ ε β ι σ₂) : Prop where
  shared : second.shared = both.shared.2
  stages : ∀ i, StageAt (p i) (f i) (chosen i) (both.threads i) (both.history i) (second.threads i)
    (second.history i)

section Alone
variable {W₁ : World Op₁ Ret₁ ε ι σ₁ κ₁} {W₂ : World Op₂ Ret₂ ε ι σ₂ κ₂} {i : ι} {s₁ s₁' : σ₁} {s₂ s₂' : σ₂}

theorem serves_first {t : List (Event Op₁ Ret₁ ε)} (h : W₁.Serves (fun _ _ => True) i s₁ t s₁') :
    (bothWorld W₁ W₂).Serves (fun _ _ => True) i (s₁, s₂) (t.map firstEvent) (s₁', s₂) := by
  induction t generalizing s₁ with
  | nil =>
    cases h
    rfl
  | cons e t ih =>
    obtain ⟨_, mid, answered, rest⟩ := h
    exact ⟨trivial, (mid, s₂), ⟨answered, rfl⟩, ih rest⟩

theorem serves_second {t : List (Event Op₂ Ret₂ ε)} (h : W₂.Serves (fun _ _ => True) i s₂ t s₂') :
    (bothWorld W₁ W₂).Serves (fun _ _ => True) i (s₁, s₂) (t.map secondEvent) (s₁, s₂') := by
  induction t generalizing s₂ with
  | nil =>
    cases h
    rfl
  | cons e t ih =>
    obtain ⟨_, mid, answered, rest⟩ := h
    exact ⟨trivial, (s₁, mid), ⟨rfl, answered⟩, ih rest⟩

end Alone

theorem start_beside (p : ι → Prog Op₁ Ret₁ ε α) (f : ι → α → Prog Op₂ Ret₂ ε β) (chosen : ι → α)
    (s : σ₁ × σ₂) :
    Beside p f chosen (Pool.start s fun i => staged (p i) (f i)) (Pool.start s.2 fun i => f i (chosen i)) :=
  ⟨rfl, fun _ => .first (.refl _)⟩

end Worlds

section Moves
variable {Op₁ Op₂ : Type} {Ret₁ : Op₁ → Type} {Ret₂ : Op₂ → Type} {ε α β : Type}
  {p : Prog Op₁ Ret₁ ε α} {f : α → Prog Op₂ Ret₂ ε β} {a : α} {q : BothProg Ret₁ Ret₂ ε β}
  {t : List (BothEvent Ret₁ Ret₂ ε)} {q₂ : Prog Op₂ Ret₂ ε β} {t₂ : List (Event Op₂ Ret₂ ε)}

theorem StageAt.history (h : StageAt p f a q t q₂ t₂) : t₂ = t.filterMap secondOf := by
  cases h with
  | first reaches => rw [seconds_first]
  | second returned => rw [List.filterMap_append, seconds_first, seconds_second, List.nil_append]

theorem StageAt.returned (h : StageAt p f a q t q₂ t₂) {e : Event Op₂ Ret₂ ε} (mem : e ∈ t₂) :
    ∃ t₁, t = t₁.map firstEvent ++ t₂.map secondEvent ∧ Runs p t₁ (.ok a) := by
  cases h with
  | first reaches => cases mem
  | second returned => exact ⟨_, rfl, returned⟩

theorem StageAt.call_first {op : Op₁} {next : Except ε (Ret₁ op) → BothProg Ret₁ Ret₂ ε β}
    (h : StageAt p f a (.call (.inl op) next) t q₂ t₂) (o : Except ε (Ret₁ op)) :
    StageAt p f a (next o) (t ++ [⟨.inl op, o⟩]) q₂ t₂ := by
  generalize thread : (Prog.call (Sum.inl op) next : BothProg Ret₁ Ret₂ ε β) = q at h
  cases h with
  | @first t₁ q₁ reaches =>
    cases q₁ with
    | done r =>
      cases r with
      | error e => cases thread
      | ok a' =>
        change _ = onSecond (f a') at thread
        cases fa : f a' with
        | done r =>
          rw [fa] at thread
          cases thread
        | call op₂ next₂ =>
          rw [fa] at thread
          cases thread
    | call op₁ next₁ =>
      cases thread
      have moved := StageAt.first (f := f) (a := a) (reaches_concat reaches o)
      rw [List.map_append] at moved
      exact moved
  | second returned =>
    cases q₂ with
    | done r => cases thread
    | call op₂ next₂ => cases thread

theorem StageAt.call_second {op : Op₂} {next : Except ε (Ret₂ op) → BothProg Ret₁ Ret₂ ε β}
    (h : StageAt p f a (.call (.inr op) next) t q₂ t₂) (o : Except ε (Ret₂ op))
    (settled : ∀ t₁ rest a', t = t₁.map firstEvent ++ rest → Runs p t₁ (.ok a') → a = a') :
    ∃ next₂, q₂ = .call op next₂ ∧
      StageAt p f a (next o) (t ++ [⟨.inr op, o⟩]) (next₂ o) (t₂ ++ [⟨op, o⟩]) := by
  generalize thread : (Prog.call (Sum.inr op) next : BothProg Ret₁ Ret₂ ε β) = q at h
  cases h with
  | @first t₁ q₁ reaches =>
    cases q₁ with
    | done r =>
      cases r with
      | error e => cases thread
      | ok a' =>
        have returned := reaches_runs reaches
        obtain rfl : a = a' := settled t₁ [] a' (List.append_nil _).symm returned
        change _ = onSecond (f a) at thread
        cases fa : f a with
        | done r =>
          rw [fa] at thread
          cases thread
        | call op₂ next₂ =>
          rw [fa] at thread
          cases thread
          refine ⟨next₂, rfl, ?_⟩
          have moved : StageAt p f a (onSecond (next₂ o)) (t₁.map firstEvent ++ List.map secondEvent [⟨op, o⟩])
            (next₂ o) [⟨op, o⟩] := .second returned
          exact moved
    | call op₁ next₁ => cases thread
  | second returned =>
    cases q₂ with
    | done r => cases thread
    | call op₂ next₂ =>
      cases thread
      refine ⟨next₂, rfl, ?_⟩
      rw [List.append_assoc]
      have moved : StageAt p f a (onSecond (next₂ o)) (_ ++ List.map secondEvent (t₂ ++ [⟨op, o⟩]))
        (next₂ o) (t₂ ++ [⟨op, o⟩]) := .second returned
      rw [List.map_append] at moved
      exact moved

end Moves

section Simulation
variable {Op₁ Op₂ : Type} {Ret₁ : Op₁ → Type} {Ret₂ : Op₂ → Type} {ε α β ι σ₁ σ₂ κ₁ κ₂ : Type}
  [DecidableEq ι] {W₁ : World Op₁ Ret₁ ε ι σ₁ κ₁} {W₂ : World Op₂ Ret₂ ε ι σ₂ κ₂}
  {p : ι → Prog Op₁ Ret₁ ε α} {f : ι → α → Prog Op₂ Ret₂ ε β} {chosen : ι → α}
  {both both' : BothPool Ret₁ Ret₂ ε β ι σ₁ σ₂} {second : Pool Op₂ Ret₂ ε β ι σ₂}

theorem Settles.earlier
    {run : List (Label (Op₁ ⊕ Op₂) (EitherRet Ret₁ Ret₂) ε ι (κ₁ ⊕ κ₂) × BothPool Ret₁ Ret₂ ε β ι σ₁ σ₂)}
    (settles : Settles p chosen (final both run)) (isRun : IsRun (Step (bothWorld W₁ W₂)) both run) :
    Settles p chosen both := by
  intro i t₁ rest a split returned
  refine settles i t₁ (rest ++ calls i run) a ?_ returned
  rw [history_calls isRun, split, List.append_assoc]

theorem Beside.step {l : Label (Op₁ ⊕ Op₂) (EitherRet Ret₁ Ret₂) ε ι (κ₁ ⊕ κ₂)}
    (h : Beside p f chosen both second) (settles : Settles p chosen both)
    (step : Step (bothWorld W₁ W₂) both l both') :
    ∃ run, IsRun (Step W₂) second run ∧ Beside p f chosen both' (final second run) ∧
      run.map Prod.fst = (secondLabel l).toList := by
  cases step with
  | @call i op next o s head answered =>
    have stage := h.stages i
    rw [head] at stage
    cases op with
    | inl op =>
      refine ⟨[], trivial, ⟨h.shared.trans answered.2.symm, fun j => ?_⟩, rfl⟩
      by_cases mover : j = i
      · subst mover
        simpa [final] using stage.call_first o
      · simpa [final, mover] using h.stages j
    | inr op =>
      obtain ⟨next₂, thread, moved⟩ := stage.call_second o (settles i)
      refine ⟨[(.call i ⟨op, o⟩, ⟨s.2, Function.update second.threads i (next₂ o),
        Function.update second.history i (second.history i ++ [⟨op, o⟩])⟩)], ⟨?_, trivial⟩,
        ⟨rfl, fun j => ?_⟩, rfl⟩
      · refine .call thread ?_
        rw [h.shared]
        exact answered.2
      · by_cases mover : j = i
        · subst mover
          simpa [final] using moved
        · simpa [final, mover] using h.stages j
  | @env k s moved =>
    cases k with
    | inl k => exact ⟨[], trivial, ⟨h.shared.trans moved.2.symm, h.stages⟩, rfl⟩
    | inr k =>
      refine ⟨[(.env k, { second with shared := s.2 })], ⟨.env ?_, trivial⟩, ⟨rfl, h.stages⟩, rfl⟩
      rw [h.shared]
      exact moved.2

theorem Beside.run
    {run : List (Label (Op₁ ⊕ Op₂) (EitherRet Ret₁ Ret₂) ε ι (κ₁ ⊕ κ₂) × BothPool Ret₁ Ret₂ ε β ι σ₁ σ₂)}
    (h : Beside p f chosen both second) (settles : Settles p chosen (final both run))
    (isRun : IsRun (Step (bothWorld W₁ W₂)) both run) :
    ∃ run₂, IsRun (Step W₂) second run₂ ∧ Beside p f chosen (final both run) (final second run₂) ∧
      run₂.map Prod.fst = run.filterMap fun step => secondLabel step.1 := by
  induction run generalizing both second with
  | nil => exact ⟨[], trivial, h, rfl⟩
  | cons head rest ih =>
    obtain ⟨first, isFirst, next, label⟩ := h.step (settles.earlier isRun) isRun.1
    obtain ⟨others, isOthers, ends, labels⟩ := ih next settles isRun.2
    refine ⟨first ++ others, isFirst.append isOthers, ?_, ?_⟩
    · rw [final_append]
      exact ends
    · rw [List.map_append, label, labels, List.filterMap_cons]
      cases secondLabel head.1 <;> rfl

end Simulation
end AegisGateway.StagedPrograms
