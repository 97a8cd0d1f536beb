import AegisGateway.ProgramPool

set_option autoImplicit false

/-!
# Programs on the cells of one store

Programs run side by side over a store of cells with a clock. A call that works on
the store names its cell, and what it answers and leaves there depends on that cell
and the clock alone. So a group of programs whose cells no other program touches runs
as if the others were not there: the steps of the group are a run of their own, and
what the outside decides about them determines all they are answered.
-/
namespace AegisGateway.CellStore
open EffectProgram TransitionRuns ProgramPool

structure Store (K V T : Type) where
  cells : K → V
  now : T

section Cells
variable {K V T : Type} [DecidableEq K]

def Store.put (s : Store K V T) (k : K) (v : V) : Store K V T :=
  { s with cells := Function.update s.cells k v }

end Cells

/-- How a store of cells answers. It has no part in the calls without a key. `outside` is what
the outside decides about an answered call; the rest is determined. -/
structure CellWorld (Op : Type) (Ret : Op → Type) (ε K V T D X : Type) where
  key : Op → Option K
  effect : T → V → (op : Op) → Except ε (Ret op) → V → Prop
  tick : T → D → T
  outside : Event Op Ret ε → X
  determined : ∀ {t v op o o' w w'}, effect t v op o w → effect t v op o' w' →
    outside ⟨op, o⟩ = outside ⟨op, o'⟩ → o = o' ∧ w = w'
  given : ∀ {op o o'}, key op = none → outside ⟨op, o⟩ = outside ⟨op, o'⟩ → o = o'

section Worlds
variable {Op : Type} {Ret : Op → Type} {ε α ι K V T D X : Type} [DecidableEq K]
  (C : CellWorld Op Ret ε K V T D X)

/-- One call: the store, its answer, the store after it. -/
def CellWorld.Answers (s : Store K V T) (op : Op) (o : Except ε (Ret op)) (s' : Store K V T) : Prop :=
  match C.key op with
  | none => s' = s
  | some k => ∃ v, C.effect s.now (s.cells k) op o v ∧ s' = s.put k v

def CellWorld.world (ι : Type) : World Op Ret ε ι (Store K V T) D where
  answer s _ op o s' := C.Answers s op o s'
  passes s d s' := s' = { s with now := C.tick s.now d }

/-- What the outside decides about a step. -/
def CellWorld.input : Label Op Ret ε ι D → (ι × X) ⊕ D
  | .call i e => .inl (i, C.outside e)
  | .env d => .inr d

variable {C}

theorem CellWorld.Answers.now {s s' : Store K V T} {op : Op} {o : Except ε (Ret op)}
    (h : C.Answers s op o s') : s'.now = s.now := by
  rw [CellWorld.Answers] at h
  split at h
  · rw [h]
  · obtain ⟨v, _, rfl⟩ := h
    rfl

theorem CellWorld.Answers.determined {s s' s'' : Store K V T} {op : Op} {o o' : Except ε (Ret op)}
    (h : C.Answers s op o s') (h' : C.Answers s op o' s'')
    (same : C.outside ⟨op, o⟩ = C.outside ⟨op, o'⟩) : o = o' ∧ s' = s'' := by
  rw [CellWorld.Answers] at h h'
  cases key : C.key op with
  | none =>
    simp only [key] at h h'
    exact ⟨C.given key same, h.trans h'.symm⟩
  | some k =>
    simp only [key] at h h'
    obtain ⟨v, effect, rfl⟩ := h
    obtain ⟨w, effect', rfl⟩ := h'
    obtain ⟨rfl, rfl⟩ := C.determined effect effect' same
    exact ⟨rfl, rfl⟩

theorem CellWorld.Answers.transfer {s s' r : Store K V T} {op : Op} {o : Except ε (Ret op)}
    (h : C.Answers s op o s') (now : r.now = s.now) (cell : ∀ k ∈ C.key op, r.cells k = s.cells k) :
    ∃ r', C.Answers r op o r' ∧ ∀ k, r.cells k = s.cells k → r'.cells k = s'.cells k := by
  rw [CellWorld.Answers] at h
  cases key : C.key op with
  | none =>
    simp only [key] at h
    subst h
    exact ⟨r, by simp [CellWorld.Answers, key], fun _ same => same⟩
  | some k =>
    simp only [key] at h
    obtain ⟨v, effect, rfl⟩ := h
    refine ⟨r.put k v, ?_, fun k' same => ?_⟩
    · rw [CellWorld.Answers, key]
      refine ⟨v, ?_, rfl⟩
      rw [now, cell k (by rw [key]; rfl)]
      exact effect
    · by_cases here : k' = k
      · subst here
        simp [Store.put]
      · simpa [Store.put, here] using same

theorem CellWorld.Answers.frame {s s' : Store K V T} {op : Op} {o : Except ε (Ret op)}
    (h : C.Answers s op o s') {k : K} (other : k ∉ C.key op) : s'.cells k = s.cells k := by
  rw [CellWorld.Answers] at h
  cases key : C.key op with
  | none =>
    simp only [key] at h
    rw [h]
  | some k' =>
    simp only [key] at h
    obtain ⟨v, _, rfl⟩ := h
    have apart : k ≠ k' := by
      rintro rfl
      exact other (by rw [key]; rfl)
    simp [Store.put, apart]

end Worlds

section Runs
variable {Op : Type} {Ret : Op → Type} {ε α ι K V T D X : Type} [DecidableEq K] [DecidableEq ι]
  {C : CellWorld Op Ret ε K V T D X}

theorem step_determined {p p' p'' : Pool Op Ret ε α ι (Store K V T)} {l l' : Label Op Ret ε ι D}
    (h : Step (C.world ι) p l p') (h' : Step (C.world ι) p l' p'') (same : C.input l = C.input l') :
    l = l' ∧ p' = p'' := by
  cases h with
  | @call i op next o s head answered =>
    cases h' with
    | @call i' op' next' o' s' head' answered' =>
      simp only [CellWorld.input, Sum.inl.injEq, Prod.mk.injEq] at same
      obtain ⟨rfl, same⟩ := same
      rw [head] at head'
      cases head'
      obtain ⟨rfl, rfl⟩ := CellWorld.Answers.determined answered answered' same
      exact ⟨rfl, rfl⟩
    | env moved => cases same
  | @env d s moved =>
    cases h' with
    | call head answered => cases same
    | @env d' s' moved' =>
      cases same
      have eq : s = s' := moved.trans moved'.symm
      subst eq
      exact ⟨rfl, rfl⟩

theorem run_determined {p : Pool Op Ret ε α ι (Store K V T)}
    {run run' : List (Label Op Ret ε ι D × Pool Op Ret ε α ι (Store K V T))}
    (h : IsRun (Step (C.world ι)) p run) (h' : IsRun (Step (C.world ι)) p run')
    (same : run.map (C.input ∘ Prod.fst) = run'.map (C.input ∘ Prod.fst)) : run = run' := by
  induction run generalizing p run' with
  | nil =>
    cases run' with
    | nil => rfl
    | cons head' rest' => simp at same
  | cons head rest ih =>
    cases run' with
    | nil => simp at same
    | cons head' rest' =>
      obtain ⟨l, q⟩ := head
      obtain ⟨l', q'⟩ := head'
      simp only [List.map_cons, List.cons.injEq] at same
      obtain ⟨rfl, rfl⟩ := step_determined h.1 h'.1 same.1
      rw [ih h.2 h'.2 same.2]

section Groups
variable (keep : ι → Prop) [DecidablePred keep] (idle : Except ε α)

/-- The steps that are left when only these programs run. -/
def kept : Label Op Ret ε ι D → Bool
  | .call i _ => keep i
  | .env _ => true

/-- The pool in which only these programs are there. -/
def only (p : Pool Op Ret ε α ι (Store K V T)) (s : Store K V T) :
    Pool Op Ret ε α ι (Store K V T) where
  shared := s
  threads i := if keep i then p.threads i else .done idle
  history i := if keep i then p.history i else []

variable (C) (cells : ι → K → Prop)

/-- Each program calls on its own cells only. -/
def Confined (p : Pool Op Ret ε α ι (Store K V T)) : Prop :=
  ∀ i, (p.threads i).Uses fun op => ∀ k ∈ C.key op, cells i k

/-- Two stores are the same for these programs. -/
structure Agree (s r : Store K V T) : Prop where
  now : r.now = s.now
  cells : ∀ i, keep i → ∀ k, cells i k → r.cells k = s.cells k

variable {C keep cells}

theorem Confined.step {p p' : Pool Op Ret ε α ι (Store K V T)} {l : Label Op Ret ε ι D}
    (h : Confined C cells p) (step : Step (C.world ι) p l p') : Confined C cells p' := by
  cases step with
  | @call i op next o s head answered =>
    intro j
    have here := h i
    rw [head] at here
    by_cases hj : j = i
    · subst hj
      simpa using here.2 o
    · simpa [hj] using h j
  | env moved => exact h

theorem Confined.calls {p : Pool Op Ret ε α ι (Store K V T)}
    {run : List (Label Op Ret ε ι D × Pool Op Ret ε α ι (Store K V T))} (h : Confined C cells p)
    (isRun : IsRun (Step (C.world ι)) p run) {i : ι} {e : Event Op Ret ε}
    (mem : .call i e ∈ run.map Prod.fst) {k : K} (key : k ∈ C.key e.1) : cells i k := by
  induction run generalizing p with
  | nil => cases mem
  | cons head rest ih =>
    obtain ⟨l, p'⟩ := head
    rcases List.mem_cons.mp mem with rfl | later
    · cases isRun.1 with
      | call thread answered =>
        have uses := h i
        rw [thread] at uses
        exact uses.1 k key
    · exact ih (h.step isRun.1) isRun.2 later

theorem ite_update_kept {β : Type} {f c : ι → β} {i : ι} (mine : keep i) (x : β) :
    (fun j => if keep j then Function.update f i x j else c j) =
      Function.update (fun j => if keep j then f j else c j) i x := by
  funext j
  by_cases hj : j = i
  · subst hj
    simp [mine]
  · simp [hj]

theorem ite_update_other {β : Type} {f c : ι → β} {i : ι} (other : ¬ keep i) (x : β) :
    (fun j => if keep j then Function.update f i x j else c j) =
      fun j => if keep j then f j else c j := by
  funext j
  by_cases hj : j = i
  · subst hj
    simp [other]
  · simp [hj]

theorem only_step {p p' : Pool Op Ret ε α ι (Store K V T)} {l : Label Op Ret ε ι D}
    {r : Store K V T} (confined : Confined C cells p)
    (apart : ∀ i j k, keep i → ¬ keep j → cells i k → ¬ cells j k)
    (agree : Agree keep cells p.shared r) (step : Step (C.world ι) p l p') :
    ∃ r', Agree keep cells p'.shared r' ∧
      if kept keep l then Step (C.world ι) (only keep idle p r) l (only keep idle p' r')
      else only keep idle p' r' = only keep idle p r := by
  cases step with
  | @call i op next o s head answered =>
    have uses := (confined i)
    rw [head] at uses
    by_cases mine : keep i
    · obtain ⟨r', answered', same⟩ := CellWorld.Answers.transfer answered agree.now
        fun k mem => agree.cells i mine k (uses.1 k mem)
      refine ⟨r', ⟨?_, fun j hj k hk => same k (agree.cells j hj k hk)⟩, ?_⟩
      · rw [answered'.now, CellWorld.Answers.now answered, agree.now]
      · rw [if_pos (by simpa [kept] using mine)]
        have head' : (only keep idle p r).threads i = .call op next := by simp [only, mine, head]
        have past : (only keep idle p r).history i = p.history i := by simp [only, mine]
        have stepped := Step.call (W := C.world ι) head' answered'
        rw [past] at stepped
        simp only [only, ite_update_kept mine]
        exact stepped
    · refine ⟨r, ⟨?_, fun j hj k hk => ?_⟩, ?_⟩
      · rw [CellWorld.Answers.now answered, agree.now]
      · rw [CellWorld.Answers.frame answered, agree.cells j hj k hk]
        exact fun mem => apart j i k hj mine hk (uses.1 k mem)
      · rw [if_neg (by simpa [kept] using mine)]
        simp only [only, ite_update_other mine]
  | @env d s moved =>
    have now : s = { p.shared with now := C.tick p.shared.now d } := moved
    subst now
    refine ⟨{ r with now := C.tick r.now d }, ⟨?_, agree.cells⟩, ?_⟩
    · simp [agree.now]
    · exact Step.env (W := C.world ι) rfl

theorem only_run {p : Pool Op Ret ε α ι (Store K V T)} {r : Store K V T}
    {run : List (Label Op Ret ε ι D × Pool Op Ret ε α ι (Store K V T))}
    (confined : Confined C cells p)
    (apart : ∀ i j k, keep i → ¬ keep j → cells i k → ¬ cells j k)
    (agree : Agree keep cells p.shared r) (h : IsRun (Step (C.world ι)) p run) :
    ∃ run', IsRun (Step (C.world ι)) (only keep idle p r) run' ∧
      run'.map Prod.fst = (run.map Prod.fst).filter (kept keep) := by
  induction run generalizing p r with
  | nil => exact ⟨[], trivial, rfl⟩
  | cons head rest ih =>
    obtain ⟨l, p'⟩ := head
    obtain ⟨r', agree', matched⟩ := only_step idle confined apart agree h.1
    obtain ⟨run', isRun, labels⟩ := ih (confined.step h.1) agree' h.2
    by_cases mine : kept keep l
    · rw [if_pos mine] at matched
      exact ⟨(l, _) :: run', ⟨matched, isRun⟩, by simp [mine, labels]⟩
    · rw [if_neg mine] at matched
      rw [matched] at isRun
      exact ⟨run', isRun, by simp [mine, labels]⟩

include idle in
/-- Two runs in which the group starts alike and the outside decides alike about the group are
the same for the group, whatever the others do in each. -/
theorem group_determined {p q : Pool Op Ret ε α ι (Store K V T)}
    {run run' : List (Label Op Ret ε ι D × Pool Op Ret ε α ι (Store K V T))}
    (confined : Confined C cells p) (confined' : Confined C cells q)
    (apart : ∀ i j k, keep i → ¬ keep j → cells i k → ¬ cells j k)
    (agree : Agree keep cells p.shared q.shared)
    (alike : ∀ i, keep i → q.threads i = p.threads i ∧ q.history i = p.history i)
    (h : IsRun (Step (C.world ι)) p run) (h' : IsRun (Step (C.world ι)) q run')
    (same : ((run.map Prod.fst).filter (kept keep)).map C.input =
      ((run'.map Prod.fst).filter (kept keep)).map C.input) :
    (run.map Prod.fst).filter (kept keep) = (run'.map Prod.fst).filter (kept keep) := by
  have reflexive : Agree keep cells q.shared q.shared := ⟨rfl, fun _ _ _ _ => rfl⟩
  obtain ⟨alone, isRun, labels⟩ := only_run idle confined apart agree h
  obtain ⟨alone', isRun', labels'⟩ := only_run idle confined' apart reflexive h'
  have start : only keep idle q q.shared = only keep idle p q.shared := by
    have threads (i : ι) : (if keep i then q.threads i else .done idle) =
        if keep i then p.threads i else .done idle := by
      by_cases hi : keep i
      · simp [hi, (alike i hi).1]
      · simp [hi]
    have history (i : ι) : (if keep i then q.history i else []) =
        if keep i then p.history i else [] := by
      by_cases hi : keep i
      · simp [hi, (alike i hi).2]
      · simp [hi]
    simp only [only, threads, history]
  rw [start] at isRun'
  rw [← labels, ← labels', List.map_map, List.map_map] at same
  rw [← labels, ← labels', run_determined isRun isRun' same]

end Groups
end Runs
end AegisGateway.CellStore
