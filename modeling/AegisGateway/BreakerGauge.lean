import AegisGateway.BreakerRuns

set_option autoImplicit false

/-!
# The gauge of the breaker

`provider_circuit_breaker_state` beside the breaker it shows. Each outcome that a call records
is followed by an update of the gauge; the change from open to half-open, which `before_call`
makes, is not. `gauge_shows_breaker_iff` says exactly which steps leave the gauge behind.
-/
namespace AegisGateway.BreakerGauge
open EffectProgram TransitionRuns ProgramPool CircuitBreaker ProviderCalls BreakerRuns

/-- `_CIRCUIT_STATE_VALUES`. -/
def circuitStateValue : CircuitState → ℕ
  | .closed => 0
  | .halfOpen => 1
  | .opened => 2

section Programs
variable {α : Type} {lib : Libraries}

/-- After an outcome is recorded the next call updates the gauge. The state says whether the
last call recorded an outcome. -/
def gaugeMonitor : Monitor ProviderOp ProviderRet Exn Bool where
  permits recorded op := recorded = true → op = .setCircuitBreakerState
  answers _ op o := records ⟨op, o⟩ = true → o.isOk = true
  advance _ op o := records ⟨op, o⟩

theorem permits_free (op : ProviderOp) : gaugeMonitor.permits false op := by
  intro recorded
  cases recorded

/-- From a call that recorded nothing the program goes on and ends with the gauge updated after
each record. -/
def Updates (p : ProviderProg α) : Prop :=
  ∀ recorded, recorded = false → Holds gaugeMonitor p (fun _ recorded' => recorded' = false) recorded

theorem updates_composes : Composes fun {_} (p : ProviderProg _) => Updates p :=
  composes_invariant gaugeMonitor fun recorded => recorded = false

def recordsNothing : ProviderOp → Bool
  | .recordSuccess | .recordFailure => false
  | _ => true

theorem updates_call {op : ProviderOp} (quiet : recordsNothing op = true) :
    Updates (ProviderCalls.call op) := by
  rintro _ rfl
  refine ⟨permits_free _, fun o _ => ?_⟩
  cases op <;> first | rfl | cases quiet

theorem update_holds (r : Except Exn α) :
    Holds gaugeMonitor (ProviderCalls.call .setCircuitBreakerState >>= fun _ => .done r)
      (fun _ recorded => recorded = false) true := by
  refine ⟨fun _ => rfl, fun o _ => ?_⟩
  cases o <;> rfl

theorem failWith_updates (exc : Exn) : Updates (failWith exc : ProviderProg α) := by
  rintro _ rfl
  refine ⟨permits_free _, fun o granted => ?_⟩
  cases o with
  | error e => cases granted rfl
  | ok u => exact update_holds _

theorem onFailure_updates (exc : Exn) : Updates (onFailure exc : ProviderProg α) := by
  rw [onFailure.eq_def]
  split
  · exact failWith_updates _
  · exact failWith_updates _
  · exact failWith_updates _
  · exact updates_composes.done _

theorem callWithRetry_updates {fn : ProviderProg α} (h : Updates fn) (retryable : Exn → Bool)
    (maxAttempts : ℤ) : Updates (callWithRetry fn retryable maxAttempts) := by
  have loop (left : ℕ) (attempt : ℤ) (last : Option Exn) :
      Updates (retryLoop fn retryable maxAttempts left attempt last) := by
    induction left generalizing attempt last with
    | zero => cases last <;> exact updates_composes.done _
    | succ left ih =>
      refine updates_composes.handle h fun exc => ?_
      split
      · exact updates_composes.done _
      · exact updates_composes.bind (updates_call rfl) fun _ => ih _ _
  exact loop _ _ _

theorem runWithBreaker_updates {fn : ProviderProg α} (config : ProviderConfig) (h : Updates fn) :
    Updates (runWithBreaker config fn) := by
  refine updates_composes.bind (updates_call rfl) fun _ => ?_
  refine updates_composes.bind
    (updates_composes.handle (callWithRetry_updates h _ _) onFailure_updates) fun result => ?_
  rintro _ rfl
  refine ⟨permits_free _, fun o granted => ?_⟩
  cases o with
  | error e => cases granted rfl
  | ok u => exact update_holds _

theorem postOnce_updates (payload : JsonObject) : Updates (postOnce lib payload) := by
  refine updates_composes.bind (updates_call rfl) fun response => ?_
  split
  · exact updates_composes.done _
  · split <;> exact updates_composes.done _

theorem openStream_updates (payload : JsonObject) : Updates (openStream payload) := by
  refine updates_composes.bind (updates_call rfl) fun statusCode => ?_
  split
  · refine updates_composes.bind (updates_call rfl) fun body => ?_
    exact updates_composes.bind (updates_call rfl) fun _ => updates_composes.done _
  · exact updates_composes.done _

theorem readStream_updates (config : ProviderConfig) :
    Updates ((readStream lib config).ensure (ProviderCalls.call .aclose)) := by
  refine updates_composes.ensure ?_ (updates_call rfl)
  refine updates_composes.of_uses (readStream_uses config) fun op unused => updates_call ?_
  cases op <;> first | rfl | cases unused

theorem runCall_updates (config : ProviderConfig) (providerCall : ProviderCall) :
    Updates (runCall lib config providerCall) := by
  cases providerCall with
  | chat request =>
    refine updates_composes.bind (updates_composes.bind
      (runWithBreaker_updates config (postOnce_updates _)) fun raw => ?_) fun _ =>
        updates_composes.done _
    split <;> exact updates_composes.done _
  | stream request =>
    refine updates_composes.bind (updates_composes.bind
      (runWithBreaker_updates config (openStream_updates _)) fun _ => ?_) fun _ =>
        updates_composes.done _
    exact readStream_updates config

end Programs

section Answers
variable {config : BreakerConfig} {s s' : ProviderState} {ι : Type} {i : ι} {op : ProviderOp}
  {o : Except Exn (ProviderRet op)}

/-- `before_call` on an open breaker that has cooled down: it becomes half-open. -/
def Turns (config : BreakerConfig) (s : ProviderState) (op : ProviderOp) : Prop :=
  op = .beforeCall ∧ s.breaker.state = .opened ∧
    ∃ openedAt, s.breaker.openedAt = some openedAt ∧ config.recoveryTimeout ≤ s.now - openedAt

theorem answer_cases (unrecorded : records ⟨op, o⟩ = false)
    (answered : (providerWorld config ι).answer s i op o s') :
    (op = .setCircuitBreakerState ∧ s'.gauge = some s.breaker.state ∧
      s'.breaker.state = s.breaker.state) ∨
    s'.gauge = s.gauge ∧ (Turns config s op ∧ s'.breaker.state = .halfOpen ∨
      ¬ Turns config s op ∧ s'.breaker.state = s.breaker.state) := by
  cases op with
  | recordSuccess | recordFailure => cases unrecorded
  | setCircuitBreakerState =>
    rw [answered.2]
    exact .inl ⟨rfl, rfl, rfl⟩
  | beforeCall =>
    right
    obtain ⟨result, rfl⟩ := answered
    refine ⟨rfl, ?_⟩
    change Turns config s .beforeCall ∧ (beforeCall config s.now s.breaker).2.state = .halfOpen ∨
      ¬ Turns config s .beforeCall ∧ (beforeCall config s.now s.breaker).2.state = s.breaker.state
    rcases beforeCall_cases config s.now s.breaker with ⟨⟨e, rejected⟩, same⟩ |
      ⟨_, ⟨closed, same⟩ | ⟨openedAt, opened, since, cooled, turned⟩ | ⟨half, _, same⟩⟩
    · refine .inr ⟨?_, by rw [same]⟩
      rintro ⟨_, opened, openedAt, since, cooled⟩
      have free : ¬ s.breaker.Probing := by
        rintro ⟨half, _⟩
        rw [opened] at half
        cases half
      cases rejected.symm.trans (beforeCall_admits config s.now openedAt s.breaker free since cooled)
    · refine .inr ⟨?_, by rw [same]⟩
      rintro ⟨_, opened, _⟩
      cases closed.symm.trans opened
    · exact .inl ⟨⟨rfl, opened, openedAt, since, cooled⟩, by rw [turned]⟩
    · refine .inr ⟨?_, by rw [same]⟩
      rintro ⟨_, opened, _⟩
      cases half.symm.trans opened
  | _ =>
    rw [show s' = s from answered]
    refine .inr ⟨rfl, .inr ⟨?_, rfl⟩⟩
    rintro ⟨other, _⟩
    cases other

end Answers

section Runs
variable {ι : Type} {lib : Libraries} {p : ProviderPool ι} {i : ι}

/-- The call has recorded its outcome. -/
def Completed (p : ProviderPool ι) (i : ι) : Prop := ∃ e ∈ p.history i, records e = true

/-- The call is between the record of its outcome and the update of the gauge. -/
def Recording (p : ProviderPool ι) (i : ι) : Prop :=
  ∃ past e, p.history i = past ++ [e] ∧ records e = true

/-- Once a call has completed, and with no call about to update it, the gauge shows the state of
the breaker. -/
def GaugeShows (p : ProviderPool ι) : Prop :=
  (∃ i, Completed p i) → (∀ i, ¬ Recording p i) →
    p.shared.gauge.map circuitStateValue = some (circuitStateValue p.shared.breaker.state)

/-- A call turns the breaker half-open while no other call is about to update the gauge. -/
def TurnsUnseen (config : BreakerConfig) (p : ProviderPool ι) : ProviderLabel ι → Prop
  | .call _ event => Turns config p.shared event.1 ∧ ∀ j, ¬ Recording p j
  | .env _ => False

abbrev UpdatesTracked (p : ProviderPool ι) : Prop :=
  Pool.Tracked gaugeMonitor (fun _ _ recorded => recorded = false) (fun _ => false) p

/-- The breaker leaves its first state only with an outcome. -/
def ChangedByOutcome (p : ProviderPool ι) : Prop :=
  p.shared.breaker.state ≠ .closed → ∃ i, Completed p i

structure GaugeInvariant (p : ProviderPool ι) : Prop where
  tracked : UpdatesTracked p
  changed : ChangedByOutcome p

theorem after_records (t : List ProviderEvent) :
    gaugeMonitor.after false t = true ↔ ∃ past e, t = past ++ [e] ∧ records e = true := by
  induction t using List.reverseRecOn with
  | nil =>
    constructor
    · intro absurd
      cases absurd
    · rintro ⟨past, e, empty, _⟩
      cases past <;> cases empty
  | append_singleton t e _ =>
    rw [Monitor.after_concat]
    constructor
    · intro recorded
      exact ⟨t, e, rfl, recorded⟩
    · rintro ⟨past, e', same, recorded⟩
      rw [(List.append_singleton_inj.mp same).2]
      exact recorded

theorem UpdatesTracked.next (tracked : UpdatesTracked p) {op : ProviderOp}
    {next : Except Exn (ProviderRet op) → ProviderProg (Option ChatCompletionResponse)}
    (head : p.threads i = .call op next) (recording : Recording p i) :
    op = .setCircuitBreakerState := by
  have holds := (tracked i).2
  rw [head] at holds
  exact holds.1 ((after_records _).mpr recording)

variable [DecidableEq ι] {event : ProviderEvent} {s : ProviderState}
  {q : ProviderProg (Option ChatCompletionResponse)}

/-- The pool after a call of `i` is answered. -/
abbrev moved (p : ProviderPool ι) (i : ι) (event : ProviderEvent) (s : ProviderState)
    (q : ProviderProg (Option ChatCompletionResponse)) : ProviderPool ι :=
  ⟨s, Function.update p.threads i q, Function.update p.history i (p.history i ++ [event])⟩

theorem completed_moved :
    (∃ j, Completed (moved p i event s q) j) ↔ (∃ j, Completed p j) ∨ records event = true := by
  simp only [Completed]
  rw [Function.exists_update_iff p.history fun _ history => ∃ e ∈ history, records e = true]
  constructor
  · rintro (⟨e, mem, recorded⟩ | ⟨j, _, completed⟩)
    · rcases List.mem_append.mp mem with mem | mem
      · exact .inl ⟨i, e, mem, recorded⟩
      · rw [List.mem_singleton.mp mem] at recorded
        exact .inr recorded
    · exact .inl ⟨j, completed⟩
  · rintro (⟨j, e, mem, recorded⟩ | recorded)
    · by_cases mover : j = i
      · rw [mover] at mem
        exact .inl ⟨e, List.mem_append_left _ mem, recorded⟩
      · exact .inr ⟨j, mover, e, mem, recorded⟩
    · exact .inl ⟨event, List.mem_append_right _ (.head _), recorded⟩

theorem recording_moved :
    (∀ j, ¬ Recording (moved p i event s q) j) ↔
      records event = false ∧ ∀ j, j ≠ i → ¬ Recording p j := by
  simp only [Recording]
  rw [Function.forall_update_iff p.history fun _ history =>
    ¬ ∃ past e, history = past ++ [e] ∧ records e = true]
  refine and_congr_left fun _ => ?_
  rw [Bool.eq_false_iff, Ne, not_iff_not]
  constructor
  · rintro ⟨past, e, same, recorded⟩
    rw [(List.append_singleton_inj.mp same).2]
    exact recorded
  · intro recorded
    exact ⟨p.history i, event, rfl, recorded⟩

variable {config : BreakerConfig}

theorem ChangedByOutcome.step {p' : ProviderPool ι} {l : ProviderLabel ι} (h : ChangedByOutcome p)
    (step : Step (providerWorld config ι) p l p') : ChangedByOutcome p' := by
  cases step with
  | @call i op next o s head answered =>
    intro changed
    apply completed_moved.mpr
    by_cases recorded : records ⟨op, o⟩ = true
    · exact .inr recorded
    · left
      rcases answer_cases (Bool.eq_false_of_not_eq_true recorded) answered with
        ⟨_, _, same⟩ | ⟨_, ⟨⟨_, opened, _⟩, _⟩ | ⟨_, same⟩⟩
      · exact h (same ▸ changed)
      · apply h
        rw [opened]
        exact fun closed => by cases closed
      · exact h (same ▸ changed)
  | env moved =>
    rw [ChangedByOutcome, moved.2]
    exact h

theorem GaugeInvariant.step {p' : ProviderPool ι} {l : ProviderLabel ι} (h : GaugeInvariant p)
    (step : Step (providerWorld config ι) p l p') : GaugeInvariant p' := by
  have granted (s : ProviderState) (i : ι) (op : ProviderOp) (o : Except Exn (ProviderRet op))
      (s' : ProviderState) (recorded : Bool) (answered : (providerWorld config ι).answer s i op o s') :
      gaugeMonitor.answers recorded op o := by
    intro records
    cases op with
    | recordSuccess | recordFailure =>
      rw [answered.1]
      rfl
    | _ => cases records
  exact ⟨(step_cases granted h.tracked step).1, h.changed.step step⟩

/-- One step keeps the gauge right exactly if it does not turn the breaker half-open unseen. -/
theorem step_exact {p' : ProviderPool ι} {l : ProviderLabel ι} (h : GaugeInvariant p)
    (shows : GaugeShows p) (step : Step (providerWorld config ι) p l p') :
    GaugeShows p' ↔ ¬ TurnsUnseen config p l := by
  cases step with
  | @call i op next o s head answered =>
    have others (idle : ∀ j, j ≠ i → ¬ Recording p j) (moves : op ≠ .setCircuitBreakerState) :
        ∀ j, ¬ Recording p j := by
      intro j recording
      by_cases mover : j = i
      · rw [mover] at recording
        exact moves (h.tracked.next head recording)
      · exact idle j mover recording
    by_cases recorded : records ⟨op, o⟩ = true
    · refine iff_of_true (fun _ idle => ?_) ?_
      · rw [(recording_moved.mp idle).1] at recorded
        cases recorded
      · rintro ⟨⟨rfl, _⟩, _⟩
        cases recorded
    have unrecorded := Bool.eq_false_of_not_eq_true recorded
    rcases answer_cases unrecorded answered with ⟨rfl, gauge, state⟩ | ⟨gauge, turned | kept⟩
    · refine iff_of_true (fun _ _ => ?_) ?_
      · change s.gauge.map circuitStateValue = _
        rw [gauge, ← state]
        rfl
      · rintro ⟨⟨other, _⟩, _⟩
        cases other
    · obtain ⟨turns, half⟩ := turned
      have moves : op ≠ .setCircuitBreakerState := by
        rw [turns.1]
        exact fun other => by cases other
      have completed : ∃ j, Completed p j := by
        apply h.changed
        rw [turns.2.1]
        exact fun closed => by cases closed
      constructor
      · -- the gauge still shows the open breaker
        rintro shown ⟨_, idle⟩
        have before := shows completed idle
        have after := shown (completed_moved.mpr (.inl completed))
          (recording_moved.mpr ⟨unrecorded, fun j _ => idle j⟩)
        have after : s.gauge.map circuitStateValue = some (circuitStateValue s.breaker.state) := after
        rw [gauge, before, turns.2.1, half] at after
        cases after
      · intro unseen _ idle
        exact (unseen ⟨turns, others (recording_moved.mp idle).2 moves⟩).elim
    · obtain ⟨stays, state⟩ := kept
      refine iff_of_true (fun completed idle => ?_) fun turned => stays turned.1
      by_cases moves : op = .setCircuitBreakerState
      · subst moves
        change s.gauge.map circuitStateValue = _
        rw [answered.2]
        rfl
      · change s.gauge.map circuitStateValue = some (circuitStateValue s.breaker.state)
        rw [gauge, state]
        refine shows ?_ (others (recording_moved.mp idle).2 moves)
        exact (completed_moved.mp completed).resolve_right recorded
  | @env duration s moved =>
    refine iff_of_true (fun completed idle => ?_) id
    rw [moved.2]
    exact shows completed idle

/-- In every run of calls through a provider, in any interleaving and with any outcomes: the gauge
shows the breaker in every state exactly if no `before_call` turns the breaker half-open while no
other call is about to update the gauge. -/
theorem gauge_shows_breaker_iff (providerConfig : ProviderConfig) (config : BreakerConfig)
    (calls : ι → ProviderCall) (now : ℚ) (run : List (ProviderLabel ι × ProviderPool ι))
    (isRun : IsRun (Step (providerWorld config ι)) (startPool lib providerConfig calls now) run) :
    (∀ p ∈ visited (startPool lib providerConfig calls now) run, GaugeShows p) ↔
      StepsMeet (fun p l => ¬ TurnsUnseen config p l) (startPool lib providerConfig calls now) run := by
  refine isRun.throughout_iff (I := GaugeInvariant) ?_ ?_ ⟨?_, ?_⟩ ?_
  · exact fun p l p' h step => h.step step
  · exact fun p l p' h shows step => step_exact h shows step
  · exact Pool.start_tracked fun i => runCall_updates providerConfig (calls i) _ rfl
  · exact fun changed => (changed rfl).elim
  · rintro ⟨_, _, mem, _⟩
    cases mem

end Runs

section Endings
variable {ι : Type} [DecidableEq ι] {lib : Libraries}

/-- An ended call recorded an outcome, or was rejected by a breaker that another call's outcome
had opened. -/
structure Ending (lib : Libraries) (p : ProviderPool ι) : Prop where
  tracked : p.Tracked lib
  changed : ChangedByOutcome p
  rejected : ∀ i, p.phase lib i = .dropped → ∃ j, Completed p j

theorem Ending.step {config : BreakerConfig} {p p' : ProviderPool ι} {l : ProviderLabel ι}
    (h : Ending lib p) (meets : p.Meets (fun _ e => unrecorded lib e = false) l)
    (step : Step (providerWorld config ι) p l p') : Ending lib p' := by
  obtain ⟨tracked, moves⟩ := step_cases providerWorld_granted h.tracked step
  refine ⟨tracked, h.changed.step step, fun j dropped => ?_⟩
  suffices before : ∃ k, Completed p k by
    obtain ⟨k, e, mem, recorded⟩ := before
    exact ⟨k, e, step.history_mono k mem, recorded⟩
  rcases moves with ⟨i, op, o, rfl, permitted, answered, phases⟩ | ⟨duration, rfl, _, phases⟩
  · rw [ProviderPool.phase, phases] at dropped
    rcases update_cases (Q := fun phase => phase = CallPhase.dropped) dropped with ⟨_, here⟩ | ⟨_, before⟩
    · have permitted : (callMonitor lib).permits (p.phase lib i) op := permitted
      have here : (callMonitor lib).advance (p.phase lib i) op o = .dropped := here
      cases phase : p.phase lib i with
      | notStarted =>
        rw [phase] at permitted here
        cases permitted
        -- a closed breaker rejects nobody
        apply h.changed
        intro closed
        have admitted : o = .ok () := by
          rw [answered.1, beforeCall, closed]
        rw [admitted] at here
        cases here
      | admitted =>
        rw [phase] at here
        change (if records ⟨op, o⟩ then CallPhase.recorded
          else if unrecorded lib ⟨op, o⟩ then .dropped else .admitted) = .dropped at here
        have seen : unrecorded lib ⟨op, o⟩ = false := meets
        rw [seen] at here
        split at here <;> cases here
      | recorded =>
        rw [phase] at here
        cases here
      | dropped =>
        rw [phase] at permitted
        exact permitted.elim
    · exact h.rejected j before
  · rw [ProviderPool.phase, phases] at dropped
    exact h.rejected j dropped

/-- If every outcome is a success, a timeout, a connect error or a status error, then once a call
has ended some call has completed. -/
theorem completed_of_done (providerConfig : ProviderConfig) (config : BreakerConfig)
    (positive : 1 ≤ providerConfig.maxAttempts) (calls : ι → ProviderCall) (now : ℚ)
    (run : List (ProviderLabel ι × ProviderPool ι))
    (isRun : IsRun (Step (providerWorld config ι)) (startPool lib providerConfig calls now) run)
    (outcomes : StepsMeet (Pool.Meets fun _ e => unrecorded lib e = false)
      (startPool lib providerConfig calls now) run) :
    ∀ p ∈ visited (startPool lib providerConfig calls now) run,
      ∀ i r, p.threads i = .done r → ∃ j, Completed p j := by
  intro p mem i r done
  have ending : Ending lib p := by
    refine isRun.invariant (I := Ending lib) (fun p l p' h meets step => h.step meets step) outcomes ?_
      p mem
    refine ⟨Pool.start_tracked fun i => runCall_holds providerConfig positive (calls i), ?_, ?_⟩
    · exact fun changed => (changed rfl).elim
    · intro i dropped
      cases dropped
  obtain ⟨accepted, holds⟩ := ending.tracked i
  have past := past_of_accepts accepted
  rw [done] at holds
  have ended : p.phase lib i = .recorded ∨ p.phase lib i = .dropped := holds
  rcases ended with recorded | dropped
  · change CallPhase.past (p.phase lib i) _ at past
    rw [recorded] at past
    exact ⟨i, past⟩
  · exact ending.rejected i dropped

end Endings

section SecondCall

theorem seen_of_other {ι : Type} {config : BreakerConfig} {p : ProviderPool ι} {i : ι}
    {event : ProviderEvent} (other : event.1 ≠ .beforeCall) : ¬ TurnsUnseen config p (.call i event) := by
  rintro ⟨⟨same, _⟩, _⟩
  exact other same

theorem gauge_shows_breaker_iff_first_call : ∃ run,
    IsRun (Step (providerWorld touchyBreaker Bool)) twoCallsStart run ∧
    (∃ p ∈ visited twoCallsStart run, Completed p false ∧ p.shared.gauge = some .opened) ∧
    ∀ p ∈ visited twoCallsStart run, GaugeShows p := by
  have isRun : IsRun (Step (providerWorld touchyBreaker Bool)) twoCallsStart
      [(.call false ⟨.beforeCall, .ok ()⟩, _),
        (.call false ⟨.post helloPayload, .error (.httpxTimeout "")⟩, _),
        (.call false ⟨.recordFailure, .ok ()⟩, _), (.call false ⟨.setCircuitBreakerState, .ok ()⟩, _),
        (.env 30, _)] :=
    ⟨.call rfl ⟨rfl, rfl⟩, .call rfl rfl, .call rfl ⟨rfl, rfl⟩, .call rfl ⟨rfl, rfl⟩,
      .env ⟨by norm_num, rfl⟩, trivial⟩
  have closed : ¬ TurnsUnseen touchyBreaker twoCallsStart (.call false ⟨.beforeCall, .ok ()⟩) := by
    rintro ⟨⟨_, opened, _⟩, _⟩
    cases opened
  refine ⟨_, isRun, ?_, ?_⟩
  · refine ⟨_, .tail _ (.tail _ (.tail _ (.tail _ (.head _)))), ?_, rfl⟩
    exact ⟨⟨.recordFailure, .ok ()⟩, .tail _ (.tail _ (.head _)), rfl⟩
  · refine (gauge_shows_breaker_iff _ _ _ _ _ isRun).mpr ⟨closed, ?_, ?_, ?_, id, trivial⟩
    · exact seen_of_other fun same => by cases same
    · exact seen_of_other fun same => by cases same
    · exact seen_of_other fun same => by cases same

/-- The second call is the probe: the breaker is half-open, and the gauge still shows it open. -/
theorem probe_leaves_gauge_open : ∃ run,
    IsRun (Step (providerWorld touchyBreaker Bool)) twoCallsStart run ∧
    StepsMeet (Pool.Meets fun _ e => unrecorded silentLibraries e = false) twoCallsStart run ∧
    (final twoCallsStart run).shared.breaker.state = .halfOpen ∧
    (final twoCallsStart run).shared.gauge = some .opened ∧
    ¬ ∀ p ∈ visited twoCallsStart run, GaugeShows p := by
  have isRun : IsRun (Step (providerWorld touchyBreaker Bool)) twoCallsStart
      [(.call false ⟨.beforeCall, .ok ()⟩, _),
        (.call false ⟨.post helloPayload, .error (.httpxTimeout "")⟩, _),
        (.call false ⟨.recordFailure, .ok ()⟩, _), (.call false ⟨.setCircuitBreakerState, .ok ()⟩, _),
        (.env 30, _), (.call true ⟨.beforeCall, .ok ()⟩, _)] :=
    ⟨.call rfl ⟨rfl, rfl⟩, .call rfl rfl, .call rfl ⟨rfl, rfl⟩, .call rfl ⟨rfl, rfl⟩,
      .env ⟨by norm_num, rfl⟩, .call rfl ⟨(congrArg Prod.fst touchyBreaker_probes).symm, rfl⟩, trivial⟩
  have half : (beforeCall touchyBreaker (0 + 30) ⟨.opened, 1, some 0, false⟩).2.state = .halfOpen := by
    rw [touchyBreaker_probes]
  refine ⟨_, isRun, ⟨rfl, rfl, rfl, rfl, trivial, rfl, trivial⟩, half, rfl, fun shows => ?_⟩
  have shown := shows _ (.tail _ (.tail _ (.tail _ (.tail _ (.tail _ (.tail _ (.head _)))))))
    ⟨false, ⟨.recordFailure, .ok ()⟩, .tail _ (.tail _ (.head _)), rfl⟩ ?_
  · change some (circuitStateValue .opened) = some (circuitStateValue
      (beforeCall touchyBreaker (0 + 30) ⟨.opened, 1, some 0, false⟩).2.state) at shown
    rw [half] at shown
    cases shown
  · intro i recording
    have last := (after_records _).mpr recording
    cases i with
    | false => exact Bool.false_ne_true last
    | true => exact Bool.false_ne_true last

end SecondCall
end AegisGateway.BreakerGauge
