import AegisGateway.BreakerRuns

set_option autoImplicit false

/-!
# The breaker and its history

What the events on one breaker say about its state, and what they do not say:
`record_success` and `record_failure` do not know which call they belong to. A
session puts any number of calls around a breaker, each of them admitted or
rejected by `before_call` and recording its outcome at some later time.
-/
namespace AegisGateway.BreakerHistory
open CircuitBreaker TransitionRuns
open BreakerRuns (CallPhase touchyBreaker)

section Replay

inductive BreakerAction where
  | beforeCall
  | recordSuccess
  | recordFailure
  deriving DecidableEq, Repr

def perform (config : BreakerConfig) (b : Breaker) : BreakerAction × ℚ → Breaker
  | (.beforeCall, now) => (beforeCall config now b).2
  | (.recordSuccess, _) => recordSuccess b
  | (.recordFailure, now) => recordFailure config now b

/-- The breaker after these actions, each with the time at which it was made. -/
def replay (config : BreakerConfig) (actions : List (BreakerAction × ℚ)) : Breaker :=
  actions.foldl (perform config) .initial

/-- The `record_failure` calls after the last `record_success`. -/
def failuresSince (actions : List (BreakerAction × ℚ)) : ℕ :=
  ((actions.reverse.map Prod.fst).takeWhile (· ≠ .recordSuccess)).count .recordFailure

theorem failuresSince_concat (actions : List (BreakerAction × ℚ)) (action : BreakerAction) (now : ℚ) :
    failuresSince (actions ++ [(action, now)]) = match action with
      | .beforeCall => failuresSince actions
      | .recordSuccess => 0
      | .recordFailure => failuresSince actions + 1 := by
  cases action <;> simp [failuresSince]

theorem replay_concat (config : BreakerConfig) (actions : List (BreakerAction × ℚ))
    (action : BreakerAction × ℚ) :
    replay config (actions ++ [action]) = perform config (replay config actions) action := by
  simp [replay]

/-- The four fields of a breaker that has counted `failures`. -/
structure Determined (config : BreakerConfig) (failures : ℕ) (b : Breaker) : Prop where
  counted : b.failureCount = failures
  closed : b.state = .closed ↔ (failures : ℤ) < config.failureThreshold
  probing : b.state = .halfOpen ↔ b.halfOpenProbeInFlight = true
  unopened : b.openedAt = none ↔ b.state = .closed

variable {config : BreakerConfig} {failures : ℕ} {b : Breaker}

theorem determined_initial (positive : 1 ≤ config.failureThreshold) :
    Determined config 0 .initial := by
  refine ⟨rfl, ?_, ?_, ?_⟩ <;> simp [Breaker.initial]
  omega

theorem Determined.beforeCall (h : Determined config failures b) (now : ℚ) :
    Determined config failures (beforeCall config now b).2 := by
  rcases beforeCall_cases config now b with ⟨_, same⟩ | ⟨_, ⟨_, same⟩ | ⟨openedAt, opened, at_some, _, moved⟩ |
    ⟨half, idle, _⟩⟩
  · rw [same]
    exact h
  · rw [same]
    exact h
  · rw [moved]
    have enough : ¬ (failures : ℤ) < config.failureThreshold := by
      rw [← h.closed, opened]
      simp
    refine ⟨h.counted, ?_, ?_, ?_⟩
    · simpa using enough
    · simp
    · simp [at_some]
  · rw [h.probing, idle] at half
    cases half

theorem Determined.recordFailure (h : Determined config failures b) (now : ℚ) :
    Determined config (failures + 1) (recordFailure config now b) := by
  rcases recordFailure_cases config now b with ⟨opens, moved⟩ | ⟨stays, few, moved⟩
  · have enough : config.failureThreshold ≤ (failures + 1 : ℕ) := by
      rcases opens with half | enough
      · have open_state : ¬ (failures : ℤ) < config.failureThreshold := by
          rw [← h.closed, half]
          simp
        push_cast
        omega
      · rwa [h.counted] at enough
    rw [moved]
    refine ⟨by simp [h.counted], ?_, ?_, ?_⟩
    · simpa using enough
    · simp
    · simp
  · rw [h.counted] at few
    have closed : b.state = .closed := by
      rw [h.closed]
      push_cast at few
      omega
    rw [moved]
    refine ⟨by simp [h.counted], ?_, ?_, ?_⟩
    · simpa [closed] using few
    · simp [closed]
    · simp [h.unopened]

theorem replay_determined (positive : 1 ≤ config.failureThreshold)
    (actions : List (BreakerAction × ℚ)) :
    Determined config (failuresSince actions) (replay config actions) := by
  induction actions using List.reverseRecOn with
  | nil => exact determined_initial positive
  | append_singleton past action ih =>
    obtain ⟨action, now⟩ := action
    rw [replay_concat, failuresSince_concat]
    cases action with
    | beforeCall => exact ih.beforeCall now
    | recordSuccess => exact determined_initial positive
    | recordFailure => exact ih.recordFailure now

theorem Determined.no_assertion (h : Determined config failures b) (now : ℚ) :
    (CircuitBreaker.beforeCall config now b).1 ≠ .error .assertion := by
  unfold CircuitBreaker.beforeCall
  cases state_eq : b.state with
  | closed => simp
  | halfOpen =>
    simp only
    split <;> simp
  | opened =>
    cases openedAt_eq : b.openedAt with
    | none =>
      rw [h.unopened, state_eq] at openedAt_eq
      cases openedAt_eq
    | some openedAt =>
      simp only
      split <;> simp

theorem breaker_determined_by_history (config : BreakerConfig)
    (positive : 1 ≤ config.failureThreshold) (actions : List (BreakerAction × ℚ)) :
    (replay config actions).failureCount = failuresSince actions ∧
    ((replay config actions).state = .closed ↔
      (failuresSince actions : ℤ) < config.failureThreshold) ∧
    ((replay config actions).state = .halfOpen ↔
      (replay config actions).halfOpenProbeInFlight = true) ∧
    ((replay config actions).openedAt = none ↔ (replay config actions).state = .closed) ∧
    ∀ now, (beforeCall config now (replay config actions)).1 ≠ .error .assertion := by
  have h := replay_determined positive actions
  exact ⟨h.counted, h.closed, h.probing, h.unopened, h.no_assertion⟩

theorem breaker_determined_by_history_probe :
    (replay touchyBreaker [(.beforeCall, 0), (.recordFailure, 1), (.beforeCall, 31)]).state = .halfOpen ∧
    (replay touchyBreaker [(.beforeCall, 0), (.recordFailure, 1), (.beforeCall, 31)]).failureCount = 1 :=
  ⟨by decide +kernel, (breaker_determined_by_history touchyBreaker (by decide) _).1⟩

end Replay

section Sessions
variable {ι : Type}

inductive CallOutcome where
  | admitted
  | rejected
  | success
  | failure
  deriving DecidableEq, Repr

/-- One event on the breaker: whose it is, when it happened, and the state before and after. -/
structure Entry (ι : Type) where
  call : ι
  outcome : CallOutcome
  time : ℚ
  was : CircuitState
  became : CircuitState

/-- A breaker, the clock, and the calls that go through the breaker. -/
structure Session (ι : Type) where
  breaker : Breaker
  now : ℚ
  phases : ι → CallPhase
  log : List (Entry ι)

def Session.start (now : ℚ) : Session ι := ⟨.initial, now, fun _ => .notStarted, []⟩

inductive Move (ι : Type) where
  | beforeCall (i : ι)
  | recordSuccess (i : ι)
  | recordFailure (i : ι)
  | giveUp (i : ι)
  | wait (duration : ℚ)

section Steps
variable [DecidableEq ι]

/-- The session after an event on the breaker. -/
def Session.event (s : Session ι) (i : ι) (outcome : CallOutcome) (phase : CallPhase)
    (breaker : Breaker) : Session ι where
  breaker := breaker
  now := s.now
  phases := Function.update s.phases i phase
  log := s.log ++ [⟨i, outcome, s.now, s.breaker.state, breaker.state⟩]

/-- A call begins once, and records at most one outcome after it was admitted. It may
also end without recording one. -/
inductive Moves (config : BreakerConfig) : Session ι → Move ι → Session ι → Prop where
  | admitted {s : Session ι} {i : ι} (fresh : s.phases i = .notStarted)
      (ok : (beforeCall config s.now s.breaker).1 = .ok ()) :
      Moves config s (.beforeCall i)
        (s.event i .admitted .admitted (beforeCall config s.now s.breaker).2)
  | rejected {s : Session ι} {i : ι} {e : Exn} (fresh : s.phases i = .notStarted)
      (error : (beforeCall config s.now s.breaker).1 = .error e) :
      Moves config s (.beforeCall i)
        (s.event i .rejected .dropped (beforeCall config s.now s.breaker).2)
  | success {s : Session ι} {i : ι} (inFlight : s.phases i = .admitted) :
      Moves config s (.recordSuccess i) (s.event i .success .recorded (recordSuccess s.breaker))
  | failure {s : Session ι} {i : ι} (inFlight : s.phases i = .admitted) :
      Moves config s (.recordFailure i)
        (s.event i .failure .recorded (recordFailure config s.now s.breaker))
  | gaveUp {s : Session ι} {i : ι} (inFlight : s.phases i = .admitted) :
      Moves config s (.giveUp i) { s with phases := Function.update s.phases i .dropped }
  | waited {s : Session ι} {duration : ℚ} (forward : 0 ≤ duration) :
      Moves config s (.wait duration) { s with now := s.now + duration }

theorem Moves.probe {config : BreakerConfig} {s : Session ι} {i : ι} {b' : Breaker}
    (fresh : s.phases i = .notStarted)
    (admits : beforeCall config s.now s.breaker = (.ok (), b')) :
    Moves config s (.beforeCall i) (s.event i .admitted .admitted b') := by
  have step : Moves config s (.beforeCall i)
      (s.event i .admitted .admitted (beforeCall config s.now s.breaker).2) :=
    .admitted fresh (by rw [admits])
  rwa [admits] at step

end Steps

/-- The breaker leaves another state for OPEN. -/
def Entry.opens (e : Entry ι) : Prop := e.was ≠ .opened ∧ e.became = .opened

/-- After the breaker has entered OPEN nobody is admitted before the cool-down is over, and
it is not CLOSED again before a probe admitted after the cool-down has succeeded. -/
structure CoolDownKept (config : BreakerConfig) (log : List (Entry ι)) : Prop where
  rejects : ∀ past e later, log = past ++ e :: later → e.opens →
    ∀ f ∈ later, f.outcome = .admitted → e.time + config.recoveryTimeout ≤ f.time
  closes : ∀ past e mid f later, log = past ++ e :: (mid ++ f :: later) → e.opens →
    f.became = .closed → ∃ probe ∈ mid, probe.outcome = .admitted ∧
      e.time + config.recoveryTimeout ≤ probe.time ∧
      ∃ g ∈ mid ++ [f], g.call = probe.call ∧ g.outcome = .success

/-- The breaker has not opened since the call was admitted. -/
def AdmittedSinceOpening (log : List (Entry ι)) (i : ι) : Prop :=
  ∃ past e later, log = past ++ e :: later ∧ e.call = i ∧ e.outcome = .admitted ∧
    ∀ f ∈ later, ¬ f.opens

/-- A success is recorded in CLOSED, or by a call that was admitted since the breaker opened. -/
def successInTime (s : Session ι) : Move ι → Prop
  | .recordSuccess i => s.breaker.state = .closed ∨ AdmittedSinceOpening s.log i
  | _ => True

/-- The call was admitted while the breaker was not CLOSED, is still in flight, and the
breaker has not become CLOSED in between. -/
def ProbeInFlight (s : Session ι) (i : ι) : Prop :=
  s.phases i = .admitted ∧ ∃ past e later, s.log = past ++ e :: later ∧ e.call = i ∧
    e.outcome = .admitted ∧ e.was ≠ .closed ∧ ∀ f ∈ later, f.became ≠ .closed

/-- A failure that is recorded in HALF_OPEN comes from the only probe in flight, if any. -/
def failureOfProbe (s : Session ι) : Move ι → Prop
  | .recordFailure i => s.breaker.state = .halfOpen → ∀ j, ProbeInFlight s j → j = i
  | _ => True

section Evolution
variable {config : BreakerConfig} {b : Breaker}

/-- What an event can make of the breaker. -/
structure Evolves (config : BreakerConfig) (now : ℚ) (outcome : CallOutcome) (b b' : Breaker) :
    Prop where
  probing : b'.state = .halfOpen → b'.halfOpenProbeInFlight = true
  success : outcome = .success → b'.state = .closed
  admitted : outcome = .admitted → b'.state ≠ .opened
  cooled : outcome = .admitted → b.state = .closed ∨
    b.state = .opened ∧ ∃ openedAt, b.openedAt = some openedAt ∧ openedAt + config.recoveryTimeout ≤ now
  closed : b.state = .closed → b'.state ≠ .halfOpen
  opened : b'.state ≠ .closed → ∀ openedAt, b.openedAt = some openedAt →
    b'.openedAt = some openedAt ∨ b'.openedAt = some now
  opens : b.state ≠ .opened → b'.state = .opened → b'.openedAt = some now
  closes : b'.state = .closed → b.state = .closed ∨ outcome = .success
  rejected : outcome = .rejected → b' = b

theorem evolves_same (probing : b.state = .halfOpen → b.halfOpenProbeInFlight = true) (now : ℚ)
    {outcome : CallOutcome} (other : outcome = .rejected ∨ outcome = .admitted ∧ b.state = .closed) :
    Evolves config now outcome b b := by
  constructor
  · exact probing
  · rintro rfl
    simp at other
  · rintro rfl
    rcases other with ⟨⟨⟩⟩ | ⟨_, closed⟩
    simp [closed]
  · rintro rfl
    rcases other with ⟨⟨⟩⟩ | ⟨_, closed⟩
    exact .inl closed
  · intro closed
    simp [closed]
  · exact fun _ _ same => .inl same
  · exact fun unopened opened => absurd opened unopened
  · exact .inl
  · exact fun _ => rfl

theorem evolves_admitted (probing : b.state = .halfOpen → b.halfOpenProbeInFlight = true) {now : ℚ}
    (ok : (beforeCall config now b).1 = .ok ()) :
    Evolves config now .admitted b (beforeCall config now b).2 := by
  rcases beforeCall_cases config now b with ⟨⟨e, error⟩, _⟩ | ⟨_, ⟨closed, same⟩ |
    ⟨openedAt, opened, at_some, cooled, moved⟩ | ⟨half, idle, _⟩⟩
  · rw [ok] at error
    cases error
  · rw [same]
    exact evolves_same probing now (.inr ⟨rfl, closed⟩)
  · rw [moved]
    constructor
    · simp
    · simp
    · simp
    · exact fun _ => .inr ⟨opened, openedAt, at_some, by linarith⟩
    · simp [opened]
    · exact fun _ _ same => .inl same
    · exact fun unopened => absurd opened unopened
    · simp
    · simp
  · rw [probing half] at idle
    cases idle

theorem evolves_rejected (probing : b.state = .halfOpen → b.halfOpenProbeInFlight = true) {now : ℚ}
    {e : Exn} (error : (beforeCall config now b).1 = .error e) :
    Evolves config now .rejected b (beforeCall config now b).2 := by
  rw [beforeCall_rejected config now b e error]
  exact evolves_same probing now (.inl rfl)

theorem evolves_success (now : ℚ) : Evolves config now .success b (recordSuccess b) := by
  constructor <;> simp [recordSuccess]

theorem evolves_failure (now : ℚ) : Evolves config now .failure b (recordFailure config now b) := by
  rcases recordFailure_cases config now b with ⟨_, moved⟩ | ⟨stays, _, moved⟩
  · rw [moved]
    constructor <;> simp
  · rw [moved]
    constructor
    · exact fun half => absurd half stays
    · simp
    · simp
    · simp
    · simp_all
    · exact fun _ _ same => .inl same
    · exact fun unopened opened => absurd opened unopened
    · exact .inl
    · simp

end Evolution

section Invariant
variable {config : BreakerConfig} {s t : Session ι} {m : Move ι}

theorem moves_cases [DecidableEq ι] (probing : s.breaker.state = .halfOpen →
      s.breaker.halfOpenProbeInFlight = true) (step : Moves config s m t) :
    (t.breaker = s.breaker ∧ t.log = s.log ∧ s.now ≤ t.now ∧
      (∀ i, t.phases i = .admitted → s.phases i = .admitted) ∧ ∀ i, m ≠ .recordSuccess i) ∨
    ∃ i outcome phase b', t = s.event i outcome phase b' ∧
      Evolves config s.now outcome s.breaker b' ∧
      (phase = .admitted ↔ outcome = .admitted) ∧
      (∀ j, m = .recordSuccess j ↔ outcome = .success ∧ j = i) ∧
      (outcome = .failure → m = .recordFailure i) := by
  cases step with
  | @admitted i fresh ok =>
    exact .inr ⟨i, _, _, _, rfl, evolves_admitted probing ok, by simp, by simp, by simp⟩
  | @rejected i e fresh error =>
    exact .inr ⟨i, _, _, _, rfl, evolves_rejected probing error, by simp, by simp, by simp⟩
  | @success i inFlight =>
    exact .inr ⟨i, _, _, _, rfl, evolves_success _, by simp, by simp [eq_comm], by simp⟩
  | @failure i inFlight =>
    exact .inr ⟨i, _, _, _, rfl, evolves_failure _, by simp, by simp, by simp⟩
  | @gaveUp i inFlight =>
    refine .inl ⟨rfl, rfl, le_rfl, fun j flying => ?_, by simp⟩
    by_cases same : j = i
    · subst same
      exact inFlight
    · simpa [same] using flying
  | @waited duration forward =>
    exact .inl ⟨rfl, rfl, by simpa using forward, fun _ flying => flying, by simp⟩

theorem concat_split {log past later : List (Entry ι)} {e f : Entry ι}
    (h : log ++ [f] = past ++ e :: later) :
    (∃ rest, later = rest ++ [f] ∧ log = past ++ e :: rest) ∨ later = [] ∧ past = log ∧ e = f := by
  rcases List.eq_nil_or_concat later with rfl | ⟨rest, g, rfl⟩
  · obtain ⟨rfl, same⟩ := List.append_inj' h rfl
    exact .inr ⟨rfl, rfl, (List.cons.inj same).1.symm⟩
  · have assoc : log ++ [f] = (past ++ e :: rest) ++ [g] := by simpa using h
    obtain ⟨rfl, same⟩ := List.append_inj' assoc rfl
    exact .inl ⟨rest, by simp [(List.cons.inj same).1], rfl⟩

/-- How the log, the clock and the breaker of a session hang together. -/
structure Consistent (s : Session ι) : Prop where
  probing : s.breaker.state = .halfOpen → s.breaker.halfOpenProbeInFlight = true
  times : ∀ e ∈ s.log, e.time ≤ s.now
  success : ∀ e ∈ s.log, e.outcome = .success → e.became = .closed
  admitted : ∀ e ∈ s.log, e.outcome = .admitted → e.became ≠ .opened
  openings : ∀ past e later, s.log = past ++ e :: later → e.opens →
    (∃ f ∈ later, f.became = .closed) ∨
      s.breaker.state ≠ .closed ∧ ∃ openedAt, s.breaker.openedAt = some openedAt ∧ e.time ≤ openedAt
  lastOpening : s.breaker.state ≠ .closed → ∃ past e later, s.log = past ++ e :: later ∧ e.opens ∧
    ∀ f ∈ later, f.became ≠ .closed ∧ ¬ f.opens

theorem consistent_start (now : ℚ) : Consistent (Session.start now : Session ι) := by
  constructor <;> simp [Session.start, Breaker.initial]

theorem Consistent.event [DecidableEq ι] (h : Consistent s) {i : ι} {outcome : CallOutcome}
    {phase : CallPhase} {b' : Breaker} (evolves : Evolves config s.now outcome s.breaker b') :
    Consistent (s.event i outcome phase b') := by
  constructor
  · exact evolves.probing
  · intro e mem
    rcases List.mem_append.mp mem with old | new
    · exact h.times e old
    · rw [List.mem_singleton.mp new]
      exact le_rfl
  · intro e mem success
    rcases List.mem_append.mp mem with old | new
    · exact h.success e old success
    · rw [List.mem_singleton.mp new] at success ⊢
      exact evolves.success success
  · intro e mem admitted
    rcases List.mem_append.mp mem with old | new
    · exact h.admitted e old admitted
    · rw [List.mem_singleton.mp new] at admitted ⊢
      exact evolves.admitted admitted
  · intro past e later split opens
    rcases concat_split split with ⟨rest, rfl, old⟩ | ⟨rfl, rfl, rfl⟩
    · have on_time : e.time ≤ s.now := h.times e (by simp [old])
      rcases h.openings past e rest old opens with ⟨f, mem, closed⟩ | ⟨_, openedAt, at_some, before⟩
      · exact .inl ⟨f, List.mem_append_left _ mem, closed⟩
      · by_cases closed : b'.state = .closed
        · exact .inl ⟨_, List.mem_append_right _ (List.mem_singleton_self _), closed⟩
        · rcases evolves.opened closed openedAt at_some with same | now
          · exact .inr ⟨closed, openedAt, same, before⟩
          · exact .inr ⟨closed, s.now, now, on_time⟩
    · refine .inr ⟨?_, s.now, evolves.opens opens.1 opens.2, le_rfl⟩
      have opened : b'.state = .opened := opens.2
      change b'.state ≠ .closed
      rw [opened]
      simp
  · intro unclosed
    change b'.state ≠ .closed at unclosed
    by_cases opens : s.breaker.state ≠ .opened ∧ b'.state = .opened
    · exact ⟨s.log, _, [], rfl, opens, by simp⟩
    · have was_unclosed : s.breaker.state ≠ .closed := by
        intro closed
        have not_half := evolves.closed closed
        cases state_eq : b'.state with
        | closed => exact unclosed state_eq
        | halfOpen => exact not_half state_eq
        | opened => exact opens ⟨by simp [closed], state_eq⟩
      obtain ⟨past, e, later, split, opened, quiet⟩ := h.lastOpening was_unclosed
      refine ⟨past, e, later ++ [⟨i, outcome, s.now, s.breaker.state, b'.state⟩], ?_, opened, ?_⟩
      · simp [Session.event, split]
      · intro f mem
        rcases List.mem_append.mp mem with old | new
        · exact quiet f old
        · rw [List.mem_singleton.mp new]
          exact ⟨unclosed, opens⟩

theorem Consistent.silent (h : Consistent s) (breaker : t.breaker = s.breaker) (log : t.log = s.log)
    (now : s.now ≤ t.now) : Consistent t := by
  obtain ⟨probing, times, success, admitted, openings, lastOpening⟩ := h
  constructor
  · rwa [breaker]
  · rw [log]
    exact fun e mem => (times e mem).trans now
  · rwa [log]
  · rwa [log]
  · rwa [log, breaker]
  · rwa [log, breaker]

theorem consistent_step [DecidableEq ι] (config : BreakerConfig) (s : Session ι) (m : Move ι)
    (t : Session ι) (h : Consistent s) (step : Moves config s m t) : Consistent t := by
  rcases moves_cases h.probing step with ⟨breaker, log, now, _⟩ | ⟨i, outcome, phase, b', rfl, evolves, _⟩
  · exact h.silent breaker log now
  · exact h.event evolves

end Invariant

section CoolDown
variable {config : BreakerConfig} {s : Session ι}

theorem CoolDownKept.settled {log : List (Entry ι)} (h : CoolDownKept config log)
    {past later : List (Entry ι)} {e : Entry ι} (split : log = past ++ e :: later) (opens : e.opens)
    (closed : ∃ f ∈ later, f.became = .closed) :
    ∃ probe ∈ later, probe.outcome = .admitted ∧ e.time + config.recoveryTimeout ≤ probe.time ∧
      ∃ g ∈ later, g.call = probe.call ∧ g.outcome = .success := by
  obtain ⟨f, mem, closed⟩ := closed
  obtain ⟨mid, rest, rfl⟩ := List.append_of_mem mem
  obtain ⟨probe, probe_mem, admitted, cooled, g, g_mem, same_call, success⟩ :=
    h.closes past e mid f rest split opens closed
  refine ⟨probe, List.mem_append_left _ probe_mem, admitted, cooled, g, ?_, same_call, success⟩
  rcases List.mem_append.mp g_mem with old | new
  · exact List.mem_append_left _ old
  · rw [List.mem_singleton.mp new]
    exact mem

/-- A call that was admitted since the last opening was admitted after every opening. -/
theorem AdmittedSinceOpening.after {i : ι} (consistent : Consistent s)
    (h : AdmittedSinceOpening s.log i) {past later : List (Entry ι)} {e : Entry ι}
    (split : s.log = past ++ e :: later) (opens : e.opens) :
    ∃ probe ∈ later, probe.call = i ∧ probe.outcome = .admitted := by
  obtain ⟨before, probe, after, split', call_eq, admitted, quiet⟩ := h
  rw [split] at split'
  rcases List.append_eq_append_iff.mp split' with ⟨gap, rfl, rest⟩ | ⟨gap, rfl, rest⟩
  · cases gap with
    | nil =>
      obtain ⟨rfl, rfl⟩ := List.cons.inj rest
      have mem : e ∈ s.log := by simp [split]
      exact absurd opens.2 (consistent.admitted e mem admitted)
    | cons head tail =>
      obtain ⟨rfl, rfl⟩ := List.cons.inj rest
      exact ⟨probe, by simp, call_eq, admitted⟩
  · cases gap with
    | nil =>
      obtain ⟨rfl, rfl⟩ := List.cons.inj rest
      have mem : probe ∈ s.log := by simp [split]
      exact absurd opens.2 (consistent.admitted probe mem admitted)
    | cons head tail =>
      obtain ⟨rfl, rfl⟩ := List.cons.inj rest
      exact absurd opens (quiet e (by simp))

variable {i : ι} {outcome : CallOutcome} {phase : CallPhase} {b' : Breaker}

theorem admitted_cooled (consistent : Consistent s) (kept : CoolDownKept config s.log)
    (evolves : Evolves config s.now outcome s.breaker b') (admitted : outcome = .admitted)
    {past later : List (Entry ι)} {e : Entry ι} (split : s.log = past ++ e :: later)
    (opens : e.opens) : e.time + config.recoveryTimeout ≤ s.now := by
  rcases consistent.openings past e later split opens with closed | ⟨unclosed, openedAt, at_some, before⟩
  · obtain ⟨probe, mem, _, cooled, _⟩ := kept.settled split opens closed
    have on_time : probe.time ≤ s.now := consistent.times probe (by simp [split, mem])
    exact cooled.trans on_time
  · rcases evolves.cooled admitted with closed | ⟨_, openedAt', at_some', cooled⟩
    · exact absurd closed unclosed
    · rw [at_some] at at_some'
      cases at_some'
      linarith

/-- Where the breaker is CLOSED after an event, a probe has succeeded since each opening. -/
theorem closed_settled (consistent : Consistent s) (kept : CoolDownKept config s.log)
    (inTime : outcome = .success → s.breaker.state = .closed ∨ AdmittedSinceOpening s.log i)
    (closes : s.breaker.state = .closed ∨ outcome = .success)
    {past later : List (Entry ι)} {e : Entry ι} (split : s.log = past ++ e :: later)
    (opens : e.opens) :
    ∃ probe ∈ later, probe.outcome = .admitted ∧ e.time + config.recoveryTimeout ≤ probe.time ∧
      ∃ g ∈ later ++ [⟨i, outcome, s.now, s.breaker.state, b'.state⟩],
        g.call = probe.call ∧ g.outcome = .success := by
  have already (closed : s.breaker.state = .closed) : ∃ f ∈ later, f.became = .closed := by
    rcases consistent.openings past e later split opens with earlier | ⟨unclosed, _⟩
    · exact earlier
    · exact absurd closed unclosed
  have settled (closed : s.breaker.state = .closed) :
      ∃ probe ∈ later, probe.outcome = .admitted ∧ e.time + config.recoveryTimeout ≤ probe.time ∧
        ∃ g ∈ later ++ [⟨i, outcome, s.now, s.breaker.state, b'.state⟩],
          g.call = probe.call ∧ g.outcome = .success := by
    obtain ⟨probe, mem, admitted, cooled, g, g_mem, rest⟩ := kept.settled split opens (already closed)
    exact ⟨probe, mem, admitted, cooled, g, List.mem_append_left _ g_mem, rest⟩
  rcases closes with closed | success
  · exact settled closed
  · rcases inTime success with closed | since
    · exact settled closed
    · obtain ⟨probe, mem, call_eq, admitted⟩ := since.after consistent split opens
      refine ⟨probe, mem, admitted, kept.rejects past e later split opens probe mem admitted, _,
        List.mem_append_right _ (List.mem_singleton_self _), call_eq.symm, success⟩

theorem coolDownKept_event [DecidableEq ι] (consistent : Consistent s)
    (kept : CoolDownKept config s.log) (evolves : Evolves config s.now outcome s.breaker b')
    (inTime : outcome = .success → s.breaker.state = .closed ∨ AdmittedSinceOpening s.log i) :
    CoolDownKept config (s.event i outcome phase b').log := by
  constructor
  · intro past e later split opens f mem admitted
    rcases concat_split split with ⟨rest, rfl, old⟩ | ⟨rfl, _⟩
    · rcases List.mem_append.mp mem with mem | mem
      · exact kept.rejects past e rest old opens f mem admitted
      · rw [List.mem_singleton.mp mem] at admitted ⊢
        exact admitted_cooled consistent kept evolves admitted old opens
    · cases mem
  · intro past e mid f later split opens closed
    rcases concat_split split with ⟨rest, grown, old⟩ | ⟨none, _⟩
    · rcases concat_split grown.symm with ⟨rest', rfl, rfl⟩ | ⟨rfl, rfl, rfl⟩
      · exact kept.closes past e mid f rest' old opens closed
      · exact closed_settled consistent kept inTime (evolves.closes closed) old opens
    · simp at none

theorem inTime_of_kept [DecidableEq ι] (consistent : Consistent s) (closed : b'.state = .closed)
    (kept : CoolDownKept config (s.event i .success phase b').log) :
    s.breaker.state = .closed ∨ AdmittedSinceOpening s.log i := by
  by_cases was_closed : s.breaker.state = .closed
  · exact .inl was_closed
  obtain ⟨past, e, later, split, opens, quiet⟩ := consistent.lastOpening was_closed
  have grown : (s.event i .success phase b').log =
      past ++ e :: (later ++ ⟨i, .success, s.now, s.breaker.state, b'.state⟩ :: []) := by
    simp [Session.event, split]
  obtain ⟨probe, mem, admitted, _, g, g_mem, same_call, success⟩ :=
    kept.closes past e later _ [] grown opens closed
  rcases List.mem_append.mp g_mem with old | new
  · have closed_then := consistent.success g (by simp [split, old]) success
    exact absurd closed_then (quiet g old).1
  · rw [List.mem_singleton.mp new] at same_call
    obtain ⟨before, after, rfl⟩ := List.append_of_mem mem
    refine .inr ⟨past ++ e :: before, probe, after, by simp [split], same_call.symm, admitted, ?_⟩
    exact fun f mem => (quiet f (by simp [mem])).2

theorem coolDown_exact [DecidableEq ι] (config : BreakerConfig) (s : Session ι) (m : Move ι)
    (t : Session ι) (consistent : Consistent s) (kept : CoolDownKept config s.log)
    (step : Moves config s m t) : CoolDownKept config t.log ↔ successInTime s m := by
  rcases moves_cases consistent.probing step with ⟨_, log, _, _, other⟩ |
    ⟨i, outcome, phase, b', rfl, evolves, _, success, _⟩
  · rw [log]
    cases m with
    | recordSuccess i => exact absurd rfl (other i)
    | _ => exact iff_of_true kept trivial
  · constructor
    · intro kept'
      cases m with
      | recordSuccess j =>
        obtain ⟨rfl, rfl⟩ := (success j).mp rfl
        exact inTime_of_kept consistent (evolves.success rfl) kept'
      | _ => trivial
    · intro inTime
      apply coolDownKept_event consistent kept evolves
      rintro rfl
      rw [(success i).mpr ⟨rfl, rfl⟩] at inTime
      exact inTime

/-- In every run the cool-down is kept if and only if no success is recorded late. -/
theorem cool_down_kept_iff [DecidableEq ι] (config : BreakerConfig) (now : ℚ)
    (run : List (Move ι × Session ι)) (isRun : IsRun (Moves config) (Session.start now) run) :
    (∀ s ∈ visited (Session.start now) run, CoolDownKept config s.log) ↔
      StepsMeet successInTime (Session.start now) run := by
  have start : CoolDownKept config (Session.start now : Session ι).log := by
    constructor <;> simp [Session.start]
  exact isRun.throughout_iff (P := fun s => CoolDownKept config s.log) (consistent_step config)
    (coolDown_exact config) (consistent_start now) start

theorem touchy_cooled (now : ℚ) (count : ℕ) :
    beforeCall touchyBreaker (now + 30) ⟨.opened, count, some now, false⟩ =
      (.ok (), ⟨.halfOpen, count, some now, true⟩) := by
  have cooled : now + 30 - now ≥ touchyBreaker.recoveryTimeout := by simp [touchyBreaker]
  exact if_pos cooled

theorem cool_down_kept_iff_probe :
    ∃ run : List (Move Bool × Session Bool), IsRun (Moves touchyBreaker) (Session.start 0) run ∧
      (final (Session.start 0) run).log.map Entry.became = [.closed, .opened, .halfOpen, .closed] ∧
      ∀ s ∈ visited (Session.start 0) run, CoolDownKept touchyBreaker s.log := by
  have isRun : IsRun (Moves touchyBreaker) (Session.start 0 : Session Bool)
      [(.beforeCall true, _), (.recordFailure true, _), (.wait 30, _), (.beforeCall false, _),
        (.recordSuccess false, _)] :=
    ⟨.admitted rfl rfl, .failure rfl, .waited (by norm_num), .probe rfl (touchy_cooled _ _), .success rfl,
      trivial⟩
  refine ⟨_, isRun, rfl, (cool_down_kept_iff _ _ _ isRun).mpr ?_⟩
  exact ⟨trivial, trivial, trivial, trivial, .inr ⟨_, _, [], rfl, rfl, rfl, by simp⟩, trivial⟩

/-- Two calls are admitted, the first one opens the breaker, and the second one closes it
at the same moment. -/
theorem late_success_closes :
    ¬ ∀ (config : BreakerConfig) (run : List (Move Bool × Session Bool)),
      IsRun (Moves config) (Session.start 0) run →
      ∀ s ∈ visited (Session.start 0) run, CoolDownKept config s.log := by
  intro kept
  have isRun : IsRun (Moves touchyBreaker) (Session.start 0 : Session Bool)
      [(.beforeCall true, _), (.beforeCall false, _), (.recordFailure true, _),
        (.recordSuccess false, _)] :=
    ⟨.admitted rfl rfl, .admitted rfl rfl, .failure rfl, .success rfl, trivial⟩
  obtain ⟨probe, none, _⟩ := (kept _ _ isRun _ (final_mem_visited _ _)).closes
    [_, _] _ [] _ [] rfl ⟨by decide, rfl⟩ rfl
  cases none

end CoolDown

section Probes
variable {config : BreakerConfig} {s : Session ι} [DecidableEq ι] {i j : ι} {outcome : CallOutcome}
  {phase : CallPhase} {b' : Breaker}

theorem probe_event (evolves : Evolves config s.now outcome s.breaker b')
    (admits : phase = .admitted ↔ outcome = .admitted)
    (probe : ProbeInFlight (s.event i outcome phase b') j) :
    (j ≠ i ∧ b'.state ≠ .closed ∧ ProbeInFlight s j) ∨
      (j = i ∧ outcome = .admitted ∧ s.breaker.state ≠ .closed) := by
  obtain ⟨flying, past, e, later, split, call_eq, admitted, unclosed, quiet⟩ := probe
  rcases concat_split split with ⟨rest, rfl, old⟩ | ⟨rfl, rfl, rfl⟩
  · have stays : b'.state ≠ .closed := quiet _ (List.mem_append_right _ (List.mem_singleton_self _))
    by_cases same : j = i
    · subst same
      have now_admitted : outcome = .admitted := admits.mp (by simpa [Session.event] using flying)
      refine .inr ⟨rfl, now_admitted, fun closed => ?_⟩
      cases state_eq : b'.state with
      | closed => exact stays state_eq
      | opened => exact evolves.admitted now_admitted state_eq
      | halfOpen => exact evolves.closed closed state_eq
    · refine .inl ⟨same, stays, ?_, past, e, rest, old, call_eq, admitted, unclosed, ?_⟩
      · simpa [Session.event, same] using flying
      · exact fun f mem => quiet f (List.mem_append_left _ mem)
  · exact .inr ⟨call_eq.symm, admitted, unclosed⟩

/-- There is one probe at most, and the breaker is HALF_OPEN while it is in flight. -/
structure OneProbe (s : Session ι) : Prop where
  half : ∀ i, ProbeInFlight s i → s.breaker.state = .halfOpen
  one : ∀ i j, ProbeInFlight s i → ProbeInFlight s j → i = j

theorem oneProbe_event (h : OneProbe s) (evolves : Evolves config s.now outcome s.breaker b')
    (admits : phase = .admitted ↔ outcome = .admitted)
    (ofProbe : outcome = .failure → s.breaker.state = .halfOpen → ∀ j, ProbeInFlight s j → j = i) :
    OneProbe (s.event i outcome phase b') := by
  by_cases fresh : outcome = .admitted ∧ s.breaker.state ≠ .closed
  · obtain ⟨admitted, unclosed⟩ := fresh
    have opened : s.breaker.state = .opened := by
      rcases evolves.cooled admitted with closed | ⟨opened, _⟩
      · exact absurd closed unclosed
      · exact opened
    have only (j : ι) (probe : ProbeInFlight (s.event i outcome phase b') j) : j = i := by
      rcases probe_event evolves admits probe with ⟨_, _, old⟩ | ⟨same, _⟩
      · have half := h.half j old
        rw [opened] at half
        cases half
      · exact same
    have half : b'.state = .halfOpen := by
      cases state_eq : b'.state with
      | halfOpen => rfl
      | opened => exact absurd state_eq (evolves.admitted admitted)
      | closed =>
        rcases evolves.closes state_eq with closed | success
        · exact absurd closed unclosed
        · rw [admitted] at success
          cases success
    exact ⟨fun _ _ => half, fun j k hj hk => (only j hj).trans (only k hk).symm⟩
  · have old (j : ι) (probe : ProbeInFlight (s.event i outcome phase b') j) :
        j ≠ i ∧ b'.state ≠ .closed ∧ ProbeInFlight s j := by
      rcases probe_event evolves admits probe with old | ⟨_, now⟩
      · exact old
      · exact absurd now fresh
    refine ⟨fun j probe => ?_, fun j k hj hk => h.one j k (old j hj).2.2 (old k hk).2.2⟩
    obtain ⟨other, unclosed, before⟩ := old j probe
    have half := h.half j before
    change b'.state = .halfOpen
    cases outcome with
    | admitted => exact absurd ⟨rfl, by simp [half]⟩ fresh
    | rejected => rw [evolves.rejected rfl, half]
    | success => exact absurd (evolves.success rfl) unclosed
    | failure => exact absurd (ofProbe rfl half j before) other

theorem oneProbe_step (config : BreakerConfig) (s : Session ι) (m : Move ι) (t : Session ι)
    (h : Consistent s ∧ OneProbe s) (ofProbe : failureOfProbe s m) (step : Moves config s m t) :
    Consistent t ∧ OneProbe t := by
  obtain ⟨consistent, probes⟩ := h
  refine ⟨consistent_step config s m t consistent step, ?_⟩
  rcases moves_cases consistent.probing step with ⟨breaker, log, _, flying, _⟩ |
    ⟨i, outcome, phase, b', rfl, evolves, admits, _, failure⟩
  · have old (j : ι) (probe : ProbeInFlight t j) : ProbeInFlight s j := by
      obtain ⟨inFlight, rest⟩ := probe
      rw [log] at rest
      exact ⟨flying j inFlight, rest⟩
    refine ⟨fun j probe => ?_, fun j k hj hk => probes.one j k (old j hj) (old k hk)⟩
    rw [breaker]
    exact probes.half j (old j probe)
  · apply oneProbe_event probes evolves admits
    intro failed
    rw [failure failed] at ofProbe
    exact ofProbe

theorem one_probe_at_a_time (config : BreakerConfig) (now : ℚ) (run : List (Move ι × Session ι))
    (isRun : IsRun (Moves config) (Session.start now) run)
    (ofProbe : StepsMeet failureOfProbe (Session.start now) run) :
    ∀ s ∈ visited (Session.start now) run, ∀ i j, ProbeInFlight s i → ProbeInFlight s j → i = j := by
  have start : OneProbe (Session.start now : Session ι) := by
    constructor <;> simp [ProbeInFlight, Session.start]
  intro s mem
  exact (isRun.invariant (oneProbe_step config) ofProbe ⟨consistent_start now, start⟩ s mem).2.one

theorem one_probe_at_a_time_single :
    ∃ run : List (Move Bool × Session Bool), IsRun (Moves touchyBreaker) (Session.start 0) run ∧
      (∃ s ∈ visited (Session.start 0) run, ProbeInFlight s false) ∧
      ∀ s ∈ visited (Session.start 0) run, ∀ i j, ProbeInFlight s i → ProbeInFlight s j → i = j := by
  have isRun : IsRun (Moves touchyBreaker) (Session.start 0 : Session Bool)
      [(.beforeCall true, _), (.recordFailure true, _), (.wait 30, _), (.beforeCall false, _)] :=
    ⟨.admitted rfl rfl, .failure rfl, .waited (by norm_num), .probe rfl (touchy_cooled _ _), trivial⟩
  refine ⟨_, isRun, ⟨_, final_mem_visited _ _, ?_⟩, one_probe_at_a_time _ _ _ isRun ?_⟩
  · exact ⟨rfl, [_, _], _, [], rfl, rfl, rfl, by decide, by simp⟩
  · exact ⟨trivial, nofun, trivial, trivial, trivial⟩

/-- A failure from before the breaker opened ends the first probe's turn, and after another
cool-down a second probe is admitted beside it. -/
theorem two_probes_in_flight :
    ¬ ∀ (config : BreakerConfig) (run : List (Move ℕ × Session ℕ)),
      IsRun (Moves config) (Session.start 0) run →
      ∀ s ∈ visited (Session.start 0) run, ∀ i j, ProbeInFlight s i → ProbeInFlight s j → i = j := by
  intro one
  have isRun : IsRun (Moves touchyBreaker) (Session.start 0 : Session ℕ)
      [(.beforeCall 0, _), (.beforeCall 1, _), (.recordFailure 0, _), (.wait 30, _),
        (.beforeCall 2, _), (.recordFailure 1, _), (.wait 30, _), (.beforeCall 3, _)] :=
    ⟨.admitted rfl rfl, .admitted rfl rfl, .failure rfl, .waited (by norm_num),
      .probe rfl (touchy_cooled _ _), .failure rfl, .waited (by norm_num),
      .probe rfl (touchy_cooled _ _), trivial⟩
  have same := one _ _ isRun _ (final_mem_visited _ _) 2 3
    ⟨rfl, [_, _, _], _, [_, _], rfl, rfl, rfl, by decide, by decide⟩
    ⟨rfl, [_, _, _, _, _], _, [], rfl, rfl, rfl, by decide, by simp⟩
  cases same

end Probes

section Refinement
open EffectProgram ProgramPool ProviderCalls BreakerRuns
variable {lib : Libraries}

/-- The session shows the provider's breaker, its clock and the phases of its calls. -/
def Shows (lib : Libraries) (p : ProviderPool ι) (s : Session ι) : Prop :=
  p.Tracked lib ∧ s.breaker = p.shared.breaker ∧ s.now = p.shared.now ∧ s.phases = p.phase lib

theorem clock_kept {config : BreakerConfig} {s s' : ProviderState} {i : ι} {op : ProviderOp}
    {o : Except Exn (ProviderRet op)} (answered : (providerWorld config ι).answer s i op o s') :
    s'.now = s.now := by
  cases op with
  | beforeCall | recordSuccess | recordFailure | setCircuitBreakerState => rw [answered.2]
  | _ => rw [show s' = s from answered]

variable [DecidableEq ι]

theorem call_shown {config : BreakerConfig} {s s' : ProviderState} {u : Session ι} {i : ι}
    {op : ProviderOp} {o : Except Exn (ProviderRet op)} (breaker : u.breaker = s.breaker)
    (clock : u.now = s.now) (permitted : (callMonitor lib).permits (u.phases i) op)
    (answered : (providerWorld config ι).answer s i op o s') :
    ∃ run, IsRun (Moves config) u run ∧ (final u run).breaker = s'.breaker ∧
      (final u run).now = s'.now ∧
      (final u run).phases =
        Function.update u.phases i ((callMonitor lib).advance (u.phases i) op o) := by
  have clock' : u.now = s'.now := clock.trans (clock_kept answered).symm
  cases phase : u.phases i with
  | notStarted =>
    rw [phase] at permitted
    cases permitted
    obtain ⟨result, state⟩ := answered
    rw [← breaker, ← clock] at result state
    rw [state]
    cases o with
    | ok a =>
      exact ⟨[(.beforeCall i, _)], ⟨.admitted phase result.symm, trivial⟩, rfl, rfl, rfl⟩
    | error e =>
      exact ⟨[(.beforeCall i, _)], ⟨.rejected phase result.symm, trivial⟩, rfl, rfl, rfl⟩
  | admitted =>
    rw [phase] at permitted
    by_cases recorded : records ⟨op, o⟩ = true
    · have advanced : (callMonitor lib).advance .admitted op o = .recorded := if_pos recorded
      rw [advanced]
      cases op with
      | recordSuccess =>
        obtain ⟨_, state⟩ := answered
        rw [← breaker] at state
        rw [state]
        exact ⟨[(.recordSuccess i, _)], ⟨.success phase, trivial⟩, rfl, clock, rfl⟩
      | recordFailure =>
        obtain ⟨_, state⟩ := answered
        rw [← breaker, ← clock] at state
        rw [state]
        exact ⟨[(.recordFailure i, _)], ⟨.failure phase, trivial⟩, rfl, rfl, rfl⟩
      | _ => cases recorded
    · have unused : usesBreaker op = false := by
        cases op <;> first | rfl | exact (recorded rfl).elim | exact (permitted rfl).elim
      have same := breaker.trans (breaker_unused unused answered).symm
      have advanced : (callMonitor lib).advance .admitted op o =
          if unrecorded lib ⟨op, o⟩ then .dropped else .admitted := if_neg recorded
      rw [advanced]
      by_cases unseen : unrecorded lib ⟨op, o⟩ = true
      · rw [if_pos unseen]
        exact ⟨[(.giveUp i, _)], ⟨.gaveUp phase, trivial⟩, same, clock', rfl⟩
      · rw [if_neg unseen, ← phase, Function.update_eq_self]
        exact ⟨[], trivial, same, clock', rfl⟩
  | recorded =>
    rw [phase] at permitted
    have same := breaker.trans (breaker_unused permitted answered).symm
    refine ⟨[], trivial, same, clock', ?_⟩
    change u.phases = Function.update u.phases i .recorded
    rw [← phase, Function.update_eq_self]
  | dropped =>
    rw [phase] at permitted
    exact permitted.elim

/-- Every run of the provider's calls is a run of a session. -/
theorem provider_runs_shown (config : ProviderConfig) (positive : 1 ≤ config.maxAttempts)
    (breakerConfig : BreakerConfig) (calls : ι → ProviderCall) (now : ℚ)
    (run : List (ProviderLabel ι × ProviderPool ι))
    (isRun : IsRun (Step (providerWorld breakerConfig ι)) (startPool lib config calls now) run) :
    ∃ run', IsRun (Moves breakerConfig) (Session.start now) run' ∧
      Shows lib (final (startPool lib config calls now) run) (final (Session.start now) run') := by
  refine isRun.simulates ?_ ⟨Pool.start_tracked fun i => runCall_holds config positive (calls i),
    rfl, rfl, rfl⟩
  rintro p l p' u ⟨tracked, breaker, clock, phases⟩ step
  obtain ⟨tracked', moved⟩ := step_cases providerWorld_granted tracked step
  rcases moved with ⟨i, op, o, rfl, permitted, answered, phases'⟩ | ⟨duration, rfl, ⟨forward, key⟩, phases'⟩
  · change (callMonitor lib).permits (ProviderPool.phase lib p i) op at permitted
    rw [← phases] at permitted
    obtain ⟨run', isRun', breaker', clock', moved'⟩ := call_shown breaker clock permitted answered
    refine ⟨run', isRun', tracked', breaker', clock', ?_⟩
    rw [moved', phases]
    exact phases'.symm
  · refine ⟨[(.wait duration, _)], ⟨.waited forward, trivial⟩, tracked', ?_, ?_, ?_⟩
    · rw [key]
      exact breaker
    · rw [key]
      exact congrArg (· + duration) clock
    · exact phases.trans phases'.symm

end Refinement

end Sessions

end AegisGateway.BreakerHistory
