import AegisGateway.Schemas

set_option autoImplicit false

/-!
# The circuit breaker

`providers/circuit_breaker.py`. No method of the class waits while it holds the
lock, so each of them is one step; `now` is `time.monotonic()` at that step.
-/
namespace AegisGateway.CircuitBreaker

inductive CircuitState where
  | closed
  | opened
  | halfOpen
  deriving DecidableEq, Repr

structure BreakerConfig where
  name : String
  failureThreshold : ℤ
  recoveryTimeout : ℚ
  deriving Repr

structure Breaker where
  state : CircuitState
  failureCount : ℕ
  openedAt : Option ℚ
  halfOpenProbeInFlight : Bool
  deriving DecidableEq, Repr

def Breaker.initial : Breaker := ⟨.closed, 0, none, false⟩

def openMessage (config : BreakerConfig) : String :=
  "circuit open for provider '" ++ config.name ++ "'"

def probeMessage (config : BreakerConfig) : String :=
  "circuit half-open for provider '" ++ config.name ++ "', probe in flight"

def beforeCall (config : BreakerConfig) (now : ℚ) (b : Breaker) : Except Exn Unit × Breaker :=
  match b.state with
  | .opened =>
    match b.openedAt with
    | none => (.error .assertion, b)
    | some openedAt =>
      if now - openedAt ≥ config.recoveryTimeout then
        (.ok (), { b with state := .halfOpen, halfOpenProbeInFlight := true })
      else (.error (.provider (.circuitOpen (openMessage config))), b)
  | .halfOpen =>
    if b.halfOpenProbeInFlight then
      (.error (.provider (.circuitOpen (probeMessage config))), b)
    else (.ok (), { b with halfOpenProbeInFlight := true })
  | .closed => (.ok (), b)

def recordSuccess (_ : Breaker) : Breaker := ⟨.closed, 0, none, false⟩

def recordFailure (config : BreakerConfig) (now : ℚ) (b : Breaker) : Breaker :=
  let counted := { b with
    halfOpenProbeInFlight := false
    failureCount := b.failureCount + 1 }
  if counted.state = .halfOpen ∨ (counted.failureCount : ℤ) ≥ config.failureThreshold then
    { counted with state := .opened, openedAt := some now }
  else counted

/-- A half-open breaker that waits for its probe, and so admits nobody. -/
def Breaker.Probing (b : Breaker) : Prop := b.state = .halfOpen ∧ b.halfOpenProbeInFlight = true

/-- Everything that `before_call` can do. -/
theorem beforeCall_cases (config : BreakerConfig) (now : ℚ) (b : Breaker) :
    ((∃ e, (beforeCall config now b).1 = .error e) ∧ (beforeCall config now b).2 = b) ∨
    ((beforeCall config now b).1 = .ok () ∧
      ((b.state = .closed ∧ (beforeCall config now b).2 = b) ∨
        (∃ openedAt, b.state = .opened ∧ b.openedAt = some openedAt ∧
          config.recoveryTimeout ≤ now - openedAt ∧
          (beforeCall config now b).2 = { b with state := .halfOpen, halfOpenProbeInFlight := true }) ∨
        (b.state = .halfOpen ∧ b.halfOpenProbeInFlight = false ∧
          (beforeCall config now b).2 = { b with halfOpenProbeInFlight := true }))) := by
  obtain ⟨state, count, openedAt, probe⟩ := b
  cases state with
  | closed => exact .inr ⟨rfl, .inl ⟨rfl, rfl⟩⟩
  | opened =>
    cases openedAt with
    | none => exact .inl ⟨⟨_, rfl⟩, rfl⟩
    | some openedAt =>
      by_cases cooled : now - openedAt ≥ config.recoveryTimeout
      · have admitted : beforeCall config now ⟨.opened, count, some openedAt, probe⟩ =
            (.ok (), ⟨.halfOpen, count, some openedAt, true⟩) := if_pos cooled
        rw [admitted]
        exact .inr ⟨rfl, .inr (.inl ⟨openedAt, rfl, rfl, cooled, rfl⟩)⟩
      · have rejected : beforeCall config now ⟨.opened, count, some openedAt, probe⟩ =
            (.error (.provider (.circuitOpen (openMessage config))),
              ⟨.opened, count, some openedAt, probe⟩) := if_neg cooled
        rw [rejected]
        exact .inl ⟨⟨_, rfl⟩, rfl⟩
  | halfOpen =>
    cases probe with
    | true => exact .inl ⟨⟨_, rfl⟩, rfl⟩
    | false => exact .inr ⟨rfl, .inr (.inr ⟨rfl, rfl, rfl⟩)⟩

/-- Everything that `record_failure` can do. -/
theorem recordFailure_cases (config : BreakerConfig) (now : ℚ) (b : Breaker) :
    ((b.state = .halfOpen ∨ config.failureThreshold ≤ (b.failureCount + 1 : ℕ)) ∧
      recordFailure config now b = ⟨.opened, b.failureCount + 1, some now, false⟩) ∨
    (b.state ≠ .halfOpen ∧ ((b.failureCount + 1 : ℕ) : ℤ) < config.failureThreshold ∧
      recordFailure config now b = ⟨b.state, b.failureCount + 1, b.openedAt, false⟩) := by
  simp only [recordFailure]
  split
  · exact .inl ⟨‹_›, rfl⟩
  · rename_i stays
    obtain ⟨open_state, few⟩ := not_or.mp stays
    exact .inr ⟨open_state, not_le.mp few, rfl⟩

theorem beforeCall_rejected (config : BreakerConfig) (now : ℚ) (b : Breaker) (e : Exn)
    (h : (beforeCall config now b).1 = .error e) : (beforeCall config now b).2 = b := by
  unfold beforeCall at h ⊢
  split at h
  · split at h
    · rfl
    · split at h
      · cases h
      · rw [if_neg ‹_›]
  · split at h
    · rw [if_pos ‹_›]
    · cases h
  · cases h

theorem recordSuccess_not_probing (b : Breaker) : ¬ (recordSuccess b).Probing := by
  rintro ⟨state, _⟩
  cases state

theorem recordFailure_not_probing (config : BreakerConfig) (now : ℚ) (b : Breaker) :
    ¬ (recordFailure config now b).Probing := by
  rintro ⟨_, probe⟩
  simp only [recordFailure] at probe
  split at probe <;> cases probe

theorem beforeCall_admits (config : BreakerConfig) (now openedAt : ℚ) (b : Breaker)
    (free : ¬ b.Probing) (openedThen : b.openedAt = some openedAt)
    (cooled : now - openedAt ≥ config.recoveryTimeout) : (beforeCall config now b).1 = .ok () := by
  unfold beforeCall
  cases h : b.state with
  | closed => rfl
  | opened =>
    simp only [openedThen]
    rw [if_pos cooled]
  | halfOpen =>
    have idle : b.halfOpenProbeInFlight ≠ true := fun probe => free ⟨h, probe⟩
    simp only
    rw [if_neg idle]

end AegisGateway.CircuitBreaker
