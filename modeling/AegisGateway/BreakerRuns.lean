import AegisGateway.ProgramPool
import AegisGateway.ProviderCalls

set_option autoImplicit false

/-!
# One breaker under concurrent calls

Any number of calls go through one provider and share its breaker. A call is in
flight from the moment `before_call` admits it until it records its outcome, and
`_run_with_breaker` records only the exceptions it names. `breaker_not_stuck_iff`
says exactly which steps leave the breaker waiting for a probe that is gone.
-/
namespace AegisGateway.BreakerRuns
open EffectProgram TransitionRuns ProgramPool CircuitBreaker ProviderCalls
open Pricing (startsWith)

structure ProviderState where
  breaker : Breaker
  gauge : Option CircuitState
  now : ℚ

def providerWorld (config : BreakerConfig) (ι : Type) :
    World ProviderOp ProviderRet Exn ι ProviderState ℚ where
  answer s _ op o s' := match op, o with
    | .beforeCall, o =>
      o = (beforeCall config s.now s.breaker).1 ∧
        s' = { s with breaker := (beforeCall config s.now s.breaker).2 }
    | .recordSuccess, o => o = .ok () ∧ s' = { s with breaker := recordSuccess s.breaker }
    | .recordFailure, o =>
      o = .ok () ∧ s' = { s with breaker := recordFailure config s.now s.breaker }
    | .setCircuitBreakerState, o => o = .ok () ∧ s' = { s with gauge := some s.breaker.state }
    | _, _ => s' = s
  passes s duration s' := 0 ≤ duration ∧ s' = { s with now := s.now + duration }

abbrev ProviderPool (ι : Type) :=
  Pool ProviderOp ProviderRet Exn (Option ChatCompletionResponse) ι ProviderState

abbrev ProviderLabel (ι : Type) := Label ProviderOp ProviderRet Exn ι ℚ

abbrev ProviderEvent := Event ProviderOp ProviderRet Exn

def admits : ProviderEvent → Bool
  | ⟨.beforeCall, .ok _⟩ => true
  | _ => false

def records : ProviderEvent → Bool
  | ⟨.recordSuccess, _⟩ => true
  | ⟨.recordFailure, _⟩ => true
  | _ => false

/-- The call was admitted, has recorded no outcome and has not ended. -/
def InFlight {ι : Type} (p : ProviderPool ι) (i : ι) : Prop :=
  (∃ e ∈ p.history i, admits e = true) ∧ (¬ ∃ e ∈ p.history i, records e = true) ∧
    ∀ r, p.threads i ≠ .done r

/-- The exceptions that `_run_with_breaker` has a clause for. -/
def named : Exn → Bool
  | .httpxTimeout _ | .httpxConnect _ => true
  | .provider (.upstreamStatus _ _) => true
  | _ => false

/-- The HTTP client's calls of an attempt, and the wait between two attempts. -/
def isAttempt : ProviderOp → Bool
  | .post _ | .send _ | .aread | .aclose | .sleep _ => true
  | _ => false

/-- An attempt or a wait came to an exception that no clause names. -/
def unrecorded (lib : Libraries) : ProviderEvent → Bool
  | ⟨.post _, .ok response⟩ => response.statusCode < 400 && !(lib.jsonLoads response.text).isOk
  | ⟨op, .error e⟩ => isAttempt op && !named e
  | _ => false

inductive CallPhase where
  | notStarted
  | admitted
  | recorded
  | dropped
  deriving DecidableEq, Repr

def usesBreaker : ProviderOp → Bool
  | .beforeCall | .recordSuccess | .recordFailure => true
  | _ => false

def callMonitor (lib : Libraries) : Monitor ProviderOp ProviderRet Exn CallPhase where
  permits
    | .notStarted, op => op = .beforeCall
    | .admitted, op => op ≠ .beforeCall
    | .recorded, op => usesBreaker op = false
    | .dropped, _ => False
  answers _ op o := match op, o with
    | .recordSuccess, o => o = .ok ()
    | .recordFailure, o => o = .ok ()
    | _, _ => True
  advance phase op o := match phase with
    | .notStarted => if admits ⟨op, o⟩ then .admitted else .dropped
    | .admitted =>
      if records ⟨op, o⟩ then .recorded else if unrecorded lib ⟨op, o⟩ then .dropped else .admitted
    | .recorded => .recorded
    | .dropped => .dropped

section Programs
variable {lib : Libraries} {α : Type}

/-- How an attempt ends: with an exception nobody will record it ends the call. -/
def attemptEnd : Except Exn α → CallPhase → Prop
  | .ok _, phase => phase = .admitted
  | .error e, phase => phase = if named e then .admitted else .dropped

def guardedEnd : Except Exn α → CallPhase → Prop
  | .ok _, phase => phase = .recorded
  | .error _, phase => phase = .recorded ∨ phase = .dropped

def Ended (_ : Except Exn α) (phase : CallPhase) : Prop := phase = .recorded ∨ phase = .dropped

theorem named_of_retryable {exc : Exn} (h : isRetryable exc = true) : named exc = true := by
  cases exc with
  | provider e => cases e <;> first | rfl | cases h
  | _ => first | rfl | cases h

theorem advance_error {op : ProviderOp} (h : isAttempt op = true) (e : Exn) :
    (callMonitor lib).advance .admitted op (.error e) = if named e then .admitted else .dropped := by
  have not_recorded : records ⟨op, .error e⟩ = false := by cases op <;> first | rfl | cases h
  have exn : unrecorded lib ⟨op, .error e⟩ = !named e := by cases op <;> first | rfl | cases h
  simp only [callMonitor, not_recorded, exn]
  cases named e <;> rfl

theorem callWithRetry_holds {fn : ProviderProg α}
    (attempt_holds : Holds (callMonitor lib) fn attemptEnd .admitted) {maxAttempts : ℤ}
    (positive : 1 ≤ maxAttempts) :
    Holds (callMonitor lib) (callWithRetry fn isRetryable maxAttempts) attemptEnd .admitted := by
  have attempts (phase : CallPhase) (ready : phase = .admitted) :
      Holds (callMonitor lib) fn attemptEnd phase := by
    subst ready
    exact attempt_holds
  refine retryLoop_rule attempts ?_ _ _ _ _ rfl (by omega)
  intro exc delay phase retry ended
  have still : phase = .admitted := by
    rw [ended, if_pos (named_of_retryable retry)]
  subst still
  refine ⟨by simp [callMonitor], fun o _ => ?_⟩
  cases o with
  | error e => exact advance_error rfl e
  | ok u => exact ⟨rfl, ended⟩

/-- The call has ended with an exception. -/
def failedEnd (r : Except Exn α) (phase : CallPhase) : Prop :=
  (∃ e, r = .error e) ∧ (phase = .recorded ∨ phase = .dropped)

theorem failWith_holds (exc : Exn) :
    Holds (callMonitor lib) (failWith exc : ProviderProg α) failedEnd .admitted := by
  refine ⟨by simp [callMonitor], ?_⟩
  rintro _ rfl
  refine ⟨rfl, ?_⟩
  rintro (e | ⟨⟩) - <;> exact ⟨⟨_, rfl⟩, .inl rfl⟩

theorem onFailure_holds (exc : Exn) :
    Holds (callMonitor lib) (onFailure exc : ProviderProg α) failedEnd
      (if named exc then .admitted else .dropped) := by
  have unnamed : Holds (callMonitor lib) (.raise exc : ProviderProg α) failedEnd .dropped :=
    ⟨⟨exc, rfl⟩, .inr rfl⟩
  cases exc with
  | httpxTimeout message => exact failWith_holds _
  | httpxConnect message => exact failWith_holds _
  | provider e =>
    cases e with
    | upstreamStatus statusCode body => exact failWith_holds _
    | _ => exact unnamed
  | _ => exact unnamed

theorem runWithBreaker_holds {fn : ProviderProg α} (config : ProviderConfig)
    (attempt_holds : Holds (callMonitor lib) fn attemptEnd .admitted)
    (positive : 1 ≤ config.maxAttempts) :
    Holds (callMonitor lib) (runWithBreaker config fn) guardedEnd .notStarted := by
  rw [runWithBreaker, holds_bind]
  refine ⟨rfl, ?_⟩
  rintro (e | ⟨⟩) -
  · exact .inr rfl
  change Holds (callMonitor lib) _ guardedEnd .admitted
  rw [holds_bind, holds_handle]
  refine (callWithRetry_holds attempt_holds positive).mono ?_
  rintro (exc | a) phase h
  · rw [h]
    refine (onFailure_holds exc).mono ?_
    rintro _ phase ⟨⟨e, rfl⟩, ended⟩
    exact ended
  · rw [h]
    refine ⟨by simp [callMonitor], ?_⟩
    rintro _ rfl
    refine ⟨rfl, ?_⟩
    rintro (e | ⟨⟩) -
    · exact .inl rfl
    · exact rfl

theorem postOnce_holds (payload : JsonObject) :
    Holds (callMonitor lib) (postOnce lib payload) attemptEnd .admitted := by
  refine ⟨by simp [callMonitor], ?_⟩
  rintro (e | response) -
  · exact advance_error rfl e
  · change Holds (callMonitor lib) (if response.statusCode ≥ 400 then _ else _) attemptEnd
      (if response.statusCode < 400 && !(lib.jsonLoads response.text).isOk then .dropped
        else .admitted)
    by_cases failed : response.statusCode ≥ 400
    · rw [if_pos failed, if_neg (by simp [failed])]
      rfl
    · rw [if_neg failed]
      cases h : lib.jsonLoads response.text with
      | error e =>
        rw [if_pos (by simpa [Except.isOk, Except.toBool] using failed)]
        cases e <;> rfl
      | ok result =>
        rw [if_neg (by simp [Except.isOk, Except.toBool])]
        rfl

theorem openStream_holds (payload : JsonObject) :
    Holds (callMonitor lib) (openStream payload) attemptEnd .admitted := by
  refine ⟨by simp [callMonitor], ?_⟩
  rintro (e | statusCode) -
  · exact advance_error rfl e
  · change Holds (callMonitor lib) (if (statusCode : ℤ) ≥ 400 then _ else _) attemptEnd .admitted
    split
    · refine ⟨by simp [callMonitor], ?_⟩
      rintro (e | body) -
      · exact advance_error rfl e
      · change Holds (callMonitor lib) _ attemptEnd .admitted
        refine ⟨by simp [callMonitor], ?_⟩
        rintro (e | ⟨⟩) -
        · exact advance_error rfl e
        · exact rfl
    · exact rfl

theorem readLines_uses (config : ProviderConfig) (lines : List String) (ending : Option Exn) :
    (readLines lib config lines ending).Uses fun op => usesBreaker op = false := by
  induction lines with
  | nil => cases ending <;> trivial
  | cons line rest ih =>
    rw [readLines]
    by_cases data : startsWith line "data:" = true
    · rw [if_pos data]
      cases chunkOf lib config line with
      | error exc => trivial
      | ok chunk =>
        cases chunk with
        | none => trivial
        | some chunk => exact Prog.Uses.bind (Prog.uses_perform rfl) fun _ => ih
    · rw [if_neg data]
      exact ih

theorem readStream_uses (config : ProviderConfig) :
    (readStream lib config).Uses fun op => usesBreaker op = false :=
  Prog.Uses.bind (Prog.uses_perform rfl) fun stream => readLines_uses config stream.lines stream.ending

theorem recorded_holds {p : ProviderProg α} (h : p.Uses fun op => usesBreaker op = false) :
    Holds (callMonitor lib) p (fun _ phase => phase = .recorded) .recorded :=
  h.holds (fun _ unused => unused) fun _ _ _ _ => rfl

theorem runCall_holds (config : ProviderConfig) (positive : 1 ≤ config.maxAttempts)
    (providerCall : ProviderCall) :
    Holds (callMonitor lib) (runCall lib config providerCall) Ended .notStarted := by
  cases providerCall with
  | chat request =>
    rw [runCall, chatCompletion, holds_bind, holds_bind]
    refine (runWithBreaker_holds config (postOnce_holds _) positive).mono ?_
    rintro (e | raw) phase h
    · exact h
    · cases h
      simp only [afterValue]
      cases lib.modelValidate raw <;> exact .inl rfl
  | stream request =>
    rw [runCall, ProviderCalls.streamChatCompletion, holds_bind, holds_bind]
    refine (runWithBreaker_holds config (openStream_holds _) positive).mono ?_
    rintro (e | ⟨⟩) phase h
    · exact h
    · cases h
      have closing : (ProviderCalls.call .aclose).Uses fun op => usesBreaker op = false :=
        Prog.uses_perform rfl
      refine (recorded_holds ((readStream_uses config).ensure closing)).mono ?_
      rintro (e | ⟨⟩) phase recorded <;> exact .inl recorded

end Programs

section Runs
variable {ι : Type} {lib : Libraries}

def startPool (lib : Libraries) (config : ProviderConfig) (calls : ι → ProviderCall) (now : ℚ) :
    ProviderPool ι :=
  Pool.start ⟨.initial, none, now⟩ fun i => runCall lib config (calls i)

/-- If the breaker waits for a probe, some admitted call is still to record its outcome. So
with no call in flight it admits a call once it has cooled down. -/
def NotStuck (config : BreakerConfig) (p : ProviderPool ι) : Prop :=
  (p.shared.breaker.Probing → ∃ i, InFlight p i) ∧
  ((∀ i, ¬ InFlight p i) → ∀ openedAt, p.shared.breaker.openedAt = some openedAt →
    p.shared.now - openedAt ≥ config.recoveryTimeout →
    (beforeCall config p.shared.now p.shared.breaker).1 = .ok ())

/-- The only call in flight meets an exception that nobody records, while the breaker
waits for its probe. -/
def LosesProbe (lib : Libraries) (p : ProviderPool ι) : ProviderLabel ι → Prop
  | .call i event => p.shared.breaker.Probing ∧ InFlight p i ∧ (∀ j, InFlight p j → j = i) ∧
      unrecorded lib event = true
  | .env _ => False

theorem notStuck_iff (config : BreakerConfig) (p : ProviderPool ι) :
    NotStuck config p ↔ (p.shared.breaker.Probing → ∃ i, InFlight p i) := by
  constructor
  · exact And.left
  · intro probed
    refine ⟨probed, ?_⟩
    intro idle openedAt openedThen cooled
    apply beforeCall_admits config _ openedAt _ _ openedThen cooled
    intro probing
    obtain ⟨i, flying⟩ := probed probing
    exact idle i flying

abbrev ProviderPool.phase (lib : Libraries) (p : ProviderPool ι) : ι → CallPhase :=
  p.monitored (callMonitor lib) fun _ => .notStarted

abbrev ProviderPool.Tracked (lib : Libraries) (p : ProviderPool ι) : Prop :=
  Pool.Tracked (callMonitor lib) (fun _ => Ended) (fun _ => .notStarted) p

/-- The past a call in this phase has. -/
def CallPhase.past (phase : CallPhase) (history : List ProviderEvent) : Prop :=
  match phase with
  | .notStarted => history = []
  | .admitted => (∃ e ∈ history, admits e = true) ∧ ¬ ∃ e ∈ history, records e = true
  | .recorded => ∃ e ∈ history, records e = true
  | .dropped => True

theorem past_of_accepts {history : List ProviderEvent}
    (h : (callMonitor lib).Accepts .notStarted history) :
    ((callMonitor lib).after .notStarted history).past history := by
  have start : CallPhase.past .notStarted [] := rfl
  refine h.past start ?_
  intro phase past op o before permitted _
  cases phase with
  | notStarted =>
    cases permitted
    cases before
    cases o with
    | error e => trivial
    | ok a => exact ⟨⟨_, .head _, rfl⟩, by simp [records]⟩
  | admitted =>
    obtain ⟨admitted_before, unrecorded_before⟩ := before
    change CallPhase.past (if records ⟨op, o⟩ then .recorded
      else if unrecorded lib ⟨op, o⟩ then .dropped else .admitted) _
    by_cases recorded : records ⟨op, o⟩ = true
    · rw [if_pos recorded]
      exact ⟨⟨op, o⟩, by simp, recorded⟩
    · rw [if_neg recorded]
      split
      · trivial
      · obtain ⟨e, mem, ok⟩ := admitted_before
        refine ⟨⟨e, List.mem_append_left _ mem, ok⟩, ?_⟩
        rintro ⟨e, mem, bad⟩
        rcases List.mem_append.mp mem with mem | mem
        · exact unrecorded_before ⟨e, mem, bad⟩
        · rw [List.mem_singleton.mp mem] at bad
          exact recorded bad
  | recorded =>
    obtain ⟨e, mem, ok⟩ := before
    exact ⟨e, List.mem_append_left _ mem, ok⟩
  | dropped => exact permitted.elim

theorem inFlight_iff {p : ProviderPool ι} (tracked : p.Tracked lib) (i : ι) :
    InFlight p i ↔ p.phase lib i = .admitted := by
  obtain ⟨accepted, holds⟩ := tracked i
  have past := past_of_accepts accepted
  change CallPhase.past (p.phase lib i) _ at past
  change Holds _ _ _ (p.phase lib i) at holds
  constructor
  · rintro ⟨⟨e, mem, ok⟩, unrecorded_yet, running⟩
    cases phase : p.phase lib i with
    | notStarted =>
      rw [phase] at past
      rw [past] at mem
      cases mem
    | admitted => rfl
    | recorded =>
      rw [phase] at past
      exact (unrecorded_yet past).elim
    | dropped =>
      rw [phase] at holds
      cases thread : p.threads i with
      | done r => exact (running r thread).elim
      | call op next =>
        rw [thread] at holds
        exact holds.1.elim
  · intro phase
    rw [phase] at past holds
    refine ⟨past.1, past.2, ?_⟩
    intro r thread
    rw [thread] at holds
    rcases holds with ended | ended <;> cases ended

theorem notStuck_phase {p : ProviderPool ι} (tracked : p.Tracked lib) (config : BreakerConfig) :
    NotStuck config p ↔ (p.shared.breaker.Probing → ∃ i, p.phase lib i = .admitted) := by
  rw [notStuck_iff]
  simp only [inFlight_iff tracked]

theorem providerWorld_granted {config : BreakerConfig} (s : ProviderState) (i : ι)
    (op : ProviderOp) (o : Except Exn (ProviderRet op)) (s' : ProviderState) (phase : CallPhase)
    (answered : (providerWorld config ι).answer s i op o s') :
    (callMonitor lib).answers phase op o := by
  cases op <;> first | exact answered.1 | trivial

theorem breaker_unused {config : BreakerConfig} {s s' : ProviderState} {i : ι} {op : ProviderOp}
    {o : Except Exn (ProviderRet op)} (unused : usesBreaker op = false)
    (answered : (providerWorld config ι).answer s i op o s') : s'.breaker = s.breaker := by
  cases op with
  | beforeCall | recordSuccess | recordFailure => cases unused
  | setCircuitBreakerState => rw [answered.2]
  | _ => rw [show s' = s from answered]

theorem breaker_recorded {config : BreakerConfig} {s s' : ProviderState} {i : ι} {op : ProviderOp}
    {o : Except Exn (ProviderRet op)} (recorded : records ⟨op, o⟩ = true)
    (answered : (providerWorld config ι).answer s i op o s') : ¬ s'.breaker.Probing := by
  cases op with
  | recordSuccess =>
    rw [answered.2]
    exact recordSuccess_not_probing s.breaker
  | recordFailure =>
    rw [answered.2]
    exact recordFailure_not_probing _ _ _
  | _ => cases recorded

theorem unrecorded_unused {event : ProviderEvent} (h : unrecorded lib event = true) :
    usesBreaker event.1 = false ∧ records event = false := by
  obtain ⟨op, o⟩ := event
  cases op with
  | beforeCall | recordSuccess | recordFailure => cases o <;> cases h
  | _ => exact ⟨rfl, rfl⟩

variable [DecidableEq ι]

theorem call_exact {config : BreakerConfig} {s s' : ProviderState} {x : ι → CallPhase} {i : ι}
    {op : ProviderOp} {o : Except Exn (ProviderRet op)}
    (permitted : (callMonitor lib).permits (x i) op)
    (answered : (providerWorld config ι).answer s i op o s')
    (probed : s.breaker.Probing → ∃ j, x j = .admitted) :
    (s'.breaker.Probing →
      ∃ j, Function.update x i ((callMonitor lib).advance (x i) op o) j = .admitted) ↔
    ¬ (s.breaker.Probing ∧ x i = .admitted ∧ (∀ j, x j = .admitted → j = i) ∧
      unrecorded lib ⟨op, o⟩ = true) := by
  -- an admitted call other than the one that moves stays admitted
  have stays (idle : x i ≠ .admitted) (same : s'.breaker = s.breaker) (probing : s'.breaker.Probing) :
      ∃ j, Function.update x i ((callMonitor lib).advance (x i) op o) j = .admitted := by
    rw [same] at probing
    obtain ⟨j, admitted⟩ := probed probing
    have other : j ≠ i := by
      rintro rfl
      exact idle admitted
    exact ⟨j, by rw [Function.update_of_ne other, admitted]⟩
  cases phase : x i with
  | notStarted =>
    have idle : x i ≠ .admitted := by simp [phase]
    refine iff_of_true ?_ (by simp)
    rw [← phase]
    rw [phase] at permitted
    cases permitted
    obtain ⟨result, state⟩ := answered
    cases o with
    | ok a =>
      intro _
      refine ⟨i, ?_⟩
      rw [Function.update_self, phase]
      rfl
    | error e =>
      apply stays idle
      rw [state]
      exact beforeCall_rejected config s.now s.breaker e result.symm
  | admitted =>
    by_cases recorded : records ⟨op, o⟩ = true
    · refine iff_of_true (fun probing => (breaker_recorded recorded answered probing).elim) ?_
      rintro ⟨_, _, _, unseen⟩
      rw [(unrecorded_unused unseen).2] at recorded
      cases recorded
    · have unused : usesBreaker op = false := by
        rw [phase] at permitted
        cases op <;> first | rfl | exact (recorded rfl).elim | exact (permitted rfl).elim
      have advanced : (callMonitor lib).advance .admitted op o =
          if unrecorded lib ⟨op, o⟩ then .dropped else .admitted := if_neg recorded
      rw [breaker_unused unused answered, advanced]
      by_cases unseen : unrecorded lib ⟨op, o⟩ = true
      · have left : (∃ j, Function.update x i .dropped j = .admitted) ↔ ∃ j ≠ i, x j = .admitted := by
          rw [Function.exists_update_iff x fun _ phase => phase = CallPhase.admitted]
          simp
        rw [if_pos unseen, left]
        constructor
        · rintro others ⟨probing, _, alone, _⟩
          obtain ⟨j, other, admitted⟩ := others probing
          exact other (alone j admitted)
        · intro kept probing
          by_contra none_left
          refine kept ⟨probing, rfl, fun j admitted => ?_, unseen⟩
          by_contra other
          exact none_left ⟨j, other, admitted⟩
      · rw [if_neg unseen]
        refine iff_of_true (fun _ => ⟨i, Function.update_self ..⟩) ?_
        exact fun h => unseen h.2.2.2
  | recorded =>
    have idle : x i ≠ .admitted := by simp [phase]
    refine iff_of_true ?_ (by simp)
    rw [← phase]
    rw [phase] at permitted
    exact stays idle (breaker_unused permitted answered)
  | dropped =>
    rw [phase] at permitted
    exact permitted.elim

theorem step_exact (config : BreakerConfig) {p p' : ProviderPool ι} {l : ProviderLabel ι}
    (tracked : p.Tracked lib) (notStuck : NotStuck config p)
    (step : Step (providerWorld config ι) p l p') :
    p'.Tracked lib ∧ (NotStuck config p' ↔ ¬ LosesProbe lib p l) := by
  obtain ⟨tracked', h⟩ := step_cases providerWorld_granted tracked step
  refine ⟨tracked', ?_⟩
  rw [notStuck_phase tracked] at notStuck
  rw [notStuck_phase tracked']
  rcases h with ⟨i, op, o, rfl, permitted, answered, phases⟩ | ⟨duration, rfl, ⟨_, key⟩, phases⟩
  · simp only [LosesProbe, inFlight_iff tracked]
    rw [ProviderPool.phase, phases]
    exact call_exact permitted answered notStuck
  · rw [ProviderPool.phase, phases, key]
    exact iff_of_true notStuck id

/-- Without a first attempt the assertion of `call_with_retry` fails at once, and
nothing is ever recorded. -/
def admissionMonitor : Monitor ProviderOp ProviderRet Exn Unit where
  permits _ op := op = .beforeCall
  answers _ _ _ := True
  advance _ _ _ := ()

omit [DecidableEq ι] in
theorem runWithBreaker_no_attempt {α : Type} {fn : ProviderProg α} (config : ProviderConfig)
    (none_allowed : ¬ 1 ≤ config.maxAttempts) :
    Holds admissionMonitor (runWithBreaker config fn) (fun r _ => ∃ e, r = .error e) () := by
  have empty : config.maxAttempts.toNat = 0 := by omega
  rw [runWithBreaker, callWithRetry, empty]
  refine ⟨rfl, ?_⟩
  rintro (e | ⟨⟩) - <;> exact ⟨_, rfl⟩

omit [DecidableEq ι] in
theorem runCall_no_attempt (config : ProviderConfig) (none_allowed : ¬ 1 ≤ config.maxAttempts)
    (providerCall : ProviderCall) :
    Holds admissionMonitor (runCall lib config providerCall) (fun _ _ => True) () := by
  cases providerCall with
  | chat request =>
    rw [runCall, chatCompletion, holds_bind, holds_bind]
    refine (runWithBreaker_no_attempt config none_allowed).mono ?_
    rintro _ _ ⟨e, rfl⟩
    trivial
  | stream request =>
    rw [runCall, ProviderCalls.streamChatCompletion, holds_bind, holds_bind]
    refine (runWithBreaker_no_attempt config none_allowed).mono ?_
    rintro _ _ ⟨e, rfl⟩
    trivial

/-- The breaker is closed and every call only asks to be admitted. -/
def AllClosed (p : ProviderPool ι) : Prop :=
  Pool.Tracked admissionMonitor (fun _ _ _ => True) (fun _ => ()) p ∧
    p.shared.breaker.state = .closed

theorem allClosed_step {config : BreakerConfig} (p : ProviderPool ι) (l : ProviderLabel ι)
    (p' : ProviderPool ι) (allClosed : AllClosed p) (step : Step (providerWorld config ι) p l p') :
    AllClosed p' := by
  obtain ⟨tracked, closed⟩ := allClosed
  obtain ⟨tracked', h⟩ := step_cases (M := admissionMonitor) (fun _ _ _ _ _ _ _ => True.intro)
    tracked step
  refine ⟨tracked', ?_⟩
  rcases h with ⟨i, op, o, rfl, rfl, ⟨_, state⟩, _⟩ | ⟨duration, rfl, ⟨_, state⟩, _⟩
  · rw [state, beforeCall, closed]
    exact closed
  · rw [state]
    exact closed

theorem breaker_not_stuck_iff (config : ProviderConfig) (breakerConfig : BreakerConfig)
    (calls : ι → ProviderCall) (now : ℚ) (run : List (ProviderLabel ι × ProviderPool ι))
    (isRun : IsRun (Step (providerWorld breakerConfig ι)) (startPool lib config calls now) run) :
    (∀ p ∈ visited (startPool lib config calls now) run, NotStuck breakerConfig p) ↔
      StepsMeet (fun p l => ¬ LosesProbe lib p l) (startPool lib config calls now) run := by
  have initially : NotStuck breakerConfig (startPool lib config calls now) := by
    rw [notStuck_iff]
    rintro ⟨state, _⟩
    cases state
  by_cases positive : 1 ≤ config.maxAttempts
  · refine isRun.throughout_iff (I := ProviderPool.Tracked lib) ?_ ?_ ?_ initially
    · exact fun p l p' tracked step => (step_cases providerWorld_granted tracked step).1
    · exact fun p l p' tracked notStuck step => (step_exact breakerConfig tracked notStuck step).2
    · exact Pool.start_tracked fun i => runCall_holds config positive (calls i)
  · refine isRun.throughout_iff allClosed_step ?_ ⟨?_, rfl⟩ initially
    · intro p l p' allClosed notStuck step
      refine iff_of_true ((notStuck_iff breakerConfig p').mpr ?_) ?_
      · rintro ⟨state, _⟩
        rw [(allClosed_step p l p' allClosed step).2] at state
        cases state
      · intro loses
        cases l with
        | call i event =>
          have state := loses.1.1
          rw [allClosed.2] at state
          cases state
        | env duration => exact loses
    · exact Pool.start_tracked fun i => runCall_no_attempt config positive (calls i)

end Runs

def touchyBreaker : BreakerConfig := ⟨"ollama", 1, 30⟩

def twoCalls (_ : Bool) : ProviderCall := .chat (helloRequest false)

def twoCallsStart : ProviderPool Bool := startPool silentLibraries ⟨"ollama", 1⟩ twoCalls 0

abbrev helloPayload : JsonObject := Json.set "stream" (.bool false) (helloRequest false).modelDump

theorem touchyBreaker_probes :
    beforeCall touchyBreaker (0 + 30) ⟨.opened, 1, some 0, false⟩ =
      (.ok (), ⟨.halfOpen, 1, some 0, true⟩) := by
  norm_num [beforeCall, touchyBreaker]

theorem breaker_not_stuck_iff_second_call : ∃ run,
    IsRun (Step (providerWorld touchyBreaker Bool)) twoCallsStart run ∧
    (∃ p ∈ visited twoCallsStart run, p.shared.breaker.Probing) ∧
    ((∀ p ∈ visited twoCallsStart run, NotStuck touchyBreaker p) ↔
      StepsMeet (fun p l => ¬ LosesProbe silentLibraries p l) twoCallsStart run) := by
  have probed : ∃ run, IsRun (Step (providerWorld touchyBreaker Bool)) twoCallsStart run ∧
      ∃ p ∈ visited twoCallsStart run, p.shared.breaker.Probing := by
    refine ⟨[(.call false ⟨.beforeCall, .ok ()⟩, _),
      (.call false ⟨.post helloPayload, .error (.httpxTimeout "")⟩, _),
      (.call false ⟨.recordFailure, .ok ()⟩, _), (.env 30, _),
      (.call true ⟨.beforeCall, .ok ()⟩, _)],
      ⟨.call rfl ⟨rfl, rfl⟩, .call rfl rfl, .call rfl ⟨rfl, rfl⟩, .env ⟨by norm_num, rfl⟩,
        .call rfl ⟨?_, rfl⟩, trivial⟩,
      _, .tail _ (.tail _ (.tail _ (.tail _ (.tail _ (.head _))))), ?_⟩
    · exact (congrArg Prod.fst touchyBreaker_probes).symm
    · change (beforeCall touchyBreaker (0 + 30) ⟨.opened, 1, some 0, false⟩).2.Probing
      rw [touchyBreaker_probes]
      exact ⟨rfl, rfl⟩
  obtain ⟨run, isRun, probing⟩ := probed
  exact ⟨run, isRun, probing, breaker_not_stuck_iff _ _ _ _ run isRun⟩

/-- The probe ends in a read error, which is not recorded. -/
theorem breaker_gets_stuck : ¬ ∀ run,
    IsRun (Step (providerWorld touchyBreaker Bool)) twoCallsStart run →
    ∀ p ∈ visited twoCallsStart run, NotStuck touchyBreaker p := by
  intro never
  have stuck := never [(.call false ⟨.beforeCall, .ok ()⟩, _),
      (.call false ⟨.post helloPayload, .error (.httpxTimeout "")⟩, _),
      (.call false ⟨.recordFailure, .ok ()⟩, _), (.env 30, _),
      (.call true ⟨.beforeCall, .ok ()⟩, _),
      (.call true ⟨.post helloPayload, .error (.other "ReadError")⟩, _)]
    ⟨.call rfl ⟨rfl, rfl⟩, .call rfl rfl, .call rfl ⟨rfl, rfl⟩, .env ⟨by norm_num, rfl⟩,
      .call rfl ⟨(congrArg Prod.fst touchyBreaker_probes).symm, rfl⟩, .call rfl rfl, trivial⟩ _
    (.tail _ (.tail _ (.tail _ (.tail _ (.tail _ (.tail _ (.head _)))))))
  obtain ⟨i, -, unrecorded_yet, running⟩ := stuck.1 (by
    change (beforeCall touchyBreaker (0 + 30) ⟨.opened, 1, some 0, false⟩).2.Probing
    rw [touchyBreaker_probes]
    exact ⟨rfl, rfl⟩)
  cases i with
  | false => exact unrecorded_yet ⟨⟨.recordFailure, .ok ()⟩, .tail _ (.tail _ (.head _)), rfl⟩
  | true => exact running _ rfl

end AegisGateway.BreakerRuns
