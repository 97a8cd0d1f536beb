import AegisGateway.BreakerRuns

set_option autoImplicit false

/-!
# Client errors and the breaker

`_is_retryable` takes a status from 400 to 499, except 429, for the caller's own
fault. `_run_with_breaker` records it as a failure all the same, so the breaker
of a provider that answers every request stays closed only as long as such
answers do not come `failure_threshold` in a row.
-/
namespace AegisGateway.ClientErrors
open EffectProgram TransitionRuns ProgramPool CircuitBreaker ProviderCalls BreakerRuns

def isClientError (statusCode : ℤ) : Bool := 400 ≤ statusCode && statusCode < 500 && statusCode ≠ 429

def clientError : ProviderEvent → Bool
  | ⟨.post _, .ok response⟩ => isClientError response.statusCode
  | ⟨.send _, .ok statusCode⟩ => isClientError statusCode
  | _ => false

/-- The upstream answers, and does not blame itself. -/
def healthyAnswer : ProviderEvent → Prop
  | ⟨.post _, .ok response⟩ => response.statusCode < 400 ∨ isClientError response.statusCode = true
  | ⟨.send _, .ok statusCode⟩ => statusCode < 400 ∨ isClientError statusCode = true
  | ⟨.post _, .error _⟩ => False
  | ⟨.send _, .error _⟩ => False
  | _ => True

/-- Whether the call has been answered with a client error, which it must have been before it
records a failure. -/
def blameMonitor : Monitor ProviderOp ProviderRet Exn Bool where
  permits seen op := op = .recordFailure → seen = true
  answers _ op o := healthyAnswer ⟨op, o⟩
  advance seen op o := seen || clientError ⟨op, o⟩

theorem blameMonitor_permits {op : ProviderOp} (h : op ≠ .recordFailure) (seen : Bool) :
    blameMonitor.permits seen op := fun eq => (h eq).elim

theorem blameMonitor_after (seen : Bool) (history : List ProviderEvent) :
    blameMonitor.after seen history = (seen || history.any clientError) := by
  induction history generalizing seen with
  | nil => simp [Monitor.after]
  | cons e history ih =>
    change blameMonitor.after (seen || clientError e) history = _
    rw [ih, List.any_cons, Bool.or_assoc]

section Programs
variable {lib : Libraries} {α : Type}

/-- Only a client error makes the call end with an exception that is recorded. -/
def blamed : Except Exn α → Bool → Prop
  | .ok _, _ => True
  | .error e, seen => named e = true → seen = true

theorem blamed_anyway (r : Except Exn α) : blamed r true := by
  cases r with
  | ok a => trivial
  | error e => exact fun _ => rfl

theorem uses_holds {S : ProviderOp → Prop} {p : ProviderProg α} (h : p.Uses S)
    (silent : ∀ op, S op → op ≠ .recordFailure) (seen : Bool) :
    Holds blameMonitor p (fun _ _ => True) seen := by
  induction p generalizing seen with
  | done r => trivial
  | call op next ih =>
    refine ⟨blameMonitor_permits (silent op h.1) seen, ?_⟩
    intro o _
    exact ih o (h.2 o) _

theorem postOnce_blamed (payload : JsonObject) (seen : Bool) :
    Holds blameMonitor (postOnce lib payload) blamed seen := by
  refine ⟨blameMonitor_permits (by simp) _, ?_⟩
  rintro (e | response) healthy
  · exact healthy.elim
  change Holds blameMonitor (if response.statusCode ≥ 400 then _ else _) blamed
    (seen || isClientError response.statusCode)
  by_cases failed : response.statusCode ≥ 400
  · have client : isClientError response.statusCode = true := by
      rcases healthy with below | client
      · omega
      · exact client
    rw [if_pos failed, client, Bool.or_true]
    exact fun _ => rfl
  · rw [if_neg failed]
    cases lib.jsonLoads response.text with
    | error e => exact fun h => by cases e <;> cases h
    | ok result => trivial

theorem openStream_blamed (payload : JsonObject) (seen : Bool) :
    Holds blameMonitor (openStream payload) blamed seen := by
  refine ⟨blameMonitor_permits (by simp) _, ?_⟩
  rintro (e | statusCode) healthy
  · exact healthy.elim
  change Holds blameMonitor (if (statusCode : ℤ) ≥ 400 then _ else _) blamed
    (seen || isClientError statusCode)
  by_cases failed : (statusCode : ℤ) ≥ 400
  · have client : isClientError statusCode = true := by
      rcases healthy with below | client
      · exact (not_lt_of_ge failed below).elim
      · exact client
    rw [if_pos failed, client, Bool.or_true]
    refine ⟨blameMonitor_permits (by simp) _, ?_⟩
    rintro (e | body) _
    · exact blamed_anyway _
    refine ⟨blameMonitor_permits (by simp) _, ?_⟩
    rintro (e | ⟨⟩) _ <;> exact fun _ => rfl
  · rw [if_neg failed]
    trivial

theorem callWithRetry_blamed {fn : ProviderProg α}
    (attempt_blamed : ∀ seen, Holds blameMonitor fn blamed seen) (maxAttempts : ℤ) (seen : Bool) :
    Holds blameMonitor (callWithRetry fn isRetryable maxAttempts) blamed seen := by
  have attempts (seen : Bool) (_ : True) : Holds blameMonitor fn blamed seen := attempt_blamed seen
  refine retryLoop_rule attempts ?_ _ _ _ _ trivial ?_
  · intro exc delay seen retry ended
    rw [ended (named_of_retryable retry)]
    refine ⟨blameMonitor_permits (by simp) _, fun o _ => ?_⟩
    cases o with
    | error e => exact fun _ => rfl
    | ok u => exact ⟨trivial, fun _ => rfl⟩
  · intro _ unnamed
    cases unnamed

theorem failWith_blamed (exc : Exn) :
    Holds blameMonitor (failWith exc : ProviderProg α) (fun _ _ => True) true := by
  refine ⟨fun _ => rfl, ?_⟩
  rintro (e | ⟨⟩) _
  · trivial
  refine ⟨blameMonitor_permits (by simp) _, ?_⟩
  rintro (e | ⟨⟩) _ <;> trivial

theorem onFailure_blamed {exc : Exn} {seen : Bool} (h : named exc = true → seen = true) :
    Holds blameMonitor (onFailure exc : ProviderProg α) (fun _ _ => True) seen := by
  by_cases caught : named exc = true
  · rw [h caught]
    cases exc with
    | provider e =>
      cases e with
      | upstreamStatus statusCode body => exact failWith_blamed _
      | _ => trivial
    | httpxTimeout message => exact failWith_blamed _
    | httpxConnect message => exact failWith_blamed _
    | _ => trivial
  · cases exc with
    | provider e =>
      cases e with
      | upstreamStatus statusCode body => exact (caught rfl).elim
      | _ => trivial
    | httpxTimeout message => exact (caught rfl).elim
    | httpxConnect message => exact (caught rfl).elim
    | _ => trivial

theorem runWithBreaker_blamed {fn : ProviderProg α} (config : ProviderConfig)
    (attempt_blamed : ∀ seen, Holds blameMonitor fn blamed seen) :
    Holds blameMonitor (runWithBreaker config fn) (fun _ _ => True) false := by
  rw [runWithBreaker, holds_bind]
  refine ⟨blameMonitor_permits (by simp) _, ?_⟩
  rintro (e | ⟨⟩) _
  · trivial
  change Holds blameMonitor _ (fun _ _ => True) false
  rw [holds_bind, holds_handle]
  refine (callWithRetry_blamed attempt_blamed _ false).mono ?_
  have finished (a : α) (seen : Bool) : Holds blameMonitor (do
      ProviderCalls.call .recordSuccess
      ProviderCalls.call .setCircuitBreakerState
      return a) (fun _ _ => True) seen := by
    apply uses_holds (S := fun op => op ≠ .recordFailure)
    · exact Prog.Uses.bind (Prog.uses_perform (by simp)) fun _ =>
        Prog.Uses.bind (Prog.uses_perform (by simp)) fun _ => trivial
    · exact fun _ h => h
  rintro (exc | a) seen h
  · refine (onFailure_blamed h).mono ?_
    rintro (e | a) seen' _
    · trivial
    · exact finished a seen'
  · exact finished a seen

theorem runCall_blamed (config : ProviderConfig) (providerCall : ProviderCall) :
    Holds blameMonitor (runCall lib config providerCall) (fun _ _ => True) false := by
  cases providerCall with
  | chat request =>
    rw [runCall, chatCompletion, holds_bind, holds_bind]
    refine (runWithBreaker_blamed config (postOnce_blamed _)).mono ?_
    rintro (e | raw) seen _
    · trivial
    · simp only [afterValue]
      cases lib.modelValidate raw <;> trivial
  | stream request =>
    rw [runCall, ProviderCalls.streamChatCompletion, holds_bind, holds_bind]
    refine (runWithBreaker_blamed config (openStream_blamed _)).mono ?_
    rintro (e | ⟨⟩) seen _
    · trivial
    · have closing : (ProviderCalls.call .aclose).Uses fun op => usesBreaker op = false :=
        Prog.uses_perform rfl
      refine (uses_holds ((readStream_uses config).ensure closing) ?_ seen).mono ?_
      · rintro _ unused rfl
        cases unused
      · rintro (e | ⟨⟩) _ _ <;> trivial

end Programs

section Runs
variable {ι : Type} {lib : Libraries}

/-- A call is turned away with `CircuitOpenError`. -/
def turnedAway : ProviderEvent → Bool
  | ⟨.beforeCall, .error (.provider (.circuitOpen _))⟩ => true
  | _ => false

def Available (p : ProviderPool ι) : Prop :=
  p.shared.breaker.state = .closed ∧ ∀ i, ∀ e ∈ p.history i, turnedAway e = false

/-- A call that was answered with a client error reports its failure to the breaker. -/
def reportsClientError (p : ProviderPool ι) : ProviderLabel ι → Bool
  | .call i ⟨.recordFailure, _⟩ => (p.history i).any clientError
  | _ => false

def reportsSuccess : ProviderLabel ι → Bool
  | .call _ ⟨.recordSuccess, _⟩ => true
  | _ => false

/-- After `streak` of them in a row, client errors are never reported `threshold` times without
a success between. -/
def StreaksBelow (threshold : ℤ) :
    ℕ → ProviderPool ι → List (ProviderLabel ι × ProviderPool ι) → Prop
  | _, _, [] => True
  | streak, p, (l, p') :: rest =>
    if reportsClientError p l then
      (streak : ℤ) + 1 < threshold ∧ StreaksBelow threshold (streak + 1) p' rest
    else if reportsSuccess l then StreaksBelow threshold 0 p' rest
    else StreaksBelow threshold streak p' rest

abbrev Blamed (p : ProviderPool ι) : Prop :=
  Pool.Tracked blameMonitor (fun _ _ _ => True) (fun _ => false) p

theorem blamed_history {p : ProviderPool ι} (i : ι) :
    p.monitored blameMonitor (fun _ => false) i = (p.history i).any clientError := by
  rw [Pool.monitored, blameMonitor_after, Bool.false_or]

variable [DecidableEq ι] {config : BreakerConfig}

theorem available_history {p : ProviderPool ι} (available : Available p) {i : ι}
    {e : ProviderEvent} (admitted : turnedAway e = false) (j : ι) :
    ∀ e' ∈ Function.update p.history i (p.history i ++ [e]) j, turnedAway e' = false := by
  intro e' mem
  by_cases hj : j = i
  · subst hj
    rw [Function.update_self] at mem
    rcases List.mem_append.mp mem with mem | mem
    · exact available.2 j e' mem
    · rw [List.mem_singleton.mp mem]
      exact admitted
  · rw [Function.update_of_ne hj] at mem
    exact available.2 j e' mem

theorem step_streak {p p' : ProviderPool ι} {l : ProviderLabel ι} (blamed_before : Blamed p)
    (available : Available p) (step : Step ((providerWorld config ι).given healthyAnswer) p l p') :
    if reportsClientError p l then
      p'.shared.breaker.failureCount = p.shared.breaker.failureCount + 1 ∧
        (Available p' ↔ (p.shared.breaker.failureCount : ℤ) + 1 < config.failureThreshold)
    else Available p' ∧ p'.shared.breaker.failureCount =
      if reportsSuccess l then 0 else p.shared.breaker.failureCount := by
  cases step with
  | env moved =>
    obtain ⟨_, rfl⟩ := moved
    exact ⟨available, rfl⟩
  | @call i op next o s head answered =>
    obtain ⟨answered, healthy⟩ := answered
    have permitted : blameMonitor.permits ((p.history i).any clientError) op := by
      have here := (blamed_before i).2
      rw [head, blamed_history] at here
      exact here.1
    cases op with
    | beforeCall =>
      obtain ⟨rfl, rfl⟩ := answered
      have passed : beforeCall config p.shared.now p.shared.breaker = (.ok (), p.shared.breaker) := by
        simp only [beforeCall, available.1]
      rw [passed]
      exact ⟨⟨available.1, available_history available rfl⟩, rfl⟩
    | recordSuccess =>
      obtain ⟨rfl, rfl⟩ := answered
      exact ⟨⟨rfl, available_history available rfl⟩, rfl⟩
    | recordFailure =>
      obtain ⟨rfl, rfl⟩ := answered
      have seen : (p.history i).any clientError = true := permitted rfl
      simp only [reportsClientError, seen, if_true]
      have closed := available.1
      by_cases reached : ((p.shared.breaker.failureCount + 1 : ℕ) : ℤ) ≥ config.failureThreshold
      · have opened : recordFailure config p.shared.now p.shared.breaker =
            ⟨.opened, p.shared.breaker.failureCount + 1, some p.shared.now, false⟩ := by
          simp only [recordFailure]
          rw [if_pos (.inr reached)]
        refine ⟨by rw [opened], iff_of_false ?_ (by omega)⟩
        rintro ⟨still, _⟩
        simp only [opened] at still
        cases still
      · have counted : recordFailure config p.shared.now p.shared.breaker =
            ⟨.closed, p.shared.breaker.failureCount + 1, p.shared.breaker.openedAt, false⟩ := by
          simp only [recordFailure, closed]
          rw [if_neg (by simpa using reached)]
        refine ⟨by rw [counted], iff_of_true ?_ (by omega)⟩
        exact ⟨by rw [counted], available_history available rfl⟩
    | setCircuitBreakerState =>
      obtain ⟨rfl, rfl⟩ := answered
      exact ⟨⟨available.1, available_history available rfl⟩, rfl⟩
    | _ =>
      cases answered
      exact ⟨⟨available.1, available_history available rfl⟩, rfl⟩

theorem available_iff_streaks {p : ProviderPool ι} {run : List (ProviderLabel ι × ProviderPool ι)}
    (isRun : IsRun (Step (providerWorld config ι)) p run)
    (answered : StepsMeet (Pool.Meets fun _ e => healthyAnswer e) p run) (blamed_before : Blamed p)
    (available : Available p) :
    (∀ q ∈ visited p run, Available q) ↔
      StreaksBelow config.failureThreshold p.shared.breaker.failureCount p run := by
  induction run generalizing p with
  | nil => simpa [visited, StreaksBelow] using available
  | cons head rest ih =>
    obtain ⟨l, p'⟩ := head
    have step := isRun.1.given answered.1
    have granted : ∀ s i op o s' seen,
        ((providerWorld config ι).given healthyAnswer).answer s i op o s' →
          blameMonitor.answers seen op o := fun _ _ _ _ _ _ answer => answer.2
    have blamed_after : Blamed p' := (step_cases granted blamed_before step).1
    have all_iff : (∀ q ∈ visited p ((l, p') :: rest), Available q) ↔
        ∀ q ∈ visited p' rest, Available q := by
      simp only [mem_visited_cons, forall_eq_or_imp, available, true_and]
    have effect := step_streak blamed_before available step
    have later := ih isRun.2 answered.2 blamed_after
    rw [all_iff, StreaksBelow]
    by_cases reported : reportsClientError p l = true
    · rw [if_pos reported] at effect ⊢
      obtain ⟨counted, kept⟩ := effect
      rw [← kept, ← counted]
      constructor
      · intro all
        have here : Available p' := all p' (by simp [visited])
        exact ⟨here, (later here).mp all⟩
      · rintro ⟨here, streaks⟩
        exact (later here).mpr streaks
    · rw [if_neg reported] at effect ⊢
      obtain ⟨here, counted⟩ := effect
      rw [later here, counted]
      by_cases success : reportsSuccess l = true
      · rw [if_pos success, if_pos success]
      · rw [if_neg success, if_neg success]

/-- Through a provider that answers every attempt, with no status that is its own fault, the
breaker stays closed exactly as long as client errors do not come `failure_threshold` in a row. -/
theorem healthy_provider_available_iff (lib : Libraries) (config : ProviderConfig)
    (breakerConfig : BreakerConfig) (calls : ι → ProviderCall) (now : ℚ)
    (run : List (ProviderLabel ι × ProviderPool ι))
    (isRun : IsRun (Step (providerWorld breakerConfig ι)) (startPool lib config calls now) run)
    (answered : StepsMeet (Pool.Meets fun _ e => healthyAnswer e) (startPool lib config calls now)
      run) :
    (∀ p ∈ visited (startPool lib config calls now) run, Available p) ↔
      StreaksBelow breakerConfig.failureThreshold 0 (startPool lib config calls now) run := by
  apply available_iff_streaks isRun answered
  · exact Pool.start_tracked fun i => runCall_blamed config (calls i)
  · exact ⟨rfl, fun _ _ mem => by cases mem⟩

end Runs

def patientBreaker : BreakerConfig := ⟨"ollama", 2, 30⟩

def badRequest : HttpResponse := ⟨400, "bad request"⟩

theorem healthy_provider_available_iff_one_error : ∃ run,
    IsRun (Step (providerWorld patientBreaker Bool)) twoCallsStart run ∧
    StepsMeet (Pool.Meets fun _ e => healthyAnswer e) twoCallsStart run ∧
    StreaksBelow 2 0 twoCallsStart run ∧ run ≠ [] ∧
    ∀ p ∈ visited twoCallsStart run, Available p := by
  have isRun : IsRun (Step (providerWorld patientBreaker Bool)) twoCallsStart
      [(.call false ⟨.beforeCall, .ok ()⟩, _),
        (.call false ⟨.post helloPayload, .ok badRequest⟩, _),
        (.call false ⟨.recordFailure, .ok ()⟩, _)] :=
    ⟨.call rfl ⟨rfl, rfl⟩, .call rfl rfl, .call rfl ⟨rfl, rfl⟩, trivial⟩
  refine ⟨_, isRun, ?_⟩
  have available := healthy_provider_available_iff _ _ _ _ _ _ isRun
    ⟨trivial, .inr rfl, trivial, trivial⟩
  exact ⟨⟨trivial, .inr rfl, trivial, trivial⟩, ⟨by decide, trivial⟩, by simp,
    available.mpr ⟨by decide, trivial⟩⟩

/-- Two calls answered with a client error open the breaker. -/
theorem client_errors_open_breaker : ¬ ∀ run,
    IsRun (Step (providerWorld patientBreaker Bool)) twoCallsStart run →
    StepsMeet (Pool.Meets fun _ e => healthyAnswer e) twoCallsStart run →
    ∀ p ∈ visited twoCallsStart run, Available p := by
  intro always
  have isRun : IsRun (Step (providerWorld patientBreaker Bool)) twoCallsStart
      [(.call false ⟨.beforeCall, .ok ()⟩, _),
        (.call false ⟨.post helloPayload, .ok badRequest⟩, _),
        (.call false ⟨.recordFailure, .ok ()⟩, _),
        (.call true ⟨.beforeCall, .ok ()⟩, _),
        (.call true ⟨.post helloPayload, .ok badRequest⟩, _),
        (.call true ⟨.recordFailure, .ok ()⟩, _)] :=
    ⟨.call rfl ⟨rfl, rfl⟩, .call rfl rfl, .call rfl ⟨rfl, rfl⟩, .call rfl ⟨rfl, rfl⟩,
      .call rfl rfl, .call rfl ⟨rfl, rfl⟩, trivial⟩
  have closed := (always _ isRun
    ⟨trivial, .inr rfl, trivial, trivial, .inr rfl, trivial, trivial⟩ _
    (final_mem_visited _ _)).1
  cases closed

end AegisGateway.ClientErrors
