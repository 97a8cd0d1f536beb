import AegisGateway.ProgramPool
import AegisGateway.RequestStages

set_option autoImplicit false

/-!
# Requests with one Idempotency-Key

`services/idempotency.py` under any interleaving of requests that share a tenant
and a key. Redis keeps a response and a lock for each key; each request goes
through phases, and an invariant ties the phases to the two Redis keys.
-/
namespace AegisGateway.Idempotency
open EffectProgram ProgramPool RequestStages TransitionRuns

/-- The response key and the lock key of one tenant and Idempotency-Key. -/
structure Entry where
  response : Option String
  locked : Bool
  deriving DecidableEq, Repr

abbrev Redis := Uuid → String → Entry

def Redis.set (redis : Redis) (tenantId : Uuid) (key : String) (entry : Entry) : Redis :=
  fun t k => if t = tenantId ∧ k = key then entry else redis t k

theorem Redis.set_self (redis : Redis) (tenantId : Uuid) (key : String) (entry : Entry) :
    redis.set tenantId key entry tenantId key = entry := by
  simp [Redis.set]

/-- What a command leaves in Redis. -/
def Redis.after (redis : Redis) : GatewayOp → Redis
  | .tryAcquireLock tenantId key =>
    redis.set tenantId key { redis tenantId key with locked := true }
  | .storeResponse tenantId key responseJson =>
    redis.set tenantId key { redis tenantId key with response := some responseJson }
  | .releaseLock tenantId key =>
    redis.set tenantId key { redis tenantId key with locked := false }
  | _ => redis

/-- What Redis answers to a command that does not fail. -/
def Redis.returns (redis : Redis) : GatewayEvent → Prop
  | ⟨.getCachedResponse tenantId key, .ok value⟩ => value = (redis tenantId key).response
  | ⟨.tryAcquireLock tenantId key, .ok acquired⟩ => acquired = !(redis tenantId key).locked
  | _ => True

/-- A command that fails may have been carried out or not. Nothing expires, and all
other calls of a request may come to anything. -/
def redisWorld (ι : Type) : World GatewayOp GatewayRet Exn ι Redis Empty where
  answer redis _ op o redis' :=
    match o with
    | .ok a => redis.returns ⟨op, .ok a⟩ ∧ redis' = redis.after op
    | .error _ => redis' = redis ∨ redis' = redis.after op
  passes _ _ _ := False

/-- How far a request has come. -/
inductive Phase where
  | start
  | checked
  | executing
  | stored (content : String)
  | broken
  | finished (content : String)
  | replayed (content : String)
  | failed

/-- The phases in which a request holds the lock. -/
def Phase.holding : Phase → Bool
  | .executing | .stored _ | .broken => true
  | _ => false

/-- The response that the request itself has stored. -/
def Phase.authored : Phase → Option String
  | .stored content | .finished content => some content
  | _ => none

/-- The calls that an execution consists of: the provider and the usage row. -/
def executes (op : GatewayOp) : Bool :=
  [OpKind.chat, .stream, .usage].contains op.kind

/-- The calls that need the lock or concern the key. -/
def protectedKinds : List OpKind :=
  [.readResponse, .acquireLock, .releaseLock, .storeResponse, .chat, .stream, .usage]

section Monitor
variable (tenantId : Uuid) (key : String)

def permits : Phase → GatewayOp → Prop
  | .start, .getCachedResponse t k => t = tenantId ∧ k = key
  | .checked, .tryAcquireLock t k => t = tenantId ∧ k = key
  | .executing, .storeResponse t k _ => t = tenantId ∧ k = key
  | .executing, .releaseLock t k => t = tenantId ∧ k = key
  | .executing, op => op.kind ≠ .readResponse ∧ op.kind ≠ .acquireLock
  | .stored _, .releaseLock t k => t = tenantId ∧ k = key
  | .failed, op => op.kind ∉ protectedKinds
  | _, _ => False

def advance : Phase → GatewayEvent → Phase
  | .start, ⟨.getCachedResponse _ _, .ok value⟩ =>
    match value with
    | some content => .replayed content
    | none => .checked
  | .start, _ => .failed
  | .checked, ⟨.tryAcquireLock _ _, .ok acquired⟩ => if acquired then .executing else .failed
  | .checked, _ => .failed
  | .executing, ⟨.storeResponse _ _ content, .ok _⟩ => .stored content
  | .executing, ⟨.storeResponse _ _ _, .error _⟩ => .broken
  | .executing, ⟨.releaseLock _ _, _⟩ => .failed
  | .stored content, ⟨.releaseLock _ _, _⟩ => .finished content
  | phase, _ => phase

def phaseMonitor : Monitor GatewayOp GatewayRet Exn Phase where
  permits := permits tenantId key
  answers _ _ _ := True
  advance phase op o := advance phase ⟨op, o⟩

end Monitor

/-- A non-streaming request with this tenant and key, the response cache being off. -/
structure SameKey (tenantId : Uuid) (key : String) (request : ChatRequest) : Prop where
  tenant : request.tenant.tenantId = tenantId
  key : request.key = some key
  plain : request.body.stream = false
  uncached : request.tenant.cacheEnabled = false

/-- A JSON answer is the request's own, or the stored one. -/
def Concluded : Except Exn Answer → Phase → Prop
  | .ok (.json content _), phase => phase = .finished content ∨ phase = .replayed content
  | .ok .streamed, _ => False
  | .error _, _ => True

section Handler
variable {tenantId : Uuid} {key : String} {config : GatewayConfig} {request : ChatRequest}
  {α β : Type} {providerName : String} {body : ChatCompletionRequest} {promptTokens : ℕ}

abbrev PhaseHolds (tenantId : Uuid) (key : String) (p : GatewayProg α)
    (Q : Except Exn α → Phase → Prop) (phase : Phase) : Prop :=
  Holds (phaseMonitor tenantId key) p Q phase

/-- The calls that leave an executing request where it is. -/
def openKinds : List OpKind :=
  [.tokenizer, .limiter, .acquireSlot, .releaseSlot, .redactor, .detector, .security, .audit, .usage,
    .metric, .readCache, .writeCache, .chat, .stream, .begin, .yield, .clock, .dump, .cost]

theorem open_keeps {p : GatewayProg α} (uses : UsesKinds openKinds p) :
    PhaseHolds tenantId key p (fun _ phase => phase = .executing) .executing := by
  refine uses.holds (fun op kind => ?_) fun op o kind _ => ?_
  · have unread : op.kind ≠ .readResponse := by
      intro eq
      rw [eq] at kind
      exact absurd kind (by decide)
    have unlocked : op.kind ≠ .acquireLock := by
      intro eq
      rw [eq] at kind
      exact absurd kind (by decide)
    cases op with
    | storeResponse t k content => exact absurd kind (by simp [GatewayOp.kind, openKinds])
    | releaseLock t k => exact absurd kind (by simp [GatewayOp.kind, openKinds])
    | _ => exact ⟨unread, unlocked⟩
  · cases op <;> first
      | rfl
      | exact absurd kind (by simp [GatewayOp.kind, openKinds])

theorem open_step {p : GatewayProg α} {f : α → GatewayProg β} {Q : Except Exn β → Phase → Prop}
    (uses : UsesKinds openKinds p) (raised : ∀ e, Q (.error e) .executing)
    (next : ∀ a, PhaseHolds tenantId key (f a) Q .executing) :
    PhaseHolds tenantId key (p >>= f) Q .executing :=
  (open_keeps uses).skip raised next

theorem releaseLock_keeps (same : SameKey tenantId key request) {Q : Except Exn Unit → Phase → Prop}
    (after : ∀ r, Q r .failed) : PhaseHolds tenantId key (releaseLockIfKeyed request) Q .executing := by
  rw [releaseLockIfKeyed, same.key]
  exact ⟨⟨same.tenant, rfl⟩, fun o _ => after o⟩

/-- A request with the key never streams and never looks into the response cache. After a
provider error the slot is released outside the lock. -/
def keyedStages : Assertions Phase :=
  { Assertions.until (fun _ => False) Concluded with
    start := (· = .start)
    fresh := (· = .checked)
    locked := (· = .executing)
    counted := fun _ => (· = .executing)
    limited := fun _ => (· = .executing)
    refused := fun _ => (· = .executing)
    admitted := fun _ => (· = .executing)
    blocked := fun _ => (· = .executing)
    screened := fun body _ phase => phase = .executing ∧ body.stream = false
    missed := fun asked phase => phase = .executing ∧ asked.body.stream = false
    answered := fun _ _ => (· = .executing)
    failed := fun _ => (· = .executing)
    raised := fun _ phase => phase = .executing ∨ phase = .failed
    received := fun _ _ => (· = .executing)
    completed := fun _ _ _ => (· = .executing)
    kept := fun _ _ _ => (· = .executing)
    billed := fun _ _ => (· = .executing)
    dumped := fun _ _ => (· = .executing) }

theorem open_leads {p : GatewayProg α} {next : Except Exn α → Stage} {phase : Phase}
    (uses : UsesKinds openKinds p) (reached : phase = .executing)
    (leads : ∀ r, keyedStages.Reached (next r) .executing) :
    PhaseHolds tenantId key p (fun r => keyedStages.Reached (next r)) phase := by
  subst reached
  exact leads_alone (open_keeps uses) leads

theorem refusal_leads (same : SameKey tenantId key request) {first second : GatewayProg Unit}
    {next : Except Exn Unit → Stage} {phase : Phase} (uses : UsesKinds openKinds first)
    (uses' : UsesKinds openKinds second) (reached : phase = .executing)
    (raised : ∀ e, keyedStages.Reached (next (.error e)) .executing)
    (released : ∀ r, keyedStages.Reached (next r) .failed) :
    PhaseHolds tenantId key (first >>= fun _ => second >>= fun _ => releaseLockIfKeyed request)
      (fun r => keyedStages.Reached (next r)) phase := by
  subst reached
  refine open_step uses raised fun _ => open_step uses' raised fun _ => ?_
  exact releaseLock_keeps same released

theorem keyed_walks (same : SameKey tenantId key request) :
    Walks (phaseMonitor tenantId key) keyedStages.Reached config request := by
  intro α stage p next piece phase reached
  cases piece with
  | replay keyed plain =>
    obtain rfl : phase = .start := reached
    obtain rfl := Option.some.inj (same.key.symm.trans keyed)
    refine ⟨⟨same.tenant, rfl⟩, fun looked _ => ?_⟩
    rcases looked with e | _ | content
    · trivial
    · rfl
    · exact .inr rfl
  | unreplayed other =>
    rcases other with unkeyed | streams
    · cases same.key.symm.trans unkeyed
    · cases same.plain.symm.trans streams
  | lock keyed =>
    obtain rfl : phase = .checked := reached
    obtain rfl := Option.some.inj (same.key.symm.trans keyed)
    refine ⟨⟨same.tenant, rfl⟩, fun taken _ => ?_⟩
    rcases taken with e | _ | _
    · trivial
    · trivial
    · rfl
  | unlocked unkeyed => cases same.key.symm.trans unkeyed
  | unknown =>
    obtain rfl : phase = .executing := reached
    exact releaseLock_keeps same fun r => by cases r <;> trivial
  | count =>
    refine open_leads ((countPromptTokens_uses _ _).weaken (by decide)) reached fun r => ?_
    cases r <;> trivial
  | limit =>
    refine open_leads ((enforceRequestLimits_uses _ _ _ _).weaken (by decide)) reached ?_
    rintro (e | _)
    · cases e <;> trivial
    · rfl
  | acquire =>
    refine open_leads (usesKinds_call rfl) reached ?_
    rintro (e | _ | _) <;> trivial
  | refuse =>
    refine refusal_leads same (usesKinds_call rfl) (usesKinds_call rfl) reached (fun _ => trivial) ?_
    rintro (e | _) <;> trivial
  | screen promptTokens =>
    obtain rfl : phase = .executing := reached
    refine open_step ((redactionStep_uses request).weaken (by decide)) (fun e => ?_) fun messages => ?_
    · cases e <;> trivial
    refine open_step ((detectionStep_uses _ _ _).weaken (by decide)) (fun e => ?_) fun _ => ?_
    · cases e <;> trivial
    · exact ⟨rfl, same.plain⟩
  | block =>
    refine refusal_leads same (usesKinds_call rfl) (usesKinds_call rfl) reached (fun _ => trivial) ?_
    rintro (e | _) <;> trivial
  | lookUp body promptTokens enabled => cases same.uncached.symm.trans enabled
  | uncached => exact reached
  | callProvider asked plain =>
    obtain ⟨rfl, -⟩ := reached
    refine ⟨⟨nofun, nofun⟩, fun answered _ => ?_⟩
    rcases answered with e | response
    · cases e with
      | provider exc => rfl
      | _ => exact .inl rfl
    · rfl
  | fail =>
    refine refusal_leads same (usesKinds_call rfl) (usesKinds_call rfl) reached (fun _ => .inl rfl) ?_
    rintro (e | _) <;> exact .inr rfl
  | freeRaised exc =>
    rcases reached with rfl | rfl
    · exact ⟨⟨nofun, nofun⟩, fun r _ => by cases r <;> trivial⟩
    · refine ⟨?_, fun r _ => by cases r <;> trivial⟩
      simp [phaseMonitor, permits, GatewayOp.kind, protectedKinds]
  | freeAnswered =>
    refine open_leads (usesKinds_call rfl) reached fun r => ?_
    cases r <;> trivial
  | complete =>
    refine open_leads ((complete_uses _ _ _).weaken (by decide)) reached fun r => ?_
    cases r <;> trivial
  | keep =>
    refine open_leads ((storeIfCaching_uses _ _ _).weaken (by decide)) reached fun r => ?_
    cases r <;> trivial
  | bill =>
    refine open_leads ((recordUsage_uses _ _ _ _ _ _).weaken (by decide)) reached fun r => ?_
    cases r <;> trivial
  | dump =>
    refine open_leads (usesKinds_call rfl) reached fun r => ?_
    cases r <;> trivial
  | send text headers =>
    obtain rfl : phase = .executing := reached
    rw [storeAndReleaseIfKeyed, same.key]
    refine ⟨⟨same.tenant, rfl⟩, fun stored _ => ?_⟩
    cases stored with
    | error e => trivial
    | ok _ =>
      refine ⟨⟨same.tenant, rfl⟩, fun released _ => ?_⟩
      cases released with
      | error e => trivial
      | ok _ => exact .inl rfl
  | beginMissed asked streams => cases reached.2.symm.trans streams
  | _ => exact reached.elim

theorem serve_keeps (same : SameKey tenantId key request) :
    PhaseHolds tenantId key (serve config request) Concluded .start :=
  serve_walks (keyed_walks same) rfl

end Handler

section Moves
variable {tenantId : Uuid} {key : String}

/-- The calls that touch neither the lock nor the response. -/
def Unrelated (op : GatewayOp) : Prop :=
  op.kind ∉ [OpKind.readResponse, .acquireLock, .releaseLock, .storeResponse]

instance : DecidablePred Unrelated := fun _ => inferInstanceAs (Decidable (_ ∉ _))

theorem permitted_cases {phase : Phase} {op : GatewayOp} (h : permits tenantId key phase op) :
    (phase = .start ∧ op = .getCachedResponse tenantId key) ∨
    (phase = .checked ∧ op = .tryAcquireLock tenantId key) ∨
    (phase = .executing ∧ ∃ content, op = .storeResponse tenantId key content) ∨
    (phase = .executing ∧ op = .releaseLock tenantId key) ∨
    (∃ content, phase = .stored content ∧ op = .releaseLock tenantId key) ∨
    ((phase = .executing ∨ phase = .failed ∧ executes op = false) ∧ Unrelated op) := by
  cases phase with
  | start =>
    cases op with
    | getCachedResponse t k =>
      obtain ⟨rfl, rfl⟩ := h
      exact .inl ⟨rfl, rfl⟩
    | _ => exact h.elim
  | checked =>
    cases op with
    | tryAcquireLock t k =>
      obtain ⟨rfl, rfl⟩ := h
      exact .inr (.inl ⟨rfl, rfl⟩)
    | _ => exact h.elim
  | executing =>
    cases op with
    | storeResponse t k content =>
      obtain ⟨rfl, rfl⟩ := h
      exact .inr (.inr (.inl ⟨rfl, content, rfl⟩))
    | releaseLock t k =>
      obtain ⟨rfl, rfl⟩ := h
      exact .inr (.inr (.inr (.inl ⟨rfl, rfl⟩)))
    | getCachedResponse t k => exact absurd rfl h.1
    | tryAcquireLock t k => exact absurd rfl h.2
    | _ =>
      refine .inr (.inr (.inr (.inr (.inr ⟨.inl rfl, ?_⟩))))
      simp [Unrelated, GatewayOp.kind]
  | stored content =>
    cases op with
    | releaseLock t k =>
      obtain ⟨rfl, rfl⟩ := h
      exact .inr (.inr (.inr (.inr (.inl ⟨content, rfl, rfl⟩))))
    | _ => exact h.elim
  | failed =>
    have free : op.kind ∉ protectedKinds := h
    refine .inr (.inr (.inr (.inr (.inr ⟨.inr ⟨rfl, ?_⟩, ?_⟩))))
    · have sub : [OpKind.chat, .stream, .usage] ⊆ protectedKinds := by decide
      rw [executes, Bool.eq_false_iff]
      exact fun executing => free (sub (List.contains_iff_mem.mp executing))
    · have sub : [OpKind.readResponse, .acquireLock, .releaseLock, .storeResponse] ⊆
        protectedKinds := by decide
      exact fun mem => free (sub mem)
  | _ => cases op <;> exact h.elim

theorem unrelated_after {op : GatewayOp} (h : Unrelated op) (redis : Redis) :
    redis.after op = redis := by
  cases op <;> first | rfl | exact absurd h (by simp [Unrelated, GatewayOp.kind])

theorem unrelated_advance {op : GatewayOp} (h : Unrelated op) {phase : Phase}
    (running : phase = .executing ∨ phase = .failed) (o : Except Exn (GatewayRet op)) :
    advance phase ⟨op, o⟩ = phase := by
  rcases running with rfl | rfl
  · cases op <;> first | rfl | exact absurd h (by simp [Unrelated, GatewayOp.kind])
  · rfl

theorem advance_release_executing (o : Except Exn Unit) :
    advance .executing ⟨.releaseLock tenantId key, o⟩ = .failed := by
  cases o <;> rfl

theorem advance_release_stored (content : String) (o : Except Exn Unit) :
    advance (.stored content) ⟨.releaseLock tenantId key, o⟩ = .finished content := by
  cases o <;> rfl

end Moves

section Invariant
variable {ι : Type}

/-- The requests' phases agree with what Redis holds: the lock has one holder, nothing is
stored while one executes, and what is stored or replayed is the one response. -/
structure PhasesAgree (phases : ι → Phase) (entry : Entry) : Prop where
  held : ∀ i, (phases i).holding = true → entry.locked = true
  one_holder : ∀ i j, (phases i).holding = true → (phases j).holding = true → i = j
  unstored : ∀ i, phases i = .executing → entry.response = none
  authored : ∀ i content, (phases i).authored = some content → entry.response = some content
  one_author : ∀ i j, (phases i).authored ≠ none → (phases j).authored ≠ none → i = j
  replayed : ∀ i content, phases i = .replayed content → entry.response = some content

variable [DecidableEq ι] {phases : ι → Phase} {entry entry' : Entry} {i : ι} {phase : Phase}

/-- One request moves on and the entry changes: what has to be shown of the mover, and
what the change must not do to the others. -/
theorem PhasesAgree.move (h : PhasesAgree phases entry)
    (response : entry'.response = entry.response ∨
      entry.response = none ∧ ∀ j, j ≠ i → phases j ≠ .executing)
    (others_held : ∀ j, j ≠ i → (phases j).holding = true → entry'.locked = true)
    (holds : phase.holding = true →
      entry'.locked = true ∧ ∀ j, j ≠ i → (phases j).holding = false)
    (executes : phase = .executing → entry'.response = none)
    (authors : ∀ content, phase.authored = some content →
      entry'.response = some content ∧ ∀ j, j ≠ i → (phases j).authored = none)
    (replays : ∀ content, phase = .replayed content → entry'.response = some content) :
    PhasesAgree (Function.update phases i phase) entry' := by
  have kept (content : String) (was : entry.response = some content) :
      entry'.response = some content := by
    rcases response with same | ⟨fresh, _⟩
    · rw [same, was]
    · rw [was] at fresh
      cases fresh
  constructor
  case held =>
    intro j holding
    rcases update_cases (Q := fun a : Phase => a.holding = true) holding with ⟨_, now⟩ | ⟨other, before⟩
    · exact (holds now).1
    · exact others_held j other before
  case one_holder =>
    refine unique_update (Q := fun a : Phase => a.holding = true) h.one_holder ?_
    intro now j other before
    rw [(holds now).2 j other] at before
    cases before
  case unstored =>
    intro j executing
    rcases update_cases (Q := (· = Phase.executing)) executing with ⟨_, now⟩ | ⟨other, before⟩
    · exact executes now
    · rcases response with same | ⟨_, alone⟩
      · rw [same, h.unstored j before]
      · exact absurd before (alone j other)
  case authored =>
    intro j content authored
    rcases update_cases (Q := fun a : Phase => a.authored = some content) authored with ⟨_, now⟩ | ⟨_, before⟩
    · exact (authors content now).1
    · exact kept content (h.authored j content before)
  case one_author =>
    refine unique_update (Q := fun a : Phase => a.authored ≠ none) h.one_author ?_
    intro now j other before
    obtain ⟨content, eq⟩ := Option.ne_none_iff_exists'.mp now
    exact before ((authors content eq).2 j other)
  case replayed =>
    intro j content replayed
    rcases update_cases (Q := (· = Phase.replayed content)) replayed with ⟨_, now⟩ | ⟨_, before⟩
    · exact replays content now
    · exact kept content (h.replayed j content before)

theorem PhasesAgree.leave (h : PhasesAgree phases entry)
    (response : entry'.response = entry.response)
    (others_held : ∀ j, j ≠ i → (phases j).holding = true → entry'.locked = true)
    (idle : phase.holding = false) (unauthored : phase.authored = none)
    (replays : ∀ content, phase = .replayed content → entry'.response = some content) :
    PhasesAgree (Function.update phases i phase) entry' := by
  refine h.move (.inl response) others_held ?_ ?_ ?_ replays
  · intro holding
    rw [idle] at holding
    cases holding
  · rintro rfl
    cases idle
  · intro content authored
    rw [unauthored] at authored
    cases authored

omit [DecidableEq ι] in
theorem PhasesAgree.alone (h : PhasesAgree phases entry) (holding : (phases i).holding = true) (j : ι)
    (other : j ≠ i) : (phases j).holding = false := by
  cases also : (phases j).holding with
  | false => rfl
  | true => exact absurd (h.one_holder j i also holding) other

section Cases
variable {tenantId : Uuid} {key : String} {redis redis' : Redis}

theorem agrees_look (h : PhasesAgree phases (redis tenantId key)) {o : Except Exn (Option String)}
    (answered : (redisWorld ι).answer redis i (.getCachedResponse tenantId key) o redis') :
    PhasesAgree (Function.update phases i (advance .start ⟨.getCachedResponse tenantId key, o⟩))
      (redis' tenantId key) := by
  cases o with
  | error e =>
    have same : redis' = redis := answered.elim id id
    rw [same]
    exact h.leave rfl (fun j _ => h.held j) rfl rfl nofun
  | ok value =>
    obtain ⟨read, same⟩ := answered
    have same' : redis' = redis := same
    rw [same']
    cases value with
    | none => exact h.leave rfl (fun j _ => h.held j) rfl rfl nofun
    | some content =>
      refine h.leave rfl (fun j _ => h.held j) rfl rfl ?_
      rintro _ ⟨⟩
      exact (read : some content = _).symm

theorem agrees_lock (h : PhasesAgree phases (redis tenantId key)) {o : Except Exn Bool}
    (fresh : o = .ok true → (redis tenantId key).response = none)
    (answered : (redisWorld ι).answer redis i (.tryAcquireLock tenantId key) o redis') :
    PhasesAgree (Function.update phases i (advance .checked ⟨.tryAcquireLock tenantId key, o⟩))
      (redis' tenantId key) := by
  have locked : redis.after (.tryAcquireLock tenantId key) tenantId key =
      { redis tenantId key with locked := true } := Redis.set_self _ _ _ _
  cases o with
  | error e =>
    rcases answered with same | same
    · rw [same]
      exact h.leave rfl (fun j _ => h.held j) rfl rfl nofun
    · rw [same, locked]
      exact h.leave rfl (fun _ _ _ => rfl) rfl rfl nofun
  | ok acquired =>
    obtain ⟨read, same⟩ := answered
    rw [same, locked]
    cases acquired with
    | false => exact h.leave rfl (fun _ _ _ => rfl) rfl rfl nofun
    | true =>
      have free : (redis tenantId key).locked = false := by
        have read' : true = !(redis tenantId key).locked := read
        cases lock : (redis tenantId key).locked with
        | false => rfl
        | true =>
          rw [lock] at read'
          cases read'
      refine h.move (.inl rfl) (fun _ _ _ => rfl) (fun _ => ⟨rfl, fun j _ => ?_⟩) (fun _ => fresh rfl)
        nofun nofun
      cases holding : (phases j).holding with
      | false => rfl
      | true =>
        have held := h.held j holding
        rw [free] at held
        cases held

theorem agrees_store (h : PhasesAgree phases (redis tenantId key)) (executing : phases i = .executing)
    {content : String} {o : Except Exn Unit}
    (answered : (redisWorld ι).answer redis i (.storeResponse tenantId key content) o redis') :
    PhasesAgree (Function.update phases i (advance .executing ⟨.storeResponse tenantId key content, o⟩))
      (redis' tenantId key) := by
  have stored : redis.after (.storeResponse tenantId key content) tenantId key =
      { redis tenantId key with response := some content } := Redis.set_self _ _ _ _
  have holding : (phases i).holding = true := by rw [executing]; rfl
  have alone := h.alone holding
  have none_executing (j : ι) (other : j ≠ i) : phases j ≠ .executing := by
    intro also
    have free := alone j other
    rw [also] at free
    cases free
  have none_stored := h.unstored i executing
  cases o with
  | error e =>
    rcases answered with same | same
    · rw [same]
      exact h.move (.inl rfl) (fun j _ => h.held j) (fun _ => ⟨h.held i holding, alone⟩) nofun nofun
        nofun
    · rw [same, stored]
      exact h.move (.inr ⟨none_stored, none_executing⟩) (fun j _ => h.held j)
        (fun _ => ⟨h.held i holding, alone⟩) nofun nofun nofun
  | ok u =>
    rw [answered.2, stored]
    refine h.move (.inr ⟨none_stored, none_executing⟩) (fun j _ => h.held j)
      (fun _ => ⟨h.held i holding, alone⟩) nofun ?_ nofun
    rintro _ ⟨⟩
    refine ⟨rfl, fun j _ => ?_⟩
    cases authored : (phases j).authored with
    | none => rfl
    | some other =>
      have already := h.authored j other authored
      rw [none_stored] at already
      cases already

omit [DecidableEq ι] in
theorem released_response {o : Except Exn Unit}
    (answered : (redisWorld ι).answer redis i (.releaseLock tenantId key) o redis') :
    (redis' tenantId key).response = (redis tenantId key).response := by
  have released : redis.after (.releaseLock tenantId key) tenantId key =
      { redis tenantId key with locked := false } := Redis.set_self _ _ _ _
  cases o with
  | error e =>
    rcases answered with same | same
    · rw [same]
    · rw [same, released]
  | ok u => rw [answered.2, released]

theorem agrees_release (h : PhasesAgree phases (redis tenantId key)) (executing : phases i = .executing)
    {o : Except Exn Unit}
    (answered : (redisWorld ι).answer redis i (.releaseLock tenantId key) o redis') :
    PhasesAgree (Function.update phases i (advance .executing ⟨.releaseLock tenantId key, o⟩))
      (redis' tenantId key) := by
  have alone := h.alone (i := i) (by rw [executing]; rfl)
  rw [advance_release_executing]
  refine h.leave (released_response answered) (fun j other also => ?_) rfl rfl nofun
  rw [alone j other] at also
  cases also

theorem agrees_finish (h : PhasesAgree phases (redis tenantId key)) {content : String}
    (stored : phases i = .stored content) {o : Except Exn Unit}
    (answered : (redisWorld ι).answer redis i (.releaseLock tenantId key) o redis') :
    PhasesAgree (Function.update phases i (advance (.stored content) ⟨.releaseLock tenantId key, o⟩))
      (redis' tenantId key) := by
  have alone := h.alone (i := i) (by rw [stored]; rfl)
  have own : (phases i).authored = some content := by
    rw [stored]
    rfl
  have response := released_response answered
  rw [advance_release_stored]
  refine h.move (.inl response) (fun j other also => ?_) nofun nofun ?_ nofun
  · rw [alone j other] at also
    cases also
  · rintro _ ⟨⟩
    refine ⟨by rw [response, h.authored i content own], fun j other => ?_⟩
    by_contra also
    exact other (h.one_author j i also (by rw [own]; nofun))

end Cases

end Invariant

section Runs
variable {ι : Type}

abbrev RequestPool (ι : Type) := Pool GatewayOp GatewayRet Exn Answer ι Redis

abbrev RequestLabel (ι : Type) := Label GatewayOp GatewayRet Exn ι Empty

def requestPool (config : GatewayConfig) (redis : Redis) (requests : ι → ChatRequest) :
    RequestPool ι :=
  Pool.start redis fun i => serve config (requests i)

def stores : GatewayEvent → Bool
  | ⟨.storeResponse _ _ _, .ok _⟩ => true
  | _ => false

/-- The request has called the provider or written a usage row, and got this answer. -/
def Executed (p : RequestPool ι) (i : ι) (content : String) : Prop :=
  (∃ e ∈ p.history i, executes e.1 = true) ∧
    ∃ headers, p.threads i = .done (.ok (.json content headers))

/-- Once a response is stored no request calls the provider or writes a usage row, at most
one request succeeds by execution, and every JSON answer is that request's body. -/
structure AtMostOnce (p : RequestPool ι) : Prop where
  quiet : ∀ i j op next, (∃ e ∈ p.history i, stores e = true) → p.threads j = .call op next →
    executes op = false
  once : ∀ i j content content', Executed p i content → Executed p j content' → i = j
  replays : ∀ i j content content' headers, Executed p i content →
    p.threads j = .done (.ok (.json content' headers)) → content' = content

/-- A request that takes the lock finds that no response has been stored. -/
def Redis.fresh (redis : Redis) : GatewayEvent → Prop
  | ⟨.tryAcquireLock tenantId key, o⟩ => o = .ok true → (redis tenantId key).response = none
  | _ => True

abbrev takesFresh : RequestPool ι → RequestLabel ι → Prop := Pool.Meets Redis.fresh

section Tracking
variable (tenantId : Uuid) (key : String)

abbrev phaseOf (p : RequestPool ι) : ι → Phase :=
  p.monitored (phaseMonitor tenantId key) fun _ => .start

abbrev Tracked (p : RequestPool ι) : Prop :=
  p.Tracked (phaseMonitor tenantId key) (fun _ => Concluded) fun _ => .start

variable {tenantId key}

/-- The phases of a request that has had the lock, or has failed. -/
def Phase.entered : Phase → Bool
  | .start | .checked | .replayed _ => false
  | _ => true

/-- What a request's phase says about its past. -/
def Phase.past (phase : Phase) (history : List GatewayEvent) : Prop :=
  ((∃ e ∈ history, stores e = true) → phase.authored ≠ none) ∧
    ((∃ e ∈ history, executes e.1 = true) → phase.entered = true)

theorem past_of_accepts {history : List GatewayEvent}
    (h : (phaseMonitor tenantId key).Accepts .start history) :
    ((phaseMonitor tenantId key).after .start history).past history := by
  have start : Phase.past .start [] := ⟨by simp, by simp⟩
  refine h.past start ?_
  rintro phase past op o ⟨stored, executed⟩ permitted -
  have happened (q : GatewayEvent → Bool) : (∃ e ∈ past ++ [⟨op, o⟩], q e = true) ↔
      (∃ e ∈ past, q e = true) ∨ q ⟨op, o⟩ = true := by
    simp [or_and_right, exists_or]
  have not_stored (unauthored : phase.authored = none) (now : stores ⟨op, o⟩ = false) :
      ¬ ((∃ e ∈ past, stores e = true) ∨ stores ⟨op, o⟩ = true) := by
    rintro (before | kept)
    · exact stored before unauthored
    · rw [now] at kept
      cases kept
  have not_executed (outside : phase.entered = false) (now : executes op = false) :
      ¬ ((∃ e ∈ past, executes e.1 = true) ∨ executes op = true) := by
    rw [now]
    simpa [outside] using executed
  rw [Phase.past, happened stores, happened fun e => executes e.1]
  change (_ → (advance phase ⟨op, o⟩).authored ≠ none) ∧ (_ → (advance phase ⟨op, o⟩).entered = true)
  rcases permitted_cases permitted with ⟨rfl, rfl⟩ | ⟨rfl, rfl⟩ | ⟨rfl, content, rfl⟩ | ⟨rfl, rfl⟩ |
    ⟨content, rfl, rfl⟩ | ⟨running, unrelated⟩
  · exact ⟨fun h => absurd h (not_stored rfl rfl), fun h => absurd h (not_executed rfl rfl)⟩
  · exact ⟨fun h => absurd h (not_stored rfl rfl), fun h => absurd h (not_executed rfl rfl)⟩
  · cases o with
    | ok u => exact ⟨fun _ => Option.some_ne_none content, fun _ => rfl⟩
    | error e => exact ⟨fun h => absurd h (not_stored rfl rfl), fun _ => rfl⟩
  · rw [advance_release_executing]
    exact ⟨fun h => absurd h (not_stored rfl rfl), fun _ => rfl⟩
  · rw [advance_release_stored]
    exact ⟨fun _ => Option.some_ne_none content, fun _ => rfl⟩
  · have entered : phase.entered = true := by
      rcases running with rfl | ⟨rfl, _⟩ <;> rfl
    have unstored : stores ⟨op, o⟩ = false := by
      cases op <;> first | rfl | exact absurd unrelated (by simp [Unrelated, GatewayOp.kind])
    rw [unrelated_advance unrelated (running.imp_right And.left), unstored]
    refine ⟨?_, fun _ => entered⟩
    rintro (before | now)
    · exact stored before
    · cases now

theorem executed_finished {p : RequestPool ι} (tracked : Tracked tenantId key p) {i : ι}
    {content : String} (h : Executed p i content) :
    phaseOf tenantId key p i = .finished content := by
  obtain ⟨executed, headers, ended⟩ := h
  obtain ⟨accepted, holds⟩ := tracked i
  have entered := (past_of_accepts accepted).2 executed
  rw [ended] at holds
  rcases (holds : Concluded (.ok (.json content headers)) _) with finished | replayed
  · exact finished
  · change (phaseOf tenantId key p i).entered = true at entered
    rw [show phaseOf tenantId key p i = .replayed content from replayed] at entered
    cases entered

theorem executes_executing {phase : Phase} {op : GatewayOp} (permitted : permits tenantId key phase op)
    (executed : executes op = true) : phase = .executing := by
  rcases permitted_cases permitted with ⟨_, rfl⟩ | ⟨_, rfl⟩ | ⟨rfl, _⟩ | ⟨rfl, _⟩ | ⟨_, _, rfl⟩ |
    ⟨rfl | ⟨_, not_executed⟩, _⟩
  · cases executed
  · cases executed
  · rfl
  · rfl
  · cases executed
  · rfl
  · rw [not_executed] at executed
    cases executed

theorem atMostOnce_of_agrees {p : RequestPool ι} (tracked : Tracked tenantId key p)
    (agrees : PhasesAgree (phaseOf tenantId key p) (p.shared tenantId key)) : AtMostOnce p := by
  have response {i : ι} {content : String} (h : Executed p i content) :
      (p.shared tenantId key).response = some content := by
    apply agrees.authored i
    rw [executed_finished tracked h]
    rfl
  constructor
  · intro i j op next stored next_call
    rw [Bool.eq_false_iff]
    intro executed
    obtain ⟨content, authored⟩ :=
      Option.ne_none_iff_exists'.mp ((past_of_accepts (tracked i).1).1 stored)
    have holds := (tracked j).2
    rw [next_call] at holds
    have none_stored := agrees.unstored j (executes_executing holds.1 executed)
    rw [agrees.authored i content authored] at none_stored
    cases none_stored
  · intro i j content content' first second
    apply agrees.one_author
    · rw [executed_finished tracked first]
      nofun
    · rw [executed_finished tracked second]
      nofun
  · intro i j content content' headers executed ended
    have holds := (tracked j).2
    rw [ended] at holds
    have same : (p.shared tenantId key).response = some content' := by
      rcases (holds : Concluded (.ok (.json content' headers)) _) with finished | replayed
      · apply agrees.authored j
        rw [show phaseOf tenantId key p j = .finished content' from finished]
        rfl
      · exact agrees.replayed j content' replayed
    rw [response executed] at same
    exact (Option.some.inj same).symm

variable [DecidableEq ι]

theorem agrees_step (p : RequestPool ι) (l : RequestLabel ι) (p' : RequestPool ι)
    (h : Tracked tenantId key p ∧ PhasesAgree (phaseOf tenantId key p) (p.shared tenantId key))
    (fresh : takesFresh p l) (step : Step (redisWorld ι) p l p') :
    Tracked tenantId key p' ∧ PhasesAgree (phaseOf tenantId key p') (p'.shared tenantId key) := by
  obtain ⟨tracked, agrees⟩ := h
  obtain ⟨tracked', moved⟩ := step_cases (fun _ _ _ _ _ _ _ => trivial) tracked step
  refine ⟨tracked', ?_⟩
  rcases moved with ⟨i, op, o, rfl, permitted, answered, phases⟩ | ⟨k, _⟩
  · rw [phaseOf, phases]
    change PhasesAgree (Function.update (phaseOf tenantId key p) i
      (advance (phaseOf tenantId key p i) ⟨op, o⟩)) (p'.shared tenantId key)
    rcases permitted_cases permitted with ⟨at_start, rfl⟩ | ⟨at_checked, rfl⟩ |
      ⟨executing, content, rfl⟩ | ⟨executing, rfl⟩ | ⟨content, stored, rfl⟩ | ⟨running, unrelated⟩
    · rw [show phaseOf tenantId key p i = .start from at_start]
      exact agrees_look agrees answered
    · rw [show phaseOf tenantId key p i = .checked from at_checked]
      exact agrees_lock agrees fresh answered
    · rw [show phaseOf tenantId key p i = .executing from executing]
      exact agrees_store agrees executing answered
    · rw [show phaseOf tenantId key p i = .executing from executing]
      exact agrees_release agrees executing answered
    · rw [show phaseOf tenantId key p i = .stored content from stored]
      exact agrees_finish agrees stored answered
    · have same : p'.shared = p.shared := by
        have after := unrelated_after unrelated p.shared
        cases o with
        | ok a => rw [answered.2, after]
        | error e =>
          rcases answered with same | same
          · exact same
          · rw [same, after]
      rw [unrelated_advance unrelated (running.imp_right And.left), Function.update_eq_self, same]
      exact agrees
  · exact k.elim

theorem at_most_once_if_fresh (config : GatewayConfig) (tenantId : Uuid) (key : String)
    (requests : ι → ChatRequest) (same : ∀ i, SameKey tenantId key (requests i)) (redis : Redis)
    (run : List (RequestLabel ι × RequestPool ι))
    (isRun : IsRun (Step (redisWorld ι)) (requestPool config redis requests) run)
    (fresh : StepsMeet takesFresh (requestPool config redis requests) run) :
    ∀ p ∈ visited (requestPool config redis requests) run, AtMostOnce p := by
  intro p hp
  have start : Tracked tenantId key (requestPool config redis requests) ∧
      PhasesAgree (phaseOf tenantId key (requestPool config redis requests))
        ((requestPool config redis requests).shared tenantId key) := by
    refine ⟨Pool.start_tracked fun i => serve_keeps (same i), ?_⟩
    constructor <;> intros <;> contradiction
  obtain ⟨tracked, agrees⟩ := isRun.invariant agrees_step fresh start p hp
  exact atMostOnce_of_agrees tracked agrees

end Tracking

end Runs

section Examples

theorem served_unrelated {C : Redis → GatewayEvent → Prop} {ι : Type} {i : ι} {t : List GatewayEvent}
    (unrelated : ∀ e ∈ t, Unrelated e.1) (meets : ∀ redis e, Unrelated e.1 → C redis e)
    (redis : Redis) : (redisWorld ι).Serves C i redis t redis := by
  induction t with
  | nil => rfl
  | cons e t ih =>
    have here := unrelated e (.head _)
    refine ⟨meets redis e here, redis, ?_, ih fun e' mem => unrelated e' (.tail _ mem)⟩
    obtain ⟨op, o⟩ := e
    cases o with
    | error exc => exact .inl rfl
    | ok a =>
      refine ⟨?_, (unrelated_after here redis).symm⟩
      cases op <;> first | trivial | exact absurd here (by simp [Unrelated, GatewayOp.kind])

/-- Two requests for the local model with the same key. -/
abbrev keyedPool : RequestPool Bool :=
  requestPool helloConfig (fun _ _ => ⟨none, false⟩) fun _ => keyedChat

abbrev looked (content : Option String) : GatewayEvent :=
  ⟨.getCachedResponse helloTenant.tenantId "k", .ok content⟩

abbrev lockTaken : GatewayEvent := ⟨.tryAcquireLock helloTenant.tenantId "k", .ok true⟩

/-- What the first request leaves in Redis. -/
def answeredRedis : Redis :=
  (((Redis.after (fun _ _ => ⟨none, false⟩) (.tryAcquireLock helloTenant.tenantId "k")).after
    (.storeResponse helloTenant.tenantId "k" helloDump)).after (.releaseLock helloTenant.tenantId "k"))

theorem served_whole {C : Redis → GatewayEvent → Prop} {ι : Type} {i : ι}
    (meets : ∀ redis e, e.1.kind ≠ .acquireLock → C redis e)
    (locks : C (fun _ _ => ⟨none, false⟩) lockTaken) :
    (redisWorld ι).Serves C i (fun _ _ => ⟨none, false⟩) (servedTrace keyedChat) answeredRedis := by
  have opened : (redisWorld ι).Serves C i (fun _ _ => ⟨none, false⟩) (opening keyedChat)
      (Redis.after (fun _ _ => ⟨none, false⟩) (.tryAcquireLock helloTenant.tenantId "k")) :=
    ⟨meets _ _ nofun, _, ⟨rfl, rfl⟩, locks, _, ⟨rfl, rfl⟩, rfl⟩
  have unrelated (t : List GatewayEvent) (h : ∀ e ∈ t, Unrelated e.1) (redis : Redis) :
      (redisWorld ι).Serves C i redis t redis := by
    refine served_unrelated h (fun redis e free => meets redis e ?_) redis
    intro lock
    simp [Unrelated, lock] at free
  have closed (redis : Redis) : (redisWorld ι).Serves C i redis (closing keyedChat)
      ((redis.after (.storeResponse helloTenant.tenantId "k" helloDump)).after
        (.releaseLock helloTenant.tenantId "k")) :=
    ⟨meets _ _ nofun, _, ⟨trivial, rfl⟩, meets _ _ nofun, _, ⟨trivial, rfl⟩, rfl⟩
  have parts : servedTrace keyedChat =
      opening keyedChat ++ (((servedTrace keyedChat).drop 2).take 18 ++ closing keyedChat) := rfl
  rw [parts]
  exact opened.append ((unrelated _ (by decide) _).append (closed _))

theorem keyed_same : SameKey helloTenant.tenantId "k" keyedChat := ⟨rfl, rfl, rfl, rfl⟩

theorem fresh_unless_lock (redis : Redis) (e : GatewayEvent) (h : e.1.kind ≠ .acquireLock) :
    redis.fresh e := by
  obtain ⟨op, o⟩ := e
  cases op with
  | tryAcquireLock t k => exact absurd rfl h
  | _ => trivial

theorem at_most_once_if_fresh_two_requests :
    ∃ run : List (RequestLabel Bool × RequestPool Bool),
      IsRun (Step (redisWorld Bool)) keyedPool run ∧
      (∃ p ∈ visited keyedPool run, Executed p true helloDump ∧
        ∃ headers, p.threads false = .done (.ok (.json helloDump headers))) ∧
      ∀ p ∈ visited keyedPool run, AtMostOnce p := by
  obtain ⟨run, isRun, fresh, ends, -⟩ := solo_run (p := keyedPool) (i := true)
    (serve_local keyedChat rfl rfl).reaches (served_whole fresh_unless_lock fun _ => rfl)
  have replayed : Reaches ((final keyedPool run).threads false) [looked (some helloDump)]
      (.done (.ok (.json helloDump [("Idempotency-Replayed", "true")]))) := by
    rw [ends]
    exact .call (.refl _)
  have read : (redisWorld Bool).Serves Redis.fresh false (final keyedPool run).shared
      [looked (some helloDump)] answeredRedis := by
    rw [ends]
    exact ⟨trivial, _, ⟨rfl, rfl⟩, rfl⟩
  obtain ⟨run', isRun', fresh', ends', -⟩ := solo_run replayed read
  refine ⟨run ++ run', isRun.append isRun', ⟨_, final_mem_visited _ _, ?_⟩,
    at_most_once_if_fresh helloConfig _ _ _ (fun _ => keyed_same) _ _ (isRun.append isRun')
      (fresh.append fresh')⟩
  rw [final_append, ends', ends]
  have executed : (servedTrace keyedChat).any (fun e => executes e.1) = true := rfl
  exact ⟨⟨List.any_eq_true.mp executed, _, rfl⟩, _, rfl⟩

/-- The second request looks before the first one is answered, and takes the lock after
it: the provider is about to be called again. -/
theorem second_execution :
    ∃ run : List (RequestLabel Bool × RequestPool Bool),
      IsRun (Step (redisWorld Bool)) keyedPool run ∧
      (∃ e ∈ (final keyedPool run).history true, stores e = true) ∧
      ∃ next, (final keyedPool run).threads false = .call (.chatCompletion (helloRequest false)) next := by
  have executed := (serve_local keyedChat rfl rfl).reaches
  have whole : Reaches (serve helloConfig keyedChat)
      ([looked none] ++ ((lockTaken :: admission keyedChat) ++ (servedTrace keyedChat).drop 9)) _ := executed
  obtain ⟨waiting, looks, rest⟩ := whole.stop
  obtain ⟨calling, locks, rest⟩ := rest.stop
  obtain ⟨run₁, isRun₁, -, ends₁, -⟩ := solo_run (p := keyedPool) (i := false) looks
    (show (redisWorld Bool).Serves (fun _ _ => True) false _ _ (fun _ _ => ⟨none, false⟩) from
      ⟨trivial, _, ⟨rfl, rfl⟩, rfl⟩)
  have first : (final keyedPool run₁).threads true = serve helloConfig keyedChat := by
    rw [ends₁]
    rfl
  have answered : (redisWorld Bool).Serves (fun _ _ => True) true (final keyedPool run₁).shared
      (servedTrace keyedChat) answeredRedis := by
    rw [ends₁]
    exact served_whole (fun _ _ _ => trivial) trivial
  rw [← first] at executed
  obtain ⟨run₂, isRun₂, -, ends₂, -⟩ := solo_run executed answered
  have second : (final (final keyedPool run₁) run₂).threads false = waiting := by
    rw [ends₂, ends₁]
    rfl
  have admitted : (redisWorld Bool).Serves (fun _ _ => True) false
      (final (final keyedPool run₁) run₂).shared (lockTaken :: admission keyedChat)
      (answeredRedis.after (.tryAcquireLock helloTenant.tenantId "k")) := by
    rw [ends₂]
    exact ⟨trivial, _, ⟨rfl, rfl⟩, served_unrelated (by decide) (fun _ _ _ => trivial) _⟩
  rw [← second] at locks
  obtain ⟨run₃, isRun₃, -, ends₃, -⟩ := solo_run locks admitted
  refine ⟨run₁ ++ (run₂ ++ run₃), isRun₁.append (isRun₂.append isRun₃), ?_⟩
  rw [final_append, final_append, ends₃, ends₂, ends₁]
  constructor
  · have kept : (servedTrace keyedChat).any stores = true := rfl
    exact List.any_eq_true.mp kept
  · cases rest with
    | call tail => exact ⟨_, rfl⟩

theorem executed_twice :
    ¬ ∀ run : List (RequestLabel Bool × RequestPool Bool),
      IsRun (Step (redisWorld Bool)) keyedPool run →
      ∀ p ∈ visited keyedPool run, AtMostOnce p := by
  intro once
  obtain ⟨run, isRun, stored, next, calls⟩ := second_execution
  have quiet := (once run isRun _ (final_mem_visited _ _)).quiet true false _ next stored calls
  cases quiet

end Examples

end AegisGateway.Idempotency
