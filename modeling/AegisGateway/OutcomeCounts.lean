import AegisGateway.UsageBilling

set_option autoImplicit false

/-!
# The outcome counter against the usage rows

`chat_completions_total` is incremented at the raise points of the handler, in the
`finally` block of a stream and in `record_usage`, right after the row is committed. A commit
that raises may have taken effect all the same; then there is a row and no count.
-/
namespace AegisGateway.OutcomeCounts
open EffectProgram UsageBilling RequestStages

def countedOutcome : GatewayEvent → Option CallOutcome
  | ⟨.metric (.chatCompletions _ outcome), .ok _⟩ => some outcome
  | _ => none

/-- An increment of the counter by one is a local operation that does not raise. -/
def counterReturns : GatewayEvent → Bool
  | ⟨.metric (.chatCompletions _ _), .error _⟩ => false
  | _ => true

def lostRow : GatewayEvent → Option UsageRecord
  | ⟨.commitUsageRecord row, .error _⟩ => some row
  | _ => none

/-- The rows that these calls may leave: a commit that raises leaves its row or none. -/
inductive Leaves : List GatewayEvent → List UsageRecord → Prop where
  | nil : Leaves [] []
  | committed {e : GatewayEvent} {row : UsageRecord} {t : List GatewayEvent} {rows : List UsageRecord}
      (returned : committedRow e = some row) (rest : Leaves t rows) : Leaves (e :: t) (row :: rows)
  | lost {e : GatewayEvent} {row : UsageRecord} {t : List GatewayEvent} {rows : List UsageRecord}
      (raised : lostRow e = some row) (rest : Leaves t rows) : Leaves (e :: t) (row :: rows)
  | other {e : GatewayEvent} {t : List GatewayEvent} {rows : List UsageRecord}
      (uncommitted : committedRow e = none) (rest : Leaves t rows) : Leaves (e :: t) rows

theorem leaves_committed (t : List GatewayEvent) : Leaves t (t.filterMap committedRow) := by
  induction t with
  | nil => exact .nil
  | cons e t ih =>
    cases returned : committedRow e with
    | none =>
      rw [List.filterMap_cons_none returned]
      exact .other returned ih
    | some row =>
      rw [List.filterMap_cons_some returned]
      exact .committed returned ih

theorem Leaves.append {t t' : List GatewayEvent} {rows rows' : List UsageRecord} (left : Leaves t rows)
    (left' : Leaves t' rows') : Leaves (t ++ t') (rows ++ rows') := by
  induction left with
  | nil => exact left'
  | committed returned _ ih => exact .committed returned ih
  | lost raised _ ih => exact .lost raised ih
  | other uncommitted _ ih => exact .other uncommitted ih

theorem Leaves.between {t : List GatewayEvent} {rows : List UsageRecord} (left : Leaves t rows) :
    (t.filterMap committedRow).Sublist rows ∧
      rows.length ≤ (t.filterMap committedRow).length + (t.filterMap lostRow).length := by
  induction left with
  | nil => exact ⟨.slnil, le_rfl⟩
  | @committed e row t rows returned rest ih =>
    have unlost : lostRow e = none := by
      obtain ⟨op, o⟩ := e
      cases o with
      | ok a => cases op <;> rfl
      | error exc => cases op <;> cases returned
    rw [List.filterMap_cons_some returned, List.filterMap_cons_none unlost]
    refine ⟨ih.1.cons_cons row, ?_⟩
    simp only [List.length_cons]
    omega
  | @lost e row t rows raised rest ih =>
    have uncommitted : committedRow e = none := by
      obtain ⟨op, o⟩ := e
      cases o with
      | ok a => cases op <;> cases raised
      | error exc => cases op <;> rfl
    rw [List.filterMap_cons_none uncommitted, List.filterMap_cons_some raised]
    refine ⟨ih.1.cons row, ?_⟩
    simp only [List.length_cons]
    omega
  | @other e t rows uncommitted rest ih =>
    rw [List.filterMap_cons_none uncommitted]
    refine ⟨ih.1, ih.2.trans (Nat.add_le_add_left ?_ _)⟩
    cases lost : lostRow e with
    | none => rw [List.filterMap_cons_none lost]
    | some row =>
      rw [List.filterMap_cons_some lost]
      exact Nat.le_succ _

/-- At most one outcome is counted, a success together with exactly one of these rows, and any
other outcome without one. -/
structure CountsRows (outcomes : List CallOutcome) (rows : List UsageRecord) : Prop where
  once : outcomes.length ≤ 1
  success : .success ∈ outcomes ↔ rows ≠ []
  single : .success ∈ outcomes → rows.length = 1
  failure : ∀ outcome ∈ outcomes, outcome ≠ .success → rows = []

/-- The outcomes that were counted, and the rows whose commit returned or raised. -/
structure Tally where
  outcomes : List CallOutcome
  rows : List UsageRecord
  lost : List UsageRecord

def Tally.empty : Tally := ⟨[], [], []⟩

def Tally.add (g : Tally) (e : GatewayEvent) : Tally where
  outcomes := g.outcomes ++ (countedOutcome e).toList
  rows := g.rows ++ (committedRow e).toList
  lost := g.lost ++ (lostRow e).toList

def tally (t : List GatewayEvent) : Tally where
  outcomes := t.filterMap countedOutcome
  rows := t.filterMap committedRow
  lost := t.filterMap lostRow

def tallyMonitor : Monitor GatewayOp GatewayRet Exn Tally where
  permits _ _ := True
  answers _ op o := counterReturns ⟨op, o⟩ = true
  advance g op o := g.add ⟨op, o⟩

theorem tallyMonitor_after (t : List GatewayEvent) : tallyMonitor.after .empty t = tally t := by
  induction t using List.reverseRecOn with
  | nil => rfl
  | append_singleton t e ih =>
    rw [Monitor.after_concat, ih]
    cases counted : countedOutcome e <;> cases committed : committedRow e <;> cases lost : lostRow e <;>
      simp [tallyMonitor, Tally.add, tally, List.filterMap_append, counted, committed, lost]

theorem tallyMonitor_answers {t : List GatewayEvent} (returns : ∀ e ∈ t, counterReturns e = true) (g : Tally) :
    tallyMonitor.Answers g t := .of_each (fun e mem _ => returns e mem) g

/-- Nothing was counted and at most a commit raised, or a success was counted with its one row, or
another outcome and no row. -/
inductive Agrees : Tally → Prop where
  | nothing : Agrees .empty
  | unknown (row : UsageRecord) : Agrees ⟨[], [], [row]⟩
  | success (row : UsageRecord) : Agrees ⟨[.success], [row], []⟩
  | failure {outcome : CallOutcome} (failed : outcome ≠ .success) : Agrees ⟨[outcome], [], []⟩

section Pieces
variable {α β : Type}

abbrev Tallies (p : GatewayProg α) (Q : Except Exn α → Tally → Prop) (g : Tally) : Prop :=
  Holds tallyMonitor p Q g

/-- The call has no part in the tally. -/
def uncounted : GatewayOp → Bool
  | .commitUsageRecord _ | .metric (.chatCompletions _ _) => false
  | _ => true

abbrev Uncounted (op : GatewayOp) : Prop := uncounted op = true

theorem quiet_of_kinds {kinds : List OpKind} {p : GatewayProg α} (uses : UsesKinds kinds p)
    (silent : OpKind.usage ∉ kinds ∧ OpKind.metric ∉ kinds) : p.Uses Uncounted := by
  refine uses.mono fun op mem => ?_
  cases op <;> first
    | rfl
    | exact absurd mem silent.1
    | exact absurd mem silent.2

theorem quiet_call {op : GatewayOp} (silent : Uncounted op) : (call op).Uses Uncounted := Prog.uses_perform silent

theorem quiet_keeps {p : GatewayProg α} (uses : p.Uses Uncounted) (g : Tally) :
    Tallies p (fun _ g' => g' = g) g := by
  refine uses.holds (fun _ _ => trivial) fun op o silent _ => ?_
  have uncounted : countedOutcome ⟨op, o⟩ = none := by
    cases op with
    | metric m =>
      cases m with
      | chatCompletions provider outcome => cases silent
      | _ => rfl
    | _ => rfl
  have uncommitted : committedRow ⟨op, o⟩ = none := by
    cases op with
    | commitUsageRecord row => cases silent
    | _ => rfl
  have unlost : lostRow ⟨op, o⟩ = none := by
    cases op with
    | commitUsageRecord row => cases silent
    | _ => rfl
  simp [tallyMonitor, Tally.add, uncounted, uncommitted, unlost]

theorem quiet_step {p : GatewayProg α} {f : α → GatewayProg β} {Q : Except Exn β → Tally → Prop}
    {g : Tally} (uses : p.Uses Uncounted) (raised : ∀ e, Q (.error e) g) (next : ∀ a, Tallies (f a) Q g) :
    Tallies (p >>= f) Q g := (quiet_keeps uses g).skip raised next

theorem recordUsage_agrees {request : ChatRequest} {providerName model : String} {p c : ℤ}
    {cacheHit : Bool} :
    Tallies (recordUsage request providerName model p c cacheHit) (fun _ => Agrees) .empty := by
  refine quiet_step (quiet_call rfl) (fun _ => .nothing) fun _ => ?_
  refine quiet_step (quiet_call rfl) (fun _ => .nothing) fun cost => ?_
  refine Holds.call_bind trivial (fun _ _ => ?_) fun _ _ => .unknown _
  refine Holds.call_bind trivial (fun _ _ => ?_) fun _ returns => by cases returns
  have rest : Prog.Uses Uncounted (do
      call (.metric (.usageCostUsd providerName cost))
      call (.metric (.usageTokens providerName "prompt" p))
      call (.metric (.usageTokens providerName "completion" c)) : GatewayProg Unit) :=
    (quiet_call rfl).bind fun _ => (quiet_call rfl).bind fun _ => quiet_call rfl
  refine (quiet_keeps rest _).mono ?_
  rintro _ _ rfl
  exact .success _

theorem counted_agrees {providerName : String} {outcome : CallOutcome} {f : Unit → GatewayProg α}
    (failed : outcome ≠ .success) (uses : ∀ u, (f u).Uses Uncounted) :
    Tallies (call (.metric (.chatCompletions providerName outcome)) >>= f) (fun _ => Agrees) .empty := by
  refine Holds.call_bind trivial (fun u _ => ?_) fun _ returns => by cases returns
  refine (quiet_keeps (uses u) _).mono ?_
  rintro _ _ rfl
  exact .failure failed

end Pieces

section Handler

theorem releaseLock_quiet (request : ChatRequest) : (releaseLockIfKeyed request).Uses Uncounted :=
  quiet_of_kinds (releaseLockIfKeyed_uses request) (by decide)

theorem writeAuditEvent_quiet (tenantId : Option Uuid) (eventType : String)
    (correlationId : Option String) (detail : JsonObject) :
    (writeAuditEvent auditSession tenantId eventType correlationId detail).Uses Uncounted :=
  quiet_of_kinds (writeAuditEvent_uses tenantId eventType correlationId detail) (by decide)

theorem runSecurityPipeline_quiet (lib : Libraries) (request : ChatRequest) :
    (runSecurityPipeline lib request).Uses Uncounted := by
  have redaction : (redactionStep request).Uses Uncounted := by
    rw [redactionStep]
    split
    · refine (quiet_of_kinds (redactMessages_uses _) (by decide)).bind ?_
      rintro ⟨messages, entityTypes⟩
      simp only
      split
      · refine (quiet_call rfl).bind fun _ => ?_
        exact (writeAuditEvent_quiet _ _ _ _).bind fun _ => trivial
      · trivial
    · trivial
  have detection (messages : List ChatMessage) : (detectionStep lib request messages).Uses Uncounted := by
    rw [detectionStep]
    split
    · refine (quiet_call rfl).bind fun verdict => ?_
      split
      · refine (quiet_call rfl).bind fun _ => ?_
        refine (writeAuditEvent_quiet _ _ _ _).bind fun _ => ?_
        split <;> trivial
      · trivial
    · trivial
  exact redaction.bind fun messages => (detection messages).bind fun _ => trivial

/-- Nothing is counted or committed until the request is refused, fails or is booked. -/
def tallyStages : Assertions Tally :=
  { Assertions.until (· = .empty) fun _ => Agrees with
    raised := fun _ => Agrees
    billed := fun _ _ => Agrees
    dumped := fun _ _ => Agrees
    replayBilled := fun _ => Agrees
    streamBilled := fun _ _ _ _ => Agrees
    streamBooked := fun _ => Agrees
    streamFreed := fun _ => Agrees }

variable {α : Type} {p : GatewayProg α} {g : Tally}

theorem quiet_leads {next : Except Exn α → Stage} (uses : p.Uses Uncounted) (reached : g = .empty)
    (leads : ∀ r, tallyStages.Reached (next r) .empty) :
    Tallies p (fun r => tallyStages.Reached (next r)) g := by
  subst reached
  exact leads_alone (quiet_keeps uses _) leads

theorem quiet_goes {next : α → Stage} (uses : p.Uses Uncounted) (reached : g = .empty)
    (returned : ∀ a, tallyStages.Reached (next a) .empty) :
    Tallies p (fun r => tallyStages.Reached (onOk next r)) g := by
  subst reached
  exact leads_alone_ok (quiet_keeps uses _) (fun _ => .nothing) returned

theorem quiet_ends {next : α → Stage} (uses : p.Uses Uncounted) (agrees : Agrees g)
    (returned : ∀ a, tallyStages.Reached (next a) g) :
    Tallies p (fun r => tallyStages.Reached (onOk next r)) g :=
  leads_alone_ok (quiet_keeps uses _) (fun _ => agrees) returned

theorem agrees_leads {next : Except Exn α → Stage} (agrees : Tallies p (fun _ => Agrees) g)
    (leads : ∀ r g, Agrees g → tallyStages.Reached (next r) g) :
    Tallies p (fun r => tallyStages.Reached (next r)) g :=
  agrees.mono leads

theorem agrees_goes {next : α → Stage} (agrees : Tallies p (fun _ => Agrees) g)
    (returned : ∀ a g, Agrees g → tallyStages.Reached (next a) g) :
    Tallies p (fun r => tallyStages.Reached (onOk next r)) g := by
  refine agrees_leads agrees fun r g agrees => ?_
  cases r with
  | ok a => exact returned a g agrees
  | error e => exact agrees

theorem tally_walks (config : GatewayConfig) (request : ChatRequest) :
    Walks tallyMonitor tallyStages.Reached config request := by
  intro α stage p next piece g reached
  cases piece with
  | replay =>
    refine quiet_goes (quiet_call rfl) reached fun cached => ?_
    cases cached with
    | some content => exact Agrees.nothing
    | none => rfl
  | lock =>
    refine quiet_goes (quiet_call rfl) reached fun acquired => ?_
    cases acquired with
    | true => rfl
    | false => exact Agrees.nothing
  | unknown => exact quiet_goes (releaseLock_quiet request) reached fun _ => .nothing
  | count =>
    exact quiet_goes (quiet_of_kinds (countPromptTokens_uses _ _) (by decide)) reached fun _ => rfl
  | limit =>
    refine quiet_leads (quiet_of_kinds (enforceRequestLimits_uses _ _ _ _) (by decide)) reached ?_
    rintro (e | _)
    · cases e with
      | rateLimit exc => rfl
      | _ => exact Agrees.nothing
    · rfl
  | acquire =>
    refine quiet_goes (quiet_call rfl) reached fun acquired => ?_
    cases acquired <;> rfl
  | refuse =>
    obtain rfl : g = .empty := reached
    refine quiet_step (quiet_call rfl) (fun _ => .nothing) fun _ => ?_
    exact agrees_goes (counted_agrees (by decide) fun _ => releaseLock_quiet request) fun _ _ agrees => agrees
  | screen =>
    refine quiet_leads (runSecurityPipeline_quiet _ _) reached ?_
    rintro (e | body)
    · cases e with
      | http exc => rfl
      | _ => exact Agrees.nothing
    · rfl
  | block =>
    obtain rfl : g = .empty := reached
    refine agrees_goes (counted_agrees (by decide) fun _ => ?_) fun _ _ agrees => agrees
    exact Prog.Uses.bind (quiet_call rfl) fun _ => releaseLock_quiet request
  | lookUp =>
    exact quiet_goes (quiet_of_kinds (getCachedCompletion_uses _ _) (by decide)) reached fun _ => rfl
  | noteLookup asked cached =>
    refine quiet_goes (quiet_call rfl) reached fun _ => ?_
    cases cached <;> rfl
  | billHit | billReplay | bill | billStream =>
    obtain rfl : g = .empty := reached
    exact agrees_goes recordUsage_agrees fun _ _ agrees => agrees
  | unbilledHit | unbilledReplay =>
    obtain rfl : g = .empty := reached
    exact Agrees.nothing
  | replayChunks cached =>
    exact quiet_leads (quiet_of_kinds (replayChunks_uses cached) (by decide)) reached fun _ => rfl
  | endReplay =>
    exact leads_alone (quiet_keeps (releaseLock_quiet request) _) fun _ => reached
  | callProvider =>
    refine quiet_leads (quiet_call rfl) reached ?_
    rintro (e | received)
    · cases e with
      | provider exc => rfl
      | _ => exact Agrees.nothing
    · rfl
  | fail =>
    obtain rfl : g = .empty := reached
    refine quiet_step (quiet_call rfl) (fun _ => .nothing) fun _ => ?_
    refine agrees_leads (counted_agrees (by decide) fun _ => releaseLock_quiet request) fun r _ agrees => ?_
    cases r <;> exact agrees
  | freeRaised => exact quiet_ends (quiet_call rfl) reached fun _ => reached
  | complete =>
    refine quiet_goes ?_ reached fun _ => rfl
    exact (quiet_call rfl).bind fun _ => quiet_of_kinds (withUsage_uses _ _ _) (by decide)
  | keep => exact quiet_goes (quiet_of_kinds (storeIfCaching_uses _ _ _) (by decide)) reached fun _ => rfl
  | dump | freeStream => exact quiet_ends (quiet_call rfl) reached fun _ => reached
  | send =>
    exact quiet_ends (quiet_of_kinds (storeAndReleaseIfKeyed_uses _ _) (by decide)) reached fun _ => reached
  | startUpstream | yieldChunk => exact quiet_leads (quiet_call rfl) reached fun r => by cases r <;> rfl
  | finish | report => exact quiet_leads (quiet_call rfl) reached fun _ => rfl
  | countText =>
    refine quiet_goes ?_ reached fun _ => rfl
    exact (quiet_call rfl).bind fun _ => quiet_of_kinds (countTextTokens_uses _ _) (by decide)
  | keepStream =>
    exact quiet_ends (quiet_of_kinds (cacheStream_uses _ _ _ _ _ _) (by decide)) reached fun _ => reached
  | failStream =>
    obtain rfl : g = .empty := reached
    refine quiet_step (quiet_call rfl) (fun _ => .nothing) fun _ => ?_
    refine agrees_goes (counted_agrees (by decide) fun _ => ?_) fun _ _ agrees => agrees
    exact quiet_of_kinds (countTextTokens_uses _ _) (by decide)
  | endStream => exact quiet_ends (releaseLock_quiet request) reached fun _ => reached
  | unreplayed | unlocked | uncached | unreadable | breakOff | succeed => exact reached
  | freeHit | beginHit | freeAnswered | beginMissed => exact quiet_goes (quiet_call rfl) reached fun _ => rfl

end Handler

/-- The counter agrees with the rows whose commit returned. They are the rows that are left, unless
nothing was counted; then one row may be left of a commit that raised. -/
theorem outcomes_agree_with_rows (config : GatewayConfig) (request : ChatRequest)
    (t : List GatewayEvent) (r : Except Exn Answer) (run : Runs (serve config request) t r)
    (returns : ∀ e ∈ t, counterReturns e = true) (rows : List UsageRecord) (left : Leaves t rows) :
    CountsRows (t.filterMap countedOutcome) (t.filterMap committedRow) ∧
      (t.filterMap countedOutcome ≠ [] → rows = t.filterMap committedRow) ∧ rows.length ≤ 1 := by
  have agrees := (serve_walks (tally_walks config request) rfl).sound run (tallyMonitor_answers returns _)
  rw [tallyMonitor_after] at agrees
  obtain ⟨among, most⟩ := left.between
  generalize outcomes_eq : t.filterMap countedOutcome = outcomes
  generalize committed_eq : t.filterMap committedRow = committed at among most
  generalize lost_eq : t.filterMap lostRow = lost at most
  have tally_eq : tally t = ⟨outcomes, committed, lost⟩ := by
    rw [tally, outcomes_eq, committed_eq, lost_eq]
  change Agrees (tally t) at agrees
  rw [tally_eq] at agrees
  cases agrees with
  | nothing =>
    refine ⟨⟨Nat.zero_le _, by simp, by simp, by simp⟩, fun counted => absurd rfl counted, ?_⟩
    exact most.trans (Nat.zero_le _)
  | unknown row =>
    exact ⟨⟨Nat.zero_le _, by simp, by simp, by simp⟩, fun counted => absurd rfl counted, most⟩
  | success row =>
    refine ⟨⟨le_rfl, by simp, fun _ => rfl, by simp⟩, fun _ => ?_, most⟩
    exact (among.eq_of_length_le most).symm
  | failure failed =>
    have none_left : rows = [] := List.eq_nil_of_length_eq_zero (Nat.le_zero.mp most)
    refine ⟨⟨le_rfl, ?_, ?_, fun _ _ _ => rfl⟩, fun _ => none_left, most.trans (Nat.zero_le _)⟩
    · simp [Ne.symm failed]
    · simp [Ne.symm failed]

theorem outcomes_agree_with_rows_hello :
    CountsRows [.success] [usageRecord (helloChat false none) "ollama" "llama3" 8 1 false 0] :=
  (outcomes_agree_with_rows helloConfig (helloChat false none) (servedTrace (helloChat false none)) _
    (serve_local _ rfl rfl) (List.all_eq_true.mp rfl) _ (leaves_committed _)).1

/-- The client goes while the row is being committed. -/
def lostCommit : List GatewayEvent :=
  [⟨.chatCompletion (helloRequest false), .ok helloResponse⟩,
    ⟨.releaseConcurrencySlot helloTenantId, .ok ()⟩,
    ⟨.metric (.providerCallDuration "ollama" .success), .ok ()⟩,
    ⟨.setRlsContext (some helloTenantId) false, .ok ()⟩,
    ⟨.calculateCostUsd "llama3" 8 1 "ollama", .ok (0 : ℚ)⟩,
    ⟨.commitUsageRecord (usageRecord (helloChat false none) "ollama" "llama3" 8 1 false 0),
      .error .cancelled⟩]

theorem lostCommit_runs :
    Runs (serve helloConfig (helloChat false none)) (admission (helloChat false none) ++ lostCommit)
      (.error .cancelled) := by
  have answered : Runs (do
      let body ← screen helloConfig (helloChat false none) "ollama"
      answer helloConfig (helloChat false none) "ollama" body 8) lostCommit (.error .cancelled) :=
    .call (.call (.call (.call (.call (.call (.done _))))))
  exact (chatCompletions_local (helloChat false none) rfl answered).raised _

/-- A commit that takes effect and raises leaves a row that no outcome counts. -/
theorem lost_commit_uncounted :
    ¬ ∀ config request t r, Runs (serve config request) t r → (∀ e ∈ t, counterReturns e = true) →
      ∀ rows, Leaves t rows → CountsRows (t.filterMap countedOutcome) rows := by
  intro counts
  have left : Leaves lostCommit [usageRecord (helloChat false none) "ollama" "llama3" 8 1 false 0] :=
    .other rfl (.other rfl (.other rfl (.other rfl (.other rfl (.lost rfl .nil)))))
  have agrees := counts _ _ _ _ lostCommit_runs (List.all_eq_true.mp rfl) _
    ((leaves_committed (admission (helloChat false none))).append left)
  have counted := agrees.success.mpr (List.cons_ne_nil _ _)
  cases counted

end AegisGateway.OutcomeCounts
