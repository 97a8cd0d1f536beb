import AegisGateway.ProgramPool
import AegisGateway.Schemas
import Mathlib.Algebra.Order.BigOperators.Group.Finset
import Mathlib.Algebra.Order.Field.Rat
import Mathlib.Tactic.Linarith

set_option autoImplicit false

/-!
# The concurrency slot

`acquireConcurrencySlot` and `releaseConcurrencySlot` of `services/rate_limiter.py`
over the three Redis commands they use on the tenant's counter. A request is an
acquire and, if it was admitted, a release. Any number of requests interleave at
the commands, and the key expires when its time to live has run out.
-/
namespace AegisGateway.ConcurrencySlot
open EffectProgram ProgramPool TransitionRuns

inductive SlotOp where
  | incr
  | expire (seconds : ℕ)
  | decr
  deriving DecidableEq, Repr

def SlotRet : SlotOp → Type
  | .incr => ℤ
  | .expire _ => Bool
  | .decr => ℤ

abbrev SlotProg := Prog SlotOp SlotRet Exn

def incr : SlotProg ℤ := Prog.perform SlotOp.incr
def expire (seconds : ℕ) : SlotProg Bool := Prog.perform (SlotOp.expire seconds)
def decr : SlotProg ℤ := Prog.perform SlotOp.decr

def acquireConcurrencySlot (limit : ℤ) : SlotProg Bool := do
  let current ← incr
  if current = 1 then
    let _ ← expire concurrencyKeyTtlSeconds
  if current > limit then
    let _ ← decr
    return false
  return true

def releaseConcurrencySlot : SlotProg Unit := do
  let _ ← decr

/-- The slot's part of a request: what it does between is only time. -/
def request (limit : ℤ) : SlotProg Unit := do
  let admitted ← acquireConcurrencySlot limit
  if admitted then releaseConcurrencySlot

structure SlotEntry where
  value : ℤ
  expiresAt : Option ℚ
  deriving DecidableEq, Repr

/-- The tenant's counter in Redis, and Redis's clock. -/
structure SlotKey where
  entry : Option SlotEntry
  now : ℚ
  deriving DecidableEq, Repr

def SlotKey.count (key : SlotKey) : ℤ :=
  match key.entry with
  | none => 0
  | some entry => entry.value

/-- INCR and DECR keep the time to live, and give a new key none. -/
def SlotKey.put (key : SlotKey) (value : ℤ) : SlotKey :=
  { key with entry := some ⟨value, key.entry.bind SlotEntry.expiresAt⟩ }

def SlotKey.exec (key : SlotKey) : (op : SlotOp) → SlotRet op × SlotKey
  | .incr => (key.count + 1, key.put (key.count + 1))
  | .expire seconds =>
    match key.entry with
    | none => (false, key)
    | some entry =>
      (true, { key with entry := some { entry with expiresAt := some (key.now + seconds) } })
  | .decr => (key.count - 1, key.put (key.count - 1))

def SlotKey.expires (key : SlotKey) (duration : ℚ) : Bool :=
  match key.entry.bind SlotEntry.expiresAt with
  | none => false
  | some t => t ≤ key.now + duration

/-- Time passes, and Redis deletes the key once its time to live is over. -/
def SlotKey.wait (key : SlotKey) (duration : ℚ) : SlotKey :=
  if key.expires duration then ⟨none, key.now + duration⟩
  else { key with now := key.now + duration }

@[simp] theorem SlotKey.put_count (key : SlotKey) (value : ℤ) : (key.put value).count = value :=
  rfl

theorem SlotKey.expire_count (key : SlotKey) (seconds : ℕ) :
    (key.exec (.expire seconds)).2.count = key.count := by
  obtain ⟨_ | entry, now⟩ := key <;> rfl

theorem SlotKey.wait_count (key : SlotKey) (duration : ℚ) :
    (key.wait duration).count = if key.expires duration then 0 else key.count := by
  rw [SlotKey.wait]
  split <;> rfl

def slotWorld (ι : Type) : World SlotOp SlotRet Exn ι SlotKey ℚ where
  answer key _ op o key' := o = .ok (key.exec op).1 ∧ key' = (key.exec op).2
  passes key duration key' := 0 ≤ duration ∧ key' = key.wait duration

abbrev SlotPool (ι : Type) := Pool SlotOp SlotRet Exn Unit ι SlotKey
abbrev SlotLabel (ι : Type) := Label SlotOp SlotRet Exn ι ℚ

/-- The request has counted itself and has not yet taken itself off again. -/
def InProgress {ι : Type} (p : SlotPool ι) (i : ι) : Prop :=
  (∃ e ∈ p.history i, e.1 = .incr) ∧ ¬ ∃ e ∈ p.history i, e.1 = .decr

inductive Phase where
  | idle
  | expiring
  | rejecting
  | holding
  | finished
  deriving DecidableEq, Repr

def Phase.busy : Phase → Bool
  | .idle | .finished => false
  | .expiring | .rejecting | .holding => true

def decided (limit current : ℤ) : Phase := if current > limit then .rejecting else .holding

def counted (limit current : ℤ) : Phase :=
  if current = 1 then .expiring else decided limit current

/-- The phases a request goes through, read off the answers it gets. -/
def slotMonitor (limit : ℤ) : Monitor SlotOp SlotRet Exn Phase where
  permits
    | .idle, .incr => True
    | .expiring, .expire _ => True
    | .rejecting, .decr => True
    | .holding, .decr => True
    | _, _ => False
  answers _ _ o := ∃ a, o = .ok a
  advance
    | .idle, .incr, .ok current => counted limit current
    | .expiring, .expire _, _ => decided limit 1
    | .rejecting, .decr, _ => .finished
    | .holding, .decr, _ => .finished
    | phase, _, _ => phase

/-- What `acquireConcurrencySlot` does once it has read the counter. -/
def decideSlot (limit current : ℤ) : SlotProg Bool := do
  if current > limit then
    let _ ← decr
    return false
  return true

def settled (admitted : Except Exn Bool) (phase : Phase) : Prop :=
  admitted = .ok true ∧ phase = .holding ∨ admitted = .ok false ∧ phase = .finished

theorem decideSlot_holds (limit current : ℤ) :
    Holds (slotMonitor limit) (decideSlot limit current) settled (decided limit current) := by
  by_cases exceeds : current > limit
  · rw [decideSlot, decided, if_pos exceeds, if_pos exceeds]
    refine ⟨trivial, ?_⟩
    rintro _ ⟨_, rfl⟩
    exact .inr ⟨rfl, rfl⟩
  · rw [decideSlot, decided, if_neg exceeds, if_neg exceeds]
    exact .inl ⟨rfl, rfl⟩

theorem acquireConcurrencySlot_holds (limit : ℤ) :
    Holds (slotMonitor limit) (acquireConcurrencySlot limit) settled .idle := by
  refine ⟨trivial, ?_⟩
  rintro _ ⟨(current : ℤ), rfl⟩
  change Holds (slotMonitor limit)
    (if current = 1 then expire concurrencyKeyTtlSeconds >>= fun _ => decideSlot limit current
      else decideSlot limit current) settled (counted limit current)
  by_cases one : current = 1
  · rw [if_pos one, counted, if_pos one]
    refine ⟨trivial, ?_⟩
    rintro _ ⟨_, rfl⟩
    rw [one]
    exact decideSlot_holds limit 1
  · rw [if_neg one, counted, if_neg one]
    exact decideSlot_holds limit current

theorem request_holds (limit : ℤ) :
    Holds (slotMonitor limit) (request limit) (fun _ phase => phase = .finished) .idle := by
  rw [request, holds_bind]
  refine (acquireConcurrencySlot_holds limit).mono ?_
  rintro _ _ (⟨rfl, rfl⟩ | ⟨rfl, rfl⟩)
  · refine ⟨trivial, ?_⟩
    rintro _ ⟨_, rfl⟩
    rfl
  · rfl

def Phase.weight (phase : Phase) : ℤ := if phase.busy then 1 else 0

theorem decided_busy (limit current : ℤ) : (decided limit current).busy = true := by
  rw [decided]
  split <;> rfl

theorem counted_busy (limit current : ℤ) : (counted limit current).busy = true := by
  rw [counted]
  split
  · rfl
  · exact decided_busy limit current

theorem exec_count (limit : ℤ) (key : SlotKey) (phase : Phase) (op : SlotOp)
    (permitted : (slotMonitor limit).permits phase op) :
    (key.exec op).2.count = key.count +
      (((slotMonitor limit).advance phase op (.ok (key.exec op).1)).weight - phase.weight) := by
  cases phase <;> cases op <;> try exact permitted.elim
  case idle.incr =>
    change key.count + 1 = key.count + ((counted limit (key.count + 1)).weight - 0)
    rw [Phase.weight, counted_busy]
    rfl
  case expiring.expire seconds =>
    change _ = key.count + ((decided limit 1).weight - 1)
    rw [Phase.weight, decided_busy, SlotKey.expire_count]
    simp
  all_goals rfl

/-- The past a request in this phase has. -/
def Phase.past (phase : Phase) (history : List (Event SlotOp SlotRet Exn)) : Prop :=
  ((∃ e ∈ history, e.1 = .incr) ↔ phase ≠ .idle) ∧
    ((∃ e ∈ history, e.1 = .decr) ↔ phase = .finished)

theorem busy_apart {phase : Phase} (h : phase.busy = true) : phase ≠ .idle ∧ phase ≠ .finished := by
  constructor <;> rintro rfl <;> cases h

theorem past_of_accepts {limit : ℤ} {history : List (Event SlotOp SlotRet Exn)}
    (h : (slotMonitor limit).Accepts .idle history) :
    ((slotMonitor limit).after .idle history).past history := by
  refine h.past ⟨by simp, by simp⟩ ?_
  rintro phase past op _ ⟨counted_iff, released_iff⟩ permitted ⟨a, rfl⟩
  have ran (op' : SlotOp) : (∃ e ∈ past ++ [⟨op, .ok a⟩], e.1 = op') ↔
      (∃ e ∈ past, e.1 = op') ∨ op = op' := by
    simp [or_and_right, exists_or]
  rw [Phase.past, ran, ran, counted_iff, released_iff]
  cases phase <;> cases op <;> try exact permitted.elim
  case idle.incr =>
    have busy := busy_apart (counted_busy limit a)
    exact ⟨iff_of_true (.inr rfl) busy.1, iff_of_false (by simp) busy.2⟩
  case expiring.expire =>
    have busy := busy_apart (decided_busy limit 1)
    exact ⟨iff_of_true (.inl (by simp)) busy.1, iff_of_false (by simp) busy.2⟩
  all_goals exact ⟨iff_of_true (.inl (by simp)) (by simp [slotMonitor]), by simp [slotMonitor]⟩

section Runs
variable {ι : Type}

def idlePool (limit : ℤ) (now : ℚ) : SlotPool ι := Pool.start ⟨none, now⟩ fun _ => request limit

abbrev SlotPool.phase (limit : ℤ) (p : SlotPool ι) : ι → Phase :=
  p.monitored (slotMonitor limit) fun _ => .idle

abbrev SlotPool.Tracked (limit : ℤ) (p : SlotPool ι) : Prop :=
  Pool.Tracked (slotMonitor limit) (fun _ _ phase => phase = .finished) (fun _ => .idle) p

theorem inProgress_iff {limit : ℤ} {p : SlotPool ι} (tracked : SlotPool.Tracked limit p) (i : ι) :
    InProgress p i ↔ (SlotPool.phase limit p i).busy = true := by
  obtain ⟨counted_iff, released_iff⟩ := past_of_accepts (tracked i).1
  rw [InProgress, counted_iff, released_iff]
  change SlotPool.phase limit p i ≠ _ ∧ ¬ SlotPool.phase limit p i = _ ↔ _
  cases SlotPool.phase limit p i <;> simp [Phase.busy]

variable [Fintype ι] [DecidableEq ι]

/-- The counter is the number of requests in progress. -/
def SlotPool.Counts (limit : ℤ) (p : SlotPool ι) : Prop :=
  p.Tracked limit ∧ p.shared.count = ∑ i, (SlotPool.phase limit p i).weight

/-- The key expires only while no request is in progress. -/
def expiresIdle (p : SlotPool ι) : SlotLabel ι → Prop
  | .call _ _ => True
  | .env duration => p.shared.expires duration = true → ∀ i, ¬ InProgress p i

omit [DecidableEq ι] in
theorem weight_idle {limit : ℤ} {p : SlotPool ι} (tracked : SlotPool.Tracked limit p)
    (idle : ∀ i, ¬ InProgress p i) : ∑ i, (SlotPool.phase limit p i).weight = 0 := by
  apply Finset.sum_eq_zero
  intro i _
  rw [Phase.weight, if_neg (fun busy => idle i ((inProgress_iff tracked i).mpr busy))]

omit [Fintype ι] [DecidableEq ι] in
theorem slotWorld_granted {limit : ℤ} (key : SlotKey) (i : ι) (op : SlotOp)
    (o : Except Exn (SlotRet op)) (key' : SlotKey) (phase : Phase)
    (answered : (slotWorld ι).answer key i op o key') : (slotMonitor limit).answers phase op o :=
  ⟨_, answered.1⟩

theorem counts_step (limit : ℤ) (p : SlotPool ι) (l : SlotLabel ι) (p' : SlotPool ι)
    (counts : p.Counts limit) (idle : expiresIdle p l) (step : Step (slotWorld ι) p l p') :
    p'.Counts limit := by
  obtain ⟨tracked, total⟩ := counts
  obtain ⟨tracked', h⟩ := step_cases slotWorld_granted tracked step
  refine ⟨tracked', ?_⟩
  rcases h with ⟨i, op, o, rfl, permitted, ⟨rfl, key⟩, phases⟩ | ⟨duration, rfl, ⟨_, key⟩, phases⟩
  · rw [SlotPool.phase, phases, sum_update, key, exec_count limit _ _ _ permitted, total]
  · rw [SlotPool.phase, phases, key, SlotKey.wait_count]
    split
    · exact (weight_idle tracked (idle ‹_›)).symm
    · exact total

end Runs

def SlotKey.run {α : Type} (key : SlotKey) (program : SlotProg α) : Except Exn α × SlotKey :=
  program.runState (fun s op => (.ok (s.exec op).1, (s.exec op).2)) key

theorem SlotKey.run_decideSlot (key : SlotKey) (limit current : ℤ) (h : key.count = current) :
    (key.run (decideSlot limit current)).1 = .ok (decide (current ≤ limit)) ∧
    (key.run (decideSlot limit current)).2.count = if current ≤ limit then current else current - 1 := by
  by_cases exceeds : current > limit
  · have fits : ¬ current ≤ limit := by omega
    rw [decideSlot, if_pos exceeds, if_neg fits, decide_eq_false fits]
    refine ⟨rfl, ?_⟩
    change key.count - 1 = current - 1
    rw [h]
  · have fits : current ≤ limit := by omega
    rw [decideSlot, if_neg exceeds, if_pos fits, decide_eq_true fits]
    exact ⟨rfl, h⟩

theorem SlotKey.run_acquire (key : SlotKey) (limit : ℤ) :
    (key.run (acquireConcurrencySlot limit)).1 = .ok (decide (key.count < limit)) ∧
    (key.run (acquireConcurrencySlot limit)).2.count =
      if key.count < limit then key.count + 1 else key.count := by
  have split_run : key.run (acquireConcurrencySlot limit) =
      (key.put (key.count + 1)).run
        (if key.count + 1 = 1 then
          expire concurrencyKeyTtlSeconds >>= fun _ => decideSlot limit (key.count + 1)
        else decideSlot limit (key.count + 1)) := rfl
  have decided_run : ∃ key' : SlotKey, key'.count = key.count + 1 ∧
      key.run (acquireConcurrencySlot limit) = key'.run (decideSlot limit (key.count + 1)) := by
    rw [split_run]
    split
    · exact ⟨_, SlotKey.expire_count _ _, rfl⟩
    · exact ⟨_, SlotKey.put_count _ _, rfl⟩
  obtain ⟨key', count, run⟩ := decided_run
  obtain ⟨answer, after⟩ := key'.run_decideSlot limit _ count
  rw [run, answer, after]
  simp only [Int.add_one_le_iff, add_sub_cancel_right, and_self]

/-- So many acquires one after the other: which of them are admitted. -/
def admissions (limit : ℤ) : ℕ → SlotKey → List (Except Exn Bool)
  | 0, _ => []
  | k + 1, key =>
    let acquired := key.run (acquireConcurrencySlot limit)
    acquired.1 :: admissions limit k acquired.2

theorem admissions_eq (limit : ℤ) (k : ℕ) (key : SlotKey) :
    admissions limit k key = (List.range k).map fun j => .ok (decide (key.count + j < limit)) := by
  induction k generalizing key with
  | zero => rfl
  | succ k ih =>
    obtain ⟨answer, after⟩ := key.run_acquire limit
    rw [admissions, ih, answer, after, List.range_succ_eq_map, List.map_cons, List.map_map]
    congr 1
    · simp
    · apply List.map_congr_left
      intro j _
      simp only [Function.comp_apply, Nat.succ_eq_add_one, Nat.cast_add, Nat.cast_one]
      congr 2
      split <;> simp only [eq_iff_iff] <;> omega

section Kept
variable {ι : Type} [Fintype ι] [DecidableEq ι]

/-- The counter is never negative; without a request in progress it is gone or zero, and
the tenant is admitted exactly up to its limit. -/
def SlotKept (limit : ℤ) (p : SlotPool ι) : Prop :=
  (∀ entry, p.shared.entry = some entry → 0 ≤ entry.value) ∧
  ((∀ i, ¬ InProgress p i) →
    (p.shared.entry.map SlotEntry.value = none ∨ p.shared.entry.map SlotEntry.value = some 0) ∧
    ∀ k, admissions limit k p.shared = (List.range k).map fun j => .ok (decide ((j : ℤ) < limit)))

omit [DecidableEq ι] in
theorem slotKept_of_counts {limit : ℤ} {p : SlotPool ι} (counts : p.Counts limit) :
    SlotKept limit p := by
  obtain ⟨tracked, total⟩ := counts
  have nonneg : 0 ≤ p.shared.count := by
    rw [total]
    apply Finset.sum_nonneg
    intro i _
    rw [Phase.weight]
    split <;> omega
  constructor
  · intro entry stored
    rw [SlotKey.count, stored] at nonneg
    exact nonneg
  · intro idle
    have zero : p.shared.count = 0 := by rw [total, weight_idle tracked idle]
    constructor
    · rw [SlotKey.count] at zero
      cases stored : p.shared.entry with
      | none => exact .inl rfl
      | some entry =>
        rw [stored] at zero
        exact .inr (congrArg some zero)
    · intro k
      rw [admissions_eq, zero]
      simp only [zero_add]

theorem slot_counter_kept (limit : ℤ) (now : ℚ) (run : List (SlotLabel ι × SlotPool ι))
    (isRun : IsRun (Step (slotWorld ι)) (idlePool limit now) run)
    (idle : StepsMeet expiresIdle (idlePool limit now) run) :
    ∀ p ∈ visited (idlePool limit now) run, SlotKept limit p := by
  intro p hp
  apply slotKept_of_counts
  refine isRun.invariant (counts_step limit) idle ⟨?_, ?_⟩ p hp
  · exact Pool.start_tracked fun _ => request_holds limit
  · exact (Finset.sum_eq_zero fun _ _ => rfl).symm

end Kept

theorem wait_expired (value : ℤ) (now : ℚ) (seconds : ℕ) :
    SlotKey.wait ⟨some ⟨value, some (now + seconds)⟩, now⟩ seconds = ⟨none, now + seconds⟩ := by
  simp [SlotKey.wait, SlotKey.expires]

theorem slot_counter_kept_one_request :
    ∃ run : List (SlotLabel Unit × SlotPool Unit),
      IsRun (Step (slotWorld Unit)) (idlePool 5 0) run ∧
      (∃ p ∈ run, p.2.shared.entry = none) ∧
      ∀ p ∈ visited (idlePool 5 0) run, SlotKept 5 p := by
  have steps : ∃ run : List (SlotLabel Unit × SlotPool Unit),
      IsRun (Step (slotWorld Unit)) (idlePool 5 0) run ∧
      StepsMeet expiresIdle (idlePool 5 0) run ∧ ∃ p ∈ run, p.2.shared.entry = none := by
    refine ⟨[(.call () ⟨.incr, .ok (1 : ℤ)⟩, _), (.call () ⟨.expire 300, .ok true⟩, _),
      (.call () ⟨.decr, .ok (0 : ℤ)⟩, _), (.env (300 : ℕ), _)],
      ⟨.call rfl ⟨rfl, rfl⟩, .call rfl ⟨rfl, rfl⟩, .call rfl ⟨rfl, rfl⟩,
        .env ⟨by norm_num, (wait_expired 0 0 300).symm⟩, trivial⟩,
      ⟨trivial, trivial, trivial, ?_, trivial⟩, ?_⟩
    · rintro - _ ⟨-, released⟩
      exact released ⟨⟨.decr, .ok (0 : ℤ)⟩, by simp, rfl⟩
    · exact ⟨_, .tail _ (.tail _ (.tail _ (.head _))), rfl⟩
  obtain ⟨run, isRun, idle, gone⟩ := steps
  exact ⟨run, isRun, gone, slot_counter_kept 5 0 run isRun idle⟩

/-- A request that holds its slot for the whole time to live takes the key below zero. -/
theorem slot_counter_drifts :
    ¬ ∀ run : List (SlotLabel Unit × SlotPool Unit),
      IsRun (Step (slotWorld Unit)) (idlePool 5 0) run →
      ∀ p ∈ visited (idlePool 5 0) run, SlotKept 5 p := by
  intro kept
  have drifted := kept [(.call () ⟨.incr, .ok (1 : ℤ)⟩, _), (.call () ⟨.expire 300, .ok true⟩, _),
      (.env (300 : ℕ), _), (.call () ⟨.decr, .ok (-1 : ℤ)⟩, _)]
    ⟨.call rfl ⟨rfl, rfl⟩, .call rfl ⟨rfl, rfl⟩, .env ⟨by norm_num, (wait_expired 1 0 300).symm⟩,
      .call rfl ⟨rfl, rfl⟩, trivial⟩ _
    (.tail _ (.tail _ (.tail _ (.tail _ (.head _)))))
  have nonneg : (0 : ℤ) ≤ -1 := drifted.1 ⟨-1, none⟩ rfl
  omega

section Cap
variable {ι : Type} {limit : ℤ}

/-- What the request's INCR returned. -/
def incrAnswer (history : List (Event SlotOp SlotRet Exn)) : Option ℤ :=
  history.findSome? fun
    | ⟨.incr, .ok current⟩ => some current
    | _ => none

def hasDecr (history : List (Event SlotOp SlotRet Exn)) : Bool :=
  history.any fun e => e.1 = .decr

/-- The request was admitted and has not released its slot. -/
def SlotPool.admitted (limit : ℤ) (p : SlotPool ι) (i : ι) : Bool :=
  (incrAnswer (p.history i)).any (· ≤ limit) && !hasDecr (p.history i)

/-- The request was rejected and has not done its DECR. -/
def SlotPool.rejected (limit : ℤ) (p : SlotPool ι) (i : ι) : Bool :=
  (incrAnswer (p.history i)).any (limit < ·) && !hasDecr (p.history i)

def Phase.admitted (limit : ℤ) : Phase → Bool
  | .holding => true
  | .expiring => 1 ≤ limit
  | _ => false

def Phase.rejected (limit : ℤ) : Phase → Bool
  | .rejecting => true
  | .expiring => limit < 1
  | _ => false

/-- What a request in this phase has been answered. -/
def Phase.knows (limit : ℤ) (history : List (Event SlotOp SlotRet Exn)) : Phase → Prop
  | .idle => incrAnswer history = none ∧ hasDecr history = false
  | .expiring => incrAnswer history = some 1 ∧ hasDecr history = false
  | .rejecting => (∃ current, incrAnswer history = some current ∧ limit < current) ∧
      hasDecr history = false
  | .holding => (∃ current, incrAnswer history = some current ∧ current ≤ limit) ∧
      hasDecr history = false
  | .finished => hasDecr history = true

variable [Fintype ι] [DecidableEq ι]

end Cap

end AegisGateway.ConcurrencySlot
