import AegisGateway.ConcurrencySlot

set_option autoImplicit false

/-!
# Slots that a crash leaves behind

The requests of the concurrency counter with processes that may crash between any two of
their commands. The time to live is there to take back what a crash leaves on the counter,
but it is set by a command of its own.
-/
namespace AegisGateway.SlotLeaks
open EffectProgram ProgramPool TransitionRuns ConcurrencySlot

def crashed : Exn := .other "ConnectionError"

/-- A command is carried out, or the process has crashed before it and sends nothing any more. -/
def crashWorld (ι : Type) : World SlotOp SlotRet Exn ι SlotKey ℚ where
  answer key _ op o key' := (o = .ok (key.exec op).1 ∧ key' = (key.exec op).2) ∨
    (o = .error crashed ∧ key' = key)
  passes key duration key' := 0 ≤ duration ∧ key' = key.wait duration

def SlotKey.hasTtl (key : SlotKey) : Bool := (key.entry.bind SlotEntry.expiresAt).isSome

def failed : Event SlotOp SlotRet Exn → Bool
  | ⟨_, .error _⟩ => true
  | _ => false

/-- The request has counted itself, has not taken itself off again, and its process is alive. -/
def SlotPool.live {ι : Type} (p : SlotPool ι) (i : ι) : Bool :=
  (p.history i).any (fun e => e.1 = .incr) && !hasDecr (p.history i) && !(p.history i).any failed

inductive Part where
  | waiting
  | counting
  | gone
  deriving DecidableEq, Repr

def crashMonitor : Monitor SlotOp SlotRet Exn Part where
  permits
    | .waiting, .incr | .counting, .expire _ | .counting, .decr => True
    | _, _ => False
  answers _ _ _ := True
  advance
    | .waiting, .incr, .ok _ | .counting, .expire _, .ok _ => .counting
    | _, _, _ => .gone

section Program

theorem decideSlot_parts (limit current : ℤ) :
    Holds crashMonitor (decideSlot limit current) (fun r part => r = .ok true → part = .counting)
      .counting := by
  rw [decideSlot]
  split
  · refine ⟨trivial, fun o _ => ?_⟩
    cases o with
    | error e => exact fun eq => by cases eq
    | ok a => exact fun eq => by cases eq
  · exact fun _ => rfl

theorem acquireConcurrencySlot_parts (limit : ℤ) :
    Holds crashMonitor (acquireConcurrencySlot limit) (fun r part => r = .ok true → part = .counting)
      .waiting := by
  refine ⟨trivial, fun o _ => ?_⟩
  rcases o with e | (current : ℤ)
  · exact fun eq => by cases eq
  · change Holds crashMonitor
      (if current = 1 then expire concurrencyKeyTtlSeconds >>= fun _ => decideSlot limit current
        else decideSlot limit current) _ .counting
    split
    · refine ⟨trivial, fun o _ => ?_⟩
      cases o with
      | error e => exact fun eq => by cases eq
      | ok set => exact decideSlot_parts limit current
    · exact decideSlot_parts limit current

theorem request_parts (limit : ℤ) :
    Holds crashMonitor (request limit) (fun _ _ => True) .waiting := by
  rw [request, holds_bind]
  refine (acquireConcurrencySlot_parts limit).mono fun r part counting => ?_
  cases r with
  | error e => trivial
  | ok admitted =>
    cases admitted with
    | false => trivial
    | true =>
      rw [counting rfl]
      refine ⟨trivial, fun o _ => ?_⟩
      cases o <;> trivial

end Program

/-- What the history of a request shows of its part. -/
def Part.shown (history : List (Event SlotOp SlotRet Exn)) : Part → Prop
  | .waiting => history = []
  | .counting => history.any (fun e => e.1 = .incr) = true ∧ hasDecr history = false ∧
      history.any failed = false
  | .gone => hasDecr history = true ∨ history.any failed = true

theorem shown_of_accepts {history : List (Event SlotOp SlotRet Exn)}
    (h : crashMonitor.Accepts .waiting history) : (crashMonitor.after .waiting history).shown history := by
  refine h.past (R := fun part past => part.shown past) rfl ?_
  intro part past op o shown permitted _
  cases part <;> cases op <;> try exact permitted.elim
  case waiting.incr =>
    obtain rfl : past = [] := shown
    cases o with
    | ok current => exact ⟨rfl, rfl, rfl⟩
    | error e => exact .inr rfl
  case counting.expire seconds =>
    obtain ⟨counted, held, alive⟩ := shown
    cases o with
    | ok set =>
      refine ⟨?_, ?_, ?_⟩
      · simp [List.any_append, counted]
      · rw [hasDecr, List.any_append]
        rw [hasDecr] at held
        simp [held]
      · simp [List.any_append, alive, failed]
    | error e => exact .inr (by simp [List.any_append, failed])
  case counting.decr =>
    cases o with
    | ok value => exact .inl (by simp [hasDecr, List.any_append])
    | error e => exact .inr (by simp [List.any_append, failed])

def Part.weight (part : Part) : ℤ := if part = .counting then 1 else 0

section Runs
variable {ι : Type}

abbrev SlotPool.part (p : SlotPool ι) : ι → Part := p.monitored crashMonitor fun _ => .waiting

abbrev SlotPool.Parted (p : SlotPool ι) : Prop :=
  Pool.Tracked crashMonitor (fun _ _ _ => True) (fun _ => .waiting) p

theorem live_iff {p : SlotPool ι} (parted : SlotPool.Parted p) (i : ι) :
    SlotPool.live p i = true ↔ SlotPool.part p i = .counting := by
  have shown := shown_of_accepts (parted i).1
  change (SlotPool.part p i).shown (p.history i) at shown
  rw [SlotPool.live]
  cases part : SlotPool.part p i <;> rw [part] at shown
  case waiting =>
    rw [show p.history i = [] from shown]
    simp
  case counting => simp [shown.1, shown.2.1, shown.2.2]
  case gone => rcases shown with released | crashed <;> simp [*]

variable [Fintype ι] [DecidableEq ι]

/-- How many live requests count themselves. -/
def SlotPool.liveCount (p : SlotPool ι) : ℤ := (Finset.univ.filter fun i => SlotPool.live p i).card

/-- What the counter has too much will expire. -/
def Reclaimable (p : SlotPool ι) : Prop :=
  SlotPool.liveCount p < p.shared.count → SlotKey.hasTtl p.shared = true

/-- A request crashes that still counts itself, and the key has no time to live, although the
counter is not below the number of live requests. -/
def Leaks (p : SlotPool ι) : SlotLabel ι → Prop
  | .call i ⟨_, .error _⟩ => SlotPool.live p i = true ∧ SlotKey.hasTtl p.shared = false ∧
      SlotPool.liveCount p ≤ p.shared.count
  | _ => False

omit [DecidableEq ι] in
theorem liveCount_eq {p : SlotPool ι} (parted : SlotPool.Parted p) :
    SlotPool.liveCount p = ∑ i, (SlotPool.part p i).weight := by
  rw [SlotPool.liveCount, Finset.card_filter]
  push_cast
  refine Finset.sum_congr rfl fun i _ => ?_
  rw [Part.weight]
  exact if_congr (live_iff parted i) rfl rfl

omit [DecidableEq ι] in
theorem liveCount_nonneg (p : SlotPool ι) : 0 ≤ SlotPool.liveCount p := Int.natCast_nonneg _

theorem exec_change {key : SlotKey} {part : Part} {op : SlotOp} (permitted : crashMonitor.permits part op) :
    ((key.exec op).2.count = key.count +
        ((crashMonitor.advance part op (.ok (key.exec op).1)).weight - part.weight)) ∧
      (SlotKey.hasTtl (key.exec op).2 = SlotKey.hasTtl key ∨
        SlotKey.hasTtl (key.exec op).2 = true ∨ (key.exec op).2.count = 0) := by
  cases part <;> cases op <;> try exact permitted.elim
  case waiting.incr => exact ⟨rfl, .inl rfl⟩
  case counting.expire seconds =>
    refine ⟨by rw [SlotKey.expire_count]; simp [crashMonitor], ?_⟩
    obtain ⟨_ | entry, now⟩ := key
    · exact .inl rfl
    · exact .inr (.inl rfl)
  case counting.decr => exact ⟨rfl, .inl rfl⟩

omit [Fintype ι] [DecidableEq ι] in
theorem crashWorld_granted (key : SlotKey) (i : ι) (op : SlotOp) (o : Except Exn (SlotRet op))
    (key' : SlotKey) (part : Part) (_ : (crashWorld ι).answer key i op o key') :
    crashMonitor.answers part op o := trivial

omit [Fintype ι] in
theorem parted_step (p : SlotPool ι) (l : SlotLabel ι) (p' : SlotPool ι) (parted : SlotPool.Parted p)
    (step : Step (crashWorld ι) p l p') : SlotPool.Parted p' :=
  (step_cases crashWorld_granted parted step).1

omit [DecidableEq ι] in
theorem exec_reclaimable {p p' : SlotPool ι} {i : ι} {op : SlotOp}
    (permitted : crashMonitor.permits (SlotPool.part p i) op) (key : p'.shared = (p.shared.exec op).2)
    (after : SlotPool.liveCount p' = SlotPool.liveCount p +
      ((crashMonitor.advance (SlotPool.part p i) op (.ok (p.shared.exec op).1)).weight -
        (SlotPool.part p i).weight))
    (reclaimable : Reclaimable p) : Reclaimable p' := by
  obtain ⟨count, ttl⟩ := @exec_change p.shared (SlotPool.part p i) op permitted
  rw [← key] at count ttl
  intro excess
  have sooner : SlotPool.liveCount p < p.shared.count := by omega
  have nonneg := liveCount_nonneg p'
  rcases ttl with same | set | zero
  · rw [same]
    exact reclaimable sooner
  · exact set
  · omega

omit [DecidableEq ι] in
theorem crash_reclaimable_iff {p p' : SlotPool ι} {i : ι} {op : SlotOp} (parted : SlotPool.Parted p)
    (key : p'.shared = p.shared)
    (after : SlotPool.liveCount p' = SlotPool.liveCount p + (0 - (SlotPool.part p i).weight))
    (reclaimable : Reclaimable p) :
    Reclaimable p' ↔ ¬ Leaks p (.call i ⟨op, .error crashed⟩) := by
  rw [Reclaimable] at reclaimable ⊢
  rw [key]
  by_cases live : SlotPool.live p i = true
  · have counting := (live_iff parted i).mp live
    rw [counting] at after
    change _ = _ + (0 - 1) at after
    constructor
    · rintro kept ⟨_, unset, covered⟩
      rw [kept (by omega)] at unset
      cases unset
    · intro safe excess
      cases ttl : SlotKey.hasTtl p.shared with
      | true => rfl
      | false => exact absurd ⟨live, ttl, by omega⟩ safe
  · have outside : SlotPool.part p i ≠ .counting := fun counting => live ((live_iff parted i).mpr counting)
    rw [Part.weight, if_neg outside] at after
    refine iff_of_true (fun excess => reclaimable (by omega)) ?_
    rintro ⟨counts, _⟩
    exact live counts

omit [DecidableEq ι] in
theorem wait_reclaimable {p p' : SlotPool ι} {duration : ℚ} (key : p'.shared = p.shared.wait duration)
    (same : SlotPool.liveCount p' = SlotPool.liveCount p) (reclaimable : Reclaimable p) :
    Reclaimable p' := by
  intro excess
  have nonneg := liveCount_nonneg p
  have count := SlotKey.wait_count p.shared duration
  rw [← key] at count
  split at count
  · omega
  · rename_i lasting
    rw [key, SlotKey.wait, if_neg lasting]
    exact reclaimable (by omega)

/-- A step keeps the excess of the counter reclaimable exactly if it does not leak. -/
theorem reclaimable_step (p : SlotPool ι) (l : SlotLabel ι) (p' : SlotPool ι)
    (parted : SlotPool.Parted p) (reclaimable : Reclaimable p) (step : Step (crashWorld ι) p l p') :
    Reclaimable p' ↔ ¬ Leaks p l := by
  obtain ⟨parted', moved⟩ := step_cases crashWorld_granted parted step
  have before := liveCount_eq parted
  have after := liveCount_eq parted'
  rcases moved with ⟨i, op, o, rfl, permitted, answered, parts⟩ | ⟨duration, rfl, ⟨_, key⟩, parts⟩
  · have parts : SlotPool.part p' = Function.update (SlotPool.part p) i
        (crashMonitor.advance (SlotPool.part p i) op o) := parts
    rw [parts, sum_update, ← before] at after
    rcases answered with ⟨rfl, key⟩ | ⟨rfl, key⟩
    · exact iff_of_true (exec_reclaimable permitted key after reclaimable) fun leaks => leaks
    · have gone : (crashMonitor.advance (SlotPool.part p i) op (.error crashed)).weight = 0 := by
        cases SlotPool.part p i <;> cases op <;> rfl
      rw [gone] at after
      exact crash_reclaimable_iff parted key after reclaimable
  · have parts : SlotPool.part p' = SlotPool.part p := parts
    rw [parts, ← before] at after
    exact iff_of_true (wait_reclaimable key after reclaimable) fun leaks => leaks

/-- In every state of a run the counter's excess over the live requests will expire, exactly if no
step of the run leaks. -/
theorem leaked_slot_reclaimable_iff (limit : ℤ) (now : ℚ) (run : List (SlotLabel ι × SlotPool ι))
    (isRun : IsRun (Step (crashWorld ι)) (idlePool limit now) run) :
    (∀ p ∈ visited (idlePool limit now) run, Reclaimable p) ↔
      StepsMeet (fun p l => ¬ Leaks p l) (idlePool limit now) run := by
  refine isRun.throughout_iff parted_step reclaimable_step ?_ ?_
  · exact Pool.start_tracked fun _ => request_parts limit
  · intro excess
    have nonneg := liveCount_nonneg (idlePool limit now : SlotPool ι)
    change _ < (0 : ℤ) at excess
    omega

end Runs

section OneRequest

theorem leaked_slot_reclaimable_iff_holder :
    ∃ run : List (SlotLabel Unit × SlotPool Unit),
      IsRun (Step (crashWorld Unit)) (idlePool 5 0) run ∧
      (∃ p ∈ run, SlotPool.liveCount p.2 < p.2.shared.count) ∧
      ∀ p ∈ visited (idlePool 5 0) run, Reclaimable p := by
  have isRun : IsRun (Step (crashWorld Unit)) (idlePool 5 0)
      [(.call () ⟨.incr, .ok (1 : ℤ)⟩, _), (.call () ⟨.expire 300, .ok true⟩, _),
        (.call () ⟨.decr, .error crashed⟩, _)] :=
    ⟨.call rfl (.inl ⟨rfl, rfl⟩), .call rfl (.inl ⟨rfl, rfl⟩), .call rfl (.inr ⟨rfl, rfl⟩), trivial⟩
  refine ⟨_, isRun, ⟨_, .tail _ (.tail _ (.head _)), by decide⟩, ?_⟩
  refine (leaked_slot_reclaimable_iff 5 0 _ isRun).mpr ⟨fun leaks => leaks, fun leaks => leaks, ?_, trivial⟩
  rintro ⟨_, unset, _⟩
  cases unset

/-- A request that crashes between its INCR and its EXPIRE leaves one that stays. -/
theorem crash_before_expire_leaks : ¬ ∀ run : List (SlotLabel Unit × SlotPool Unit),
    IsRun (Step (crashWorld Unit)) (idlePool 5 0) run →
    ∀ p ∈ visited (idlePool 5 0) run, Reclaimable p := by
  intro reclaimable
  have isRun : IsRun (Step (crashWorld Unit)) (idlePool 5 0)
      [(.call () ⟨.incr, .ok (1 : ℤ)⟩, _), (.call () ⟨.expire 300, .error crashed⟩, _)] :=
    ⟨.call rfl (.inl ⟨rfl, rfl⟩), .call rfl (.inr ⟨rfl, rfl⟩), trivial⟩
  have kept := reclaimable _ isRun _ (.tail _ (.tail _ (.head _)))
  have unset : SlotKey.hasTtl _ = true := kept (by decide)
  cases unset

end OneRequest
end AegisGateway.SlotLeaks
