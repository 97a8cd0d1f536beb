import Mathlib.Algebra.Order.Field.Rat
import Mathlib.Tactic.Linarith
import Mathlib.Tactic.Ring

set_option autoImplicit false

/-!
# The token-bucket script

`tokenBucketLua` is `_TOKEN_BUCKET_LUA` of `services/rate_limiter.py` run once
and atomically on one key, with numbers kept exact. A missing key is `none`.
-/
namespace AegisGateway.TokenBucket

structure Bucket where
  tokens : ℚ
  updatedAt : ℚ
  deriving DecidableEq, Repr

/-- `ARGV` without the time to live, which only renews the key. -/
structure BucketArgs where
  capacity : ℚ
  refillPerSecond : ℚ
  requested : ℚ
  deriving DecidableEq, Repr

structure LimitResult where
  allowed : Bool
  remaining : ℚ
  deriving DecidableEq, Repr

def refill (bucket : Option Bucket) (capacity refillPerSecond now : ℚ) : ℚ :=
  let tokens := match bucket with
    | none => capacity
    | some b => b.tokens
  let updatedAt := match bucket with
    | none => now
    | some b => b.updatedAt
  let elapsed := max 0 (now - updatedAt)
  min capacity (tokens + elapsed * refillPerSecond)

/-- The script rewrites both fields also when it denies. -/
def tokenBucketLua (bucket : Option Bucket) (args : BucketArgs) (now : ℚ) : LimitResult × Bucket :=
  let tokens := refill bucket args.capacity args.refillPerSecond now
  if args.requested ≤ tokens then
    (⟨true, tokens - args.requested⟩, ⟨tokens - args.requested, now⟩)
  else
    (⟨false, tokens⟩, ⟨tokens, now⟩)

structure BucketRun where
  requested : ℚ
  now : ℚ
  result : LimitResult
  stored : Bucket
  deriving DecidableEq, Repr

def bucketRuns (capacity refillPerSecond : ℚ) : Option Bucket → List (ℚ × ℚ) → List BucketRun
  | _, [] => []
  | bucket, (requested, now) :: calls =>
    let reply := tokenBucketLua bucket ⟨capacity, refillPerSecond, requested⟩ now
    ⟨requested, now, reply.1, reply.2⟩ ::
      bucketRuns capacity refillPerSecond (some reply.2) calls

def admitted : List BucketRun → ℚ
  | [] => 0
  | run :: runs => (if run.result.allowed then run.requested else 0) + admitted runs

def forwardTime : List BucketRun → ℚ
  | [] => 0
  | [_] => 0
  | first :: second :: runs => max 0 (second.now - first.now) + forwardTime (second :: runs)

theorem refill_le_capacity (bucket : Option Bucket) (capacity refillPerSecond now : ℚ) :
    refill bucket capacity refillPerSecond now ≤ capacity := min_le_left _ _

theorem refill_stored_le (b : Bucket) (capacity refillPerSecond now : ℚ) :
    refill (some b) capacity refillPerSecond now ≤
      b.tokens + max 0 (now - b.updatedAt) * refillPerSecond := min_le_right _ _

def NoDebt : Option Bucket → Prop
  | none => True
  | some b => 0 ≤ b.tokens

section Cap
variable {capacity refillPerSecond : ℚ}

theorem refill_nonneg (hc : 0 ≤ capacity) (hr : 0 ≤ refillPerSecond) (bucket : Option Bucket)
    (now : ℚ) (h : NoDebt bucket) : 0 ≤ refill bucket capacity refillPerSecond now := by
  unfold refill
  refine le_min hc ?_
  cases bucket with
  | none => exact add_nonneg hc (mul_nonneg (le_max_left _ _) hr)
  | some b => exact add_nonneg h (mul_nonneg (le_max_left _ _) hr)

theorem tokenBucketLua_cases (bucket : Option Bucket) (args : BucketArgs) (now : ℚ) :
    let tokens := refill bucket args.capacity args.refillPerSecond now
    let reply := tokenBucketLua bucket args now
    reply.2.updatedAt = now ∧ reply.1.remaining = reply.2.tokens ∧
    ((reply.1.allowed = true ∧ args.requested ≤ tokens ∧
        reply.2.tokens = tokens - args.requested) ∨
      (reply.1.allowed = false ∧ tokens < args.requested ∧ reply.2.tokens = tokens)) := by
  intro tokens reply
  by_cases h : args.requested ≤ tokens
  · have hr : reply = (⟨true, tokens - args.requested⟩, ⟨tokens - args.requested, now⟩) := by
      simp only [reply, tokenBucketLua]
      exact if_pos h
    rw [hr]
    exact ⟨rfl, rfl, .inl ⟨rfl, h, rfl⟩⟩
  · have hr : reply = (⟨false, tokens⟩, ⟨tokens, now⟩) := by
      simp only [reply, tokenBucketLua]
      exact if_neg h
    rw [hr]
    exact ⟨rfl, rfl, .inr ⟨rfl, lt_of_not_ge h, rfl⟩⟩

theorem tokenBucketLua_bounds (hc : 0 ≤ capacity) (hr : 0 ≤ refillPerSecond)
    (bucket : Option Bucket) (requested now : ℚ) (hq : 0 ≤ requested) (h : NoDebt bucket) :
    let stored := (tokenBucketLua bucket ⟨capacity, refillPerSecond, requested⟩ now).2
    0 ≤ stored.tokens ∧ stored.tokens ≤ capacity := by
  have hn := refill_nonneg hc hr bucket now h
  have hm := refill_le_capacity bucket capacity refillPerSecond now
  obtain ⟨_, _, ⟨_, hle, ht⟩ | ⟨_, _, ht⟩⟩ :=
    tokenBucketLua_cases bucket ⟨capacity, refillPerSecond, requested⟩ now
  · dsimp only at hle ht ⊢
    rw [ht]
    exact ⟨by linarith, by linarith⟩
  · dsimp only at ht ⊢
    rw [ht]
    exact ⟨hn, hm⟩

theorem bucketRuns_bounds (hc : 0 ≤ capacity) (hr : 0 ≤ refillPerSecond)
    (bucket : Option Bucket) (calls : List (ℚ × ℚ)) (hq : ∀ call ∈ calls, 0 ≤ call.1)
    (h : NoDebt bucket) :
    ∀ run ∈ bucketRuns capacity refillPerSecond bucket calls,
      0 ≤ run.stored.tokens ∧ run.stored.tokens ≤ capacity := by
  induction calls generalizing bucket with
  | nil => intro run hrun; cases hrun
  | cons call calls ih =>
    obtain ⟨requested, now⟩ := call
    have hb := tokenBucketLua_bounds hc hr bucket requested now
      (hq (requested, now) List.mem_cons_self) h
    intro run hrun
    simp only [bucketRuns, List.mem_cons] at hrun
    rcases hrun with rfl | hrun
    · exact hb
    · exact ih (some _) (fun c hc' => hq c (List.mem_cons_of_mem _ hc')) hb.1 run hrun

/-- The amortised bound: what a stretch of runs admits was in the bucket when it
began, or flowed in while the clock moved forward. -/
theorem admitted_le_refill (hc : 0 ≤ capacity) (hr : 0 ≤ refillPerSecond)
    (bucket : Option Bucket) (requested now : ℚ) (calls : List (ℚ × ℚ))
    (hq : ∀ call ∈ (requested, now) :: calls, 0 ≤ call.1) (h : NoDebt bucket) :
    admitted (bucketRuns capacity refillPerSecond bucket ((requested, now) :: calls)) ≤
      refill bucket capacity refillPerSecond now + refillPerSecond *
        forwardTime (bucketRuns capacity refillPerSecond bucket ((requested, now) :: calls)) := by
  induction calls generalizing bucket requested now with
  | nil =>
    have hn := refill_nonneg hc hr bucket now h
    obtain ⟨_, _, ⟨ha, hle, _⟩ | ⟨ha, _, _⟩⟩ :=
      tokenBucketLua_cases bucket ⟨capacity, refillPerSecond, requested⟩ now
    all_goals
      simp only [bucketRuns, admitted, forwardTime, ha, if_true, if_false, Bool.false_eq_true]
    · dsimp only at hle
      linarith
    · linarith
  | cons call calls ih =>
    obtain ⟨requested', now'⟩ := call
    have hb := tokenBucketLua_bounds hc hr bucket requested now
      (hq (requested, now) List.mem_cons_self) h
    obtain ⟨hu, _, hcase⟩ := tokenBucketLua_cases bucket ⟨capacity, refillPerSecond, requested⟩ now
    dsimp only at hb hu hcase
    set reply := tokenBucketLua bucket ⟨capacity, refillPerSecond, requested⟩ now with hreply
    have tail := ih (some reply.2) requested' now' (fun c hc' => hq c (List.mem_cons_of_mem _ hc')) hb.1
    have flow := refill_stored_le reply.2 capacity refillPerSecond now'
    rw [hu] at flow
    have hsplit : bucketRuns capacity refillPerSecond bucket
        ((requested, now) :: (requested', now') :: calls) =
        ⟨requested, now, reply.1, reply.2⟩ ::
          bucketRuns capacity refillPerSecond (some reply.2) ((requested', now') :: calls) := rfl
    have htime : forwardTime (bucketRuns capacity refillPerSecond bucket
        ((requested, now) :: (requested', now') :: calls)) =
        max 0 (now' - now) + forwardTime
          (bucketRuns capacity refillPerSecond (some reply.2) ((requested', now') :: calls)) := rfl
    rw [htime, hsplit, admitted]
    obtain ⟨ha, _, ht⟩ | ⟨ha, _, ht⟩ := hcase
    · simp only [ha, if_true]
      rw [ht] at flow
      linarith
    · simp only [ha, Bool.false_eq_true, if_false]
      rw [ht] at flow
      linarith

def bucketAfter (bucket : Option Bucket) (runs : List BucketRun) : Option Bucket :=
  match runs.getLast? with
  | none => bucket
  | some run => some run.stored

theorem bucketAfter_cons (bucket : Option Bucket) (run : BucketRun) (runs : List BucketRun) :
    bucketAfter bucket (run :: runs) = bucketAfter (some run.stored) runs := by
  cases runs with
  | nil => rfl
  | cons next runs => simp [bucketAfter, List.getLast?_cons]

theorem bucketRuns_append (capacity refillPerSecond : ℚ) (bucket : Option Bucket)
    (before after : List (ℚ × ℚ)) :
    bucketRuns capacity refillPerSecond bucket (before ++ after) =
      bucketRuns capacity refillPerSecond bucket before ++
        bucketRuns capacity refillPerSecond
          (bucketAfter bucket (bucketRuns capacity refillPerSecond bucket before)) after := by
  induction before generalizing bucket with
  | nil => rfl
  | cons call before ih =>
    simp only [List.cons_append, bucketRuns, bucketAfter_cons]
    rw [ih]

theorem bucketRuns_length (bucket : Option Bucket) (calls : List (ℚ × ℚ)) :
    (bucketRuns capacity refillPerSecond bucket calls).length = calls.length := by
  induction calls generalizing bucket with
  | nil => rfl
  | cons call calls ih => simp [bucketRuns, ih]

theorem bucketAfter_noDebt (hc : 0 ≤ capacity) (hr : 0 ≤ refillPerSecond)
    (calls : List (ℚ × ℚ)) (hq : ∀ call ∈ calls, 0 ≤ call.1) :
    NoDebt (bucketAfter none (bucketRuns capacity refillPerSecond none calls)) := by
  unfold bucketAfter
  cases hl : (bucketRuns capacity refillPerSecond none calls).getLast? with
  | none => trivial
  | some run =>
    exact (bucketRuns_bounds hc hr none calls hq trivial run (List.mem_of_getLast? hl)).1

theorem bucketRuns_window (calls : List (ℚ × ℚ)) (i n : ℕ) :
    ((bucketRuns capacity refillPerSecond none calls).drop i).take n =
      bucketRuns capacity refillPerSecond
        (bucketAfter none (bucketRuns capacity refillPerSecond none (calls.take i)))
        ((calls.drop i).take n) := by
  have hsplit := bucketRuns_append capacity refillPerSecond none (calls.take i) (calls.drop i)
  rw [List.take_append_drop] at hsplit
  by_cases hi : i ≤ calls.length
  · have hlen : (bucketRuns capacity refillPerSecond none (calls.take i)).length = i := by
      rw [bucketRuns_length, List.length_take, Nat.min_eq_left hi]
    rw [hsplit, List.drop_left' hlen]
    have hwin := bucketRuns_append capacity refillPerSecond
      (bucketAfter none (bucketRuns capacity refillPerSecond none (calls.take i)))
      ((calls.drop i).take n) ((calls.drop i).drop n)
    rw [List.take_append_drop] at hwin
    rw [hwin, List.take_append]
    have hle : ((calls.drop i).take n).length ≤ n := by simp
    rw [List.take_of_length_le (by rw [bucketRuns_length]; exact hle), bucketRuns_length]
    by_cases hn : n ≤ (calls.drop i).length
    · rw [List.length_take, Nat.min_eq_left hn, Nat.sub_self, List.take_zero, List.append_nil]
    · rw [List.drop_eq_nil_of_le (by omega : (calls.drop i).length ≤ n)]
      simp [bucketRuns]
  · have hd : calls.drop i = [] := List.drop_eq_nil_of_le (by omega)
    rw [hd, List.drop_eq_nil_of_le (by rw [bucketRuns_length]; omega)]
    simp [bucketRuns]

theorem forwardTime_monotone (first : BucketRun) (runs : List BucketRun)
    (h : (first :: runs).Pairwise (fun a b => a.now ≤ b.now)) :
    forwardTime (first :: runs) =
      ((first :: runs).getLast (List.cons_ne_nil _ _)).now - first.now := by
  induction runs generalizing first with
  | nil => simp [forwardTime]
  | cons second runs ih =>
    obtain ⟨hfirst, htail⟩ := List.pairwise_cons.mp h
    have hle := hfirst second (by simp)
    rw [forwardTime, ih second htail, max_eq_right (by linarith)]
    rw [List.getLast_cons (List.cons_ne_nil _ _)]
    ring

/-- The token bucket enforces its cap: the stored tokens stay between zero and
the capacity, and every contiguous window of runs admits at most the capacity
plus what the forward movement of the clock refills. -/
theorem token_bucket_enforces_cap (hc : 0 ≤ capacity) (hr : 0 ≤ refillPerSecond)
    (calls : List (ℚ × ℚ)) (hq : ∀ call ∈ calls, 0 ≤ call.1) :
    (∀ run ∈ bucketRuns capacity refillPerSecond none calls,
      0 ≤ run.stored.tokens ∧ run.stored.tokens ≤ capacity) ∧
    ∀ i n : ℕ, let window := ((bucketRuns capacity refillPerSecond none calls).drop i).take n
      admitted window ≤ capacity + refillPerSecond * forwardTime window ∧
      ∀ (first : BucketRun) (rest : List BucketRun), window = first :: rest →
        window.Pairwise (fun a b => a.now ≤ b.now) →
        admitted window ≤ capacity + refillPerSecond *
          (((first :: rest).getLast (List.cons_ne_nil _ _)).now - first.now) := by
  refine ⟨bucketRuns_bounds hc hr none calls hq trivial, ?_⟩
  intro i n window
  have bound : admitted window ≤ capacity + refillPerSecond * forwardTime window := by
    have hw : window = _ := bucketRuns_window calls i n
    have hd := bucketAfter_noDebt hc hr (calls.take i)
      (fun call hcall => hq call (List.mem_of_mem_take hcall))
    have hq' : ∀ call ∈ (calls.drop i).take n, 0 ≤ call.1 := fun call hcall =>
      hq call (List.mem_of_mem_drop (List.mem_of_mem_take hcall))
    rw [hw]
    cases hcalls : (calls.drop i).take n with
    | nil => simpa [bucketRuns, admitted, forwardTime] using hc
    | cons call rest =>
      rw [hcalls] at hq'
      have ha := admitted_le_refill hc hr _ call.1 call.2 rest hq' hd
      have hm := refill_le_capacity
        (bucketAfter none (bucketRuns capacity refillPerSecond none (calls.take i)))
        capacity refillPerSecond call.2
      exact ha.trans (by linarith)
  refine ⟨bound, ?_⟩
  intro first rest hfirst hmono
  have ht := forwardTime_monotone first rest (hfirst ▸ hmono)
  rw [← ht, ← hfirst]
  exact bound

theorem token_bucket_enforces_cap_four_calls :
    let calls : List (ℚ × ℚ) := [(2, 10), (2, 10), (1, 9), (1, 12)]
    (∀ call ∈ calls, 0 ≤ call.1) ∧
    ∀ run ∈ bucketRuns 3 1 none calls, 0 ≤ run.stored.tokens ∧ run.stored.tokens ≤ 3 := by
  have hq : ∀ call ∈ ([(2, 10), (2, 10), (1, 9), (1, 12)] : List (ℚ × ℚ)), 0 ≤ call.1 := by
    simp
  exact ⟨hq, (token_bucket_enforces_cap (by norm_num) (by norm_num) _ hq).1⟩

end Cap
end AegisGateway.TokenBucket
