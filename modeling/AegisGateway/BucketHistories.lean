import AegisGateway.RedisCommands
import Mathlib.Tactic.Positivity

set_option autoImplicit false

/-!
# Histories of a token bucket

What later runs of the script can see of the earlier ones: a run that was denied leaves
nothing behind, and neither does the expiry of an idle key.
-/
namespace AegisGateway.BucketHistories
open TokenBucket RedisCommands

section Denied
variable {capacity refillPerSecond : ℚ}

/-- The items at the marked places. -/
def keepOnly {α : Type} : List Bool → List α → List α
  | true :: mask, item :: items => item :: keepOnly mask items
  | false :: mask, _ :: items => keepOnly mask items
  | _, _ => []

theorem keepOnly_nil {α : Type} (mask : List Bool) : keepOnly mask ([] : List α) = [] := by
  cases mask with
  | nil => rfl
  | cons keep mask => cases keep <;> rfl

/-- The last run on the key was not after this time. -/
def WrittenBy (now : ℚ) : Option Bucket → Prop
  | none => True
  | some b => b.updatedAt ≤ now

theorem writtenBy_mono {now later : ℚ} (le : now ≤ later) {bucket : Option Bucket}
    (written : WrittenBy now bucket) : WrittenBy later bucket := by
  cases bucket with
  | none => trivial
  | some b => exact le_trans written le

theorem refill_missing (now : ℚ) : refill none capacity refillPerSecond now = capacity := by
  simp [refill]

theorem refill_stored {b : Bucket} {now : ℚ} (le : b.updatedAt ≤ now) :
    refill (some b) capacity refillPerSecond now =
      min capacity (b.tokens + (now - b.updatedAt) * refillPerSecond) := by
  unfold refill
  dsimp only
  rw [max_eq_right (sub_nonneg.mpr le)]

theorem refill_refill (hr : 0 ≤ refillPerSecond) {bucket : Option Bucket} {now later : ℚ}
    (written : WrittenBy now bucket) (le : now ≤ later) :
    refill (some ⟨refill bucket capacity refillPerSecond now, now⟩) capacity refillPerSecond later =
      refill bucket capacity refillPerSecond later := by
  have flow : 0 ≤ (later - now) * refillPerSecond := mul_nonneg (sub_nonneg.mpr le) hr
  rw [refill_stored le]
  cases bucket with
  | none =>
    rw [refill_missing, refill_missing]
    exact min_eq_left (by linarith)
  | some b =>
    rw [refill_stored written, refill_stored (le_trans written le), min_add, ← min_assoc,
      min_eq_left (by linarith : capacity ≤ capacity + (later - now) * refillPerSecond)]
    congr 1
    ring

theorem denied_stored {bucket : Option Bucket} {args : BucketArgs} {now : ℚ}
    (denied : (tokenBucketLua bucket args now).1.allowed = false) :
    (tokenBucketLua bucket args now).2 = ⟨refill bucket args.capacity args.refillPerSecond now, now⟩ := by
  unfold tokenBucketLua at denied ⊢
  dsimp only at denied ⊢
  split at denied
  · cases denied
  · rename_i short
    rw [if_neg short]

theorem tokenBucketLua_congr {bucket bucket' : Option Bucket} {args : BucketArgs} {now : ℚ}
    (same : refill bucket args.capacity args.refillPerSecond now =
      refill bucket' args.capacity args.refillPerSecond now) :
    tokenBucketLua bucket args now = tokenBucketLua bucket' args now := by
  unfold tokenBucketLua
  rw [same]

theorem keepOnly_bucketRuns (hr : 0 ≤ refillPerSecond) (calls : List (ℚ × ℚ)) (mask : List Bool)
    (bucket bucket' : Option Bucket) (since : ℚ) (sorted : calls.Pairwise fun a b => a.2 ≤ b.2)
    (later : ∀ call ∈ calls, since ≤ call.2) (written : WrittenBy since bucket)
    (same : ∀ now, since ≤ now →
      refill bucket capacity refillPerSecond now = refill bucket' capacity refillPerSecond now)
    (denied : ∀ run ∈ keepOnly (mask.map not) (bucketRuns capacity refillPerSecond bucket calls),
      run.result.allowed = false) :
    bucketRuns capacity refillPerSecond bucket' (keepOnly mask calls) =
      keepOnly mask (bucketRuns capacity refillPerSecond bucket calls) := by
  induction calls generalizing mask bucket bucket' since with
  | nil => simp only [keepOnly_nil, bucketRuns]
  | cons call calls ih =>
    obtain ⟨requested, now⟩ := call
    obtain ⟨first, rest⟩ := List.pairwise_cons.mp sorted
    have le : since ≤ now := later _ (.head _)
    cases mask with
    | nil => rfl
    | cons keep mask =>
      cases keep with
      | true =>
        have reply := @tokenBucketLua_congr _ _ ⟨capacity, refillPerSecond, requested⟩ now (same now le)
        simp only [keepOnly, bucketRuns, ← reply]
        congr 1
        refine ih mask _ _ now rest first ?_ (fun _ _ => rfl) denied
        exact le_of_eq (tokenBucketLua_cases bucket ⟨capacity, refillPerSecond, requested⟩ now).1
      | false =>
        have stored := denied_stored (denied _ (.head _))
        simp only [keepOnly, bucketRuns]
        refine ih mask _ _ now rest first ?_ ?_ fun run mem => denied run (.tail _ mem)
        · exact le_of_eq (tokenBucketLua_cases bucket ⟨capacity, refillPerSecond, requested⟩ now).1
        · intro moment le'
          rw [stored, refill_refill hr (writtenBy_mono le written) le']
          exact same moment (le_trans le le')

/-- Deleting denied runs from a sequence leaves the other runs as they were. -/
theorem denied_runs_invisible (hr : 0 ≤ refillPerSecond) (bucket : Option Bucket)
    (calls : List (ℚ × ℚ)) (mask : List Bool) (sorted : calls.Pairwise fun a b => a.2 ≤ b.2)
    (written : ∀ call ∈ calls, WrittenBy call.2 bucket)
    (denied : ∀ run ∈ keepOnly (mask.map not) (bucketRuns capacity refillPerSecond bucket calls),
      run.result.allowed = false) :
    bucketRuns capacity refillPerSecond bucket (keepOnly mask calls) =
      keepOnly mask (bucketRuns capacity refillPerSecond bucket calls) := by
  cases calls with
  | nil => simp only [keepOnly_nil, bucketRuns]
  | cons call calls =>
    refine keepOnly_bucketRuns hr _ mask bucket bucket call.2 sorted ?_ (written _ (.head _))
      (fun _ _ => rfl) denied
    intro other mem
    rcases List.mem_cons.mp mem with rfl | mem
    · exact le_refl _
    · exact (List.pairwise_cons.mp sorted).1 other mem

theorem denied_runs_invisible_drained :
    let calls : List (ℚ × ℚ) := [(3, 10), (2, 11), (3, 11), (2, 12)]
    let runs := bucketRuns 3 1 none calls
    (keepOnly [false, true, true, false] runs).map (·.result.allowed) = [false, false] ∧
      bucketRuns 3 1 none [(3, 10), (2, 12)] = keepOnly [true, false, false, true] runs := by
  intro calls runs
  have denied : (keepOnly [false, true, true, false] runs).map (·.result.allowed) = [false, false] := by
    decide +kernel
  refine ⟨denied, ?_⟩
  refine denied_runs_invisible (by norm_num) none calls [true, false, false, true] ?_ (by simp [WrittenBy]) ?_
  · norm_num [calls]
  · intro run mem
    have value := List.mem_map_of_mem (f := (·.result.allowed)) mem
    change run.result.allowed ∈ (keepOnly [false, true, true, false] runs).map (·.result.allowed) at value
    rw [denied] at value
    simpa using value

end Denied

section Expiry

/-- One call of `check_token_bucket`, with the capacity that the tenant has at that time. -/
structure BucketCall where
  capacity : ℚ
  cost : ℚ
  now : ℚ

/-- `enforce_request_limits` refills a bucket within a minute. -/
def BucketCall.command (key : String) (call : BucketCall) : RedisCommand :=
  .tokenBucketScript key ⟨call.capacity, call.capacity / 60, call.cost⟩

/-- A server: the time, what is stored at the command's key, and the command. -/
abbrev Server := ℚ → Option Entry → (cmd : RedisCommand) → Except Exn (RedisRet cmd) × Option Entry

def bucketReplies (server : Server) (key : String) :
    Option Entry → List BucketCall → List (Except Exn LimitResult)
  | _, [] => []
  | entry, call :: calls =>
    let reply := server call.now entry (call.command key)
    reply.1 :: bucketReplies server key reply.2 calls

/-- What the calls up to this time can have left at the key. -/
def LeftBy (now : ℚ) : Option Entry → Prop
  | none => True
  | some entry => ∃ b : Bucket, entry = ⟨.bucket b, some (b.updatedAt + bucketKeyTtlSeconds)⟩ ∧
      0 ≤ b.tokens ∧ b.updatedAt ≤ now

theorem leftBy_mono {now later : ℚ} (le : now ≤ later) {entry : Option Entry} (left : LeftBy now entry) :
    LeftBy later entry := by
  cases entry with
  | none => trivial
  | some e =>
    obtain ⟨b, eq, nonneg, written⟩ := left
    exact ⟨b, eq, nonneg, le_trans written le⟩

theorem refill_idle {b : Bucket} {capacity now : ℚ} (hc : 0 ≤ capacity) (nonneg : 0 ≤ b.tokens)
    (idle : b.updatedAt + bucketKeyTtlSeconds ≤ now) :
    refill (some b) capacity (capacity / 60) now = capacity := by
  have hour : 3600 ≤ now - b.updatedAt := by
    unfold bucketKeyTtlSeconds at idle
    linarith
  have flow : 3600 * (capacity / 60) ≤ (now - b.updatedAt) * (capacity / 60) :=
    mul_le_mul_of_nonneg_right hour (by positivity)
  rw [refill_stored (by linarith)]
  exact min_eq_left (by linarith)

theorem runTokenBucket_left {args : BucketArgs} {now : ℚ} {bucket : Option Bucket}
    (hc : 0 ≤ args.capacity) (hr : 0 ≤ args.refillPerSecond) (hq : 0 ≤ args.requested)
    (noDebt : NoDebt bucket) : LeftBy now (runTokenBucket args now bucket).2 := by
  have stored := (tokenBucketLua_cases bucket args now).1
  refine ⟨(tokenBucketLua bucket args now).2, ?_, ?_, le_of_eq stored⟩
  · rw [stored]
  · exact (tokenBucketLua_bounds hc hr bucket args.requested now hq noDebt).1

theorem run_eq_runLive {call : BucketCall} {key : String} {entry : Option Entry}
    (hc : 0 ≤ call.capacity) (hq : 0 ≤ call.cost) (left : LeftBy call.now entry) :
    run call.now entry (call.command key) = runLive call.now entry (call.command key) ∧
      LeftBy call.now (runLive call.now entry (call.command key)).2 := by
  have hr : 0 ≤ call.capacity / 60 := by positivity
  cases entry with
  | none => exact ⟨rfl, runTokenBucket_left hc hr hq trivial⟩
  | some e =>
    obtain ⟨b, rfl, nonneg, written⟩ := left
    refine ⟨?_, runTokenBucket_left hc hr hq nonneg⟩
    by_cases idle : b.updatedAt + bucketKeyTtlSeconds ≤ call.now
    · have gone : (some (⟨.bucket b, some (b.updatedAt + bucketKeyTtlSeconds)⟩ : Entry)).filter
          (Entry.live call.now) = none := by
        simp [Entry.live, Option.filter, not_lt.mpr idle]
      have same : tokenBucketLua none ⟨call.capacity, call.capacity / 60, call.cost⟩ call.now =
          tokenBucketLua (some b) ⟨call.capacity, call.capacity / 60, call.cost⟩ call.now := by
        apply tokenBucketLua_congr
        rw [refill_missing, refill_idle hc nonneg idle]
      rw [run, gone]
      change runTokenBucket _ call.now none = runTokenBucket _ call.now (some b)
      unfold runTokenBucket
      rw [same]
    · have kept : (some (⟨.bucket b, some (b.updatedAt + bucketKeyTtlSeconds)⟩ : Entry)).filter
          (Entry.live call.now) = some ⟨.bucket b, some (b.updatedAt + bucketKeyTtlSeconds)⟩ := by
        simp [Entry.live, Option.filter, not_le.mp idle]
      rw [run, kept]

theorem bucketReplies_eq (key : String) (calls : List BucketCall) (entry : Option Entry) (since : ℚ)
    (args : ∀ call ∈ calls, 0 ≤ call.capacity ∧ 0 ≤ call.cost)
    (sorted : calls.Pairwise fun a b => a.now ≤ b.now) (later : ∀ call ∈ calls, since ≤ call.now)
    (left : LeftBy since entry) :
    bucketReplies run key entry calls = bucketReplies runLive key entry calls := by
  induction calls generalizing entry since with
  | nil => rfl
  | cons call calls ih =>
    obtain ⟨first, rest⟩ := List.pairwise_cons.mp sorted
    obtain ⟨hc, hq⟩ := args call (.head _)
    obtain ⟨same, left'⟩ := @run_eq_runLive call key entry hc hq (leftBy_mono (later _ (.head _)) left)
    simp only [bucketReplies, same]
    congr 1
    exact ih _ call.now (fun c mem => args c (.tail _ mem)) rest first left'

/-- The calls are answered alike whether the key expires after an idle hour or is kept forever. -/
theorem bucket_expiry_unobservable (key : String) (calls : List BucketCall)
    (args : ∀ call ∈ calls, 0 ≤ call.capacity ∧ 0 ≤ call.cost)
    (sorted : calls.Pairwise fun a b => a.now ≤ b.now) :
    bucketReplies run key none calls = bucketReplies runLive key none calls := by
  cases calls with
  | nil => rfl
  | cons call calls =>
    refine bucketReplies_eq key _ none call.now args sorted ?_ trivial
    intro other mem
    rcases List.mem_cons.mp mem with rfl | mem
    · exact le_refl _
    · exact (List.pairwise_cons.mp sorted).1 other mem

theorem bucket_expiry_unobservable_doubled :
    let calls : List BucketCall := [⟨60, 50, 0⟩, ⟨120, 120, 3600⟩, ⟨120, 1, 3600⟩]
    (bucketReplies run "ratelimit:rpm" none calls).map Except.toOption =
        [some ⟨true, 10⟩, some ⟨true, 0⟩, some ⟨false, 0⟩] ∧
      bucketReplies run "ratelimit:rpm" none calls = bucketReplies runLive "ratelimit:rpm" none calls := by
  intro calls
  refine ⟨by decide +kernel, ?_⟩
  exact bucket_expiry_unobservable "ratelimit:rpm" calls (by norm_num [calls]) (by norm_num [calls])

end Expiry
end AegisGateway.BucketHistories
