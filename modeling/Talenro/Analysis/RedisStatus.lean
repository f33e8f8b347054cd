import Mathlib.Tactic
import Talenro.Model.Readiness

/-!
# The recorded status of Redis is a function of the last outcomes

After any outcomes the counter of failures holds how many of the last outcomes in a row were
failures, as a machine integer, and the counter of successes holds how many were successes unless
Redis is up.  The status follows from these two lengths.  It is the intended one exactly as long as
the counter of failures does not leave the range in which it can be compared with the threshold.
-/

set_option autoImplicit false

namespace Talenro.Analysis

open Readiness

/-! ## The last outcomes -/

/-- How many of the last outcomes in a row are `outcome`. -/
def trailing (outcome : Bool) (outcomes : List Bool) : ℕ :=
  (outcomes.rtakeWhile (· == outcome)).length

theorem trailing_concat (outcome last : Bool) (outcomes : List Bool) :
    trailing outcome (outcomes ++ [last]) =
      if last = outcome then trailing outcome outcomes + 1 else 0 := by
  unfold trailing
  rw [List.rtakeWhile_concat]
  by_cases h : last = outcome
  · simp [h]
  · simp [h]

theorem trailing_replicate (outcome : Bool) (n : ℕ) :
    trailing outcome (List.replicate n outcome) = n := by
  induction n with
  | zero => rfl
  | succ n ih => rw [List.replicate_succ', trailing_concat, if_pos rfl, ih]

/-- Redis has recovered from every failure, or there was none. -/
def Recovered (policy : Policy) (outcomes : List Bool) : Prop :=
  false ∉ outcomes ∨ policy.redisRecoverAfterSuccesses.toInt ≤ trailing true outcomes

/-- The status that the outcomes are meant to have. -/
structure Described (policy : Policy) (outcomes : List Bool) (status : Option Status) : Prop where
  down : status = some .down ↔
    policy.redisDownAfterFailures.toInt ≤ trailing false outcomes
  up : status = some .up ↔ Recovered policy outcomes
  degraded : status = some .degraded ↔
    ¬ policy.redisDownAfterFailures.toInt ≤ trailing false outcomes ∧ ¬ Recovered policy outcomes

/-- A run of failures that is long enough is also counted as long enough. -/
def Counted (policy : Policy) (outcomes : List Bool) : Prop :=
  policy.redisDownAfterFailures.toInt ≤ trailing false outcomes →
    policy.redisDownAfterFailures ≤ Int64.ofNat (trailing false outcomes)

/-! ## Machine integers -/

theorem le_ofNat_iff {x : Int64} {n : ℕ} (h : n < 2 ^ 63) : x ≤ Int64.ofNat n ↔ x.toInt ≤ n := by
  rw [Int64.le_iff_toInt_le, Int64.toInt_ofNat_of_lt h]

/-- A length that wraps around only gets smaller. -/
theorem toInt_le_of_le_ofNat {x : Int64} {n : ℕ} (h : x ≤ Int64.ofNat n) : x.toInt ≤ n := by
  rw [Int64.le_iff_toInt_le, Int64.toInt_ofNat', Int.bmod_def] at h
  simp only [Int64.size] at h
  split at h
  · omega
  · omega

/-- The thresholds of a valid policy are small. -/
theorem validPolicy_redis {policy : Policy} (h : validPolicy policy = true) :
    1 ≤ policy.redisDownAfterFailures.toInt ∧ 1 ≤ policy.redisRecoverAfterSuccesses.toInt ∧
      policy.redisRecoverAfterSuccesses.toInt ≤ 10 := by
  simp only [validPolicy, Bool.and_eq_true, decide_eq_true_eq, Int64.le_iff_toInt_le] at h
  obtain ⟨⟨⟨⟨⟨⟨⟨⟨⟨⟨⟨hdown, -⟩, hlow⟩, hhigh⟩, -⟩, -⟩, -⟩, -⟩, -⟩, -⟩, -⟩, -⟩ := h
  exact ⟨hdown, hlow, hhigh⟩

/-! ## One outcome, and all of them -/

section Run

variable {policy : Policy} {outcomes : List Bool} {state : RedisState}

/-- What the two counters and the status say about the outcomes. -/
structure Tracks (policy : Policy) (outcomes : List Bool) (state : RedisState) : Prop where
  failures : state.failures = Int64.ofNat (trailing false outcomes)
  successes : ¬ Recovered policy outcomes →
    state.successes = Int64.ofNat (trailing true outcomes)
  up : state.status.getD .up = .up ↔ Recovered policy outcomes
  down : state.status.getD .up = .down ↔ policy.redisDownAfterFailures ≤ state.failures

theorem not_recovered_failure (hpolicy : validPolicy policy = true) :
    ¬ Recovered policy (outcomes ++ [false]) := by
  obtain ⟨-, hlow, -⟩ := validPolicy_redis hpolicy
  simp [Recovered, trailing_concat]
  omega

theorem recovered_success : Recovered policy (outcomes ++ [true]) ↔
    Recovered policy outcomes ∨
      policy.redisRecoverAfterSuccesses.toInt ≤ (trailing true outcomes + 1 : ℕ) := by
  unfold Recovered
  rw [trailing_concat, if_pos rfl, List.mem_append, or_assoc]
  refine or_congr (by simp) ⟨.inr, fun h => ?_⟩
  omega

/-- A recorded outcome keeps the counters and the status in step with the outcomes. -/
theorem Tracks.record (h : Tracks policy outcomes state) (hpolicy : validPolicy policy = true)
    (success : Bool) :
    Tracks policy (outcomes ++ [success]) (state.record success policy).2 := by
  obtain ⟨hdown, hlow, hhigh⟩ := validPolicy_redis hpolicy
  unfold RedisState.record
  cases success with
  | false =>
    have hcounter : state.failures + 1 = Int64.ofNat (trailing false (outcomes ++ [false])) := by
      rw [h.failures, trailing_concat, if_pos rfl, Int64.ofNat_add]
      rfl
    refine ⟨hcounter, fun _ => ?_, iff_of_false ?_ (not_recovered_failure hpolicy), ?_⟩
    · simp [trailing_concat]
    · by_cases hlong : policy.redisDownAfterFailures ≤ state.failures + 1 <;> simp [hlong]
    · by_cases hlong : policy.redisDownAfterFailures ≤ state.failures + 1 <;> simp [hlong]
  | true =>
    have hzero : 0 = Int64.ofNat (trailing false (outcomes ++ [true])) := by
      rw [trailing_concat]
      rfl
    have hfew : ¬ policy.redisDownAfterFailures ≤ 0 := by
      rw [Int64.le_iff_toInt_le, Int64.toInt_zero]
      omega
    rw [if_neg (by simp)]
    by_cases hup : state.status.getD .up = .up
    · have hrecovered := recovered_success.2 (.inl (h.up.1 hup))
      rw [if_pos hup]
      exact ⟨hzero, fun hnot => absurd hrecovered hnot, iff_of_true rfl hrecovered,
        iff_of_false (by simp) hfew⟩
    · have hnot : ¬ Recovered policy outcomes := fun hrecovered => hup (h.up.2 hrecovered)
      -- the last successes are fewer than the threshold, so their counter is exact
      have hexact : trailing true outcomes + 1 < 2 ^ 63 := by
        have := (not_or.1 hnot).2
        omega
      have hcounter : state.successes + 1 = Int64.ofNat (trailing true outcomes + 1) := by
        rw [h.successes hnot, Int64.ofNat_add]
        rfl
      have hrecovered : Recovered policy (outcomes ++ [true]) ↔
          policy.redisRecoverAfterSuccesses ≤ state.successes + 1 := by
        rw [recovered_success, hcounter, le_ofNat_iff hexact, or_iff_right hnot]
      rw [if_neg hup]
      by_cases henough : policy.redisRecoverAfterSuccesses ≤ state.successes + 1
      · rw [if_pos henough]
        exact ⟨hzero, fun hnot => absurd (hrecovered.2 henough) hnot,
          iff_of_true rfl (hrecovered.2 henough), iff_of_false (by simp) hfew⟩
      · rw [if_neg henough]
        refine ⟨hzero, fun _ => ?_, iff_of_false (by simp) (hrecovered.not.2 henough),
          iff_of_false (by simp) hfew⟩
        rw [trailing_concat, if_pos rfl, ← hcounter]

/-- After any outcomes the state is in step with them. -/
theorem tracks_recorded (hpolicy : validPolicy policy = true) (outcomes : List Bool) :
    Tracks policy outcomes (recorded policy outcomes) := by
  induction outcomes using List.reverseRecOn with
  | nil =>
    refine ⟨rfl, fun _ => rfl, iff_of_true rfl (.inl (by simp)), iff_of_false (by simp [recorded]) ?_⟩
    obtain ⟨hdown, -, -⟩ := validPolicy_redis hpolicy
    simp only [recorded, List.foldl_nil, Int64.le_iff_toInt_le, Int64.toInt_zero]
    omega
  | append_singleton outcomes success ih =>
    rw [recorded, List.foldl_concat]
    exact ih.record hpolicy success

/-- A state that was recorded to has a status, the one that was returned. -/
theorem status_record (state : RedisState) (success : Bool) (policy : Policy) :
    (state.record success policy).2.status = some (state.record success policy).1 := by
  simp only [RedisState.record]
  split
  · rfl
  · split
    · rfl
    · split
      · rfl
      · rfl

theorem exists_status_recorded (policy : Policy) (hne : outcomes ≠ []) :
    ∃ status, (recorded policy outcomes).status = some status := by
  rw [← List.dropLast_append_getLast hne, recorded, List.foldl_concat]
  exact ⟨_, status_record _ _ _⟩

end Run

/-! ## The status -/

/-- Fewer than `2 ^ 63` failures in a row are always counted. -/
theorem counted_of_lt {policy : Policy} {outcomes : List Bool}
    (h : trailing false outcomes < 2 ^ 63) : Counted policy outcomes := (le_ofNat_iff h).2

/-- Failures alone are reported as down exactly if their number is counted as large enough. -/
theorem status_failures {policy : Policy} (hpolicy : validPolicy policy = true) {n : ℕ}
    (hn : 0 < n) : (recorded policy (List.replicate n false)).status =
      some (if policy.redisDownAfterFailures ≤ Int64.ofNat n then .down else .degraded) := by
  obtain ⟨n, rfl⟩ := Nat.exists_eq_add_one.2 hn
  rw [List.replicate_succ', recorded, List.foldl_concat]
  change some (if _ ≤ (recorded policy (List.replicate n false)).failures + 1 then _ else _) = _
  rw [(tracks_recorded hpolicy _).failures, trailing_replicate, Int64.ofNat_add]
  rfl

end Talenro.Analysis
