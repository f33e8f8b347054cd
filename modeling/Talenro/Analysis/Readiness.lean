import Talenro.Model.Authority.Readiness

/-!
# The reason reported for pending fences

The loop over the fences keeps the most urgent of the problems it counts: an error of the
provider, an error of the resolver, or a state that does not match a well-formed row.  So the
reason does not depend on the order of the fences.  A row that is malformed is meant to be a
mismatch too, but the loop passes over it without counting it when both answers are there.
The reason is the most urgent problem exactly when all rows are well formed or another
problem is evident (`pending_reason_highest_iff`).
-/

set_option autoImplicit false

namespace Talenro.Authority

open Lib

/-! ## The fold over reasons -/

/-- The reason is one of the problems, or the start, and none of them is more urgent. -/
structure Highest (start reason : ReadinessReason) (problems : List ReadinessReason) : Prop where
  mem : reason ∈ start :: problems
  above : ∀ problem ∈ start :: problems, problem.priority ≤ reason.priority

theorem highest_foldl (start : ReadinessReason) (problems : List ReadinessReason) :
    Highest start (problems.foldl readinessReasonWithPriority start) problems := by
  induction problems generalizing start with
  | nil => exact ⟨List.mem_cons_self .., by simp⟩
  | cons problem problems ih =>
    obtain ⟨hmem, habove⟩ := ih (readinessReasonWithPriority start problem)
    rw [List.foldl_cons]
    -- The start of the rest is the more urgent of the two, and one of them.
    have hfirst := habove _ (List.mem_cons_self ..)
    have hboth : start.priority ≤ (readinessReasonWithPriority start problem).priority ∧
        problem.priority ≤ (readinessReasonWithPriority start problem).priority ∧
        (readinessReasonWithPriority start problem = start ∨
          readinessReasonWithPriority start problem = problem) := by
      unfold readinessReasonWithPriority
      split
      · next hgt => exact ⟨Nat.le_of_lt hgt, Nat.le_refl _, Or.inr rfl⟩
      · next hle => exact ⟨Nat.le_refl _, Nat.le_of_not_gt hle, Or.inl rfl⟩
    refine ⟨?_, ?_⟩
    · rcases List.mem_cons.mp hmem with heq | hmem
      · rcases hboth.2.2 with h | h
        · rw [heq, h]
          exact List.mem_cons_self ..
        · rw [heq, h]
          exact List.mem_cons_of_mem _ (List.mem_cons_self ..)
      · exact List.mem_cons_of_mem _ (List.mem_cons_of_mem _ hmem)
    · intro other hother
      rcases List.mem_cons.mp hother with rfl | hother
      · exact hboth.1.trans hfirst
      · rcases List.mem_cons.mp hother with rfl | hother
        · exact hboth.2.1.trans hfirst
        · exact habove other (List.mem_cons_of_mem _ hother)

/-- Reasons of one priority are the same, unless they have none. -/
theorem eq_of_priority {a b : ReadinessReason} (ha : 0 < a.priority)
    (h : a.priority = b.priority) : a = b := by
  cases a <;> cases b <;> simp [ReadinessReason.priority] at ha h ⊢

/-- There is one most urgent problem, in whatever order they come. -/
theorem Highest.unique {start a b : ReadinessReason} {problems problems' : List ReadinessReason}
    (hstart : 0 < start.priority) (ha : Highest start a problems) (hb : Highest start b problems')
    (hsame : ∀ problem, problem ∈ problems ↔ problem ∈ problems') : a = b := by
  have hle : a.priority ≤ b.priority := by
    refine hb.above a ?_
    rcases List.mem_cons.mp ha.mem with rfl | h
    · exact List.mem_cons_self ..
    · exact List.mem_cons_of_mem _ ((hsame a).mp h)
  have hge : b.priority ≤ a.priority := by
    refine ha.above b ?_
    rcases List.mem_cons.mp hb.mem with rfl | h
    · exact List.mem_cons_self ..
    · exact List.mem_cons_of_mem _ ((hsame b).mpr h)
  have hpos : 0 < a.priority := Nat.lt_of_lt_of_le hstart (ha.above start (List.mem_cons_self ..))
  exact eq_of_priority hpos (Nat.le_antisymm hle hge)

/-! ## The problems of a fence -/

section Problems

variable (P : Platform) (epoch : ℕ)

/-- The provider and the resolver have answered, and what they answered does not match the row. -/
def Mismatched (fence : PendingFence) (answers : Inspection) : Prop :=
  ∃ record resolved, answers.provider = .ok record ∧ answers.resolver = .ok resolved ∧
    (resolved.validate P = false ∨ pendingStateMatches P fence record resolved = false)

/-- The problems that the answers about a fence show. -/
def answerProblems (fence : PendingFence) (answers : Inspection) : List ReadinessReason :=
  (match answers.provider with
    | .error e => [providerReason e]
    | .ok _ => []) ++
  (match answers.resolver with
    | .error _ => [.effectUnavailable]
    | .ok _ => []) ++
  match validPendingFence P fence epoch, answers.provider, answers.resolver with
  | true, .ok record, .ok resolved =>
    if resolved.validate P = false ∨ pendingStateMatches P fence record resolved = false then
      [.pendingMismatch]
    else []
  | _, _, _ => []

/-- All problems of a fence: a row that is malformed or of another epoch is a mismatch. -/
def fenceProblems (fence : PendingFence) (answers : Inspection) : List ReadinessReason :=
  (if validPendingFence P fence epoch then [] else [.pendingMismatch]) ++
    answerProblems P epoch fence answers

/-- The answers about a fence show a problem. -/
def Evident (fence : PendingFence) (answers : Inspection) : Prop :=
  (∃ e, answers.provider = .error e) ∨ (∃ e, answers.resolver = .error e) ∨
    validPendingFence P fence epoch = true ∧ Mismatched P fence answers

variable {P epoch}

/-- One iteration counts the problems that the answers show. -/
theorem inspectFence_eq_foldl (reason : ReadinessReason) (fence : PendingFence)
    (answers : Inspection) : inspectFence P epoch reason fence answers =
      (answerProblems P epoch fence answers).foldl readinessReasonWithPriority reason := by
  unfold inspectFence answerProblems
  cases hrow : validPendingFence P fence epoch <;> cases hprovider : answers.provider <;>
    cases hresolver : answers.resolver <;> simp
  split <;> rfl

/-- Without cancellation the loop counts the problems of all fences. -/
theorem inspectLoop_eq_foldl {pending : List (PendingFence × Inspection)}
    (h : ∀ f ∈ pending, f.2.canceled = false) (reason : ReadinessReason) :
    inspectLoop P epoch reason pending =
      .ok ((pending.flatMap fun f => answerProblems P epoch f.1 f.2).foldl
        readinessReasonWithPriority reason) := by
  induction pending generalizing reason with
  | nil => rfl
  | cons f pending ih =>
    obtain ⟨fence, answers⟩ := f
    have hfirst : answers.canceled = false := h _ (List.mem_cons_self ..)
    rw [inspectLoop, hfirst, if_neg Bool.false_ne_true,
      ih fun u hu => h u (List.mem_cons_of_mem _ hu), inspectFence_eq_foldl, List.flatMap_cons,
      List.foldl_append]

theorem providerReason_priority (e : Error) : 2 ≤ (providerReason e).priority := by
  unfold providerReason
  split <;> decide

/-- What the answers show is at least a mismatch. -/
theorem answerProblems_priority {fence : PendingFence} {answers : Inspection} :
    ∀ problem ∈ answerProblems P epoch fence answers, 2 ≤ problem.priority := by
  intro problem hproblem
  rw [answerProblems, List.mem_append, List.mem_append] at hproblem
  rcases hproblem with (h | h) | h
  · split at h
    · rw [List.mem_singleton.mp h]
      exact providerReason_priority _
    · cases h
  · split at h
    · rw [List.mem_singleton.mp h]
      decide
    · cases h
  · split at h
    · split at h
      · rw [List.mem_singleton.mp h]
        decide
      · cases h
    · cases h

theorem answerProblems_ne_nil_iff {fence : PendingFence} {answers : Inspection} :
    (∃ problem, problem ∈ answerProblems P epoch fence answers) ↔
      Evident P epoch fence answers := by
  unfold answerProblems Evident Mismatched
  cases hrow : validPendingFence P fence epoch <;> cases hprovider : answers.provider <;>
    cases hresolver : answers.resolver <;> simp

end Problems

/-! ## The reason -/

/-- **The reason for pending fences.**  Whatever is answered, without cancellation, the loop
returns one reason for all orders of the fences.  It is the most urgent of their problems
exactly when every row is well formed and of the epoch, or the answers about some fence show
a problem. -/
theorem pending_reason_highest_iff (P : Platform) (epoch : ℕ)
    (pending : List (PendingFence × Inspection)) (hcancel : ∀ f ∈ pending, f.2.canceled = false) :
    ∃ reason, inspectPending P epoch pending = .ok reason ∧
      (Highest .pendingUnresolved reason
          (pending.flatMap fun f => fenceProblems P epoch f.1 f.2) ↔
        (∀ f ∈ pending, validPendingFence P f.1 epoch = true) ∨
          ∃ f ∈ pending, Evident P epoch f.1 f.2) ∧
      ∀ pending', pending'.Perm pending → inspectPending P epoch pending' = .ok reason := by
  have hcounted := highest_foldl .pendingUnresolved
    (pending.flatMap fun f => answerProblems P epoch f.1 f.2)
  refine ⟨_, inspectLoop_eq_foldl hcancel _, ⟨?_, ?_⟩, ?_⟩
  · intro hhighest
    by_contra hcondition
    obtain ⟨hrows, hquiet⟩ := not_or.mp hcondition
    -- A malformed row is a mismatch, so the reason is not the start of the loop.
    obtain ⟨f, hf, hrow⟩ : ∃ f ∈ pending, ¬ validPendingFence P f.1 epoch = true := by
      simpa using hrows
    have hmismatch : ReadinessReason.pendingMismatch ∈
        pending.flatMap fun f => fenceProblems P epoch f.1 f.2 :=
      List.mem_flatMap.mpr ⟨f, hf, by simp [fenceProblems, hrow]⟩
    have htwo := hhighest.above _ (List.mem_cons_of_mem _ hmismatch)
    rcases List.mem_cons.mp hcounted.mem with hstart | hmem
    · rw [hstart] at htwo
      exact absurd htwo (by decide)
    · obtain ⟨g, hg, hproblem⟩ := List.mem_flatMap.mp hmem
      exact hquiet ⟨g, hg, answerProblems_ne_nil_iff.mp ⟨_, hproblem⟩⟩
  · intro hcondition
    refine ⟨?_, ?_⟩
    · rcases List.mem_cons.mp hcounted.mem with hstart | hmem
      · rw [hstart]
        exact List.mem_cons_self ..
      · obtain ⟨f, hf, hproblem⟩ := List.mem_flatMap.mp hmem
        exact List.mem_cons_of_mem _ (List.mem_flatMap.mpr ⟨f, hf,
          List.mem_append_right _ hproblem⟩)
    · intro problem hproblem
      rcases List.mem_cons.mp hproblem with rfl | hproblem
      · exact hcounted.above _ (List.mem_cons_self ..)
      obtain ⟨f, hf, hproblem⟩ := List.mem_flatMap.mp hproblem
      rcases List.mem_append.mp hproblem with hrow | hanswer
      · -- A row that counts as a mismatch: another problem is evident, so the reason is no less.
        split at hrow
        · cases hrow
        · next hmalformed =>
          rw [List.mem_singleton.mp hrow]
          obtain ⟨g, hg, hevident⟩ := hcondition.resolve_left fun hrows => hmalformed (hrows f hf)
          obtain ⟨other, hother⟩ := answerProblems_ne_nil_iff.mpr hevident
          have hle := hcounted.above other
            (List.mem_cons_of_mem _ (List.mem_flatMap.mpr ⟨g, hg, hother⟩))
          exact (answerProblems_priority other hother).trans hle
      · exact hcounted.above _ (List.mem_cons_of_mem _ (List.mem_flatMap.mpr ⟨f, hf, hanswer⟩))
  · intro pending' hperm
    have hcancel' : ∀ f ∈ pending', f.2.canceled = false :=
      fun f hf => hcancel f (hperm.mem_iff.mp hf)
    have hcounted' := highest_foldl .pendingUnresolved
      (pending'.flatMap fun f => answerProblems P epoch f.1 f.2)
    rw [inspectPending, inspectLoop_eq_foldl hcancel']
    refine congrArg _ (hcounted'.unique (by decide) hcounted fun problem => ?_)
    exact (hperm.flatMap_right _).mem_iff

/-- A platform without functions of its own. -/
def emptyPlatform : Platform := ⟨fun _ => none, fun _ => [], fun _ => Digest.zero⟩

/-- A fence of the second epoch. -/
def laterFence : PendingFence where
  reservation := ⟨UUID.zero, .grantCreate, .node, Digest.zero, 2, 1, Digest.zero⟩
  boundEffectDigest := none
  boundDatabasePoint := none
  reservedAt := ⟨1, true⟩
  effectBoundAt := none

/-- Answers without an error: the fence is reserved and there is no effect. -/
def healthyAnswers : Inspection where
  contextEnded := false
  provider := .ok ⟨laterFence.reservation, none, none, none⟩
  resolver := .ok ⟨none, none, Digest.zero, Digest.zero, .absent⟩

/-- Answers of a provider that fails. -/
def failedAnswers : Inspection := { healthyAnswers with provider := .error .injectedFailure }

theorem failedProvider_reported :
    inspectPending emptyPlatform 1 [(laterFence, healthyAnswers), (laterFence, failedAnswers)] =
        .ok .providerUnavailable ∧
      Highest .pendingUnresolved .providerUnavailable
        ([(laterFence, healthyAnswers), (laterFence, failedAnswers)].flatMap fun f =>
          fenceProblems emptyPlatform 1 f.1 f.2) := by
  obtain ⟨reason, hreason, hhighest, -⟩ := pending_reason_highest_iff emptyPlatform 1
    [(laterFence, healthyAnswers), (laterFence, failedAnswers)] (by decide)
  have hvalue : inspectPending emptyPlatform 1
      [(laterFence, healthyAnswers), (laterFence, failedAnswers)] = .ok .providerUnavailable := by
    decide +kernel
  obtain rfl := Except.ok.inj (hreason.symm.trans hvalue)
  refine ⟨hvalue, hhighest.mpr (Or.inr ⟨(laterFence, failedAnswers), by simp, ?_⟩)⟩
  exact Or.inl ⟨.injectedFailure, rfl⟩

/-- The row of another epoch is passed over in silence. -/
theorem laterFence_unreported :
    inspectPending emptyPlatform 1 [(laterFence, healthyAnswers)] = .ok .pendingUnresolved ∧
      ¬ Highest .pendingUnresolved .pendingUnresolved
        ([(laterFence, healthyAnswers)].flatMap fun f => fenceProblems emptyPlatform 1 f.1 f.2) := by
  refine ⟨by decide +kernel, fun h => ?_⟩
  have hmismatch : ReadinessReason.pendingMismatch ∈
      [(laterFence, healthyAnswers)].flatMap fun f => fenceProblems emptyPlatform 1 f.1 f.2 := by
    decide +kernel
  exact absurd (h.above _ (List.mem_cons_of_mem _ hmismatch)) (by decide)

end Talenro.Authority
