import Talenro.Model.Outbox.Publisher

/-!
# A poll of a publisher, step by step

`PublishAvailable` is followed once here.  `Ready` says what a publisher has made sure of
when it performs an operation: a claim uses a reading of its clock; a row is marked only
when the broker has acknowledged the payload that came with the claim; a row is released
with a delay after that reading, and only while the publisher still has it in hand.

What a reading, a row in hand and an acknowledgement are worth depends on what one wants to
show.  `Polls` collects what is needed of them, and `safe_program` then says that every
poll is safe beside any other processes.
-/

set_option autoImplicit false

namespace Talenro.Outbox

open Lib Lib.Calendar Idempotency

/-! ## Delays -/

/-- The longest delay of a retry. -/
def longestDelay : ℤ := 36 * second

theorem retryBaseLoop_bounds (steps : ℕ) {delay : ℤ} (hpositive : 0 ≤ delay) :
    0 ≤ retryBaseLoop steps delay ∧ retryBaseLoop steps delay ≤ maximumRetryDelay := by
  have hmaximum : (0 : ℤ) ≤ maximumRetryDelay := by decide
  induction steps generalizing delay with
  | zero =>
    unfold retryBaseLoop
    split <;> omega
  | succ steps ih =>
    unfold retryBaseLoop
    split
    · exact ⟨hmaximum, le_refl _⟩
    · exact ih (by omega)

theorem retryBase_bounds (attempts : ℕ) :
    0 ≤ retryBase attempts ∧ retryBase attempts ≤ maximumRetryDelay :=
  retryBaseLoop_bounds _ (by decide)

theorem retryDelay_bounds (attempts : ℕ) (sample : Octets 8) :
    0 ≤ retryDelay attempts sample ∧ retryDelay attempts sample ≤ longestDelay := by
  obtain ⟨hlower, hupper⟩ := retryBase_bounds attempts
  have hmaximum : maximumRetryDelay = 30000000000 := rfl
  have hlongest : longestDelay = 36000000000 := rfl
  have hspan : 0 < retryBase attempts * 4 / 10 + 1 := by omega
  have hnonneg := Int.emod_nonneg (ofBigEndian sample.1 : ℤ) hspan.ne'
  have hlt := Int.emod_lt_of_pos (ofBigEndian sample.1 : ℤ) hspan
  unfold retryDelay
  dsimp only
  omega

/-! ## What a publisher makes sure of -/

section Polls

variable (C : Contracts) (Read : Instant → World → Prop) (Holds : Instant → UUID × OutboxRow → World → Prop)
  (Acked : UUID → Bytes → World → Prop)

/-- The operations a publisher or a producer performs, and what it knows then. -/
inductive Ready (s : World) : Op → Prop where
  | contextError : Ready s .contextError
  | now : Ready s .now
  | random (n : ℕ) : Ready s (.random n)
  | publishMsg (subject messageID data : Bytes) : Ready s (.publishMsg subject messageID data)
  | appendEvent (id : UUID) (event : NewEvent) : Ready s (.appendEvent id event)
  | claim {now : Instant} (hread : Read now s) :
      Ready s (.claimOutboxBatch now publisherClaimLimit (now + publisherLease))
  | mark {now : Instant} {claimed : UUID × OutboxRow} (hholds : Holds now claimed s)
      (hacked : Acked claimed.1 claimed.2.payload s) : Ready s (.markOutboxPublished claimed.1 now)
  | release {now : Instant} {claimed : UUID × OutboxRow} {delay : ℤ} (hholds : Holds now claimed s)
      (hlower : 0 ≤ delay) (hupper : delay ≤ longestDelay) :
      Ready s (.releaseOutboxClaim claimed.1 (now + delay))

/-- The rows an operation of a publisher is about. -/
def Op.Concerns : Op → UUID → Prop
  | .claimOutboxBatch _ _ _, _ => True
  | .markOutboxPublished id _, other => other = id
  | .releaseOutboxClaim id _, other => other = id
  | _, _ => False

/-- What is needed of the knowledge of a publisher: it makes its operations safe, it comes
from the answers to them, and nobody invalidates it; but a row that is settled is no
longer in hand. -/
structure Polls (execute : (o : Op) → World → Res o → World → Prop) (inv : World → Prop)
    (guar : Pid → Task → World → World → Prop) (pid : Pid) (task : Task) : Prop where
  step : ∀ {o s r t}, inv s → Ready Read Holds Acked s o → execute o s r t →
    inv t ∧ guar pid task s t
  read_rely : ∀ {now s t}, Rely guar pid s t → Read now s → Read now t
  holds_rely : ∀ {now claimed s t}, Rely guar pid s t → Holds now claimed s → Holds now claimed t
  acked_rely : ∀ {id payload s t}, Rely guar pid s t → Acked id payload s → Acked id payload t
  holds_step : ∀ {o now claimed s r t}, inv s → Ready Read Holds Acked s o → execute o s r t →
    ¬ o.Concerns claimed.1 → Holds now claimed s → Holds now claimed t
  read_now : ∀ {s r t}, execute .now s r t → Read r.instant t
  holds_claim : ∀ {now s rows t}, inv s → Read now s →
    execute (.claimOutboxBatch now publisherClaimLimit (now + publisherLease)) s (some rows) t →
    (rows.map Prod.fst).Nodup ∧ ∀ claimed ∈ rows, Holds now claimed t
  acked_publish : ∀ {subject id payload s ack t},
    execute (.publishMsg subject (C.uuidString id) payload) s (some ack) t →
    ack.stream = eventStreamName → ack.sequence ≠ 0 → Acked id payload t

end Polls

/-! ## The poll -/

section Poll

variable {C : Contracts} {Read : Instant → World → Prop}
  {Holds : Instant → UUID × OutboxRow → World → Prop} {Acked : UUID → Bytes → World → Prop}
  {execute : (o : Op) → World → Res o → World → Prop} {inv : World → Prop}
  {guar : Pid → Task → World → World → Prop} {pid : Pid} {task : Task} {s : World} {α : Type}

/-- The rows that are in hand, each of them once. -/
def InHand (Holds : Instant → UUID × OutboxRow → World → Prop) (now : Instant)
    (rows : List (UUID × OutboxRow)) (s : World) : Prop :=
  (rows.map Prod.fst).Nodup ∧ ∀ claimed ∈ rows, Holds now claimed s

/-- Safety of a part of a poll. -/
abbrev SafePoll (execute : (o : Op) → World → Res o → World → Prop) (inv : World → Prop)
    (guar : Pid → Task → World → World → Prop) (pid : Pid) (task : Task) (p : Prog Op Res α)
    (s : World) : Prop :=
  Safe execute inv guar pid task (fun _ _ => True) p s

theorem safePoll_pure {a : α} : SafePoll execute inv guar pid task (pure a) s := fun _ _ _ => trivial

variable {now : Instant} {rows : List (UUID × OutboxRow)}

/-- The rows after the first. -/
theorem InHand.tail {claimed : UUID × OutboxRow} (hs : InHand Holds now (claimed :: rows) s) :
    InHand Holds now rows s :=
  ⟨(List.nodup_cons.mp hs.1).2, fun other hother => hs.2 other (List.mem_cons_of_mem _ hother)⟩

theorem InHand.head_ne {claimed : UUID × OutboxRow} (hs : InHand Holds now (claimed :: rows) s) :
    ∀ other ∈ rows, other.1 ≠ claimed.1 := by
  intro other hother heq
  have hnot := (List.nodup_cons.mp hs.1).1
  rw [← heq] at hnot
  exact hnot (List.mem_map_of_mem hother)

theorem inHand_nil : InHand Holds now [] s :=
  ⟨List.nodup_nil, fun _ hclaimed => nomatch hclaimed⟩

variable (h : Polls C Read Holds Acked execute inv guar pid task)

include h

theorem InHand.rely {t : World} (hrely : Rely guar pid s t) (hs : InHand Holds now rows s) :
    InHand Holds now rows t :=
  ⟨hs.1, fun claimed hclaimed => h.holds_rely hrely (hs.2 claimed hclaimed)⟩

theorem InHand.step {t : World} {o : Op} {r : Res o} (hinv : inv s)
    (hready : Ready Read Holds Acked s o) (hexec : execute o s r t)
    (hother : ∀ claimed ∈ rows, ¬ o.Concerns claimed.1) (hs : InHand Holds now rows s) :
    InHand Holds now rows t :=
  ⟨hs.1, fun claimed hclaimed =>
    h.holds_step hinv hready hexec (hother claimed hclaimed) (hs.2 claimed hclaimed)⟩

/-- An operation that is about no row, in a poll that has rows in hand. -/
theorem safePoll_op {o : Op} {f : Res o → Prog Op Res α} (hs : InHand Holds now rows s)
    (hconcerns : ∀ id, ¬ o.Concerns id) (hready : ∀ t, Ready Read Holds Acked t o)
    (hnext : ∀ t r u, inv t → execute o t r u → InHand Holds now rows u →
      SafePoll execute inv guar pid task (f r) u) :
    SafePoll execute inv guar pid task (Prog.op o >>= f) s := by
  intro t hrely hinv r u hexec
  obtain ⟨hinv', hguar⟩ := h.step hinv (hready t) hexec
  refine ⟨hinv', hguar, hnext t r u hinv hexec ?_⟩
  exact (hs.rely h hrely).step h hinv (hready t) hexec fun _ _ => hconcerns _

theorem safePoll_publisherContextOr
    {fallback : PublisherError} {f : PublisherError → Prog Op Res α} (hs : InHand Holds now rows s)
    (hnext : ∀ t failure, InHand Holds now rows t → SafePoll execute inv guar pid task (f failure) t) :
    SafePoll execute inv guar pid task (publisherContextOr fallback >>= f) s :=
  safePoll_op h hs (fun _ hconcerned => hconcerned) (fun _ => .contextError) fun _ _ u _ _ hu => hnext u _ hu

/-- The operation that settles the first row in hand. -/
theorem safePoll_settle {o : Op} {f : Res o → Prog Op Res α} {claimed : UUID × OutboxRow}
    (hs : InHand Holds now (claimed :: rows) s) (hconcerns : ∀ id, o.Concerns id → id = claimed.1)
    (hready : ∀ t, Rely guar pid s t → Holds now claimed t → Ready Read Holds Acked t o)
    (hnext : ∀ r u, InHand Holds now rows u → SafePoll execute inv guar pid task (f r) u) :
    SafePoll execute inv guar pid task (Prog.op o >>= f) s := by
  intro t hrely hinv r u hexec
  have ht := hs.rely h hrely
  have hreadyt := hready t hrely (ht.2 claimed List.mem_cons_self)
  obtain ⟨hinv', hguar⟩ := h.step hinv hreadyt hexec
  refine ⟨hinv', hguar, hnext r u ?_⟩
  exact ht.tail.step h hinv hreadyt hexec fun other hother hconcerned =>
    ht.head_ne other hother (hconcerns _ hconcerned)

theorem safePoll_release {id : UUID} {row : OutboxRow} {f : Unit → Prog Op Res α}
    (hs : InHand Holds now ((id, row) :: rows) s)
    (hnext : ∀ t, InHand Holds now rows t → SafePoll execute inv guar pid task (f ()) t) :
    SafePoll execute inv guar pid task (release id row now >>= f) s := by
  refine safePoll_op h hs (fun _ hconcerned => hconcerned) (fun _ => .random 8) fun t sample u _ _ hu => ?_
  refine safePoll_settle h hu (fun _ hconcerned => hconcerned) (fun v _ hholds => ?_) fun _ w hw => hnext w hw
  cases sample with
  | none =>
    obtain ⟨hlower, hupper⟩ := retryBase_bounds row.attempts
    exact .release hholds hlower (hupper.trans (by decide))
  | some sample =>
    obtain ⟨hlower, hupper⟩ := retryDelay_bounds row.attempts sample
    exact .release hholds hlower hupper

/-- A payload that the publisher takes for acknowledged was acknowledged. -/
theorem safePoll_publish {subject payload : Bytes} {id : UUID} {f : Bool → Prog Op Res α}
    (hs : InHand Holds now rows s)
    (hnext : ∀ t acknowledged, InHand Holds now rows t → (acknowledged = true → Acked id payload t) →
      SafePoll execute inv guar pid task (f acknowledged) t) :
    SafePoll execute inv guar pid task (publish subject (C.uuidString id) payload >>= f) s := by
  unfold publish
  rw [Prog.bind_bind]
  refine safePoll_op h hs (fun _ hconcerned => hconcerned) (fun _ => .contextError) fun _ canceled t _ _ ht => ?_
  split
  · exact hnext t false ht fun hfalse => nomatch hfalse
  · rw [Prog.bind_bind]
    refine safePoll_op h ht (fun _ hconcerned => hconcerned) (fun _ => .publishMsg ..) fun _ ack u _ hexec hu => ?_
    refine hnext u _ hu ?_
    intro hacknowledged
    cases ack with
    | none => cases hacknowledged
    | some ack =>
      simp only [Option.any_some, Bool.and_eq_true, beq_iff_eq, bne_iff_ne] at hacknowledged
      exact h.acked_publish hexec hacknowledged.1 hacknowledged.2

/-- The loop over the claimed rows: each is settled by its own step. -/
theorem safePoll_publishRows {processed : ℕ} {batchErr : Option PublisherError}
    (hs : InHand Holds now rows s) :
    SafePoll execute inv guar pid task (publishRows C now rows processed batchErr) s := by
  induction rows generalizing s processed batchErr with
  | nil => exact safePoll_pure
  | cons claimed rows ih =>
    obtain ⟨id, row⟩ := claimed
    unfold publishRows
    split
    · exact safePoll_release h hs fun t ht => ih ht
    · refine safePoll_publish h hs fun t acknowledged ht hacked => ?_
      cases acknowledged with
      | true =>
        refine safePoll_settle h ht (fun _ hconcerned => hconcerned) (fun u hrely hholds => ?_) fun marked u hu => ?_
        · exact .mark hholds (h.acked_rely hrely (hacked rfl))
        · dsimp only [Prog.pure_eq, Prog.ret_bind]
          split
          · exact ih hu
          · exact safePoll_publisherContextOr h hu fun v _ hv => ih hv
      | false =>
        refine safePoll_release h ht fun u hu => ?_
        exact safePoll_publisherContextOr h hu fun v _ hv => ih hv

theorem safePoll_publishAvailable : SafePoll execute inv guar pid task (publishAvailable C) s := by
  have hnone : ∀ (t : World), InHand Holds 0 [] t := fun _ => inHand_nil
  refine safePoll_op h (hnone s) (fun _ hconcerned => hconcerned) (fun _ => .contextError) fun _ canceled t _ _ _ => ?_
  split
  · exact safePoll_pure
  refine safePoll_op h (hnone t) (fun _ hconcerned => hconcerned) (fun _ => .now) fun _ now u _ hnow _ => ?_
  split
  · exact safePoll_pure
  -- the claim uses the reading, which the others cannot change
  intro v hrely hinv claimed w hexec
  have hread := h.read_rely hrely (h.read_now hnow)
  obtain ⟨hinv', hguar⟩ := h.step hinv (.claim hread) hexec
  refine ⟨hinv', hguar, ?_⟩
  cases claimed with
  | none => exact safePoll_publisherContextOr h (hnone w) fun _ _ _ => safePoll_pure
  | some rows =>
    have hrows := h.holds_claim hinv hread hexec
    change SafePoll execute inv guar pid task (if publisherClaimLimit < rows.length then _ else _) w
    split
    · exact safePoll_publisherContextOr h (hnone w) fun _ _ _ => safePoll_pure
    · exact safePoll_publishRows h hrows

/-- Every task is safe beside any others. -/
theorem safe_program (hs : inv s) (request : Task) :
    SafePoll execute inv guar pid task (program C request) s := by
  cases request with
  | publishAvailable => exact Safe.bind hs ((safePoll_publishAvailable h).mono fun _ _ _ _ => safePoll_pure)
  | append id event =>
    have hnone : InHand Holds 0 [] s := inHand_nil
    exact safePoll_op h hnone (fun _ hconcerned => hconcerned) (fun _ => .appendEvent id event) fun _ _ _ _ _ _ => safePoll_pure

end Poll

end Talenro.Outbox
