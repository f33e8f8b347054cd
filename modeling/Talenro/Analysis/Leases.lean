import Talenro.Analysis.Publishers

/-!
# Leases between publishers

A claim gives a publisher a row for the length of a lease.  The statement that releases a
row, however, does not ask whose claim it ends.  As long as every release reaches the
database before the lease of its own publisher has passed, this makes no difference: the
row is then still the publisher's, because nobody claims a row under an unexpired lease.
`leases_undisturbed` says so of all runs.  A publisher that is slower than its lease ends
the claim of its successor (`late_release_ends_claim`).
-/

set_option autoImplicit false

namespace Talenro.Outbox

open Lib Lib.Calendar Idempotency

variable {environment : Environment} {C : Contracts} {pid : Pid} {task : Task} {s t u : World}

/-! ## What an operation does to claims -/

/-- What an operation can do to the observer's record: nothing, note a claim, or note that
a publisher has settled a row. -/
inductive Notes (pid : Pid) (o : Op) (s t : World) : Prop where
  | nothing (htime : s.time ≤ t.time) (hlease : t.lease = s.lease) (hholder : t.holder = s.holder)
      (hclaims : t.claims = s.claims)
      (htable : ∀ id, t.table id = s.table id ∨ s.table id = none)
  | claim {now claimedUntil time : Instant} {limit : ℕ} {locked : UUID → Prop} {batch : List UUID}
      (ho : o = .claimOutboxBatch now limit claimedUntil) (htime : s.time ≤ time)
      (htakes : Takes s.table locked (timestamptz now) limit batch)
      (ht : t = World.claim { s with time := time } pid batch (timestamptz claimedUntil))
  | settle {id : UUID} {f : OutboxRow → OutboxRow} {time : Instant} (ho : o.Concerns id)
      (hf : (∀ row, (f row).publishedAt ≠ none) ∨ ∃ at_, o = .releaseOutboxClaim id at_)
      (htime : s.time ≤ time) (ht : t = World.update { s with time := time } pid id f)

variable {o : Op} {r : Res o}

theorem exec_notes (h : exec environment pid o s r t) : Notes pid o s t := by
  have hquiet : ∀ time, s.time ≤ time → t = { s with time := time } → Notes pid o s t := by
    rintro time htime rfl
    exact .nothing htime rfl rfl rfl fun _ => Or.inl rfl
  obtain ⟨time, htime, h⟩ := h
  cases o with
  | now =>
    obtain ⟨-, rfl⟩ := h
    exact .nothing htime rfl rfl rfl fun _ => Or.inl rfl
  | claimOutboxBatch now limit claimedUntil =>
    obtain ⟨locked, batch, htakes, hclaim⟩ := h
    rcases hclaim with ⟨-, ht, -⟩ | ⟨-, ht, -⟩ | ⟨-, -, ht | ⟨-, ht⟩⟩
    · exact .claim rfl htime htakes ht
    · exact hquiet time htime ht
    · exact hquiet time htime ht
    · exact .claim rfl htime htakes ht
  | markOutboxPublished id publishedAt =>
    rcases h with ⟨-, ht⟩ | ⟨-, -, ht | ht⟩
    · exact .settle rfl (Or.inl fun _ => Option.some_ne_none _) htime ht
    · exact hquiet time htime ht
    · exact .settle rfl (Or.inl fun _ => Option.some_ne_none _) htime ht
  | releaseOutboxClaim id availableAt =>
    rcases h with ⟨-, ht⟩ | ⟨-, -, ht | ht⟩
    · exact .settle rfl (Or.inr ⟨_, rfl⟩) htime ht
    · exact hquiet time htime ht
    · exact .settle rfl (Or.inr ⟨_, rfl⟩) htime ht
  | appendEvent id event =>
    have hinserted : s.table id = none →
        t = { s with time := time, table := Function.update s.table id (some event.row) } →
        Notes pid (.appendEvent id event) s t := by
      rintro hnone rfl
      refine .nothing htime rfl rfl rfl fun other => ?_
      by_cases hother : other = id
      · exact Or.inr (hother ▸ hnone)
      · exact Or.inl (Function.update_of_ne hother ..)
    rcases h with ⟨hnone, -, ht⟩ | ⟨-, -, ht⟩ | ⟨-, -, ht | ⟨hnone, ht⟩⟩
    · exact hinserted hnone ht
    · exact hquiet time htime ht
    · exact hquiet time htime ht
    · exact hinserted hnone ht
  | publishMsg subject messageID data =>
    obtain ⟨-, rfl⟩ := h
    cases r <;> exact .nothing htime rfl rfl rfl fun _ => Or.inl rfl
  | _ =>
    obtain ⟨-, ht⟩ := h
    exact hquiet time htime ht

/-! ## Claims that hold -/

/-- While a lease has not passed and the row is not published, the row says so. -/
structure Guarded (s : World) : Prop where
  holder_lt : ∀ id lease, s.holder id = some lease → lease.number < s.claims
  lease_lt : ∀ p lease, s.lease p = some lease → lease.number < s.claims
  distinct : ∀ p q lease, s.lease p = some lease → s.lease q = some lease → p = q
  stored : ∀ id lease, s.holder id = some lease → s.table id ≠ none
  current : ∀ id lease row, s.holder id = some lease → s.time ≤ lease.claimedUntil →
    s.table id = some row → row.publishedAt = none → row.claimedUntil = some lease.claimedUntil

/-- A step of `pid` leaves the unexpired claims of others alone: the rows are not claimed
again, and as long as they are not published they stay claimed. -/
def Undisturbed (pid : Pid) (s t : World) : Prop :=
  ∀ id lease, s.holder id = some lease → t.time ≤ lease.claimedUntil → s.lease pid ≠ some lease →
    t.holder id = some lease ∧ ∀ row row', s.table id = some row → t.table id = some row' →
      row'.publishedAt = none → row'.claimedUntil = row.claimedUntil

/-- What every process guarantees to the others. -/
structure Considerate (pid : Pid) (s t : World) : Prop where
  time : s.time ≤ t.time
  lease : ∀ p, p ≠ pid → t.lease p = s.lease p
  distinct : ∀ p, p ≠ pid → ∀ lease, s.lease p = some lease → s.lease pid ≠ some lease
  undisturbed : Undisturbed pid s t

/-- A row in the hands of a publisher: it is the publisher's until the lease has passed. -/
def Keeps (pid : Pid) (_ : Instant) (claimed : UUID × OutboxRow) (s : World) : Prop :=
  ∃ lease, s.lease pid = some lease ∧
    (s.time ≤ lease.claimedUntil → s.holder claimed.1 = some lease)

/-- Every release reaches the database before the lease of its publisher has passed. -/
def OnTime (pid : Pid) : (o : Op) → World → Res o → World → Prop
  | .releaseOutboxClaim _ _, s, _, t =>
    ∀ lease, s.lease pid = some lease → t.time ≤ lease.claimedUntil
  | _, _, _, _ => True

/-- No clock is ahead of the time. -/
def Timely (environment : Environment) : Prop :=
  ∀ s now, environment s .now now → now.instant ≤ s.time

section Steps

theorem Guarded.apart (hs : Guarded s) :
    ∀ p, p ≠ pid → ∀ lease, s.lease p = some lease → s.lease pid ≠ some lease :=
  fun p hp lease h hpid => hp (hs.distinct p pid lease h hpid)

variable {claimedUntil : Instant} {lease : Lease} {batch : List UUID} {f : OutboxRow → OutboxRow}
  {id other : UUID} {locked : UUID → Prop} {limit : ℕ}

/-- A row under an unexpired claim is no candidate. -/
theorem Guarded.not_taken (hs : Guarded s) {now : ℤ}
    (htakes : Takes s.table locked (timestamptz now) limit batch) (hnow : now ≤ s.time)
    (hholder : s.holder id = some lease) (hunexpired : s.time ≤ lease.claimedUntil) :
    id ∉ batch := by
  intro hid
  obtain ⟨-, row, hrow, hunpublished, -, hexpired⟩ := htakes.candidate id hid
  have hlt : lease.claimedUntil < timestamptz now :=
    hexpired _ (hs.current id lease row hholder hunexpired hrow hunpublished)
  have hfloor : timestamptz now ≤ now := by
    have := Int.emod_nonneg now (by decide : microsecond ≠ 0)
    change now - now % microsecond ≤ now
    omega
  exact absurd (lt_of_lt_of_le hlt (hfloor.trans (hnow.trans hunexpired))) (lt_irrefl _)

/-- The rows of a claimed batch have a new holder, the others the one they had. -/
theorem holder_claim (h : (s.claim pid batch claimedUntil).holder id = some lease) :
    (id ∈ batch ∧ lease = ⟨s.claims, claimedUntil⟩) ∨ id ∉ batch ∧ s.holder id = some lease := by
  change (if id ∈ batch then some ⟨s.claims, claimedUntil⟩ else s.holder id) = some lease at h
  split at h
  · next hid => exact Or.inl ⟨hid, (Option.some.inj h).symm⟩
  · next hid => exact Or.inr ⟨hid, h⟩

theorem lease_claim {p : Pid} (h : (s.claim pid batch claimedUntil).lease p = some lease) :
    (p = pid ∧ lease = ⟨s.claims, claimedUntil⟩) ∨ p ≠ pid ∧ s.lease p = some lease := by
  by_cases hp : p = pid
  · subst hp
    have hself : (s.claim p batch claimedUntil).lease p = some ⟨s.claims, claimedUntil⟩ :=
      Function.update_self ..
    exact Or.inl ⟨rfl, Option.some.inj (h.symm.trans hself)⟩
  · have hother : (s.claim pid batch claimedUntil).lease p = s.lease p := Function.update_of_ne hp ..
    exact Or.inr ⟨hp, hother.symm.trans h⟩

theorem guarded_claim (hs : Guarded s) {now : Instant}
    (htakes : Takes s.table locked (timestamptz now) limit batch) :
    Guarded (s.claim pid batch claimedUntil) where
  holder_lt id lease h := by
    change lease.number < s.claims + 1
    rcases holder_claim h with ⟨-, rfl⟩ | ⟨-, hold⟩
    · exact Nat.lt_succ_self _
    · exact Nat.lt_succ_of_lt (hs.holder_lt id lease hold)
  lease_lt p lease h := by
    change lease.number < s.claims + 1
    rcases lease_claim h with ⟨-, rfl⟩ | ⟨-, hold⟩
    · exact Nat.lt_succ_self _
    · exact Nat.lt_succ_of_lt (hs.lease_lt p lease hold)
  distinct p q lease hp hq := by
    rcases lease_claim hp with ⟨hp', hnew⟩ | ⟨-, hp'⟩ <;>
      rcases lease_claim hq with ⟨hq', hnew'⟩ | ⟨-, hq'⟩
    · exact hp'.trans hq'.symm
    · have hlt := hs.lease_lt q lease hq'
      rw [hnew] at hlt
      exact absurd hlt (lt_irrefl _)
    · have hlt := hs.lease_lt p lease hp'
      rw [hnew'] at hlt
      exact absurd hlt (lt_irrefl _)
    · exact hs.distinct p q lease hp' hq'
  stored id lease h := by
    have hstored : s.table id ≠ none := by
      rcases holder_claim h with ⟨hid, -⟩ | ⟨-, hold⟩
      · obtain ⟨-, row, hrow, -⟩ := htakes.candidate id hid
        rw [hrow]
        exact Option.some_ne_none row
      · exact hs.stored id lease hold
    rcases table_claim s.table batch claimedUntil id with hsame | ⟨-, hclaim⟩
    · exact fun hnone => hstored (hsame.symm.trans hnone)
    · exact fun hnone => hstored (Option.map_eq_none_iff.mp (hclaim.symm.trans hnone))
  current id lease row h htime hrow hunpublished := by
    rcases holder_claim h with ⟨hid, rfl⟩ | ⟨hid, hold⟩
    · have hclaim : (s.table id).map (·.claim claimedUntil) = some row := (if_pos hid).symm.trans hrow
      obtain ⟨before, -, rfl⟩ := Option.map_eq_some_iff.mp hclaim
      rfl
    · exact hs.current id lease row hold htime ((if_neg hid).symm.trans hrow) hunpublished

theorem undisturbed_claim (hs : Guarded s) {now : ℤ}
    (htakes : Takes s.table locked (timestamptz now) limit batch) (hnow : now ≤ s.time) :
    Undisturbed pid s (s.claim pid batch claimedUntil) := by
  intro id lease hholder hunexpired _
  have hid := hs.not_taken htakes hnow hholder hunexpired
  refine ⟨(if_neg hid).trans hholder, fun row row' hrow hrow' _ => ?_⟩
  obtain rfl := Option.some.inj (hrow.symm.trans ((if_neg hid).symm.trans hrow'))
  rfl

/-! ### Settled rows -/

theorem holder_update (h : (s.update pid id f).holder other = some lease) :
    s.holder other = some lease ∧ (other = id → s.lease pid ≠ some lease) := by
  change (if s.holder id = s.lease pid then Function.update s.holder id none else s.holder) other =
    some lease at h
  split at h
  · by_cases hother : other = id
    · subst hother
      rw [Function.update_self] at h
      cases h
    · rw [Function.update_of_ne hother] at h
      exact ⟨h, fun heq => absurd heq hother⟩
  · next hne =>
    refine ⟨h, ?_⟩
    rintro rfl hlease
    exact hne (h.trans hlease.symm)

/-- The claims of others are not ended by the observer when a row is settled. -/
theorem holder_update_of (h : s.holder other = some lease)
    (hne : other = id → s.lease pid ≠ some lease) :
    (s.update pid id f).holder other = some lease := by
  change (if s.holder id = s.lease pid then Function.update s.holder id none else s.holder) other =
    some lease
  split
  · next heq =>
    have hother : other ≠ id := by
      rintro rfl
      exact hne rfl (heq.symm.trans h)
    rwa [Function.update_of_ne hother]
  · exact h

theorem table_update_ne_none (h : s.table other ≠ none) :
    (s.update pid id f).table other ≠ none := by
  rcases table_updateUnpublished s.table id f other with hsame | ⟨row, -, -, -, hrow⟩
  · exact fun hnone => h (hsame.symm.trans hnone)
  · intro hnone
    cases hrow.symm.trans hnone

/-- Settling a row keeps the claims as long as it takes the row out of circulation or the
row is the publisher's own. -/
theorem guarded_update (hs : Guarded s) (hown : (∀ row, (f row).publishedAt ≠ none) ∨
      ∀ lease, s.holder id = some lease → s.time ≤ lease.claimedUntil → s.lease pid = some lease) :
    Guarded (s.update pid id f) ∧ Undisturbed pid s (s.update pid id f) := by
  have hrows : ∀ other lease row', s.holder other = some lease → s.time ≤ lease.claimedUntil →
      (other = id → s.lease pid ≠ some lease) → (s.update pid id f).table other = some row' →
      row'.publishedAt = none → s.table other = some row' := by
    intro other lease row' hholder hunexpired hne hrow' hunpublished
    rcases table_updateUnpublished s.table id f other with hsame | ⟨row, heq, hrow, -, hf⟩
    · exact hsame.symm.trans hrow'
    · obtain rfl := Option.some.inj (hf.symm.trans hrow')
      rcases hown with hpublishes | hown
      · exact absurd hunpublished (hpublishes row)
      · subst heq
        exact absurd (hown lease hholder hunexpired) (hne rfl)
  refine ⟨⟨?_, hs.lease_lt, hs.distinct, ?_, ?_⟩, ?_⟩
  · intro other lease h
    exact hs.holder_lt other lease (holder_update h).1
  · intro other lease h
    exact table_update_ne_none (hs.stored other lease (holder_update h).1)
  · intro other lease row h hunexpired hrow hunpublished
    obtain ⟨hholder, hne⟩ := holder_update h
    exact hs.current other lease row hholder hunexpired
      (hrows other lease row hholder hunexpired hne hrow hunpublished) hunpublished
  · intro other lease hholder hunexpired hne
    refine ⟨holder_update_of hholder fun _ => hne, fun row row' hrow hrow' hunpublished => ?_⟩
    have hsame := hrows other lease row' hholder hunexpired (fun _ => hne) hrow' hunpublished
    obtain rfl := Option.some.inj (hrow.symm.trans hsame)
    rfl

/-- Time that passes keeps the claims that hold. -/
theorem guarded_later (hs : Guarded s) {time : Instant} (htime : s.time ≤ time) :
    Guarded { s with time := time } where
  holder_lt := hs.holder_lt
  lease_lt := hs.lease_lt
  distinct := hs.distinct
  stored := hs.stored
  current id lease row hholder hunexpired := hs.current id lease row hholder (htime.trans hunexpired)

/-- A publisher that releases its rows on time keeps the claims, its own and the others'. -/
theorem exec_considerate (hs : Guarded s)
    (hready : Ready (fun now s => now ≤ s.time) (Keeps pid) (fun _ _ _ => True) s o)
    (hexec : exec environment pid o s r t) (hontime : OnTime pid o s r t) :
    Guarded t ∧ Considerate pid s t := by
  have hdistinct : ∀ p, p ≠ pid → ∀ lease, s.lease p = some lease → s.lease pid ≠ some lease :=
    hs.apart
  rcases exec_notes hexec with ⟨htime, hlease, hholder, hclaims, htable⟩ |
    @⟨now, claimedUntil, time, limit, locked, batch, rfl, htime, htakes, rfl⟩ |
    @⟨id, f, time, ho, hf, htime, rfl⟩
  · have hsame : ∀ id lease, s.holder id = some lease → t.table id = s.table id :=
      fun id lease h => (htable id).resolve_right (hs.stored id lease h)
    refine ⟨⟨?_, ?_, ?_, ?_, ?_⟩, ⟨htime, fun p _ => congrFun hlease p, hdistinct, ?_⟩⟩
    · rw [hholder, hclaims]
      exact hs.holder_lt
    · rw [hlease, hclaims]
      exact hs.lease_lt
    · rw [hlease]
      exact hs.distinct
    · rw [hholder]
      intro id lease h
      rw [hsame id lease h]
      exact hs.stored id lease h
    · rw [hholder]
      intro id lease row h hunexpired hrow
      rw [hsame id lease h] at hrow
      exact hs.current id lease row h (htime.trans hunexpired) hrow
    · intro id lease h _ _
      refine ⟨(congrFun hholder id).trans h, fun row row' hrow hrow' _ => ?_⟩
      rw [hsame id lease h] at hrow'
      obtain rfl := Option.some.inj (hrow.symm.trans hrow')
      rfl
  · have hs' := guarded_later hs htime
    cases hready with
    | claim hread =>
      refine ⟨guarded_claim hs' htakes, ⟨htime, fun p hp => Function.update_of_ne hp .., hdistinct, ?_⟩⟩
      exact undisturbed_claim hs' htakes (hread.trans htime)
  · have hs' := guarded_later hs htime
    have hown : (∀ row, (f row).publishedAt ≠ none) ∨ ∀ lease, s.holder id = some lease →
        time ≤ lease.claimedUntil → s.lease pid = some lease := by
      refine hf.imp_right ?_
      rintro ⟨at_, rfl⟩ lease hholder _
      cases hready with
      | release hkeeps =>
        obtain ⟨own, hown, hmine⟩ := hkeeps
        have hunexpired := htime.trans (hontime own hown)
        obtain rfl := Option.some.inj (hholder.symm.trans (hmine hunexpired))
        exact hown
    obtain ⟨hguarded, hundisturbed⟩ := guarded_update hs' hown
    exact ⟨hguarded, ⟨htime, fun _ _ => rfl, hdistinct, hundisturbed⟩⟩

end Steps

/-! ## Runs -/

theorem Keeps.considerate {q : Pid} {now : Instant} {claimed : UUID × OutboxRow} (hq : q ≠ pid)
    (h : Keeps pid now claimed s) (hstep : Considerate q s t) : Keeps pid now claimed t := by
  obtain ⟨lease, hlease, hholder⟩ := h
  refine ⟨lease, (hstep.lease pid (Ne.symm hq)).trans hlease, fun hunexpired => ?_⟩
  have hbefore := hholder (hstep.time.trans hunexpired)
  exact (hstep.undisturbed claimed.1 lease hbefore hunexpired
    (hstep.distinct pid (Ne.symm hq) lease hlease)).1

/-- A publisher keeps its rows through its own operations on others. -/
theorem Keeps.exec {now : Instant} {claimed : UUID × OutboxRow} (h : Keeps pid now claimed s)
    (hexec : exec environment pid o s r t) (hconcerns : ¬ o.Concerns claimed.1) :
    Keeps pid now claimed t := by
  obtain ⟨lease, hlease, hholder⟩ := h
  rcases exec_notes hexec with ⟨htime, hlease', hholder', -, -⟩ |
    @⟨now, claimedUntil, time, limit, locked, batch, rfl, -, -, -⟩ | @⟨id, f, time, ho, -, htime, rfl⟩
  · refine ⟨lease, (congrFun hlease' pid).trans hlease, fun hunexpired => ?_⟩
    exact (congrFun hholder' claimed.1).trans (hholder (htime.trans hunexpired))
  · exact absurd trivial hconcerns
  · refine ⟨lease, hlease, fun hunexpired => ?_⟩
    refine holder_update_of (hholder (htime.trans hunexpired)) fun heq => ?_
    exact absurd (heq ▸ ho) hconcerns

/-- The knowledge that carries the claims. -/
theorem polls_considerate (C : Contracts) (htimely : Timely environment) (pid : Pid) (task : Task) :
    Polls C (fun now s => now ≤ s.time) (Keeps pid) (fun _ _ _ => True)
      (fun o s r t => exec environment pid o s r t ∧ OnTime pid o s r t) Guarded
      (fun p _ => Considerate p) pid task where
  step hs hready hexec := exec_considerate hs hready hexec.1 hexec.2
  read_rely {now _ _} hrely hread :=
    hrely.preserves (P := fun u => now ≤ u.time) (fun _ _ _ _ _ hstep hle => hle.trans hstep.time) hread
  holds_rely hrely hkeeps :=
    hrely.preserves (fun _ _ _ _ hq hstep hkeeps => hkeeps.considerate hq hstep) hkeeps
  acked_rely _ _ := trivial
  holds_step _ _ hexec hconcerns hkeeps := hkeeps.exec hexec.1 hconcerns
  read_now hexec := by
    obtain ⟨⟨time, -, hclock, rfl⟩, -⟩ := hexec
    have hreading := htimely _ _ hclock
    exact hreading
  holds_claim _ _ hexec := by
    obtain ⟨hnodup, batch, time, rfl, hrows⟩ := exec_claimOutboxBatch hexec.1
    refine ⟨hnodup, fun claimed hclaimed => ⟨_, Function.update_self .., fun _ => ?_⟩⟩
    exact if_pos (hrows claimed hclaimed).1
  acked_publish _ _ _ := trivial

theorem guarded_start (time : Instant) : Guarded (World.start time) where
  holder_lt _ _ h := nomatch h
  lease_lt _ _ h := nomatch h
  distinct _ _ _ h := nomatch h
  stored _ _ h := nomatch h
  current _ _ _ h := nomatch h

/-- A step that changes neither the table nor who holds what. -/
theorem undisturbed_of_eq (htable : t.table = s.table) (hholder : t.holder = s.holder) :
    Undisturbed pid s t := by
  intro id lease h _ _
  refine ⟨(congrFun hholder id).trans h, fun row row' hrow hrow' _ => ?_⟩
  rw [htable] at hrow'
  obtain rfl := Option.some.inj (hrow.symm.trans hrow')
  rfl

theorem guarded_arrive (hs : Guarded s) (pid : Pid) :
    Guarded { s with lease := Function.update s.lease pid none } ∧
      Considerate pid s { s with lease := Function.update s.lease pid none } := by
  have hlease : ∀ p lease, Function.update s.lease pid none p = some lease →
      s.lease p = some lease := by
    intro p lease h
    by_cases hp : p = pid
    · subst hp
      rw [Function.update_self] at h
      cases h
    · rwa [Function.update_of_ne hp] at h
  refine ⟨⟨hs.holder_lt, ?_, ?_, hs.stored, hs.current⟩,
    ⟨le_refl _, fun p hp => Function.update_of_ne hp .., hs.apart, undisturbed_of_eq rfl rfl⟩⟩
  · exact fun p lease h => hs.lease_lt p lease (hlease p lease h)
  · exact fun p q lease hp hq => hs.distinct p q lease (hlease p lease hp) (hlease q lease hq)

/-- Publishers that release their rows on time keep each other's claims. -/
theorem sound_onTime (C : Contracts) (htimely : Timely environment) :
    Sound ((publishing C environment).restrict OnTime) Guarded (fun p _ => Considerate p)
      fun _ _ _ _ _ => True where
  arrive pid task s hs := guarded_arrive hs pid
  safe pid task s hs := by
    apply safe_program (polls_considerate C htimely pid task)
    exact (guarded_arrive hs pid).1
  release pid task s hs :=
    ⟨hs, ⟨le_refl _, fun _ _ => rfl, hs.apart, undisturbed_of_eq rfl rfl⟩⟩
  crash s t hs hcrash := by
    obtain rfl := hcrash
    exact hs

/-- In every run in which every release reaches the database before the lease of its own
publisher has passed: a row that is not published says that it is claimed as long as the
lease of its last claim has not passed, and no operation of another publisher claims such
a row or ends the claim. -/
theorem leases_undisturbed (C : Contracts) (environment : Environment) (htimely : Timely environment)
    (time : Instant) {pool : Pool Pid Task Unit Op Res World}
    (h : ((publishing C environment).restrict OnTime).Reachable (World.start time) pool) :
    (∀ id lease row, pool.state.holder id = some lease → pool.state.time ≤ lease.claimedUntil →
      pool.state.table id = some row → row.publishedAt = none →
      row.claimedUntil = some lease.claimedUntil) ∧
    ∀ pid pool', ((publishing C environment).restrict OnTime).Step pool (.op pid) pool' →
      Undisturbed pid pool.state pool'.state := by
  have hsound := sound_onTime C htimely
  refine ⟨(hsound.reachable (guarded_start time) h).1.current, ?_⟩
  intro pid pool' hstep
  obtain ⟨run, -, hconsiderate⟩ := hsound.op (guarded_start time) h hstep
  exact hconsiderate.undisturbed

/-! ### A publisher that is slower than its lease -/

/-- Every answer is possible, but all clocks show the time. -/
def trueClock : Environment := fun s o =>
  match o with
  | .now => fun r => r.instant = s.time
  | _ => fun _ => True

theorem timely_trueClock : Timely trueClock := fun _ _ h => le_of_eq h

theorem lenient_trueClock : Lenient trueClock := by
  intro s o r hne
  cases o with
  | now => exact absurd rfl hne
  | _ => trivial

/-- The row, the world and the process after the slow publisher `0` has claimed the event. -/
def claimedRow : OutboxRow := countedEvent.row.claim (moment 0 + publisherLease)

def slowWorld : World := claimedWorld countedWorld 0 countedID 0 (moment 0)

def slowPublisher : Running Task Unit Op Res World :=
  claimant countedContracts countedWorld 0 countedID countedEvent.row 0

/-- The same after publisher `1` has claimed the event too, the first lease having passed. -/
def reclaimedRow : OutboxRow := claimedRow.claim (moment 1 + publisherLease)

def reclaimedWorld : World := claimedWorld slowWorld 1 countedID 1 (moment 1)

def nextPublisher : Running Task Unit Op Res World :=
  claimant countedContracts slowWorld 1 countedID claimedRow 1

/-- The processes when the slow publisher is about to release the row. -/
def lateRunning : Pid → Option (Running Task Unit Op Res World) :=
  Function.update (Function.update (Function.update (fun _ => none) 0 (some slowPublisher)) 1
    (some nextPublisher)) 0 (some ⟨slowPublisher.task, slowPublisher.start,
      releasing countedContracts (moment 0) countedID claimedRow⟩)

/-- The processes, the world and the row after the late release. -/
def releasedRunning : Pid → Option (Running Task Unit Op Res World) :=
  Function.update lateRunning 0
    (some ⟨slowPublisher.task, slowPublisher.start, released countedContracts (moment 0)⟩)

def lateWorld : World :=
  reclaimedWorld.update 0 countedID (·.release (timestamptz (moment 0 + retryBase claimedRow.attempts)))

def lateRow : OutboxRow :=
  reclaimedRow.release (timestamptz (moment 0 + retryBase claimedRow.attempts))

theorem table_slowWorld : slowWorld.table countedID = some claimedRow :=
  table_claimedWorld table_countedWorld

theorem table_reclaimedWorld : reclaimedWorld.table countedID = some reclaimedRow :=
  table_claimedWorld table_slowWorld

theorem table_lateWorld : lateWorld.table countedID = some lateRow := by
  have hupdate := updateUnpublished_of (f := fun row => row.release
    (timestamptz (moment 0 + retryBase claimedRow.attempts))) table_reclaimedWorld rfl
  exact (congrFun hupdate countedID).trans (Function.update_self ..)

theorem lateRunning_slow : lateRunning 0 = some ⟨slowPublisher.task, slowPublisher.start,
    releasing countedContracts (moment 0) countedID claimedRow⟩ := by
  unfold lateRunning
  exact Function.update_self ..

theorem reaches_reclaimed : (publishing countedContracts trueClock).Reaches
    ⟨World.start (moment 0), fun _ => none⟩ ⟨reclaimedWorld, lateRunning⟩ := by
  have hfirst : Candidate (moment 0) countedEvent.row :=
    ⟨rfl, (timestamptz_moment 0).le, fun _ hat => nomatch hat⟩
  have hsecond : Candidate (moment 1) claimedRow := by
    refine ⟨rfl, (timestamptz_moment 0).le.trans (moment_le_moment (Nat.zero_le 1)), ?_⟩
    intro at_ hat
    obtain rfl := Option.some.inj hat
    exact lease_lt_moment Nat.zero_lt_one
  have hclaim₀ : (publishing countedContracts trueClock).Reaches ⟨countedWorld, fun _ => none⟩
      ⟨slowWorld, Function.update (fun _ => none) 0 (some slowPublisher)⟩ :=
    reaches_claim lenient_trueClock (le_refl _) (fun _ h => h.symm) rfl table_countedWorld hfirst
      (by decide) (by decide)
  have hfree : Function.update (fun _ => none) 0 (some slowPublisher) 1 = none :=
    Function.update_of_ne Nat.one_ne_zero ..
  have hclaim₁ : (publishing countedContracts trueClock).Reaches
      ⟨slowWorld, Function.update (fun _ => none) 0 (some slowPublisher)⟩
      ⟨reclaimedWorld, Function.update (Function.update (fun _ => none) 0 (some slowPublisher)) 1
        (some nextPublisher)⟩ :=
    reaches_claim lenient_trueClock (moment_le_moment (Nat.zero_le 1)) (fun _ h => h.symm) hfree
      table_slowWorld hsecond (by decide) (by decide)
  have hreleasing : System.Leads ((publishing countedContracts trueClock).exec 0) slowPublisher.rest
      reclaimedWorld (releasing countedContracts (moment 0) countedID claimedRow) reclaimedWorld :=
    leads_releasing lenient_trueClock (validatePublisherRow_counted rfl)
  have hslow : Function.update (Function.update (fun _ => none) 0 (some slowPublisher)) 1
      (some nextPublisher) 0 = some slowPublisher := by
    rw [Function.update_of_ne Nat.zero_ne_one]
    exact Function.update_self ..
  exact ((reaches_counted.trans hclaim₀).trans hclaim₁).trans
    ((publishing countedContracts trueClock).reaches_of_leads hreleasing hslow)

/-- All clocks agree; a publisher that is slower than its lease releases the row while its
successor holds an unexpired claim.  The claim is gone, and a third publisher claims the
row at once. -/
theorem late_release_ends_claim : ∃ pool pool' pool'' id late lease third,
    (publishing countedContracts trueClock).Reachable (World.start (moment 0)) pool ∧
    (publishing countedContracts trueClock).Step pool (.op 0) pool' ∧
    pool.state.lease 0 = some late ∧ late.claimedUntil < pool.state.time ∧
    pool.state.holder id = some lease ∧ lease ≠ late ∧ pool'.state.time ≤ lease.claimedUntil ∧
    (pool.state.table id).map OutboxRow.claimedUntil = some (some lease.claimedUntil) ∧
    (pool'.state.table id).map OutboxRow.publishedAt = some none ∧
    (pool'.state.table id).map OutboxRow.claimedUntil = some none ∧
    (publishing countedContracts trueClock).Reaches pool' pool'' ∧
    pool''.state.time ≤ lease.claimedUntil ∧ pool''.state.holder id = some third ∧ third ≠ lease := by
  have hlate : (⟨reclaimedWorld, lateRunning⟩ : Pool Pid Task Unit Op Res World).running 0 = _ :=
    lateRunning_slow
  have hrelease : (publishing countedContracts trueClock).exec 0
      (.releaseOutboxClaim countedID (moment 0 + retryBase claimedRow.attempts)) reclaimedWorld _
      lateWorld := exec_release
  have hstep := System.Step.op (S := publishing countedContracts trueClock) hlate hrelease
  have hcandidate : Candidate (moment 1) lateRow :=
    ⟨rfl, timestamptz_delay_le 0 _, fun _ hat => nomatch hat⟩
  have hthird : (publishing countedContracts trueClock).Reaches ⟨lateWorld, releasedRunning⟩
      ⟨claimedWorld lateWorld 2 countedID 1 (moment 1), _⟩ :=
    reaches_claim lenient_trueClock (le_refl _) (fun _ h => h.symm) rfl table_lateWorld hcandidate
      (by decide) (by decide)
  have hpassed : moment 0 + publisherLease < moment 1 := lease_lt_moment Nat.zero_lt_one
  have hunexpired : moment 1 ≤ moment 1 + publisherLease := by
    have hlease : publisherLease = 30000000000 := rfl
    omega
  refine ⟨_, _, _, countedID, ⟨0, moment 0 + publisherLease⟩, ⟨1, moment 1 + publisherLease⟩,
    ⟨2, moment 1 + publisherLease⟩, System.Reachable.init.reaches reaches_reclaimed, hstep,
    rfl, hpassed, rfl, by decide, hunexpired, ?_, ?_, ?_, hthird, hunexpired, rfl, by decide⟩
  · rw [table_reclaimedWorld]
    rfl
  · rw [table_lateWorld]
    rfl
  · rw [table_lateWorld]
    rfl

theorem onTime_of_ne (h : ∀ id at_, o ≠ .releaseOutboxClaim id at_) : OnTime pid o s r t := by
  cases o with
  | releaseOutboxClaim id at_ => exact absurd rfl (h id at_)
  | _ => trivial

/-- The slow publisher's claim happens as well when all releases are on time; as long as its
lease has not passed, the row is claimed. -/
theorem claimed_row_guarded : ∃ pool row,
    ((publishing countedContracts trueClock).restrict OnTime).Reachable (World.start (moment 0)) pool ∧
      pool.state.table countedID = some row ∧
      row.claimedUntil = some (moment 0 + publisherLease) := by
  have happended : ((publishing countedContracts trueClock).restrict OnTime).Reaches
      ⟨World.start (moment 0), fun _ => none⟩ ⟨countedWorld, fun _ => none⟩ := by
    have hleads : System.Leads (((publishing countedContracts trueClock).restrict OnTime).exec 0)
        (((publishing countedContracts trueClock).restrict OnTime).program
          (.append countedID countedEvent))
        (((publishing countedContracts trueClock).restrict OnTime).arrive 0
          (.append countedID countedEvent) (World.start (moment 0))) (pure ()) countedWorld :=
      .step (r := some ()) ⟨⟨moment 0, le_refl _, Or.inl ⟨rfl, rfl, rfl⟩⟩, trivial⟩ .refl
    have hspawned : ((publishing countedContracts trueClock).restrict OnTime).Reaches
        ⟨World.start (moment 0), fun _ => none⟩ _ := System.reaches_spawned _ rfl hleads
    exact hspawned.trans (System.reaches_kill _ rfl)
  have hclaimed : ((publishing countedContracts trueClock).restrict OnTime).Reaches
      ⟨countedWorld, fun _ => none⟩ ⟨slowWorld, Function.update (fun _ => none) 0 (some slowPublisher)⟩ :=
    System.reaches_spawned _ rfl (leads_claimedAt (fun h hne => ⟨h, onTime_of_ne hne⟩) lenient_trueClock
      (le_refl _) (fun _ h => h.symm) table_countedWorld
      ⟨rfl, (timestamptz_moment 0).le, fun _ hat => nomatch hat⟩ (by decide) (by decide))
  have hreach := System.Reachable.init.reaches (happended.trans hclaimed)
  have hguarded := (leases_undisturbed countedContracts trueClock timely_trueClock (moment 0) hreach).1
    countedID ⟨0, moment 0 + publisherLease⟩ claimedRow rfl (by decide) table_slowWorld rfl
  exact ⟨_, claimedRow, hreach, table_slowWorld, hguarded⟩

end Talenro.Outbox
