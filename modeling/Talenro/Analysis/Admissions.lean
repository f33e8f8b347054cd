import Talenro.Lib.Calls
import Talenro.Model.Authority.Admissions

/-!
# An admission is consumed once

Calls that complete a capture and calls that consume admissions run side by side.  The capture is
used by one of them, so that there is one admission at most; it is swapped by one of them, so that
one call at most can return that it was admitted; and that call has read the clock before the
deadline, which is at most five seconds after the start of the capture.
-/

set_option autoImplicit false

namespace Talenro.Authority

open Lib Lib.Calendar

variable {Pid : Type} {P : ArtifactPlatform} {started : Instant} {s t : CaptureMemory Pid} {pid : Pid}

/-- The invariant of the memory. -/
structure CaptureSound (started : Instant) (s : CaptureMemory Pid) : Prop where
  one : s.admissions.length ≤ 1
  used : s.admissions ≠ [] → s.used ≠ none
  deadline : ∀ shared ∈ s.admissions, shared.admission.deadline ≤ started + 5 * second

/-- What a step of a call can do to the memory. -/
structure CaptureGuarantee (pid : Pid) (s t : CaptureMemory Pid) : Prop where
  used : t.used = s.used ∨ s.used = none ∧ t.used = some pid
  length : t.admissions.length = s.admissions.length ∨ s.used = some pid
  kept : ∀ {i : ℕ} {shared : SharedAdmission Pid}, s.admissions[i]? = some shared →
    ∃ shared', t.admissions[i]? = some shared' ∧ shared'.admission = shared.admission ∧
      (shared.consumer ≠ none → shared'.consumer = shared.consumer)
  readings : ∀ other, other ≠ pid → t.readings other = s.readings other

/-- Steps in which only the clock goes on. -/
theorem CaptureGuarantee.of_same (hused : t.used = s.used)
    (hadmissions : t.admissions = s.admissions)
    (hreadings : ∀ other, other ≠ pid → t.readings other = s.readings other) :
    CaptureGuarantee pid s t where
  used := Or.inl hused
  length := Or.inl (congrArg List.length hadmissions)
  kept := fun {_ shared} h => ⟨shared, hadmissions ▸ h, rfl, fun _ => rfl⟩
  readings := hreadings

theorem CaptureSound.of_same (h : CaptureSound started s) (hused : t.used = s.used)
    (hadmissions : t.admissions = s.admissions) : CaptureSound started t where
  one := hadmissions ▸ h.one
  used := fun hne => hused ▸ h.used (hadmissions ▸ hne)
  deadline := hadmissions ▸ h.deadline

/-- What the other calls do keeps what a call has made its own. -/
theorem rely_consumer {i : ℕ} {admission : ActivationAdmission}
    (hrely : Rely (fun pid (_ : Unit) => CaptureGuarantee pid) pid s t)
    (h : s.admissions[i]? = some ⟨admission, some pid⟩) :
    t.admissions[i]? = some ⟨admission, some pid⟩ := by
  refine hrely.preserves (P := fun s => s.admissions[i]? = some ⟨admission, some pid⟩) ?_ h
  intro other _ s t _ hguar hs
  obtain ⟨⟨admission', consumer'⟩, ht, rfl, hconsumer⟩ := hguar.kept hs
  rw [ht]
  exact congrArg (fun c => some (SharedAdmission.mk admission' c)) (hconsumer (by simp))

theorem rely_used (hrely : Rely (fun pid (_ : Unit) => CaptureGuarantee pid) pid s t)
    (h : s.used = some pid ∧ s.admissions = []) : t.used = some pid ∧ t.admissions = [] := by
  refine hrely.preserves (P := fun s => s.used = some pid ∧ s.admissions = []) ?_ h
  rintro other _ s t hother hguar ⟨hused, hnil⟩
  refine ⟨?_, ?_⟩
  · rcases hguar.used with hsame | ⟨hnone, -⟩
    · rw [hsame, hused]
    · exact nomatch hnone.symm.trans hused
  · rcases hguar.length with hsame | hpid
    · rw [hnil] at hsame
      exact List.length_eq_zero_iff.mp hsame
    · exact absurd (Option.some.inj (hpid.symm.trans hused)) hother

theorem rely_reading {now : Instant}
    (hrely : Rely (fun pid (_ : Unit) => CaptureGuarantee pid) pid s t)
    (h : s.readings pid = some now) : t.readings pid = some now := by
  refine hrely.preserves (P := fun s => s.readings pid = some now) ?_ h
  intro other _ s t hother hguar hs
  rw [hguar.readings pid (Ne.symm hother), hs]

variable [DecidableEq Pid]

/-- One operation keeps the invariant and the guarantee; only the call that has used the capture
allocates, and what it allocates is the first admission. -/
theorem capture_exec {o : CaptureOp} {r : o.Res} (h : CaptureMemory.exec pid o s r t)
    (hs : CaptureSound started s) (hallocate : ∀ admission, o = .allocate admission →
      s.used = some pid ∧ s.admissions = [] ∧ admission.deadline ≤ started + 5 * second) :
    CaptureSound started t ∧ CaptureGuarantee pid s t := by
  obtain ⟨u, heffect, -, hlater⟩ := h
  obtain ⟨hused, hadmissions, hreadings⟩ : t.used = u.used ∧ t.admissions = u.admissions ∧
      t.readings = u.readings := by
    rw [hlater]
    exact ⟨rfl, rfl, rfl⟩
  cases o with
  | swapUsed =>
    cases hsused : s.used with
    | none =>
      rw [CaptureMemory.effect, hsused] at heffect
      obtain ⟨-, rfl⟩ := heffect
      refine ⟨⟨hadmissions ▸ hs.one, fun _ => by simp [hused], ?_⟩, ?_⟩
      · rw [hadmissions]
        exact hs.deadline
      · refine ⟨Or.inr ⟨hsused, hused⟩, Or.inl (by rw [hadmissions]), ?_, ?_⟩
        · exact fun {_ shared} hi => ⟨shared, hadmissions ▸ hi, rfl, fun _ => rfl⟩
        · exact fun other _ => by rw [hreadings]
    | some other =>
      rw [CaptureMemory.effect, hsused] at heffect
      obtain ⟨-, rfl⟩ := heffect
      exact ⟨hs.of_same hused hadmissions,
        .of_same hused hadmissions fun _ _ => by rw [hreadings]⟩
  | allocate admission =>
    obtain ⟨-, rfl⟩ := heffect
    obtain ⟨hpid, hnil, hdeadline⟩ := hallocate admission rfl
    rw [hnil, List.nil_append] at hadmissions
    refine ⟨⟨by simp [hadmissions], fun _ => by simp [hused, hpid], ?_⟩, ?_⟩
    · intro shared hshared
      rw [hadmissions, List.mem_singleton] at hshared
      rw [hshared]
      exact hdeadline
    · refine ⟨Or.inl hused, Or.inr hpid, ?_, fun _ _ => by rw [hreadings]⟩
      intro i shared hi
      simp [hnil] at hi
  | swapState pointer =>
    rw [CaptureMemory.effect] at heffect
    split at heffect
    · next admission hpointer =>
      obtain ⟨-, rfl⟩ := heffect
      refine ⟨⟨?_, ?_, ?_⟩, Or.inl hused, Or.inl ?_, ?_, fun _ _ => by rw [hreadings]⟩
      · rw [hadmissions, List.length_set]
        exact hs.one
      · rw [hadmissions, hused]
        exact fun hne => hs.used fun hnil => hne (by simp [hnil])
      · intro shared hshared
        rw [hadmissions] at hshared
        rcases List.mem_or_eq_of_mem_set hshared with hmem | rfl
        · exact hs.deadline shared hmem
        · exact hs.deadline ⟨admission, none⟩ (List.mem_of_getElem? hpointer)
      · rw [hadmissions, List.length_set]
      · intro i shared hi
        rw [hadmissions, List.getElem?_set]
        split
        · next heq =>
          subst heq
          obtain rfl := Option.some.inj (hpointer.symm.trans hi)
          obtain ⟨hlt, -⟩ := List.getElem?_eq_some_iff.mp hi
          exact ⟨_, if_pos hlt, rfl, fun hne => absurd rfl hne⟩
        · exact ⟨shared, hi, rfl, fun _ => rfl⟩
    · obtain ⟨-, rfl⟩ := heffect
      exact ⟨hs.of_same hused hadmissions,
        .of_same hused hadmissions fun _ _ => by rw [hreadings]⟩
  | load pointer =>
    obtain ⟨-, rfl⟩ := heffect
    exact ⟨hs.of_same hused hadmissions,
      .of_same hused hadmissions fun _ _ => by rw [hreadings]⟩
  | contextErr =>
    obtain rfl : u = s := heffect
    exact ⟨hs.of_same hused hadmissions,
      .of_same hused hadmissions fun _ _ => by rw [hreadings]⟩
  | now =>
    obtain ⟨-, rfl⟩ := heffect
    refine ⟨hs.of_same hused hadmissions, .of_same hused hadmissions ?_⟩
    intro other hother
    rw [hreadings]
    exact Function.update_of_ne hother ..

/-! ## Calls are safe -/

/-- A call that was admitted has consumed an admission, and it has read the clock before the
deadline. -/
def Admitted (pid : Pid) (out : Except Error CaptureAnswer) (s : CaptureMemory Pid) : Prop :=
  out = .ok .admitted → ∃ (pointer : ℕ) (admission : ActivationAdmission) (now : Instant),
    s.admissions[pointer]? = some ⟨admission, some pid⟩ ∧ s.readings pid = some now ∧
      now < admission.deadline

/-- The calls of the memory, safe under the interference of each other. -/
abbrev CaptureSafe (started : Instant) (pid : Pid) (program : CaptureProg CaptureAnswer)
    (s : CaptureMemory Pid) : Prop :=
  Safe (CaptureMemory.exec pid) (CaptureSound started) (fun pid (_ : Unit) => CaptureGuarantee pid) pid ()
    (Admitted pid) program.run s

/-- A check that fails ends the call without an admission. -/
theorem captureSafe_check {α : Type} {x : Except Error α} {f : α → CaptureProg CaptureAnswer}
    (hok : ∀ a, x = .ok a → CaptureSafe started pid (f a) s) :
    CaptureSafe started pid (Prog.ofExcept x >>= f) s :=
  safe_run_ofExcept_bind hok fun _ _ _ _ _ h => nomatch h

/-- An operation that allocates nothing. -/
theorem captureSafe_perform {o : CaptureOp} {f : o.Res → CaptureProg CaptureAnswer}
    (ho : ∀ admission, o ≠ .allocate admission)
    (h : ∀ t, Rely (fun pid (_ : Unit) => CaptureGuarantee pid) pid s t → CaptureSound started t →
      ∀ r u, CaptureMemory.exec pid o t r u → CaptureSafe started pid (f r) u) :
    CaptureSafe started pid (Prog.perform o >>= f) s := by
  refine safe_run_perform_bind fun t hrely hinv r u hexec => ?_
  obtain ⟨hsound, hguar⟩ := capture_exec hexec hinv fun admission heq => absurd heq (ho admission)
  exact ⟨hsound, hguar, h t hrely hinv r u hexec⟩

theorem captureSafe_compare {proof : ValidatedActivationDecisionEvidence} {pointer : ℕ}
    {admission : ActivationAdmission}
    (hs : s.admissions[pointer]? = some ⟨admission, some pid⟩) :
    CaptureSafe started pid (compareAdmission proof admission) s := by
  refine captureSafe_check fun _ _ => captureSafe_perform (by simp) ?_
  intro t hrely _ now u hexec
  have ht := rely_consumer hrely hs
  obtain ⟨v, ⟨rfl, rfl⟩, -, hlater⟩ := hexec
  have hu : u.admissions[pointer]? = some ⟨admission, some pid⟩ := by rw [hlater]; exact ht
  have hreading : u.readings pid = some t.clock := by
    rw [hlater]
    exact Function.update_self ..
  refine captureSafe_check fun _ hbefore => safe_run_pure fun v hrely' _ _ => ?_
  exact ⟨pointer, admission, t.clock, rely_consumer hrely' hu, rely_reading hrely' hreading,
    require_eq_ok.mp hbefore⟩

theorem captureSafe_consume (contextNil : Bool) (proof : ValidatedActivationDecisionEvidence)
    (admission : Option ℕ) :
    CaptureSafe started pid (consumeActivationAdmission contextNil proof admission) s := by
  refine captureSafe_check fun _ _ => captureSafe_check fun pointer _ => ?_
  refine captureSafe_perform (by simp) fun t _ _ swapped u hexec => ?_
  refine captureSafe_check fun _ hswapped => ?_
  -- The swap was made, so the admission is this call's own from here on.
  obtain ⟨held, hu⟩ : ∃ held, u.admissions[pointer]? = some ⟨held, some pid⟩ := by
    obtain ⟨v, heffect, -, hlater⟩ := hexec
    rw [CaptureMemory.effect] at heffect
    split at heffect
    · next held hpointer =>
      obtain ⟨-, rfl⟩ := heffect
      obtain ⟨hlt, -⟩ := List.getElem?_eq_some_iff.mp hpointer
      refine ⟨held, ?_⟩
      rw [hlater]
      simp [hlt]
    · exact nomatch heffect.1.symm.trans (require_eq_ok.mp hswapped)
  refine captureSafe_check fun _ _ => ?_
  refine captureSafe_perform (by simp) fun v hrely _ _ w hexec' => ?_
  have hw : w.admissions[pointer]? = some ⟨held, some pid⟩ := by
    obtain ⟨x, rfl, -, hlater⟩ := hexec'
    have hx := rely_consumer hrely hu
    rw [hlater]
    exact hx
  refine captureSafe_check fun _ _ => ?_
  refine captureSafe_perform (by simp) fun x hrely' _ loaded y hexec'' => ?_
  have hx := rely_consumer hrely' hw
  obtain ⟨z, ⟨rfl, rfl⟩, -, hlater⟩ := hexec''
  refine captureSafe_check fun admission hadmission => ?_
  rw [hx] at hadmission
  obtain rfl := Except.ok.inj hadmission
  have hy : y.admissions[pointer]? = some ⟨held, some pid⟩ := by
    rw [hlater]
    exact hx
  exact captureSafe_compare hy

/-- The deadline is at most five seconds after the start. -/
theorem captureDeadline_le {deadline : Instant} {input : ActivationDecisionEvidenceInput}
    {evidence : ActivationDecisionEvidence}
    (h : captureDeadline P started input = .ok (evidence, deadline)) :
    deadline ≤ started + 5 * second := by
  simp only [captureDeadline, bind_eq_ok, require_eq_ok, orThrow_eq_ok, pure_eq_ok,
    Prod.mk.injEq] at h
  obtain ⟨-, -, built, -, -, -, ended, hadd, -, rfl⟩ := h
  simp only [addCaptureDuration, Option.bind_eq_bind, Option.bind_eq_some_iff,
    Option.pure_def, Option.some.injEq] at hadd
  obtain ⟨-, -, -, -, rfl⟩ := hadd
  have hmin : min (input.material.evidenceValidUntil.instant -
    input.material.trustedInstant.instant) (5 * second) ≤ 5 * second := min_le_right _ _
  exact Int.add_le_add_left hmin started

theorem captureSafe_complete (input : ActivationDecisionEvidenceInput) :
    CaptureSafe started pid (completeCapture P started input) s := by
  refine captureSafe_check fun _ _ => ?_
  refine captureSafe_perform (by simp) fun t _ hinv swapped u hexec => ?_
  refine captureSafe_check fun _ hswapped => ?_
  -- The swap was made, so the capture is this call's own, and nothing has been allocated for it.
  have hu : u.used = some pid ∧ u.admissions = [] := by
    obtain ⟨v, heffect, -, hlater⟩ := hexec
    cases hused : t.used with
    | none =>
      rw [CaptureMemory.effect, hused] at heffect
      obtain ⟨-, rfl⟩ := heffect
      rw [hlater]
      exact ⟨rfl, not_not.mp fun hne => hinv.used hne hused⟩
    | some other =>
      rw [CaptureMemory.effect, hused] at heffect
      exact nomatch heffect.1.symm.trans (require_eq_ok.mp hswapped)
  refine captureSafe_check fun (evidence, deadline) hdeadline => ?_
  refine captureSafe_perform (by simp) fun v hrely _ now w hexec' => ?_
  have hw : w.used = some pid ∧ w.admissions = [] := by
    have hv := rely_used hrely hu
    obtain ⟨x, ⟨-, rfl⟩, -, hlater⟩ := hexec'
    rw [hlater]
    exact hv
  refine captureSafe_check fun _ _ => ?_
  refine safe_run_perform_bind fun x hrely' hinv' pointer y hexec'' => ?_
  have hx := rely_used hrely' hw
  have hallocate : ∀ admission, CaptureOp.allocate (capturedAdmission evidence deadline) =
      .allocate admission → x.used = some pid ∧ x.admissions = [] ∧
        admission.deadline ≤ started + 5 * second := by
    rintro _ ⟨⟩
    exact ⟨hx.1, hx.2, captureDeadline_le hdeadline⟩
  obtain ⟨hsound, hguar⟩ := capture_exec hexec'' hinv' hallocate
  exact ⟨hsound, hguar, safe_run_pure fun _ _ _ h => nomatch h⟩

theorem captureSafe_program (call : CaptureCall) :
    Safe (CaptureMemory.exec pid) (CaptureSound started)
      (fun pid (_ : Unit) => CaptureGuarantee pid) pid () (Admitted pid)
      (call.program P started) s := by
  cases call with
  | complete input => exact captureSafe_complete input
  | consume contextNil proof admission => exact captureSafe_consume contextNil proof admission

/-- Of all calls on a capture, whatever they are and however they run side by side, one at most is
admitted, and it has read the clock before a deadline at most five seconds after the start. -/
theorem captures_admit_once {calls : Pid → CaptureCall}
    {run : Calls Pid CaptureOp CaptureOp.Res (Except Error CaptureAnswer) (CaptureMemory Pid)}
    (h : Calls.Reachable CaptureMemory.exec (CaptureMemory.start started)
      (fun pid => (calls pid).program P started) run) :
    (∀ pid other, run.rest pid = .ret (.ok .admitted) → run.rest other = .ret (.ok .admitted) →
      pid = other) ∧
    ∀ pid, run.rest pid = .ret (.ok .admitted) → ∃ shared ∈ run.state.admissions,
      shared.consumer = some pid ∧ (∃ now, run.state.readings pid = some now ∧
        now < shared.admission.deadline) ∧
      shared.admission.deadline ≤ started + 5 * second := by
  have hinit : CaptureSound started (CaptureMemory.start started : CaptureMemory Pid) :=
    ⟨Nat.zero_le _, fun hne => absurd rfl hne, by simp [CaptureMemory.start]⟩
  have hsafe := fun pid => @captureSafe_program Pid P started (CaptureMemory.start started) pid _
    (calls pid)
  have hinv := (h.safe hinit hsafe).1
  refine ⟨fun pid other hpid hother => ?_, fun pid hpid => ?_⟩
  · obtain ⟨i, a, -, hi, -⟩ := h.returned hinit hsafe hpid rfl
    obtain ⟨j, b, -, hj, -⟩ := h.returned hinit hsafe hother rfl
    -- There is one admission, and it has one consumer.
    obtain ⟨hilt, -⟩ := List.getElem?_eq_some_iff.mp hi
    obtain ⟨hjlt, -⟩ := List.getElem?_eq_some_iff.mp hj
    have hone := hinv.one
    obtain rfl : i = j := by omega
    have hsame := Option.some.inj (hi.symm.trans hj)
    exact Option.some.inj (SharedAdmission.mk.inj hsame).2
  · obtain ⟨i, a, now, hi, hreading, hbefore⟩ := h.returned hinit hsafe hpid rfl
    have hmem := List.mem_of_getElem? hi
    exact ⟨_, hmem, rfl, ⟨now, hreading, hbefore⟩, hinv.deadline _ hmem⟩

end Talenro.Authority
