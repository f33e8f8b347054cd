import Talenro.Lib.Prog
import Talenro.Model.Authority.Evidence

/-!
# Captures and admissions

Evidence with a trusted time is captured: `BeginActivationEvidenceCapture` notes the time, and
`Complete` makes the evidence and its admission.  The capture and the admission are shared by all
copies of the values that hold them, and each has a flag that is swapped atomically: a capture is
completed once, and an admission is consumed once.

Calls are programs over the shared memory of one capture, so that any number of them can run side
by side.  Where the source has a flag that is set, the memory names the call that set it.

Sources named without a directory are in `internal/nodecontrol/authority`.
-/

set_option autoImplicit false

namespace Talenro.Authority

open Lib Lib.Calendar

/-- An admission in memory, and the call that has consumed it. -/
structure SharedAdmission (Pid : Type) where
  admission : ActivationAdmission
  consumer : Option Pid

/-- The memory of a capture: when it was started, the call that has used it, the admissions made
for it in the order of their creation, the clock, and what each call has read from it last.

SOURCE: activation_evidence.go:116-124, 75-82 -/
structure CaptureMemory (Pid : Type) where
  started : Instant
  used : Option Pid
  admissions : List (SharedAdmission Pid)
  clock : Instant
  readings : Pid → Option Instant

/-- What calls do with the memory; an admission is pointed to by its place in the list. -/
inductive CaptureOp where
  | swapUsed
  | allocate (admission : ActivationAdmission)
  | swapState (pointer : ℕ)
  | load (pointer : ℕ)
  | contextErr
  | now

/-- What the operations answer: whether the swap was made, the new admission, its fields, whether
the context has ended, and the time. -/
abbrev CaptureOp.Res : CaptureOp → Type
  | .swapUsed => Bool
  | .allocate _ => ℕ
  | .swapState _ => Bool
  | .load _ => Option ActivationAdmission
  | .contextErr => Bool
  | .now => Instant

namespace CaptureMemory

variable {Pid : Type} [DecidableEq Pid]

/-- A capture that was started, with no calls made yet.

SOURCE: activation_evidence.go:126-135 -/
def start (started : Instant) : CaptureMemory Pid := ⟨started, none, [], started, fun _ => none⟩

/-- The effect of an operation of a call. -/
def effect (pid : Pid) : (o : CaptureOp) → CaptureMemory Pid → o.Res → CaptureMemory Pid → Prop
  | .swapUsed, s, r, t =>
    match s.used with
    | none => r = true ∧ t = { s with used := some pid }
    | some _ => r = false ∧ t = s
  | .allocate admission, s, r, t => r = s.admissions.length ∧
      t = { s with admissions := s.admissions ++ [⟨admission, none⟩] }
  | .swapState pointer, s, r, t =>
    match s.admissions[pointer]? with
    | some ⟨admission, none⟩ => r = true ∧
        t = { s with admissions := s.admissions.set pointer ⟨admission, some pid⟩ }
    | _ => r = false ∧ t = s
  | .load pointer, s, r, t => r = s.admissions[pointer]?.map SharedAdmission.admission ∧ t = s
  | .contextErr, s, _, t => t = s
  | .now, s, r, t => r = s.clock ∧
      t = { s with readings := Function.update s.readings pid (some s.clock) }

/-- An operation, after which some time has passed. -/
def exec (pid : Pid) (o : CaptureOp) (s : CaptureMemory Pid) (r : o.Res) (t : CaptureMemory Pid) :
    Prop :=
  ∃ u, effect pid o s r u ∧ u.clock ≤ t.clock ∧ t = { u with clock := t.clock }

end CaptureMemory

/-- What a call returns: evidence with its admission, or that an admission was consumed. -/
inductive CaptureAnswer where
  | evidence (value : ActivationDecisionEvidence) (admission : ℕ)
  | admitted

/-- A call, as a program. -/
abbrev CaptureProg (α : Type) : Type := ExceptT Error (Prog CaptureOp CaptureOp.Res) α

/-- The admission of evidence that was captured.

SOURCE: activation_evidence.go:166-169 -/
def capturedAdmission (evidence : ActivationDecisionEvidence) (deadline : Instant) :
    ActivationAdmission where
  consumed := false
  operationID := evidence.facts.operationID
  commitmentDigest := evidence.facts.commitmentDigest
  evidenceDigest := evidence.digest
  deadline := deadline

/-- What `Complete` checks before it reads the clock, and the deadline it computes.

SOURCE: activation_evidence.go:145-162 -/
def captureDeadline (P : ArtifactPlatform) (started : Instant)
    (input : ActivationDecisionEvidenceInput) :
    Except Error (ActivationDecisionEvidence × Instant) := do
  require (input.material.trustedTimeKind = .rollbackResistant) .invalidArgument
  let evidence ← buildActivationDecisionEvidence P input .fresh none
  let budget := input.material.evidenceValidUntil.instant - input.material.trustedInstant.instant
  require (0 < budget) .invalidArgument
  let deadline ← orThrow (addCaptureDuration started (min budget (5 * second))) .invalidArgument
  pure (evidence, deadline)

/-- SOURCE: activation_evidence.go:137-171 -/
def completeCapture (P : ArtifactPlatform) (started : Instant)
    (input : ActivationDecisionEvidenceInput) : CaptureProg CaptureAnswer := do
  Prog.ofExcept (require (started ≠ 0) .invalidArgument)
  let swapped ← Prog.perform CaptureOp.swapUsed
  Prog.ofExcept (require (swapped = true) .conflict)
  let (evidence, deadline) ← Prog.ofExcept (captureDeadline P started input)
  let now ← Prog.perform CaptureOp.now
  Prog.ofExcept (require (now < deadline) .conflict)
  let pointer ← Prog.perform (CaptureOp.allocate (capturedAdmission evidence deadline))
  pure (.evidence evidence pointer)

/-- The comparison of an admission with the evidence that holds it, and of its deadline with the
time.  Every admission in memory has a clock.

SOURCE: activation_evidence.go:477-486 -/
def compareAdmission (proof : ValidatedActivationDecisionEvidence)
    (admission : ActivationAdmission) : CaptureProg CaptureAnswer := do
  Prog.ofExcept (require (proof.origin = .fresh ∧
    proof.evidence.facts.trustedTimeKind = .rollbackResistant ∧
    admission.operationID = proof.evidence.facts.operationID ∧
    admission.commitmentDigest = proof.evidence.facts.commitmentDigest ∧
    admission.evidenceDigest = proof.evidence.digest) .conflict)
  let now ← Prog.perform CaptureOp.now
  Prog.ofExcept (require (now < admission.deadline) .conflict)
  pure .admitted

/-- What follows the swap.

SOURCE: activation_evidence.go:471-487 -/
def spendAdmission (contextNil : Bool) (proof : ValidatedActivationDecisionEvidence)
    (pointer : ℕ) : CaptureProg CaptureAnswer := do
  Prog.ofExcept (require (contextNil = false) .invalidArgument)
  let ended ← Prog.perform CaptureOp.contextErr
  Prog.ofExcept (require (ended = false) .canceled)
  let loaded ← Prog.perform (CaptureOp.load pointer)
  let admission ← Prog.ofExcept (orThrow loaded .invalidArgument)
  compareAdmission proof admission

/-- The admission of the validated evidence is the pointer.

SOURCE: activation_evidence.go:464-487 -/
def consumeActivationAdmission (contextNil : Bool) (proof : ValidatedActivationDecisionEvidence)
    (admission : Option ℕ) : CaptureProg CaptureAnswer := do
  Prog.ofExcept (require (proof.valid = true) .invalidArgument)
  let pointer ← Prog.ofExcept (orThrow admission .invalidArgument)
  let swapped ← Prog.perform (CaptureOp.swapState pointer)
  Prog.ofExcept (require (swapped = true) .conflict)
  spendAdmission contextNil proof pointer

/-- A call of the capture or of an admission. -/
inductive CaptureCall where
  | complete (input : ActivationDecisionEvidenceInput)
  | consume (contextNil : Bool) (proof : ValidatedActivationDecisionEvidence)
      (admission : Option ℕ)

/-- The program of a call. -/
def CaptureCall.program (P : ArtifactPlatform) (started : Instant) :
    CaptureCall → Prog CaptureOp CaptureOp.Res (Except Error CaptureAnswer)
  | .complete input => (completeCapture P started input).run
  | .consume contextNil proof admission =>
    (consumeActivationAdmission contextNil proof admission).run

end Talenro.Authority
