import NextBoot.Kexec.Loader
import NextBoot.Proofs.Outcome
import NextBoot.Proofs.Stream

/-! What staging gives, and which payload it fails on. The protocols stage in ways of their own, files
and buffers, but what they stage is the same. -/
namespace NextBoot.Kexec

/-- All that a load hands over, completely read. The command line has no zero in it, and none after
it yet. -/
structure Staged where
  kernel : Bytes
  initrd : Bytes
  cmdline : Bytes
  deriving DecidableEq, Repr

/-- Stage the kernel, the initrd and the command line, in that order. -/
def stage (source : BootSource) (cmdline : String) : Except KexecError Staged := do
  let kernel ← source.kernel.readToEnd.mapError (.staging .kernel)
  let initrd ← source.initrd.readToEnd.mapError (.staging .initrd)
  let stored ← (stageCommandLine cmdline).mapError (.staging .cmdline)
  return ⟨kernel, initrd, stored⟩

namespace Staged

def terminated (s : Staged) : Bytes := s.cmdline ++ [0]

/-- An empty command line is not passed at all. -/
def fileCall (s : Staged) (flags : Nat) : Call :=
  .fileLoad s.kernel s.initrd (if s.cmdline.isEmpty then none else some s.terminated) flags

def segmentCall (s : Staged) (layout : Layout) : Call :=
  .segmentLoad (layout.segments s.kernel s.initrd s.terminated) architectureFlag

end Staged

/-- The first payload that cannot be staged, and why: its stream fails, or the command line has a
zero, whose position is told. -/
inductive StagingFault (source : BootSource) (cmdline : String) : Payload → IoError → Prop where
  | kernel {cause : IoError} (fails : source.kernel.failure? = some cause) :
    StagingFault source cmdline .kernel cause
  | initrd {cause : IoError} (kernel : source.kernel.failure? = none)
    (fails : source.initrd.failure? = some cause) : StagingFault source cmdline .initrd cause
  | cmdline {before after : Bytes} (kernel : source.kernel.failure? = none)
    (initrd : source.initrd.failure? = none)
    (zero : Text.Utf8.encode cmdline = before ++ 0 :: after) (first : 0 ∉ before) :
    StagingFault source cmdline .cmdline (.nulByte before.length)

/-- What is staged where nothing fails. -/
def BootSource.staged (source : BootSource) (cmdline : String) : Staged :=
  ⟨source.kernel.delivered, source.initrd.delivered, Text.Utf8.encode cmdline⟩

theorem stageCommandLine_of_zero {cmdline : String} {before after : Bytes}
    (zero : Text.Utf8.encode cmdline = before ++ 0 :: after) (first : 0 ∉ before) :
    stageCommandLine cmdline = .error (.nulByte before.length) := by
  have hnone : before.findIdx? (· == 0) = none := by
    apply List.findIdx?_eq_none_iff.mpr
    intro x hx
    apply beq_false_of_ne
    rintro rfl
    exact first hx
  have hfound : (Text.Utf8.encode cmdline).findIdx? (· == 0) = some before.length := by
    rw [zero, List.findIdx?_append, hnone]
    simp [List.findIdx?_cons]
  simp only [stageCommandLine, hfound]

theorem stageCommandLine_of_no_zero {cmdline : String} (h : 0 ∉ Text.Utf8.encode cmdline) :
    stageCommandLine cmdline = .ok (Text.Utf8.encode cmdline) := by
  have hnone : (Text.Utf8.encode cmdline).findIdx? (· == 0) = none := by
    apply List.findIdx?_eq_none_iff.mpr
    intro x hx
    apply beq_false_of_ne
    rintro rfl
    exact h hx
  simp only [stageCommandLine, hnone]

theorem stageCommandLine_eq_ok_iff {cmdline : String} {stored : Bytes} :
    stageCommandLine cmdline = .ok stored ↔
      0 ∉ Text.Utf8.encode cmdline ∧ Text.Utf8.encode cmdline = stored := by
  by_cases hz : 0 ∈ Text.Utf8.encode cmdline
  · obtain ⟨before, after, he, hb⟩ := List.eq_append_cons_of_mem hz
    rw [stageCommandLine_of_zero he hb]
    simp [hz]
  · rw [stageCommandLine_of_no_zero hz]
    simp [hz]

section Stage
variable {source : BootSource} {cmdline : String}

theorem stage_eq_ok_iff {staged : Staged} :
    stage source cmdline = .ok staged ↔
      source.kernel.readToEnd = .ok staged.kernel ∧ source.initrd.readToEnd = .ok staged.initrd ∧
        0 ∉ Text.Utf8.encode cmdline ∧ Text.Utf8.encode cmdline = staged.cmdline := by
  simp only [stage, Outcome.bind_eq_ok_iff, Outcome.mapError_eq_ok_iff, stageCommandLine_eq_ok_iff]
  constructor
  · rintro ⟨kernel, hk, initrd, hi, line, ⟨hz, hl⟩, hs⟩
    obtain rfl : ⟨kernel, initrd, line⟩ = staged := Except.ok.inj hs
    exact ⟨hk, hi, hz, hl⟩
  · rintro ⟨hk, hi, hz, hl⟩
    exact ⟨_, hk, _, hi, _, ⟨hz, hl⟩, rfl⟩

theorem stage_of_fault {p : Payload} {cause : IoError} (h : StagingFault source cmdline p cause) :
    stage source cmdline = .error (.staging p cause) := by
  cases h with
  | kernel fails =>
    simp only [stage, Stream.readToEnd_of_failure fails]
    rfl
  | initrd kernel fails =>
    simp only [stage, Stream.readToEnd_of_no_failure kernel, Stream.readToEnd_of_failure fails]
    rfl
  | cmdline kernel initrd zero first =>
    simp only [stage, Stream.readToEnd_of_no_failure kernel, Stream.readToEnd_of_no_failure initrd,
      stageCommandLine_of_zero zero first]
    rfl

theorem stage_of_no_failure (kernel : source.kernel.failure? = none)
    (initrd : source.initrd.failure? = none) (zero : 0 ∉ Text.Utf8.encode cmdline) :
    stage source cmdline = .ok (source.staged cmdline) := by
  simp only [stage, Stream.readToEnd_of_no_failure kernel, Stream.readToEnd_of_no_failure initrd,
    stageCommandLine_of_no_zero zero]
  rfl

/-- Without a fault both streams end well, and the command line has no zero. -/
theorem readable_of_no_fault (h : ¬∃ p cause, StagingFault source cmdline p cause) :
    source.kernel.failure? = none ∧ source.initrd.failure? = none ∧
      0 ∉ Text.Utf8.encode cmdline := by
  have hk : source.kernel.failure? = none := by
    apply Option.eq_none_iff_forall_ne_some.mpr
    intro cause hc
    exact h ⟨_, cause, .kernel hc⟩
  have hi : source.initrd.failure? = none := by
    apply Option.eq_none_iff_forall_ne_some.mpr
    intro cause hc
    exact h ⟨_, cause, .initrd hk hc⟩
  refine ⟨hk, hi, fun hz => ?_⟩
  obtain ⟨before, after, he, hb⟩ := List.eq_append_cons_of_mem hz
  exact h ⟨_, _, .cmdline hk hi he hb⟩

/-- Staging fails on the first fault, and otherwise gives all that was delivered. -/
theorem stage_cases (source : BootSource) (cmdline : String) :
    (∃ p cause, StagingFault source cmdline p cause ∧
      stage source cmdline = .error (.staging p cause)) ∨
    (¬∃ p cause, StagingFault source cmdline p cause) ∧
      stage source cmdline = .ok (source.staged cmdline) := by
  by_cases h : ∃ p cause, StagingFault source cmdline p cause
  · obtain ⟨p, cause, hf⟩ := h
    exact .inl ⟨p, cause, hf, stage_of_fault hf⟩
  · obtain ⟨hk, hi, hz⟩ := readable_of_no_fault h
    exact .inr ⟨h, stage_of_no_failure hk hi hz⟩

end Stage

/-! ### Files and buffers -/

/-- Files that hold what was staged, not read yet. -/
def Staged.files (s : Staged) : StagedFiles :=
  ⟨⟨s.kernel, 0⟩, ⟨s.initrd, 0⟩, if s.cmdline.isEmpty then none else some s.terminated⟩

def Staged.buffers (s : Staged) : StagedBuffers := ⟨s.kernel, s.initrd, s.terminated⟩

@[simp] theorem call_files (s : Staged) (flags : Nat) : s.files.call flags = s.fileCall flags := rfl

@[simp] theorem call_buffers (s : Staged) (layout : Layout) :
    s.buffers.call layout = s.segmentCall layout := rfl

/-- What is written at the end of a file comes behind what it holds. -/
theorem MemoryFile.write_end (before chunk : Bytes) :
    MemoryFile.write ⟨before, before.length⟩ chunk =
      ⟨before ++ chunk, (before ++ chunk).length⟩ := by
  have hcontent : before.writeAt before.length chunk = before ++ chunk := by
    unfold Bytes.writeAt
    split
    next hnone => simp [List.isEmpty_iff.mp hnone]
    next => simp
  rw [MemoryFile.write, hcontent, List.length_append]

/-- A copy holds all that the stream delivers, and is read from its start. -/
theorem MemoryFile.ofStream_eq (s : Stream) :
    MemoryFile.ofStream s = s.readToEnd.map fun bytes => ⟨bytes, 0⟩ := by
  have hcopy := Stream.drain_eq (fun _ => copyRoom) write
    (fun bytes => ⟨bytes, bytes.length⟩) write_end [] s
  have hnew : ({} : MemoryFile) = ⟨[], ([] : Bytes).length⟩ := rfl
  rw [ofStream, hnew, hcopy]
  cases s.readToEnd <;> rfl

/-- Only an empty command line has no bytes. -/
theorem isEmpty_encode (cmdline : String) : (Text.Utf8.encode cmdline).isEmpty = cmdline.isEmpty := by
  have hnone : Text.Utf8.encode cmdline = [] ↔ cmdline = "" := by
    constructor
    · intro h
      exact Text.Utf8.encode_injective h
    · rintro rfl
      rfl
  rw [Bool.eq_iff_iff, List.isEmpty_iff, String.isEmpty_iff, hnone]

section Protocols
variable (source : BootSource) (cmdline : String)

theorem stageFiles_eq : stageFiles source cmdline = (stage source cmdline).map Staged.files := by
  unfold stageFiles stage
  rw [MemoryFile.ofStream_eq, MemoryFile.ofStream_eq]
  cases source.kernel.readToEnd with
  | error cause => rfl
  | ok kernel =>
    cases source.initrd.readToEnd with
    | error cause => rfl
    | ok initrd =>
      have hempty := isEmpty_encode cmdline
      cases hline : cmdline.isEmpty with
      | true =>
        obtain rfl := String.isEmpty_iff.mp hline
        rfl
      | false =>
        rw [hline] at hempty
        cases hstored : stageCommandLine cmdline with
        | error cause => rfl
        | ok stored =>
          obtain ⟨-, rfl⟩ := stageCommandLine_eq_ok_iff.mp hstored
          have hfiles : Staged.files ⟨kernel, initrd, Text.Utf8.encode cmdline⟩ =
              ⟨⟨kernel, 0⟩, ⟨initrd, 0⟩, some (Text.Utf8.encode cmdline ++ [0])⟩ := by
            simp only [Staged.files, hempty]
            rfl
          exact congrArg Except.ok hfiles.symm

theorem stageBuffers_eq :
    stageBuffers source cmdline = (stage source cmdline).map Staged.buffers := by
  unfold stageBuffers stage
  rw [Stream.collect_eq_readToEnd, Stream.collect_eq_readToEnd]
  cases source.kernel.readToEnd with
  | error cause => rfl
  | ok kernel =>
    cases source.initrd.readToEnd with
    | error cause => rfl
    | ok initrd => cases stageCommandLine cmdline <;> rfl

end Protocols

end NextBoot.Kexec
