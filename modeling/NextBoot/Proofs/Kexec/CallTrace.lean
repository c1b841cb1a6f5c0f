import NextBoot.Proofs.Kexec.Staging

/-! The calls that loading and switching make, whatever the kernel answers to each. -/
namespace NextBoot.Kexec

namespace Kernel

@[simp] theorem call_fst (k : Kernel) (c : Call) : (k.call c).1 = k.answer k.calls c := rfl

@[simp] theorem call_snd (k : Kernel) (c : Call) :
    (k.call c).2 = { k with calls := k.calls ++ [c] } := rfl

theorem call_eq (k : Kernel) (c : Call) :
    k.call c = (k.answer k.calls c, { k with calls := k.calls ++ [c] }) := rfl

end Kernel

/-- Segments with the kernel, the initrd and a terminated command line, in that order, at the addresses
of the layout. -/
structure Carries (layout : Layout) (kernel initrd line : Bytes) (segments : List Segment) : Prop where
  contents : segments.map Segment.content = [kernel, initrd, line ++ [0]]
  addresses : segments.map Segment.address = [layout.kernel, layout.initrd, layout.cmdline]

theorem carries_segments (layout : Layout) (staged : Staged) :
    Carries layout staged.kernel staged.initrd staged.cmdline
      (layout.segments staged.kernel staged.initrd staged.terminated) := ⟨rfl, rfl⟩

/-- Some load calls for what was staged, and the answer to the last of them. -/
structure LoadCalls (l : Loader) (staged : Staged) (k : Kernel) (loads : List Call)
    (answer : Except Errno Unit) : Prop where
  legacy : l.protocol = .legacy → loads = [staged.segmentCall l.layout]
  file : l.protocol = .file →
    loads = [staged.fileCall 0] ∨ loads = [staged.fileCall 0, staged.fileCall unsafeFlag]
  retried : l.protocol = .file →
    (loads = [staged.fileCall 0, staged.fileCall unsafeFlag] ↔
      k.answer k.calls (staged.fileCall 0) = .error .notPermitted)
  last : ∃ before call, loads = before ++ [call] ∧ answer = k.answer (k.calls ++ before) call

/-- What follows the load calls: the calls made in all, and the error there is in the end. -/
inductive Switch (l : Loader) (k : Kernel) (loads : List Call) :
    Except Errno Unit → List Call → Option KexecError → Prop where
  | refused (errno : Errno) : Switch l k loads (.error errno) loads (some (l.classify errno).value)
  | stayed {errno : Errno} (reboot : k.answer (k.calls ++ loads) .reboot = .error errno) :
    Switch l k loads (.ok ()) (loads ++ [.reboot]) (some (.reboot errno))
  | gone (reboot : k.answer (k.calls ++ loads) .reboot = .ok ()) :
    Switch l k loads (.ok ()) (loads ++ [.reboot]) none

section LoadCalls
variable {l : Loader} {staged : Staged} {k : Kernel} {loads : List Call} {answer : Except Errno Unit}

theorem LoadCalls.ne_nil (h : LoadCalls l staged k loads answer) : loads ≠ [] := by
  obtain ⟨before, call, rfl, -⟩ := h.last
  simp

/-- No load call is a switch. -/
theorem LoadCalls.reboot_not_mem (h : LoadCalls l staged k loads answer) : .reboot ∉ loads := by
  cases hp : l.protocol with
  | legacy => simp [h.legacy hp, Staged.segmentCall]
  | file => rcases h.file hp with he | he <;> simp [he, Staged.fileCall]

theorem LoadCalls.made_ne_nil (h : LoadCalls l staged k loads answer) {made : List Call}
    {result : Option KexecError} (switch : Switch l k loads answer made result) : made ≠ [] := by
  cases switch with
  | refused => exact h.ne_nil
  | stayed | gone => simp

/-- A switch is tried exactly where the last load succeeded. -/
theorem LoadCalls.reboot_mem_iff (h : LoadCalls l staged k loads answer) {made : List Call}
    {result : Option KexecError} (switch : Switch l k loads answer made result) :
    .reboot ∈ made ↔ answer = .ok () := by
  cases switch with
  | refused => simp [h.reboot_not_mem]
  | stayed | gone => simp

end LoadCalls

/-! ### The load calls -/

section CallFiles
variable {files : StagedFiles} {k : Kernel}

theorem callFiles_of_notPermitted (ha : k.answer k.calls (files.call 0) = .error .notPermitted) :
    (Loader.callFiles files k).value = (k.call (files.call 0)).2.call (files.call unsafeFlag) := by
  simp only [Loader.callFiles, Kernel.call_eq, ha]
  rfl

theorem callFiles_of_permitted (ha : k.answer k.calls (files.call 0) ≠ .error .notPermitted) :
    (Loader.callFiles files k).value = k.call (files.call 0) := by
  simp only [Loader.callFiles, Kernel.call_eq]
  split
  next h => exact absurd (congrArg Prod.fst h) ha
  next => rfl

end CallFiles

section LoadSpec
variable {l : Loader}

theorem callFiles_spec (hp : l.protocol = .file) (staged : Staged) (k : Kernel) :
    ∃ loads, LoadCalls l staged k loads (Loader.callFiles staged.files k).value.1 ∧
      (Loader.callFiles staged.files k).value.2 = { k with calls := k.calls ++ loads } := by
  by_cases ha : k.answer k.calls (staged.fileCall 0) = .error .notPermitted
  · rw [callFiles_of_notPermitted ha]
    refine ⟨[staged.fileCall 0, staged.fileCall unsafeFlag],
      ⟨by simp [hp], fun _ => .inr rfl, fun _ => by simp [ha], [staged.fileCall 0], _, rfl, rfl⟩, ?_⟩
    simp
  · rw [callFiles_of_permitted ha]
    refine ⟨[staged.fileCall 0],
      ⟨by simp [hp], fun _ => .inl rfl, fun _ => by simp [ha], [], _, rfl, by simp⟩, rfl⟩

theorem callSegments_spec (hp : l.protocol = .legacy) (staged : Staged) (k : Kernel) :
    ∃ loads, LoadCalls l staged k loads (k.call (staged.buffers.call l.layout)).1 ∧
      (k.call (staged.buffers.call l.layout)).2 = { k with calls := k.calls ++ loads } := by
  refine ⟨[staged.segmentCall l.layout], ⟨fun _ => rfl, ?_, ?_, [], _, rfl, by simp⟩, rfl⟩
  · simp [hp]
  · simp [hp]

theorem conclude_value (l : Loader) (answer : Except Errno Unit) (k : Kernel) :
    (l.conclude (answer, k)).value =
      (answer.mapError fun errno => (l.classify errno).value, k) := by
  cases answer <;> rfl

end LoadSpec

/-! ### Switching, and all together -/

theorem transition_spec (l : Loader) (k : Kernel) (loads : List Call) :
    ∃ made answer, Switch l k loads (.ok ()) made answer ∧
      (Loader.transition { k with calls := k.calls ++ loads }).value =
        (answer, { k with calls := k.calls ++ made }) := by
  cases hr : k.answer (k.calls ++ loads) .reboot with
  | error errno =>
    exact ⟨_, _, .stayed hr, by simp [Loader.transition, Kernel.call_eq, hr]⟩
  | ok u =>
    exact ⟨_, _, .gone hr, by simp [Loader.transition, Kernel.call_eq, hr]⟩

theorem classify_eq_invalidArgument_iff (l : Loader) (errno : Errno) :
    (l.classify errno).value = .invalidArgument ↔
      errno = .invalidArgument ∧ l.protocol = .legacy := by
  unfold Loader.classify
  split
  case h_6 =>
    split
    next h => simp [h]
    next h => simp [h]
  all_goals simp [Errno.invalidArgument]

/-- For files, an argument that is invalid is not the layout's. -/
theorem classify_invalidArgument_of_file {l : Loader} (hp : l.protocol = .file) :
    (l.classify .invalidArgument).value = .unknownCall .invalidArgument := by
  simp [Loader.classify, hp, Errno.invalidArgument]

section Load
variable {l : Loader} {source : BootSource} {extra : List String} {k : Kernel}

theorem load_value :
    (l.load source extra k).value =
      (l.loadByProtocol source (CommandLine.join source.cmdline extra) k).value := by
  simp only [Loader.load, Logged.value_bind]
  generalize (l.loadByProtocol source (CommandLine.join source.cmdline extra) k).value = answer
  obtain ⟨result, after⟩ := answer
  cases result <;> rfl

theorem load_of_fault {p : Payload} {cause : IoError}
    (h : StagingFault source (CommandLine.join source.cmdline extra) p cause) :
    (l.load source extra k).value = (.error (.staging p cause), k) := by
  have hstage := stage_of_fault h
  rw [load_value, Loader.loadByProtocol]
  cases l.protocol with
  | file =>
    rw [Loader.loadFiles, stageFiles_eq, hstage]
    rfl
  | legacy =>
    rw [Loader.loadSegments, stageBuffers_eq, hstage]
    rfl

theorem load_of_staged {staged : Staged}
    (h : stage source (CommandLine.join source.cmdline extra) = .ok staged) :
    ∃ loads answer, LoadCalls l staged k loads answer ∧
      (l.load source extra k).value =
        (answer.mapError fun errno => (l.classify errno).value,
          { k with calls := k.calls ++ loads }) := by
  rw [load_value, Loader.loadByProtocol]
  cases hp : l.protocol with
  | file =>
    obtain ⟨loads, hloads, hafter⟩ := callFiles_spec hp staged k
    refine ⟨loads, _, hloads, ?_⟩
    rw [← hafter, ← conclude_value, Loader.loadFiles, stageFiles_eq, h]
    rfl
  | legacy =>
    obtain ⟨loads, hloads, hafter⟩ := callSegments_spec hp staged k
    refine ⟨loads, _, hloads, ?_⟩
    rw [← hafter, ← conclude_value, Loader.loadSegments, stageBuffers_eq, h]
    rfl

theorem loadAndTransition_value :
    (l.loadAndTransition source extra k).value =
      match (l.load source extra k).value with
      | (.error e, after) => (some e, after)
      | (.ok (), after) => (Loader.transition after).value := by
  simp only [Loader.loadAndTransition, Logged.value_bind]
  generalize (l.load source extra k).value = answer
  obtain ⟨result, after⟩ := answer
  cases result <;> rfl

theorem loadAndTransition_of_staged {staged : Staged}
    (h : stage source (CommandLine.join source.cmdline extra) = .ok staged) :
    ∃ loads answer made, LoadCalls l staged k loads answer ∧
      Switch l k loads answer made (l.loadAndTransition source extra k).value.1 ∧
      (l.loadAndTransition source extra k).value.2.calls = k.calls ++ made := by
  obtain ⟨loads, answer, hloads, hload⟩ := load_of_staged (l := l) (k := k) h
  rw [loadAndTransition_value, hload]
  cases answer with
  | error errno => exact ⟨loads, _, loads, hloads, .refused errno, rfl⟩
  | ok u =>
    obtain ⟨made, answer, hswitch, ht⟩ := transition_spec l k loads
    simp only [Outcome.mapError_ok, ht]
    exact ⟨loads, _, made, hloads, hswitch, rfl⟩

end Load

/-- What is called, and with which outcome: nothing where staging fails, and otherwise a load, tried
once more only when it was not permitted, and a switch only after a load that succeeded. -/
theorem loadAndTransition_trace (l : Loader) (source : BootSource) (extra : List String)
    (k : Kernel) :
    ((l.loadAndTransition source extra k).value.2.calls = k.calls ↔
      ∃ p cause, StagingFault source (CommandLine.join source.cmdline extra) p cause) ∧
    (∀ p cause, StagingFault source (CommandLine.join source.cmdline extra) p cause →
      (l.loadAndTransition source extra k).value.1 = some (.staging p cause)) ∧
    ((¬∃ p cause, StagingFault source (CommandLine.join source.cmdline extra) p cause) →
      ∃ loads answer made,
        LoadCalls l (source.staged (CommandLine.join source.cmdline extra)) k loads answer ∧
        Switch l k loads answer made (l.loadAndTransition source extra k).value.1 ∧
        (l.loadAndTransition source extra k).value.2.calls = k.calls ++ made ∧
        (.reboot ∈ made ↔ answer = .ok ())) ∧
    (∀ errno, (l.classify errno).value = .invalidArgument ↔
      errno = .invalidArgument ∧ l.protocol = .legacy) ∧
    (l.protocol = .file →
      (l.classify .invalidArgument).value = .unknownCall .invalidArgument) := by
  have hclass := classify_eq_invalidArgument_iff l
  have hfail (p : Payload) (cause : IoError)
      (h : StagingFault source (CommandLine.join source.cmdline extra) p cause) :
      (l.loadAndTransition source extra k).value = (some (.staging p cause), k) := by
    rw [loadAndTransition_value, load_of_fault h]
  have hfirst (p : Payload) (cause : IoError)
      (h : StagingFault source (CommandLine.join source.cmdline extra) p cause) :
      (l.loadAndTransition source extra k).value.1 = some (.staging p cause) := by
    rw [hfail p cause h]
  rcases stage_cases source (CommandLine.join source.cmdline extra) with
    ⟨p, cause, hfault, -⟩ | ⟨hnone, hstage⟩
  · have hcalls : (l.loadAndTransition source extra k).value.2.calls = k.calls := by
      rw [hfail p cause hfault]
    exact ⟨⟨fun _ => ⟨p, cause, hfault⟩, fun _ => hcalls⟩, hfirst,
      fun hnone => absurd ⟨p, cause, hfault⟩ hnone, hclass, classify_invalidArgument_of_file⟩
  · obtain ⟨loads, answer, made, hloads, hswitch, hcalls⟩ :=
      loadAndTransition_of_staged (l := l) (k := k) hstage
    have hreboot := hloads.reboot_mem_iff hswitch
    refine ⟨?_, hfirst, fun _ => ⟨loads, answer, made, hloads, hswitch, hcalls, hreboot⟩, hclass,
      classify_invalidArgument_of_file⟩
    constructor
    · intro h
      rw [hcalls, List.append_right_eq_self] at h
      exact absurd h (hloads.made_ne_nil hswitch)
    · intro h
      exact absurd h hnone

end NextBoot.Kexec
