import NextBoot.Kexec.ImageBoot
import NextBoot.Proofs.Image.PatchRun
import NextBoot.Proofs.Image.ReadRun
import NextBoot.Proofs.Kexec.CallTrace

/-! What of an image reaches the kernel, while the image stays as it is and while it changes. -/
namespace NextBoot.Kexec

open NextBoot.Image (Assets BootAssets SectionHeader extract firstHeader sectionHeaders)
open NextBoot.Image.SectionReader (View)

/-- A load call with a kernel, an initrd and a command line, as the loader's protocol has it. -/
inductive HandsOver (l : Loader) (kernel initrd line : Bytes) : Call → Prop where
  | file (protocol : l.protocol = .file) (flags : Nat) :
    HandsOver l kernel initrd line
      (.fileLoad kernel initrd (if line = [] then none else some (line ++ [0])) flags)
  | segments (protocol : l.protocol = .legacy) {segments : List Segment}
    (carries : Carries l.layout kernel initrd line segments) :
    HandsOver l kernel initrd line (.segmentLoad segments architectureFlag)

theorem handsOver_fileCall {l : Loader} (protocol : l.protocol = .file) (staged : Staged)
    (flags : Nat) :
    HandsOver l staged.kernel staged.initrd staged.cmdline (staged.fileCall flags) := by
  have he : (if staged.cmdline.isEmpty then none else some staged.terminated) =
      if staged.cmdline = [] then none else some (staged.cmdline ++ [0]) := by
    simp only [List.isEmpty_iff, Staged.terminated]
  rw [Staged.fileCall, he]
  exact .file protocol flags

theorem LoadCalls.handsOver {l : Loader} {staged : Staged} {k : Kernel} {loads : List Call}
    {answer : Except Errno Unit} (h : LoadCalls l staged k loads answer) :
    ∀ call ∈ loads, HandsOver l staged.kernel staged.initrd staged.cmdline call := by
  intro call hc
  cases hp : l.protocol with
  | legacy =>
    rw [h.legacy hp, List.mem_singleton] at hc
    rw [hc]
    exact .segments hp (carries_segments l.layout staged)
  | file =>
    rcases h.file hp with he | he
    · rw [he, List.mem_singleton] at hc
      rw [hc]
      exact handsOver_fileCall hp staged 0
    · rw [he] at hc
      rcases List.mem_pair.mp hc with rfl | rfl
      · exact handsOver_fileCall hp staged 0
      · exact handsOver_fileCall hp staged unsafeFlag

/-! ### Loading assets -/

section LoadAssets
variable {l : Loader} {a : Assets} {views : Payload → Nat → View} {extra : List String} {k : Kernel}

/-- What is read of a payload. -/
def readThrough (a : Assets) (views : Payload → Nat → View) (p : Payload) : Except IoError Bytes :=
  ((a.get p).streamThrough (views p)).readToEnd

theorem loadAssets_of_no_cmdline {cause : IoError} (h : readThrough a views .cmdline = .error cause) :
    (loadAssets l a views extra k).value = (.error (.image (.io cause)), k) := by
  have hs : (a.cmdline.streamThrough (views .cmdline)).readToEnd = .error cause := h
  simp only [loadAssets, BootAssets.ofStream, hs, Outcome.error_bind, Logged.value_pure]

/-- What the loader is given once the command line has been read. -/
def sourceThrough (a : Assets) (views : Payload → Nat → View) (stored : Bytes) : BootSource :=
  ⟨a.kernel.streamThrough (views .kernel), a.initrd.streamThrough (views .initrd),
    CommandLine.decode stored⟩

theorem loadAssets_of_cmdline {stored : Bytes} (h : readThrough a views .cmdline = .ok stored) :
    (loadAssets l a views extra k).value =
      ((l.load (sourceThrough a views stored) extra k).value.1.mapError .kexec,
        (l.load (sourceThrough a views stored) extra k).value.2) := by
  have hs : (a.cmdline.streamThrough (views .cmdline)).readToEnd = .ok stored := h
  simp only [loadAssets, BootAssets.ofStream, hs]
  rfl

theorem stage_sourceThrough_eq_ok_iff {stored : Bytes} {cmdline : String} {staged : Staged} :
    stage (sourceThrough a views stored) cmdline = .ok staged ↔
      readThrough a views .kernel = .ok staged.kernel ∧
        readThrough a views .initrd = .ok staged.initrd ∧
        0 ∉ Text.Utf8.encode cmdline ∧ Text.Utf8.encode cmdline = staged.cmdline :=
  stage_eq_ok_iff

/-- Where all three payloads can be read, and the command line has no zero, they are handed over. -/
theorem loadAssets_of_read {kernel initrd stored : Bytes} {line : String}
    (hk : readThrough a views .kernel = .ok kernel) (hi : readThrough a views .initrd = .ok initrd)
    (hc : readThrough a views .cmdline = .ok stored)
    (hl : CommandLine.join (CommandLine.decode stored) extra = line)
    (hz : 0 ∉ Text.Utf8.encode line) :
    ∃ loads, loads ≠ [] ∧ (loadAssets l a views extra k).value.2.calls = k.calls ++ loads ∧
      ∀ call ∈ loads, HandsOver l kernel initrd (Text.Utf8.encode line) call := by
  have hstage : stage (sourceThrough a views stored)
      (CommandLine.join (sourceThrough a views stored).cmdline extra) =
        .ok ⟨kernel, initrd, Text.Utf8.encode line⟩ := by
    rw [sourceThrough, hl]
    exact stage_sourceThrough_eq_ok_iff.mpr ⟨hk, hi, hz, rfl⟩
  obtain ⟨loads, answer, hloads, hload⟩ := load_of_staged (l := l) (k := k) hstage
  refine ⟨loads, hloads.ne_nil, ?_, hloads.handsOver⟩
  rw [loadAssets_of_cmdline hc, hload]

/-- Otherwise nothing is called; and what is handed over is always what has been read. -/
theorem loadAssets_cases (l : Loader) (a : Assets) (views : Payload → Nat → View)
    (extra : List String) (k : Kernel) :
    (∃ e, (loadAssets l a views extra k).value = (.error e, k)) ∨
    ∃ kernel initrd line loads, readThrough a views .kernel = .ok kernel ∧
      readThrough a views .initrd = .ok initrd ∧ loads ≠ [] ∧
      (loadAssets l a views extra k).value.2.calls = k.calls ++ loads ∧
      ∀ call ∈ loads, HandsOver l kernel initrd line call := by
  cases hc : readThrough a views .cmdline with
  | error cause => exact .inl ⟨_, loadAssets_of_no_cmdline hc⟩
  | ok stored =>
    rcases stage_cases (sourceThrough a views stored)
        (CommandLine.join (CommandLine.decode stored) extra) with
      ⟨p, cause, hfault, -⟩ | ⟨-, hstage⟩
    · rw [loadAssets_of_cmdline hc, load_of_fault hfault]
      exact .inl ⟨_, rfl⟩
    · obtain ⟨hk, hi, hz, -⟩ := stage_sourceThrough_eq_ok_iff.mp hstage
      obtain ⟨loads, hne, hcalls, hall⟩ := loadAssets_of_read (l := l) (k := k) hk hi hc rfl hz
      exact .inr ⟨_, _, _, loads, hk, hi, hne, hcalls, hall⟩

/-- Only what the streams deliver matters to a load. -/
theorem load_congr {s t : BootSource} (hk : s.kernel.readToEnd = t.kernel.readToEnd)
    (hi : s.initrd.readToEnd = t.initrd.readToEnd) (hc : s.cmdline = t.cmdline) :
    l.load s extra k = l.load t extra k := by
  have hstage (line : String) : stage s line = stage t line := by
    simp only [stage, hk, hi]
  simp only [Loader.load, Loader.loadByProtocol, Loader.loadFiles, Loader.loadSegments,
    stageFiles_eq, stageBuffers_eq, hc, hstage]

/-- While the file stays as it is, this is how the program loads an image. -/
theorem loadAssets_unchanged {file : Bytes} (same : ∀ p i, (views p i).file = file) :
    (loadAssets l a views extra k).value =
      match BootAssets.ofAssets a file with
      | .error cause => (.error (.image (.io cause)), k)
      | .ok b => ((l.load (.ofAssets b file) extra k).value.1.mapError .kexec,
          (l.load (.ofAssets b file) extra k).value.2) := by
  have hread (p : Payload) : readThrough a views p = ((a.get p).stream file).readToEnd :=
    Image.SectionReader.readToEnd_streamThrough_unchanged _ _ (same p)
  have hline : readThrough a views .cmdline = (a.cmdline.stream file).readToEnd := hread .cmdline
  cases hc : (a.cmdline.stream file).readToEnd with
  | error cause =>
    rw [loadAssets_of_no_cmdline (hline.trans hc)]
    simp only [BootAssets.ofAssets, BootAssets.ofStream, hc, Outcome.error_bind]
  | ok stored =>
    have hload : l.load (sourceThrough a views stored) extra k =
        l.load (.ofAssets ⟨a.kernel, a.initrd, CommandLine.decode stored⟩ file) extra k :=
      load_congr (hread .kernel) (hread .initrd) rfl
    rw [loadAssets_of_cmdline (hline.trans hc), hload]
    simp only [BootAssets.ofAssets, BootAssets.ofStream, hc]
    rfl

end LoadAssets

/-! ### The payloads of an image -/

/-- A fresh reader of a payload reads its bytes while the file stays as it is. -/
theorem readThrough_unchanged {a : Assets} {views : Payload → Nat → View} {p : Payload}
    {file : Bytes} (same : ∀ i, (views p i).file = file) {path : String} {h : SectionHeader}
    (reads : a.get p = h.reader path p) (inside : h.finish ≤ file.length) :
    readThrough a views p = .ok (file.slice h.offset h.payloadSize) := by
  rw [readThrough, reads, h.readToEnd_reader inside _ _ same]

/-- Whatever the file becomes, no other number of bytes is read of a payload than its header says. -/
theorem length_of_readThrough {a : Assets} {views : Payload → Nat → View} {p : Payload}
    {path : String} {h : SectionHeader} (reads : a.get p = h.reader path p) {bytes : Bytes}
    (hr : readThrough a views p = .ok bytes) : bytes.length = h.payloadSize := by
  rw [Image.SectionReader.length_of_readToEnd_streamThrough _ _ hr, reads]
  rfl

/-- What reaches the kernel of an image that was accepted. While the file stays as it is, that is
what its first headers say, and the joined command line. However it changes, the kernel and the
initrd have the lengths that were recorded, or there is no call but an error. -/
theorem loadAssets_spec {path : String} {file : Bytes} {a : Assets}
    (accepted : extract path (.file file) = .ok a) (l : Loader) (views : Payload → Nat → View)
    (extra : List String) (k : Kernel) :
    ∃ headers kernel initrd cmdline, sectionHeaders file = .ok headers ∧
      firstHeader headers .kernel = some kernel ∧ firstHeader headers .initrd = some initrd ∧
      firstHeader headers .cmdline = some cmdline ∧
      ((∀ p i, (views p i).file = file) → ∀ line,
        CommandLine.join (CommandLine.decode (file.slice cmdline.offset cmdline.payloadSize)) extra =
          line → 0 ∉ Text.Utf8.encode line →
        ∃ loads, loads ≠ [] ∧ (loadAssets l a views extra k).value.2.calls = k.calls ++ loads ∧
          ∀ call ∈ loads, HandsOver l (file.slice kernel.offset kernel.payloadSize)
            (file.slice initrd.offset initrd.payloadSize) (Text.Utf8.encode line) call) ∧
      ((∃ e, (loadAssets l a views extra k).value = (.error e, k)) ∨
        ∃ kernelBytes initrdBytes line loads, kernelBytes.length = kernel.payloadSize ∧
          initrdBytes.length = initrd.payloadSize ∧ loads ≠ [] ∧
          (loadAssets l a views extra k).value.2.calls = k.calls ++ loads ∧
          ∀ call ∈ loads, HandsOver l kernelBytes initrdBytes line call) := by
  rw [Image.extract_file, Assets.ofFile_eq_ok_iff] at accepted
  obtain ⟨headers, parsed, hall⟩ := accepted
  obtain ⟨kernel, hk, insideKernel, readsKernel⟩ := hall .kernel
  obtain ⟨initrd, hi, insideInitrd, readsInitrd⟩ := hall .initrd
  obtain ⟨cmdline, hc, insideLine, readsLine⟩ := hall .cmdline
  refine ⟨headers, kernel, initrd, cmdline, parsed, hk, hi, hc, ?_, ?_⟩
  · intro same line hl hz
    exact loadAssets_of_read (readThrough_unchanged (same .kernel) readsKernel insideKernel)
      (readThrough_unchanged (same .initrd) readsInitrd insideInitrd)
      (readThrough_unchanged (same .cmdline) readsLine insideLine) hl hz
  · rcases loadAssets_cases l a views extra k with
      herror | ⟨kernelBytes, initrdBytes, line, loads, hrk, hri, hrest⟩
    · exact .inl herror
    · exact .inr ⟨kernelBytes, initrdBytes, line, loads, length_of_readThrough readsKernel hrk,
        length_of_readThrough readsInitrd hri, hrest⟩

def smallAssets : Assets :=
  ⟨Image.smallKernelHeader.reader "boot.efi" .kernel,
    Image.smallInitrdHeader.reader "boot.efi" .initrd,
    Image.smallCommandLineHeader.reader "boot.efi" .cmdline⟩

def plainLoader (protocol : Protocol) : Loader := ⟨protocol, {}, ⟨.missing, .missing, none⟩⟩

/-- The small image read a byte at a time and loaded by a kernel that agrees to everything. -/
def loadSmallImage (protocol : Protocol) : Except BootFailure Unit × Kernel :=
  (loadAssets (plainLoader protocol) smallAssets (fun _ _ => ⟨Image.smallImage, 1, by decide⟩) ["ro"]
    ⟨fun _ _ => .ok (), []⟩).value

/-- The small image is handed over with a joined line: as two files and a line, or as three segments at
the addresses that are there by default. -/
theorem loadAssets_smallImage :
    extract "boot.efi" (.file Image.smallImage) = .ok smallAssets ∧
      (∃ loads, loads ≠ [] ∧ (loadSmallImage .file).2.calls = loads ∧ ∀ call ∈ loads, ∃ flags,
        call = .fileLoad [75, 76] [73] (some [113, 117, 105, 101, 116, 32, 114, 111, 0]) flags) ∧
      ∃ loads, loads ≠ [] ∧ (loadSmallImage .legacy).2.calls = loads ∧ ∀ call ∈ loads, ∃ segments,
        call = .segmentLoad segments architectureFlag ∧
          segments.map Segment.content =
            [[75, 76], [73], [113, 117, 105, 101, 116, 32, 114, 111, 0]] ∧
          segments.map Segment.address = [0x100000, 0x30000000, 0x90000] := by
  have accepted : extract "boot.efi" (.file Image.smallImage) = .ok smallAssets := by
    decide +kernel
  have hk : firstHeader Image.smallHeaders .kernel = some Image.smallKernelHeader := by
    decide +kernel
  have hi : firstHeader Image.smallHeaders .initrd = some Image.smallInitrdHeader := by
    decide +kernel
  have hkernel : Image.smallImage.slice Image.smallKernelHeader.offset
      Image.smallKernelHeader.payloadSize = [75, 76] := by decide +kernel
  have hinitrd : Image.smallImage.slice Image.smallInitrdHeader.offset
      Image.smallInitrdHeader.payloadSize = [73] := by decide +kernel
  have hline : Text.Utf8.encode "quiet ro" = [113, 117, 105, 101, 116, 32, 114, 111] := by
    decide +kernel
  have hands (protocol : Protocol) : ∃ loads, loads ≠ [] ∧
      (loadSmallImage protocol).2.calls = loads ∧ ∀ call ∈ loads,
        HandsOver (plainLoader protocol) [75, 76] [73] [113, 117, 105, 101, 116, 32, 114, 111]
          call := by
    obtain ⟨headers, kernel, initrd, cmdline, parsed, hk', hi', hc, unchanged, -⟩ :=
      loadAssets_spec accepted (plainLoader protocol) (fun _ _ => ⟨Image.smallImage, 1, by decide⟩)
        ["ro"] ⟨fun _ _ => .ok (), []⟩
    obtain rfl : Image.smallHeaders = headers :=
      Except.ok.inj (Image.smallImage_patchable.parsed.symm.trans parsed)
    obtain rfl : Image.smallKernelHeader = kernel := Option.some.inj (hk.symm.trans hk')
    obtain rfl : Image.smallInitrdHeader = initrd := Option.some.inj (hi.symm.trans hi')
    obtain rfl : Image.smallCommandLineHeader = cmdline :=
      Option.some.inj (Image.smallImage_patchable.first.symm.trans hc)
    obtain ⟨loads, hne, hcalls, hall⟩ :=
      unchanged (fun _ _ => rfl) "quiet ro" (by decide +kernel) (by decide +kernel)
    rw [hkernel, hinitrd, hline] at hall
    exact ⟨loads, hne, hcalls, hall⟩
  refine ⟨accepted, ?_, ?_⟩
  · obtain ⟨loads, hne, hcalls, hall⟩ := hands .file
    refine ⟨loads, hne, hcalls, fun call hc => ?_⟩
    cases hall call hc with
    | file _ flags => exact ⟨flags, rfl⟩
    | segments protocol _ => nomatch protocol
  · obtain ⟨loads, hne, hcalls, hall⟩ := hands .legacy
    refine ⟨loads, hne, hcalls, fun call hc => ?_⟩
    cases hall call hc with
    | file protocol _ => nomatch protocol
    | segments _ carries => exact ⟨_, rfl, carries.contents, carries.addresses⟩

end NextBoot.Kexec
