import NextBoot.Proofs.Kexec.CallTrace

/-! Whichever protocol is used, the same is loaded. Files are copied from the streams a buffer at a
time and segments are read into memory whole; both hold all that the streams deliver, and both fail
on the same payload before anything is called. -/
namespace NextBoot.Kexec

/-- The command line that a load hands over. -/
def BootSource.line (source : BootSource) (extra : List String) : String :=
  CommandLine.join source.cmdline extra

/-- The first of the calls that were made in between. -/
def FirstCall (before after : Kernel) (c : Call) : Prop :=
  ∃ rest, after.calls = before.calls ++ c :: rest

section FirstCall
variable {layout : Layout} {diagnostics : Diagnostics} {source : BootSource} {extra : List String}
  {staged : Staged}

theorem firstCall_load_file (h : stage source (source.line extra) = .ok staged) (k : Kernel) :
    FirstCall k (Loader.load ⟨.file, layout, diagnostics⟩ source extra k).value.2
      (staged.fileCall 0) := by
  obtain ⟨loads, answer, hloads, hload⟩ :=
    load_of_staged (l := ⟨.file, layout, diagnostics⟩) (k := k) h
  rw [hload]
  rcases hloads.file rfl with rfl | rfl
  · exact ⟨_, rfl⟩
  · exact ⟨_, rfl⟩

theorem firstCall_load_legacy (h : stage source (source.line extra) = .ok staged) (k : Kernel) :
    FirstCall k (Loader.load ⟨.legacy, layout, diagnostics⟩ source extra k).value.2
      (staged.segmentCall layout) := by
  obtain ⟨loads, answer, hloads, hload⟩ :=
    load_of_staged (l := ⟨.legacy, layout, diagnostics⟩) (k := k) h
  rw [hload]
  obtain rfl := hloads.legacy rfl
  exact ⟨_, rfl⟩

end FirstCall

/-- The call with files, with what the streams deliver. -/
theorem fileCall_staged (source : BootSource) (cmdline : String) (flags : Nat) :
    (source.staged cmdline).fileCall flags =
      .fileLoad source.kernel.delivered source.initrd.delivered
        (if cmdline = "" then none else some (Text.Utf8.encode cmdline ++ [0])) flags := by
  have hline : (if (Text.Utf8.encode cmdline).isEmpty then none
      else some (Text.Utf8.encode cmdline ++ [0])) =
      if cmdline = "" then none else some (Text.Utf8.encode cmdline ++ [0]) := by
    rw [isEmpty_encode]
    simp only [String.isEmpty_iff]
  exact congrArg (Call.fileLoad _ _ · flags) hline

/-- The segments hold the same, at the addresses of the layout. -/
theorem carries_staged (source : BootSource) (cmdline : String) (layout : Layout) :
    ∃ segments, (source.staged cmdline).segmentCall layout =
        .segmentLoad segments architectureFlag ∧
      Carries layout source.kernel.delivered source.initrd.delivered (Text.Utf8.encode cmdline)
        segments :=
  ⟨_, rfl, carries_segments layout (source.staged cmdline)⟩

/-- Loading the same with either protocol: both fail on the same payload, the first that does, and
call nothing; or both call with all the bytes of both streams and with the same command line, of which
only an empty one is passed in different ways. -/
theorem load_protocols_agree (layout : Layout) (diagnostics : Diagnostics) (source : BootSource)
    (extra : List String) (k k' : Kernel) :
    (∃ p cause, StagingFault source (source.line extra) p cause ∧
      (Loader.load ⟨.file, layout, diagnostics⟩ source extra k).value =
        (.error (.staging p cause), k) ∧
      (Loader.load ⟨.legacy, layout, diagnostics⟩ source extra k').value =
        (.error (.staging p cause), k')) ∨
    (source.kernel.failure? = none ∧ source.initrd.failure? = none ∧
      0 ∉ Text.Utf8.encode (source.line extra) ∧
      FirstCall k (Loader.load ⟨.file, layout, diagnostics⟩ source extra k).value.2
        (.fileLoad source.kernel.delivered source.initrd.delivered
          (if source.line extra = "" then none
            else some (Text.Utf8.encode (source.line extra) ++ [0])) 0) ∧
      ∃ segments,
        FirstCall k' (Loader.load ⟨.legacy, layout, diagnostics⟩ source extra k').value.2
          (.segmentLoad segments architectureFlag) ∧
        segments.map Segment.content = [source.kernel.delivered, source.initrd.delivered,
          Text.Utf8.encode (source.line extra) ++ [0]] ∧
        segments.map Segment.address = [layout.kernel, layout.initrd, layout.cmdline]) := by
  rcases stage_cases source (source.line extra) with ⟨p, cause, fault, -⟩ | ⟨none, staged⟩
  · exact .inl ⟨p, cause, fault, load_of_fault fault, load_of_fault fault⟩
  · obtain ⟨hk, hi, hz⟩ := readable_of_no_fault none
    obtain ⟨segments, hcall, carries⟩ := carries_staged source (source.line extra) layout
    refine .inr ⟨hk, hi, hz, ?_, segments, ?_, carries.contents, carries.addresses⟩
    · rw [← fileCall_staged]
      exact firstCall_load_file staged k
    · rw [← hcall]
      exact firstCall_load_legacy staged k'

end NextBoot.Kexec
