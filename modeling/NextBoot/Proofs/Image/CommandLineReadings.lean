import NextBoot.Proofs.Image.PatchVerdict
import NextBoot.Proofs.Image.ReadLoop

/-! The command line that is shown is the one that is booted. It can be read at once from where the
section table says, or streamed by the reader that was bound to it together with those of the other
payloads; both give the text of the first section of its name. -/
namespace NextBoot.Image

open SectionReader (viewsOf)

/-! ### Reading at once -/

section ReadCommandLine
variable {path : String} {file : Bytes} {headers : List SectionHeader}

theorem readCommandLine_of_unreadable {e : FormatError} (table : sectionHeaders file = .error e) :
    readCommandLine path (.file file) = .error (.format e) :=
  readCommandLine_of_not_found (findCommandLine_of_unreadable table)

/-- Besides the table, only the size of the file and the bytes of the first section matter. -/
theorem readCommandLine_eq (table : sectionHeaders file = .ok headers) :
    readCommandLine path (.file file) =
      match firstHeader headers .cmdline with
      | none => .error (.missingSections [.cmdline])
      | some h =>
        if h.finish ≤ file.length then .ok (CommandLine.decode (file.slice h.offset h.payloadSize))
        else .error (.format (.outOfBounds .cmdline h.finish file.length)) := by
  cases first : firstHeader headers .cmdline with
  | none => exact readCommandLine_of_not_found (findCommandLine_of_absent table first)
  | some h =>
    have there : CommandLineAt file h := ⟨headers, table, first⟩
    dsimp only
    split
    next inside => exact readCommandLine_of_found (findCommandLine_of_inside there inside)
    next outside =>
      have hout : file.length < h.finish := Nat.not_le.mp outside
      exact readCommandLine_of_not_found (findCommandLine_of_outside there hout)

/-- The ways in which reading a command line ends. -/
theorem readCommandLine_cases (path : String) (file : Bytes) :
    (∃ text, readCommandLine path (.file file) = .ok text) ∨
      readCommandLine path (.file file) = .error (.missingSections [.cmdline]) ∨
      ∃ e, readCommandLine path (.file file) = .error (.format e) := by
  cases table : sectionHeaders file with
  | error e => exact .inr (.inr ⟨e, readCommandLine_of_unreadable table⟩)
  | ok headers =>
    rw [readCommandLine_eq table]
    cases firstHeader headers .cmdline with
    | none => exact .inr (.inl rfl)
    | some h =>
      dsimp only
      split
      next => exact .inl ⟨_, rfl⟩
      next => exact .inr (.inr ⟨_, rfl⟩)

theorem readCommandLine_congr {other : Bytes} (size : other.length = file.length)
    (table : sectionHeaders file = .ok headers) (otherTable : sectionHeaders other = .ok headers)
    (same : ∀ h, firstHeader headers .cmdline = some h →
      other.slice h.offset h.payloadSize = file.slice h.offset h.payloadSize) :
    readCommandLine path (.file other) = readCommandLine path (.file file) := by
  rw [readCommandLine_eq table, readCommandLine_eq otherTable, size]
  cases first : firstHeader headers .cmdline with
  | none => rfl
  | some h => simp only [same h first]

end ReadCommandLine

/-! ### Reading through the assets -/

theorem ofStream_of_readToEnd {a : Assets} {s : Stream} {stored : Bytes}
    (h : s.readToEnd = .ok stored) :
    BootAssets.ofStream a s = .ok ⟨a.kernel, a.initrd, CommandLine.decode stored⟩ := by
  simp only [BootAssets.ofStream, h, Outcome.ok_bind]
  rfl

/-- Of an image that was accepted both readings succeed, with the text that its first command line
section holds. What is read depends on the section table and on that section alone. -/
theorem commandLine_readings (path : String) (file : Bytes) :
    (∀ a, extract path (.file file) = .ok a →
      ∃ headers h, sectionHeaders file = .ok headers ∧ firstHeader headers .cmdline = some h ∧
        h.offset + h.payloadSize ≤ file.length ∧
        readCommandLine path (.file file) =
          .ok (CommandLine.decode (file.slice h.offset h.payloadSize)) ∧
        BootAssets.ofAssets a file =
          .ok ⟨a.kernel, a.initrd, CommandLine.decode (file.slice h.offset h.payloadSize)⟩ ∧
        ∀ rooms, BootAssets.ofStream a (a.cmdline.streamThrough (viewsOf file rooms)) =
          .ok ⟨a.kernel, a.initrd, CommandLine.decode (file.slice h.offset h.payloadSize)⟩) ∧
    ((∃ text, readCommandLine path (.file file) = .ok text) ∨
      readCommandLine path (.file file) = .error (.missingSections [.cmdline]) ∨
      ∃ e, readCommandLine path (.file file) = .error (.format e)) ∧
    ∀ other headers, other.length = file.length → sectionHeaders file = .ok headers →
      sectionHeaders other = .ok headers →
      (∀ h, firstHeader headers .cmdline = some h →
        other.slice h.offset h.payloadSize = file.slice h.offset h.payloadSize) →
      readCommandLine path (.file other) = readCommandLine path (.file file) := by
  refine ⟨fun a accepted => ?_, readCommandLine_cases path file, ?_⟩
  · rw [extract_file, Assets.ofFile_eq_ok_iff] at accepted
    obtain ⟨headers, table, hall⟩ := accepted
    obtain ⟨h, first, inside, reads⟩ := hall .cmdline
    have found := findCommandLine_of_inside ⟨headers, table, first⟩ inside
    have hreader : a.cmdline = h.reader path .cmdline := reads
    refine ⟨headers, h, table, first, inside, readCommandLine_of_found found, ?_, fun rooms => ?_⟩
    · apply ofStream_of_readToEnd
      rw [hreader, h.stream_reader inside, Stream.readToEnd_data]
    · apply ofStream_of_readToEnd
      rw [hreader, h.readToEnd_reader inside _ _ fun _ => rfl]
  · intro other headers size table otherTable same
    exact readCommandLine_congr size table otherTable same

end NextBoot.Image
