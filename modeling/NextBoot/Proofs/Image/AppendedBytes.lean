import NextBoot.Proofs.Image.CommandLineReadings
import NextBoot.Proofs.Image.ExtractVerdict

/-! Bytes after the end of an image, such as a signature, change nothing that it yields: every read of
the headers and every bound that held in the image holds in the longer file. So bytes that are cut
off are missed, or they were none of the payloads'. -/
namespace NextBoot.Image

open SectionReader (viewsOf)

/-! ### The section table -/

section Table
variable {file : Bytes}

theorem readHeaders?_append {offset count : Nat} {headers : List SectionHeader}
    (h : readHeaders? file offset count = some headers) (after : Bytes) :
    readHeaders? (file ++ after) offset count = some headers := by
  induction count generalizing offset headers with
  | zero => exact h
  | succ count ih =>
    simp only [readHeaders?, Option.bind_eq_bind, Option.bind_eq_some_iff] at h ⊢
    obtain ⟨first, hfirst, rest, hrest, hs⟩ := h
    exact ⟨first, Bytes.readAt?_append hfirst after, rest, ih hrest, hs⟩

theorem checkOptionalHeader_append {offset size : Nat}
    (h : checkOptionalHeader file offset size = .ok ()) (after : Bytes) :
    checkOptionalHeader (file ++ after) offset size = .ok () := by
  unfold checkOptionalHeader at h ⊢
  split at h
  next hs => rw [if_pos hs]
  next hs =>
    rw [if_neg hs]
    cases hm : file.readAt? offset 2 with
    | none =>
      rw [hm] at h
      cases h
    | some magic =>
      rw [hm] at h
      rw [Bytes.readAt?_append hm after]
      exact h

/-- Both headers are read where they were, so their fields are the same. -/
theorem HasHeaders.append {headers : List SectionHeader} (hf : HasHeaders file headers)
    (after : Bytes) : HasHeaders (file ++ after) headers := by
  obtain ⟨dos, hdos⟩ := Option.ne_none_iff_exists'.mp hf.dos
  obtain ⟨pe, hpe⟩ := Option.ne_none_iff_exists'.mp hf.pe
  have hdos' := Bytes.readAt?_append hdos after
  have hpe' := Bytes.readAt?_append hpe after
  have start : SameStart file (file ++ after) := by
    constructor
    · intro i hi
      have hbyte := byteAt_of_readAt? hdos i hi
      rwa [← byteAt_of_readAt? hdos' i hi, Nat.zero_add] at hbyte
    · intro i hi
      rw [byteAt_of_readAt? hpe i hi, byteAt_of_readAt? hpe' i hi]
  apply hf.of_reads start
  · rw [hdos']
    nofun
  · rw [hpe']
    nofun
  · exact checkOptionalHeader_append hf.optional after
  · exact readHeaders?_append hf.table after

theorem sectionHeaders_append {headers : List SectionHeader}
    (h : sectionHeaders file = .ok headers) (after : Bytes) :
    sectionHeaders (file ++ after) = .ok headers :=
  sectionHeaders_eq_ok_iff.mpr ((sectionHeaders_eq_ok_iff.mp h).append after)

end Table

/-! ### What the image yields -/

section Yield
variable {path : String} {file : Bytes}

theorem AllInside.mono {size larger : Nat} {headers : List SectionHeader}
    (inside : AllInside size headers) (h : size ≤ larger) : AllInside larger headers :=
  fun p start size placed => (inside p start size placed).trans h

theorem extract_append {a : Assets} (accepted : extract path (.file file) = .ok a)
    (after : Bytes) : extract path (.file (file ++ after)) = .ok a := by
  rw [extract_file, Assets.ofFile_eq_ok_iff] at accepted ⊢
  obtain ⟨headers, table, hall⟩ := accepted
  refine ⟨headers, sectionHeaders_append table after, fun p => ?_⟩
  obtain ⟨h, first, inside, reads⟩ := hall p
  refine ⟨h, first, ?_, reads⟩
  rw [List.length_append]
  omega

/-- Payloads are told to be missing only of a file whose section table can be read. -/
theorem exists_sectionHeaders_of_missing {missing : List Payload}
    (h : extract path (.file file) = .error (.missingSections missing)) :
    ∃ headers, sectionHeaders file = .ok headers := by
  cases table : sectionHeaders file with
  | error e =>
    rw [extract_of_unreadable table] at h
    cases h
  | ok headers => exact ⟨headers, rfl⟩

theorem extract_missing_append {missing : List Payload}
    (h : extract path (.file file) = .error (.missingSections missing)) (after : Bytes) :
    extract path (.file (file ++ after)) = .error (.missingSections missing) := by
  obtain ⟨headers, table⟩ := exists_sectionHeaders_of_missing h
  obtain ⟨inside, absent⟩ := (extract_eq_missing_iff table).mp h
  have hsize : file.length ≤ (file ++ after).length := by
    rw [List.length_append]
    omega
  exact (extract_eq_missing_iff (sectionHeaders_append table after)).mpr
    ⟨inside.mono hsize, absent⟩

/-- What reads to the end deliver of each payload, whatever room each of them has. -/
def Assets.Delivers (a : Assets) (file : Bytes) (payloads : Payload → Bytes) : Prop :=
  ∀ p rooms, ((a.get p).streamThrough (viewsOf file rooms)).readToEnd = .ok (payloads p)

theorem exists_delivers_append {a : Assets} (accepted : extract path (.file file) = .ok a) :
    ∃ payloads, ∀ after, a.Delivers (file ++ after) payloads := by
  rw [extract_file, Assets.ofFile_eq_ok_iff] at accepted
  obtain ⟨headers, -, hall⟩ := accepted
  choose bound _ inside reads using hall
  refine ⟨fun p => file.slice (bound p).offset (bound p).payloadSize, fun after p rooms => ?_⟩
  have hlonger : (bound p).finish ≤ (file ++ after).length := by
    have := inside p
    rw [List.length_append]
    omega
  rw [reads p, (bound p).readToEnd_reader hlonger _ _ fun _ => rfl]
  exact congrArg Except.ok (Bytes.slice_append (inside p) after)

theorem findCommandLine_append {h : SectionHeader} (found : findCommandLine file = .ok h)
    (after : Bytes) : findCommandLine (file ++ after) = .ok h := by
  obtain ⟨headers, table, first, inside⟩ := findCommandLine_eq_ok_iff.mp found
  apply findCommandLine_of_inside ⟨headers, sectionHeaders_append table after, first⟩
  rw [List.length_append]
  omega

theorem readCommandLine_append {text : String} (h : readCommandLine path (.file file) = .ok text)
    (after : Bytes) : readCommandLine path (.file (file ++ after)) = .ok text := by
  cases found : findCommandLine file with
  | error e =>
    rw [readCommandLine_of_not_found found] at h
    cases h
  | ok x =>
    obtain ⟨-, -, -, inside⟩ := findCommandLine_eq_ok_iff.mp found
    rw [readCommandLine_of_found found] at h
    rw [readCommandLine_of_found (findCommandLine_append found after),
      Bytes.slice_append inside after]
    exact h

theorem readCommandLine_missing_append {missing : List Payload}
    (h : readCommandLine path (.file file) = .error (.missingSections missing)) (after : Bytes) :
    readCommandLine path (.file (file ++ after)) = .error (.missingSections missing) := by
  cases table : sectionHeaders file with
  | error e =>
    rw [readCommandLine_of_unreadable table] at h
    cases h
  | ok headers =>
    rw [readCommandLine_eq table] at h
    rw [readCommandLine_eq (sectionHeaders_append table after)]
    cases first : firstHeader headers .cmdline with
    | none =>
      rw [first] at h
      exact h
    | some x =>
      rw [first] at h
      dsimp only at h
      split at h <;> cases h

end Yield

/-- Bytes after the end take no part in what an image yields, and neither do bytes that are cut off,
unless they are missed. -/
theorem yield_append (path : String) (file : Bytes) :
    (∀ a, extract path (.file file) = .ok a → ∃ payloads, a.Delivers file payloads ∧
      (∀ after, extract path (.file (file ++ after)) = .ok a ∧
        a.Delivers (file ++ after) payloads) ∧
      ∀ size, (∃ e, extract path (.file (file.take size)) = .error e) ∨
        extract path (.file (file.take size)) = .ok a ∧ a.Delivers (file.take size) payloads) ∧
    (∀ missing, extract path (.file file) = .error (.missingSections missing) →
      ∀ after, extract path (.file (file ++ after)) = .error (.missingSections missing)) ∧
    (∀ text, readCommandLine path (.file file) = .ok text →
      (∀ after, readCommandLine path (.file (file ++ after)) = .ok text) ∧
      ∀ size, (∃ e, readCommandLine path (.file (file.take size)) = .error e) ∨
        readCommandLine path (.file (file.take size)) = .ok text) ∧
    ∀ missing, readCommandLine path (.file file) = .error (.missingSections missing) →
      ∀ after, readCommandLine path (.file (file ++ after)) = .error (.missingSections missing) := by
  refine ⟨fun a accepted => ?_, fun _ => extract_missing_append, fun text shown => ?_,
    fun _ => readCommandLine_missing_append⟩
  · obtain ⟨payloads, hpayloads⟩ := exists_delivers_append accepted
    have hself : a.Delivers file payloads := by simpa using hpayloads []
    refine ⟨payloads, hself, fun after => ⟨extract_append accepted after, hpayloads after⟩, ?_⟩
    intro size
    cases cut : extract path (.file (file.take size)) with
    | error e => exact .inl ⟨e, rfl⟩
    | ok b =>
      -- The whole file is the cut one with the rest after it.
      have hwhole := extract_append cut (file.drop size)
      obtain ⟨found, hfound⟩ := exists_delivers_append cut
      have hrest := hfound (file.drop size)
      rw [List.take_append_drop] at hwhole hrest
      obtain rfl : b = a := Except.ok.inj (hwhole.symm.trans accepted)
      have hsame : found = payloads := by
        funext p
        exact Except.ok.inj ((hrest p fun _ => ⟨1, by decide⟩).symm.trans (hself p _))
      refine .inr ⟨rfl, ?_⟩
      simpa [hsame] using hfound []
  · refine ⟨readCommandLine_append shown, fun size => ?_⟩
    cases cut : readCommandLine path (.file (file.take size)) with
    | error e => exact .inl ⟨e, rfl⟩
    | ok other =>
      have hwhole := readCommandLine_append cut (file.drop size)
      rw [List.take_append_drop, shown] at hwhole
      exact .inr hwhole.symm

end NextBoot.Image
