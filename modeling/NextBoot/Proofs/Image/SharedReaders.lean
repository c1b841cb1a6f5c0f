import NextBoot.Proofs.Image.ExtractVerdict
import NextBoot.Proofs.Image.PatchRun
import NextBoot.Proofs.Image.ReadLoop

/-! The readers of one image in use together, in any order and while the file changes under them. Each
goes its own way through its payload, as if the others were not there. -/
namespace NextBoot.Image

/-- What may happen to an image file while readers hold it open. -/
inductive FileChange where
  | truncate (size : Nat)
  | overwrite (offset : Nat) (bytes : Bytes)
  /-- The file loses its name. Readers that hold it open see it as before. -/
  | unlink
  deriving DecidableEq, Repr

/-- What readers see of the file after a change. -/
def FileChange.apply : FileChange → Bytes → Bytes
  | truncate size, file => Bytes.padTo size (file.take size)
  | overwrite offset bytes, file => file.writeAt offset bytes
  | unlink, file => file

inductive ReaderOp where
  | read (size : Nat)
  /-- Reads until one gives nothing or fails, each with room of its own. -/
  | readToEnd (rooms : Nat → { n : Nat // 0 < n })
  | close

def ReaderOp.closes : ReaderOp → Bool
  | close => true
  | _ => false

inductive Action where
  | use (p : Payload) (op : ReaderOp)
  | change (c : FileChange)

namespace Action

def payload? : Action → Option Payload
  | use p _ => some p
  | change _ => none

def closes (p : Payload) : Action → Bool
  | use q op => decide (q = p) && op.closes
  | change _ => false

/-- Whether the action is one on the reader of `p` or a change of the file. -/
def concerns (p : Payload) (a : Action) : Bool := a.payload? = some p || a.payload? = none

end Action

inductive Answer where
  | chunk (result : Except IoError Bytes)
  | stream (chunks : Stream)
  | done
  deriving DecidableEq

def Answer.delivered : Answer → Bytes
  | chunk (.ok bytes) => bytes
  | chunk (.error _) => []
  | stream chunks => chunks.delivered
  | done => []

namespace SectionReader

def perform (r : SectionReader) (file : Bytes) : ReaderOp → Answer × SectionReader
  | .read size => (.chunk (r.read file size).1, (r.read file size).2)
  | .readToEnd rooms =>
    (.stream (r.streamThrough (viewsOf file rooms)), r.afterEnd (viewsOf file rooms))
  | .close => (.done, r.close)

/-- The reader after `count` bytes have been read, and closed if `shut`. -/
def moved (r : SectionReader) (count : Nat) (shut : Bool) : SectionReader :=
  { r with position := r.position + count, closed := r.closed || shut }

@[simp] theorem moved_zero_false (r : SectionReader) : r.moved 0 false = r := by
  simp [moved]

@[simp] theorem moved_moved (r : SectionReader) (m n : Nat) (b c : Bool) :
    (r.moved m b).moved n c = r.moved (m + n) (b || c) := by
  simp [moved, Nat.add_assoc, Bool.or_assoc]

theorem advance_eq_moved (r : SectionReader) (n : Nat) : r.advance n = r.moved n false := by
  simp [moved, advance]

theorem close_eq_moved (r : SectionReader) : r.close = r.moved 0 true := by
  simp [moved, close]

/-- An operation moves a reader by what it delivers. -/
theorem perform_snd {r : SectionReader} (inside : r.position ≤ r.size) (file : Bytes)
    (op : ReaderOp) :
    (r.perform file op).2 = r.moved (r.perform file op).1.delivered.length op.closes := by
  cases op with
  | read size =>
    have hread := read_contract inside file size
    simp only [perform, ReaderOp.closes]
    cases hr : (r.read file size).1 with
    | error e => exact (hread.failed e hr).trans (moved_zero_false r).symm
    | ok bytes =>
      obtain ⟨-, -, -, -, hnext⟩ := hread.chunk bytes hr
      exact hnext.trans (advance_eq_moved r _)
  | readToEnd rooms => exact (end_contract inside file rooms).advanced.trans (advance_eq_moved r _)
  | close => exact close_eq_moved r

/-- What an operation delivers are bytes of the file, from the position on and inside the payload. -/
theorem perform_delivered {r : SectionReader} (inside : r.position ≤ r.size) (file : Bytes)
    (op : ReaderOp) :
    (r.perform file op).1.delivered =
        file.slice (r.start + r.position) (r.perform file op).1.delivered.length ∧
      r.position + (r.perform file op).1.delivered.length ≤ r.size := by
  cases op with
  | read size =>
    have hread := read_contract inside file size
    simp only [perform]
    cases hr : (r.read file size).1 with
    | error e => exact ⟨rfl, inside⟩
    | ok bytes =>
      obtain ⟨-, -, hbytes, hle, -⟩ := hread.chunk bytes hr
      exact ⟨hbytes, hle⟩
  | readToEnd rooms =>
    have hend := end_contract inside file rooms
    exact ⟨hend.delivered, hend.inside⟩
  | close => exact ⟨rfl, inside⟩

end SectionReader

/-- An image file as it is now, and the readers that hold it open. -/
structure Session where
  file : Bytes
  assets : Assets

@[simp] theorem Assets.get_set (a : Assets) (r : SectionReader) (p q : Payload) :
    (a.set r p).get q = if q = p then r else a.get q := by
  cases p <;> cases q <;> rfl

theorem Assets.set_get (a : Assets) (p : Payload) : a.set (a.get p) p = a := by
  cases p <;> rfl

namespace Session

def step (s : Session) : Action → Answer × Session
  | .use p op =>
    let (answer, next) := (s.assets.get p).perform s.file op
    (answer, { s with assets := s.assets.set next p })
  | .change c => (.done, { s with file := c.apply s.file })

/-- The actions with their answers, and the session after them. -/
def run (s : Session) : List Action → List (Action × Answer) × Session
  | [] => ([], s)
  | action :: rest =>
    let (answer, next) := s.step action
    let (answers, last) := next.run rest
    ((action, answer) :: answers, last)

theorem run_cons_fst (s : Session) (action : Action) (rest : List Action) :
    (s.run (action :: rest)).1 =
      (action, (s.step action).1) :: ((s.step action).2.run rest).1 := rfl

theorem run_cons_snd (s : Session) (action : Action) (rest : List Action) :
    (s.run (action :: rest)).2 = ((s.step action).2.run rest).2 := rfl

/-- What the reader of `p` has delivered in all. -/
def deliveredTo (p : Payload) (answers : List (Action × Answer)) : Bytes :=
  answers.flatMap fun e => if e.1.payload? = some p then e.2.delivered else []

/-- Every reader stands inside its payload. -/
def Inside (s : Session) : Prop := ∀ p, (s.assets.get p).position ≤ (s.assets.get p).size

theorem step_get {s : Session} (inside : s.Inside) (action : Action) (p : Payload) :
    (s.step action).2.assets.get p =
      (s.assets.get p).moved (deliveredTo p [(action, (s.step action).1)]).length
        (action.closes p) := by
  cases action with
  | change c => simp [step, deliveredTo, Action.payload?, Action.closes]
  | use q op =>
    by_cases hq : p = q
    · subst hq
      simpa [step, deliveredTo, Action.payload?, Action.closes] using
        SectionReader.perform_snd (inside p) s.file op
    · simp [step, deliveredTo, Action.payload?, Action.closes, hq, Ne.symm hq]

theorem Inside.step {s : Session} (inside : s.Inside) (action : Action) :
    (s.step action).2.Inside := by
  intro p
  cases action with
  | change c => exact inside p
  | use q op =>
    by_cases hq : p = q
    · subst hq
      have hle := (SectionReader.perform_delivered (inside p) s.file op).2
      simp only [Session.step, Assets.get_set, if_true,
        SectionReader.perform_snd (inside p) s.file op]
      exact hle
    · simpa [Session.step, hq] using inside p

theorem deliveredTo_cons (p : Payload) (e : Action × Answer) (rest : List (Action × Answer)) :
    deliveredTo p (e :: rest) = deliveredTo p [e] ++ deliveredTo p rest := by
  simp [deliveredTo]

theorem Inside.run {s : Session} (inside : s.Inside) (actions : List Action) :
    (s.run actions).2.Inside := by
  induction actions generalizing s with
  | nil => exact inside
  | cons action rest ih => exact ih (inside.step action)

/-- By induction on the actions: where a reader stands is what it has delivered, and it is closed
once an action has closed it. -/
theorem run_get {s : Session} (inside : s.Inside) (actions : List Action) (p : Payload) :
    (s.run actions).2.assets.get p =
      (s.assets.get p).moved (deliveredTo p (s.run actions).1).length
        (actions.any (Action.closes p)) := by
  induction actions generalizing s with
  | nil => simp [run, deliveredTo]
  | cons action rest ih =>
    rw [run_cons_fst, run_cons_snd, ih (inside.step action), step_get inside,
      SectionReader.moved_moved, deliveredTo_cons p _ ((s.step action).2.run rest).1,
      List.length_append, List.any_cons]

/-- By induction on the actions, in two sessions that agree on the file and on one reader: what is
done with the other readers changes nothing for it. -/
theorem run_concerning {s t : Session} (p : Payload) (hfile : t.file = s.file)
    (hreader : t.assets.get p = s.assets.get p) (actions : List Action) :
    (t.run (actions.filter (Action.concerns p))).1 =
        (s.run actions).1.filter (fun e => e.1.concerns p) ∧
      (t.run (actions.filter (Action.concerns p))).2.file = (s.run actions).2.file ∧
      (t.run (actions.filter (Action.concerns p))).2.assets.get p =
        (s.run actions).2.assets.get p := by
  induction actions generalizing s t with
  | nil => exact ⟨rfl, hfile, hreader⟩
  | cons action rest ih =>
    cases action with
    | change c =>
      have hc : Action.concerns p (.change c) = true := by simp [Action.concerns, Action.payload?]
      obtain ⟨hanswers, hrest⟩ := ih (s := (s.step (.change c)).2) (t := (t.step (.change c)).2)
        (by simp [step, hfile]) hreader
      rw [List.filter_cons_of_pos hc]
      refine ⟨?_, hrest⟩
      rw [run_cons_fst, run_cons_fst, List.filter_cons_of_pos (by exact hc), hanswers]
      rfl
    | use q op =>
      by_cases hq : p = q
      · subst hq
        have hc : Action.concerns p (.use p op) = true := by
          simp [Action.concerns, Action.payload?]
        have hanswer : (t.step (.use p op)).1 = (s.step (.use p op)).1 := by
          simp [step, hfile, hreader]
        obtain ⟨hanswers, hrest⟩ := ih (s := (s.step (.use p op)).2)
          (t := (t.step (.use p op)).2) hfile (by simp [step, hfile, hreader])
        rw [List.filter_cons_of_pos hc]
        refine ⟨?_, hrest⟩
        rw [run_cons_fst, run_cons_fst, List.filter_cons_of_pos (by exact hc), hanswers, hanswer]
      · have hc : Action.concerns p (.use q op) = false := by
          simp [Action.concerns, Action.payload?, Ne.symm hq]
        obtain ⟨hanswers, hrest⟩ := ih (s := (s.step (.use q op)).2) (t := t) hfile
          (by simp [step, hq, hreader])
        rw [List.filter_cons_of_neg (by simp [hc])]
        refine ⟨?_, hrest⟩
        rw [run_cons_fst, List.filter_cons_of_neg (by simp [hc]), hanswers]

theorem step_delivered {s : Session} (inside : s.Inside) (action : Action) (p : Payload) :
    deliveredTo p [(action, (s.step action).1)] =
      s.file.slice ((s.assets.get p).start + (s.assets.get p).position)
        (deliveredTo p [(action, (s.step action).1)]).length := by
  cases action with
  | change c => rfl
  | use q op =>
    by_cases hq : p = q
    · subst hq
      simpa [step, deliveredTo, Action.payload?] using
        (SectionReader.perform_delivered (inside p) s.file op).1
    · simp [deliveredTo, Action.payload?, Ne.symm hq, Bytes.slice]

/-- By induction on the actions: while the file stays as it is, all that a reader delivers is one
piece of it. -/
theorem deliveredTo_run_unchanged {s : Session} (inside : s.Inside) {actions : List Action}
    (same : ∀ c, .change c ∈ actions → c.apply s.file = s.file) (p : Payload) :
    deliveredTo p (s.run actions).1 =
      s.file.slice ((s.assets.get p).start + (s.assets.get p).position)
        (deliveredTo p (s.run actions).1).length := by
  induction actions generalizing s with
  | nil => rfl
  | cons action rest ih =>
    have hfile : (s.step action).2.file = s.file := by
      cases action with
      | use q op => rfl
      | change c => exact same c List.mem_cons_self
    have hrest := ih (inside.step action) fun c hc => by
      rw [hfile]
      exact same c (List.mem_cons_of_mem _ hc)
    rw [hfile, step_get inside action p] at hrest
    simp only [SectionReader.moved, ← Nat.add_assoc] at hrest
    have hfirst := step_delivered inside action p
    rw [run_cons_fst, deliveredTo_cons p _ ((s.step action).2.run rest).1, List.length_append,
      ← Bytes.slice_append_slice, ← hfirst, ← hrest]

/-- A read that has room and gives nothing comes when all that remained has been delivered, in
whatever pieces, and whatever else was done meanwhile. -/
theorem length_deliveredTo_of_finished {s : Session} (inside : s.Inside) {more : List Action}
    {p : Payload} {size : Nat} (room : 0 < size)
    (finished : ((s.run more).2.step (.use p (.read size))).1 = .chunk (.ok [])) :
    (deliveredTo p (s.run more).1).length =
      (s.assets.get p).size - (s.assets.get p).position := by
  have hread := SectionReader.read_contract (inside.run more p) (s.run more).2.file size
  have hanswer : (((s.run more).2.assets.get p).read (s.run more).2.file size).1 = .ok [] :=
    Answer.chunk.inj finished
  have hposition := hread.finished hanswer room
  rw [run_get inside more p] at hposition
  simp only [SectionReader.moved] at hposition
  omega

/-- Closing a closed reader changes nothing. -/
theorem step_close_of_closed {s : Session} {p : Payload} (closed : (s.assets.get p).closed = true) :
    s.step (.use p .close) = (.done, s) := by
  have hclose : (s.assets.get p).close = s.assets.get p := by
    rw [SectionReader.close, ← closed]
  simp only [step, SectionReader.perform, hclose, Assets.set_get]

end Session

theorem Action.any_closes_iff {p : Payload} {actions : List Action} :
    actions.any (Action.closes p) = true ↔ .use p .close ∈ actions := by
  rw [List.any_eq_true]
  constructor
  · rintro ⟨action, hmem, hcloses⟩
    cases action with
    | change c => cases hcloses
    | use q op =>
      cases op with
      | close =>
        obtain rfl : q = p := by simpa [Action.closes, ReaderOp.closes] using hcloses
        exact hmem
      | read | readToEnd => simp [Action.closes, ReaderOp.closes] at hcloses
  · intro hmem
    exact ⟨_, hmem, by simp [Action.closes, ReaderOp.closes]⟩

theorem Assets.inside_of_extract {path : String} {file : Bytes} {a : Assets}
    (accepted : extract path (.file file) = .ok a) : (Session.mk file a).Inside := by
  intro p
  rw [extract_file, Assets.ofFile_eq_ok_iff] at accepted
  obtain ⟨_, -, hall⟩ := accepted
  obtain ⟨h, -, -, hreader⟩ := hall p
  rw [hreader]
  exact Nat.zero_le _

open Session (deliveredTo) in
/-- The readers of an image that was accepted, after any actions on them and on the file: where a
reader stands, what it answers next, and that it is the same without the other readers. -/
theorem run_spec {path : String} {file : Bytes} {a : Assets}
    (accepted : extract path (.file file) = .ok a) {actions : List Action}
    {answers : List (Action × Answer)} {s : Session}
    (ran : Session.run ⟨file, a⟩ actions = (answers, s)) (p : Payload) {r : SectionReader}
    (reader : s.assets.get p = r) :
    ∃ headers h, sectionHeaders file = .ok headers ∧ firstHeader headers p = some h ∧
      (r.path = path ∧ r.payload = p ∧ r.start = h.offset ∧ r.size = h.payloadSize) ∧
      (r.position ≤ r.size ∧ r.position = (deliveredTo p answers).length) ∧
      (∀ n, ∃ answer next, s.step (.use p (.read n)) =
        (.chunk answer, { s with assets := s.assets.set next p }) ∧
          r.ReadContract s.file n answer next) ∧
      (∀ rooms, ∃ chunks next, s.step (.use p (.readToEnd rooms)) =
        (.stream chunks, { s with assets := s.assets.set next p }) ∧
          r.EndContract s.file chunks next) ∧
      (∀ more n, 0 < n → ((s.run more).2.step (.use p (.read n))).1 = .chunk (.ok []) →
        (deliveredTo p (s.run more).1).length = r.size - r.position) ∧
      (r.closed = true ↔ .use p .close ∈ actions) ∧
      (r.closed = true → s.step (.use p .close) = (.done, s)) ∧
      (∃ alone, Session.run ⟨file, a⟩ (actions.filter (Action.concerns p)) =
          (answers.filter fun e => e.1.concerns p, alone) ∧
        alone.assets.get p = r ∧ alone.file = s.file) ∧
      ((∀ c, .change c ∈ actions → c.apply file = file) →
        deliveredTo p answers = (file.slice h.offset h.payloadSize).take r.position ∧
          (r.position = r.size → deliveredTo p answers = file.slice h.offset h.payloadSize)) := by
  have hstart := Assets.inside_of_extract accepted
  have hget := Session.run_get hstart actions p
  have hinside := hstart.run actions
  have hunchanged := fun same : ∀ c, .change c ∈ actions → c.apply file = file =>
    Session.deliveredTo_run_unchanged hstart same p
  rw [ran] at hget hinside hunchanged
  replace hinside : s.Inside := hinside
  rw [extract_file, Assets.ofFile_eq_ok_iff] at accepted
  obtain ⟨headers, parsed, hall⟩ := accepted
  obtain ⟨h, hfirst, -, hreader⟩ := hall p
  -- The run says how far the reader has come and whether it is closed, the header all the rest.
  simp only [hreader, SectionHeader.reader, SectionReader.moved, Bool.false_or, Nat.zero_add,
    reader] at hget hunchanged
  subst reader
  refine ⟨headers, h, parsed, hfirst, ?_, ⟨hinside p, ?_⟩, ?_, ?_, ?_, ?_, ?_, ?_, ?_⟩
  · simp [hget]
  · simp [hget]
  · intro n
    exact ⟨_, _, rfl, SectionReader.read_contract (hinside p) s.file n⟩
  · intro rooms
    exact ⟨_, _, rfl, SectionReader.end_contract (hinside p) s.file rooms⟩
  · intro more n room finished
    exact Session.length_deliveredTo_of_finished hinside room finished
  · rw [← Action.any_closes_iff, hget]
  · exact Session.step_close_of_closed
  · obtain ⟨hanswers, hfile, halone⟩ :=
      Session.run_concerning (s := ⟨file, a⟩) p rfl rfl actions
    rw [ran] at hanswers hfile halone
    exact ⟨_, Prod.ext hanswers rfl, halone, hfile⟩
  · intro same
    have hposition : (s.assets.get p).position = (deliveredTo p answers).length := by
      rw [hget]
    have hsize : (s.assets.get p).size = h.payloadSize := by
      rw [hget]
    have hpiece := hunchanged same
    rw [Nat.add_zero, ← hposition] at hpiece
    refine ⟨?_, fun hend => ?_⟩
    · have hle := hinside p
      rw [hpiece, Bytes.slice, Bytes.slice, List.take_take, Nat.min_eq_left (by omega)]
    · rw [hpiece, hend, hsize]

def smallReaders : Assets :=
  readersOf "boot.efi" fun
    | .kernel => smallKernelHeader
    | .initrd => smallInitrdHeader
    | .cmdline => smallCommandLineHeader

/-- One byte of the kernel is read, the initrd is closed, and the file is cut inside the kernel. -/
def smallActions : List Action :=
  [.use .kernel (.read 1), .use .initrd .close, .change (.truncate 321), .change .unlink]

def smallSession : Session := (Session.run ⟨smallImage, smallReaders⟩ smallActions).2

theorem run_smallImage :
    extract "boot.efi" (.file smallImage) = .ok smallReaders ∧
      (Session.run ⟨smallImage, smallReaders⟩ smallActions).1.map Prod.snd =
        [.chunk (.ok [75]), .done, .done, .done] ∧
      (smallSession.step (.use .kernel (.read 4))).1 =
        .chunk (.error (.sectionTruncated "boot.efi" .kernel)) ∧
      (smallSession.step (.use .initrd (.read 0))).1 =
        .chunk (.error (.sectionClosed .initrd)) := by
  have accepted : extract "boot.efi" (.file smallImage) = .ok smallReaders := by decide +kernel
  have ran : Session.run ⟨smallImage, smallReaders⟩ smallActions =
      ((Session.run ⟨smallImage, smallReaders⟩ smallActions).1, smallSession) := rfl
  refine ⟨accepted, by decide +kernel, ?_, ?_⟩
  · obtain ⟨-, -, -, -, ⟨hpath, hpayload, -⟩, -, hread, -⟩ := run_spec accepted ran .kernel rfl
    obtain ⟨answer, next, hstep, hcontract⟩ := hread 4
    have hcut := hcontract.truncated (by decide +kernel) (by decide) (by decide +kernel)
      (by decide +kernel)
    rw [hstep, hcut, hpath, hpayload]
  · obtain ⟨-, -, -, -, ⟨-, hpayload, -⟩, -, hread, -⟩ := run_spec accepted ran .initrd rfl
    obtain ⟨answer, next, hstep, hcontract⟩ := hread 0
    have hclosed := hcontract.closed (by decide +kernel)
    rw [hstep, hclosed, hpayload]

end NextBoot.Image
