import NextBoot.Proofs.DocumentedParser

/-! Operands and options in any order. What a subcommand is given does not depend on how its options
stand among the operands, or on whether a value has a word of its own: this follows from how a parser
reads one of them at a time. -/
namespace NextBoot

open NextBoot.Kexec (Protocol)

namespace Invocation

inductive Argument where
  | operand (text : String) (plain : Word.Plain text)
  | option (name : OptionName) (value : String) (spelling : Spelling value)

namespace Argument

def words : Argument → List String
  | operand text _ => [text]
  | option name _ spelling => spelling.words name

def operand? : Argument → Option String
  | operand text _ => some text
  | option _ _ _ => none

/-- The value that is given for this option. -/
def value? (name : OptionName) : Argument → Option String
  | operand _ _ => none
  | option given value _ => if given = name then some value else none

/-- What is given with one argument more, if the form takes it. -/
def add (form : Form) (g : Given) : Argument → Option Given
  | operand text _ =>
    if g.operands.length < form.operands then some { g with operands := g.operands ++ [text] }
    else none
  | option name value _ => if name ∈ form.options then (g.add name value).toOption else none

section Add
variable {form : Form} {g g' : Given} {text value : String} {name : OptionName}

theorem add_operand_eq_some_iff {plain : Word.Plain text} :
    (operand text plain).add form g = some g' ↔
      g.operands.length < form.operands ∧ { g with operands := g.operands ++ [text] } = g' := by
  simp [add]

theorem add_option_eq_some_iff {spelling : Spelling value} :
    (option name value spelling).add form g = some g' ↔
      name ∈ form.options ∧ g.add name value = .ok g' := by
  rw [add]
  cases g.add name value <;> simp [Except.toOption]

end Add

end Argument

namespace Given
variable {g g' : Given} {name : OptionName} {value : String}

/-- The values that were given for an option. -/
def values (g : Given) : OptionName → List String
  | .extraArgument => g.extra
  | .protocol => g.protocol.toList.map Protocol.name
  | .description => g.description.toList

theorem eq_of_values (operands : g.operands = g'.operands)
    (values : ∀ name, g.values name = g'.values name) : g = g' := by
  obtain ⟨o, e, p?, d?⟩ := g
  obtain ⟨o', e', p?', d?'⟩ := g'
  obtain rfl : o = o' := operands
  obtain rfl : e = e' := values .extraArgument
  have hprotocol : p?.toList.map Protocol.name = p?'.toList.map Protocol.name := values .protocol
  have hdescription : d?.toList = d?'.toList := values .description
  have hp : p? = p?' := by
    cases p? with
    | none => cases p?' <;> simp_all
    | some p =>
      cases p?' with
      | none => simp at hprotocol
      | some p' =>
        have hname : p.name = p'.name := by simpa using hprotocol
        rw [← Protocol.ofName?_eq_some_iff.mpr rfl, hname, Protocol.ofName?_eq_some_iff.mpr rfl]
  have hd : d? = d?' := by cases d? <;> cases d?' <;> simp_all
  rw [hp, hd]

/-- A value that is added comes last, and touches no other option. -/
theorem values_add (h : g.add name value = .ok g') (name' : OptionName) :
    g'.values name' = g.values name' ++ if name = name' then [value] else [] := by
  cases added_of_add h with
  | extraArgument => cases name' <;> simp [values]
  | protocol first named =>
    rw [Protocol.ofName?_eq_some_iff] at named
    cases name' <;> simp [values, first, named]
  | description first => cases name' <;> simp [values, first]

/-- A value can be added if it can stand behind those that were given. -/
theorem exists_add {later : List String}
    (h : g'.values name = g.values name ++ value :: later) : ∃ next, g.add name value = .ok next := by
  cases name with
  | extraArgument => exact ⟨_, rfl⟩
  | protocol =>
    simp only [values] at h
    simp only [add]
    cases hp : g.protocol with
    | none =>
      cases hp' : g'.protocol with
      | none => simp [hp, hp'] at h
      | some p =>
        have hvalue : value = p.name := by simp_all
        simp [Protocol.ofName?_eq_some_iff.mpr hvalue]
    | some q => cases hp' : g'.protocol <;> simp [hp, hp'] at h
  | description =>
    simp only [values] at h
    simp only [add]
    cases hd : g.description with
    | none => exact ⟨_, rfl⟩
    | some q => cases hd' : g'.description <;> simp [hd, hd'] at h

end Given

/-! ### All arguments -/

def operandsIn (arguments : List Argument) : List String := arguments.filterMap Argument.operand?

def valuesIn (name : OptionName) (arguments : List Argument) : List String :=
  arguments.filterMap (Argument.value? name)

/-- `g` is what was given before and with these arguments, all in the order in which they stand. -/
structure Collected (form : Form) (before : Given) (arguments : List Argument) (g : Given) : Prop where
  known : ∀ name, name ∉ form.options → valuesIn name arguments = []
  operands : g.operands = before.operands ++ operandsIn arguments
  fits : g.operands.length ≤ form.operands
  values : ∀ name, g.values name = before.values name ++ valuesIn name arguments

section
variable {form : Form} {before g : Given} {a : Argument} {rest : List Argument}

theorem operandsIn_cons (a : Argument) (rest : List Argument) :
    operandsIn (a :: rest) = operandsIn [a] ++ operandsIn rest :=
  List.filterMap_append (l := [a])

theorem valuesIn_cons (name : OptionName) (a : Argument) (rest : List Argument) :
    valuesIn name (a :: rest) = valuesIn name [a] ++ valuesIn name rest :=
  List.filterMap_append (l := [a])

theorem collected_of_add (room : before.operands.length ≤ form.operands)
    (h : a.add form before = some g) : Collected form before [a] g := by
  cases a with
  | operand text plain =>
    obtain ⟨hroom, rfl⟩ := Argument.add_operand_eq_some_iff.mp h
    refine ⟨fun _ _ => rfl, rfl, ?_, fun name => ?_⟩
    · rw [List.length_append]
      exact hroom
    · cases name <;> exact (List.append_nil _).symm
  | option name value spelling =>
    obtain ⟨hknown, hadd⟩ := Argument.add_option_eq_some_iff.mp h
    have hoperands := Given.operands_add hadd
    have hone (name' : OptionName) :
        valuesIn name' [.option name value spelling] = if name = name' then [value] else [] := by
      by_cases hn : name = name' <;> simp [valuesIn, Argument.value?, hn]
    refine ⟨fun name' hunknown => ?_, ?_, hoperands ▸ room, fun name' => ?_⟩
    · rw [hone, if_neg (ne_of_mem_of_not_mem hknown hunknown)]
    · exact hoperands.trans (List.append_nil _).symm
    · rw [hone, Given.values_add hadd]

theorem Collected.cons_iff {next : Given} (first : Collected form before [a] next) :
    Collected form before (a :: rest) g ↔ Collected form next rest g := by
  constructor
  · intro all
    refine ⟨fun name h => ?_, ?_, all.fits, fun name => ?_⟩
    · have hall := all.known name h
      rw [valuesIn_cons name a rest, first.known name h] at hall
      exact hall
    · rw [all.operands, first.operands, operandsIn_cons a rest, List.append_assoc]
    · rw [all.values, first.values, valuesIn_cons name a rest, List.append_assoc]
  · intro later
    refine ⟨fun name h => ?_, ?_, later.fits, fun name => ?_⟩
    · rw [valuesIn_cons name a rest, first.known name h, later.known name h, List.append_nil]
    · rw [later.operands, first.operands, operandsIn_cons a rest, List.append_assoc]
    · rw [later.values, first.values, valuesIn_cons name a rest, List.append_assoc]

/-- An argument can be added if, with others behind it, it makes up what was collected. -/
theorem Collected.exists_add (all : Collected form before (a :: rest) g) :
    ∃ next, a.add form before = some next := by
  cases a with
  | operand text plain =>
    have hsize := all.fits
    rw [all.operands, List.length_append] at hsize
    have hroom : before.operands.length < form.operands := by
      have hone : operandsIn (.operand text plain :: rest) = text :: operandsIn rest := rfl
      rw [hone, List.length_cons] at hsize
      omega
    exact ⟨_, Argument.add_operand_eq_some_iff.mpr ⟨hroom, rfl⟩⟩
  | option name value spelling =>
    have hone : valuesIn name (.option name value spelling :: rest) = value :: valuesIn name rest := by
      simp [valuesIn, Argument.value?]
    have hknown : name ∈ form.options := by
      by_contra hunknown
      have hnone := all.known name hunknown
      rw [hone] at hnone
      cases hnone
    have hvalues := all.values name
    rw [hone] at hvalues
    obtain ⟨next, hnext⟩ := Given.exists_add hvalues
    exact ⟨next, Argument.add_option_eq_some_iff.mpr ⟨hknown, hnext⟩⟩

/-- By induction on the arguments. -/
theorem foldlM_add_eq_some_iff (room : before.operands.length ≤ form.operands) :
    rest.foldlM (Argument.add form) before = some g ↔ Collected form before rest g := by
  induction rest generalizing before with
  | nil =>
    constructor
    · intro h
      obtain rfl : before = g := Option.some.inj h
      exact ⟨fun _ _ => rfl, (List.append_nil _).symm, room, fun _ => (List.append_nil _).symm⟩
    · intro c
      have hsame : before = g := Given.eq_of_values (c.operands.trans (List.append_nil _)).symm
        fun name => ((c.values name).trans (List.append_nil _)).symm
      rw [hsame]
      rfl
  | cons a rest ih =>
    rw [List.foldlM_cons, Option.bind_eq_bind, Option.bind_eq_some_iff]
    constructor
    · rintro ⟨next, hadd, hrest⟩
      have first := collected_of_add room hadd
      exact first.cons_iff.mpr ((ih first.fits).mp hrest)
    · intro all
      obtain ⟨next, hadd⟩ := all.exists_add
      have first := collected_of_add room hadd
      exact ⟨next, hadd, (ih first.fits).mpr (first.cons_iff.mp all)⟩

end

end Invocation

/-! ### Reading all arguments -/

namespace ArgumentParser.Documented

open Invocation

variable {p : ArgumentParser} {Has : p.State → Subcommand → Given → Prop}
  {s : p.State} {c : Subcommand} {g g' : Given}

theorem accepts (documented : p.Documented Has) (has : Has s c g) {a : Argument}
    (added : a.add c.form g = some g') :
    ∃ s', a.words.foldlM p.word s = .ok s' ∧ Has s' c g' := by
  cases a with
  | operand text plain =>
    obtain ⟨room, rfl⟩ := Argument.add_operand_eq_some_iff.mp added
    obtain ⟨s', hword, has'⟩ := documented.operand has plain room
    refine ⟨s', ?_, has'⟩
    rw [Argument.words, List.foldlM_cons, hword]
    rfl
  | option name value spelling =>
    obtain ⟨known, hadd⟩ := Argument.add_option_eq_some_iff.mp added
    exact documented.option spelling has known hadd

theorem refuses (documented : p.Documented Has) (has : Has s c g) {a : Argument}
    (added : a.add c.form g = none) : p.Refuses s a.words := by
  cases a with
  | operand text plain =>
    rw [Argument.add] at added
    split at added
    next => cases added
    next full => exact documented.surplus has plain (Nat.le_of_not_lt full)
  | option name value spelling =>
    rw [Argument.add] at added
    split at added
    next known =>
      cases hadd : g.add name value with
      | error e => exact documented.refused spelling has known hadd
      | ok next => simp [hadd, Except.toOption] at added
    next unknown => exact documented.unknown spelling has unknown

/-- By induction on the arguments: they are all taken, or one of them is refused. -/
theorem reads (documented : p.Documented Has) (has : Has s c g) (arguments : List Argument) :
    (∃ g' s', arguments.foldlM (Argument.add c.form) g = some g' ∧
      (arguments.flatMap Argument.words).foldlM p.word s = .ok s' ∧ Has s' c g') ∨
    arguments.foldlM (Argument.add c.form) g = none ∧
      ∃ e, p.readFrom s (arguments.flatMap Argument.words) = .error e := by
  induction arguments generalizing s g with
  | nil => exact .inl ⟨g, s, rfl, rfl, has⟩
  | cons a rest ih =>
    rw [List.foldlM_cons, List.flatMap_cons]
    cases added : a.add c.form g with
    | none => exact .inr ⟨rfl, documented.refuses has added _⟩
    | some next =>
      obtain ⟨s', hwords, has'⟩ := documented.accepts has added
      rcases ih has' with ⟨g', s'', hrest, hread, has''⟩ | ⟨hrest, e, he⟩
      · refine .inl ⟨g', s'', hrest, ?_, has''⟩
        rw [List.foldlM_append, hwords, Outcome.ok_bind, hread]
      · exact .inr ⟨hrest, e, (readFrom_append hwords _).trans he⟩

/-- What comes of the name of a subcommand and these arguments, if anything does. -/
theorem read_eq_ok_iff (documented : p.Documented Has) (c : Subcommand)
    {arguments : List Argument} {invocation : Invocation} :
    p.read (c.name :: arguments.flatMap Argument.words) = .ok invocation ↔
      ∃ g, (Collected c.form {} arguments g ∧ g.operands.length = c.form.operands) ∧
        invocation = c.invocation g := by
  obtain ⟨s, hname, has⟩ := documented.begins c
  rw [read, readFrom_cons hname]
  have hcollected {g : Given} : arguments.foldlM (Argument.add c.form) {} = some g ↔
      Collected c.form {} arguments g := foldlM_add_eq_some_iff (Nat.zero_le _)
  rcases documented.reads has arguments with ⟨g, s', hall, hread, has'⟩ | ⟨hnone, e, he⟩
  · have collected := hcollected.mp hall
    have hunique {g' : Given} (other : Collected c.form {} arguments g') : g = g' :=
      Option.some.inj (hall.symm.trans (hcollected.mpr other))
    rw [readFrom, hread, Outcome.ok_bind]
    rcases Nat.lt_or_ge g.operands.length c.form.operands with short | full
    · obtain ⟨e, he⟩ := documented.missing has' short
      rw [he]
      constructor
      · intro h
        cases h
      · rintro ⟨g', ⟨other, full⟩, -⟩
        obtain rfl := hunique other
        exact absurd full short.ne
    · have hfull : g.operands.length = c.form.operands := Nat.le_antisymm collected.fits full
      rw [documented.complete has' hfull]
      constructor
      · intro h
        exact ⟨g, ⟨collected, hfull⟩, (Except.ok.inj h).symm⟩
      · rintro ⟨g', ⟨other, -⟩, rfl⟩
        obtain rfl := hunique other
        rfl
  · rw [he]
    constructor
    · intro h
      cases h
    · rintro ⟨g, ⟨collected, -⟩, -⟩
      have hsome := hcollected.mpr collected
      rw [hnone] at hsome
      cases hsome

end ArgumentParser.Documented

namespace Invocation

/-! ### The kernel to switch to -/

/-- One operand, one protocol at most, and no option but these. -/
theorem collected_kexec_iff {arguments : List Argument} {g : Given} :
    Collected Subcommand.kexec.form {} arguments g ∧
        g.operands.length = Subcommand.kexec.form.operands ↔
      ∃ image, operandsIn arguments = [image] ∧ valuesIn .description arguments = [] ∧
        valuesIn .protocol arguments = g.protocol.toList.map Protocol.name ∧
        g = ⟨[image], valuesIn .extraArgument arguments, g.protocol, none⟩ := by
  constructor
  · rintro ⟨c, hone⟩
    obtain ⟨image, himage⟩ := List.length_eq_one_iff.mp hone
    have hdescription := c.known .description (by decide)
    have hnone : g.description = none := by
      have hvalues : g.description.toList = [] := (c.values .description).trans hdescription
      simpa using hvalues
    refine ⟨image, c.operands.symm.trans himage, hdescription, (c.values .protocol).symm, ?_⟩
    have hextra : g.extra = valuesIn .extraArgument arguments := c.values .extraArgument
    rw [← hextra, ← himage, ← hnone]
  · rintro ⟨image, himage, hdescription, hprotocol, hg⟩
    rw [hg]
    refine ⟨⟨fun name hunknown => ?_, himage.symm, Nat.le_refl _, fun name => ?_⟩, rfl⟩
    · cases name with
      | description => exact hdescription
      | extraArgument | protocol => exact absurd hunknown (by decide)
    · cases name with
      | extraArgument => rfl
      | protocol => exact hprotocol.symm
      | description => exact hdescription.symm

/-- In whatever order and spelling the arguments stand, they ask for the one image that they name, with
the protocol that they choose and the extra arguments as they follow each other, or for nothing. -/
theorem read_kexec {p : ArgumentParser} {Has : p.State → Subcommand → Given → Prop}
    (documented : p.Documented Has) (arguments : List Argument) :
    (∀ invocation, p.read ("kexec" :: arguments.flatMap Argument.words) = .ok invocation ↔
      ∃ image protocol, operandsIn arguments = [image] ∧
        valuesIn .protocol arguments = protocol.toList.map Protocol.name ∧
        valuesIn .description arguments = [] ∧
        invocation = .kexec image (valuesIn .extraArgument arguments) protocol) ∧
    ((operandsIn arguments).length ≠ 1 ∨ 1 < (valuesIn .protocol arguments).length →
      ∃ e, p.read ("kexec" :: arguments.flatMap Argument.words) = .error e) := by
  have hiff (invocation : Invocation) :
      p.read ("kexec" :: arguments.flatMap Argument.words) = .ok invocation ↔
        ∃ image protocol, operandsIn arguments = [image] ∧
          valuesIn .protocol arguments = protocol.toList.map Protocol.name ∧
          valuesIn .description arguments = [] ∧
          invocation = .kexec image (valuesIn .extraArgument arguments) protocol := by
    refine (documented.read_eq_ok_iff .kexec).trans ?_
    simp only [collected_kexec_iff]
    constructor
    · rintro ⟨g, ⟨image, himage, hdescription, hprotocol, hg⟩, rfl⟩
      refine ⟨image, g.protocol, himage, hprotocol, hdescription, ?_⟩
      rw [hg]
      rfl
    · rintro ⟨image, protocol, himage, hprotocol, hdescription, rfl⟩
      exact ⟨⟨[image], valuesIn .extraArgument arguments, protocol, none⟩,
        ⟨image, himage, hdescription, hprotocol, rfl⟩, rfl⟩
  refine ⟨hiff, fun wrong => ?_⟩
  cases hwords : p.read ("kexec" :: arguments.flatMap Argument.words) with
  | error e => exact ⟨e, rfl⟩
  | ok invocation =>
    obtain ⟨image, protocol, himage, hprotocol, -⟩ := (hiff invocation).mp hwords
    rcases wrong with hoperands | hprotocols
    · rw [himage] at hoperands
      exact absurd rfl hoperands
    · rw [hprotocol] at hprotocols
      cases protocol <;> simp at hprotocols

/-- Values that look like options, and one that is empty, in both spellings. -/
def mixedArguments : List Argument :=
  [.option .extraArgument "--protocol=file" .joined, .option .protocol "legacy" (.apart (by decide)),
    .operand "x.efi" (by decide), .option .extraArgument "" (.apart (by decide)),
    .option .extraArgument "a=b" .joined]

/-- The program's parser takes them all, and refuses a second image. -/
theorem read_mixedArguments :
    parser.Documented Stage.Has ∧
      ofWords ["kexec", "--extra-arg=--protocol=file", "--protocol", "legacy", "x.efi",
        "--extra-arg", "", "--extra-arg=a=b"] =
        .ok (.kexec "x.efi" ["--protocol=file", "", "a=b"] (some .legacy)) ∧
      ∃ e, ofWords ["kexec", "--extra-arg=--protocol=file", "--protocol", "legacy", "x.efi",
        "--extra-arg", "", "--extra-arg=a=b", "y.efi"] = .error e := by
  refine ⟨parser_documented, ?_, ?_⟩
  · exact ((read_kexec parser_documented mixedArguments).1 _).mpr
      ⟨"x.efi", some .legacy, rfl, rfl, rfl, rfl⟩
  · have htwo : (operandsIn (mixedArguments ++ [.operand "y.efi" (by decide)])).length = 2 := rfl
    exact (read_kexec parser_documented (mixedArguments ++ [.operand "y.efi" (by decide)])).2
      (.inl (by rw [htwo]; decide))

end Invocation

end NextBoot
