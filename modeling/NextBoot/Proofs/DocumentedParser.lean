import Mathlib.Data.List.TakeWhile
import NextBoot.Invocation
import NextBoot.Proofs.Outcome

/-! How a parser of arguments reads one operand or one option, as it is documented. Nothing is said of
more than one at a time. The program's own parser reads in this way. -/
namespace NextBoot

/-- Text that reads as no option. -/
def Word.Plain (text : String) : Prop := text.toList.head? ≠ some '-'

instance (text : String) : Decidable (Word.Plain text) := inferInstanceAs (Decidable (_ ≠ _))

namespace Invocation

/-- How a value is given: behind an equals sign, or in a word of its own. -/
inductive Spelling (value : String) where
  | joined
  | apart (plain : Word.Plain value)

def Spelling.words (name : OptionName) {value : String} : Spelling value → List String
  | joined => ["--" ++ name.text ++ "=" ++ value]
  | apart _ => ["--" ++ name.text, value]

end Invocation

namespace ArgumentParser

open Invocation (Given OptionName Spelling Subcommand)

/-- These words are an error, whatever follows them. -/
def Refuses (p : ArgumentParser) (s : p.State) (words : List String) : Prop :=
  ∀ rest, ∃ e, p.readFrom s (words ++ rest) = .error e

/-- What is documented of a parser. `Has s c g` is to say that in the state `s` all that was given to
the subcommand `c` is `g`. -/
structure Documented (p : ArgumentParser) (Has : p.State → Subcommand → Given → Prop) : Prop where
  /-- A subcommand is chosen by its name, and has been given nothing then. -/
  begins : ∀ c : Subcommand, ∃ s, p.word p.start c.name = .ok s ∧ Has s c {}
  /-- A word that is no option is the next operand. -/
  operand : ∀ {s c g} {text : String}, Has s c g → Word.Plain text →
    g.operands.length < c.form.operands →
    ∃ s', p.word s text = .ok s' ∧ Has s' c { g with operands := g.operands ++ [text] }
  /-- There are no more operands than the form has. -/
  surplus : ∀ {s c g} {text : String}, Has s c g → Word.Plain text →
    c.form.operands ≤ g.operands.length → p.Refuses s [text]
  /-- An option is given its value in either spelling. -/
  option : ∀ {s c g g' name} {value : String} (spelling : Spelling value), Has s c g →
    name ∈ c.form.options → g.add name value = .ok g' →
    ∃ s', (spelling.words name).foldlM p.word s = .ok s' ∧ Has s' c g'
  /-- A value that is not one of the option's, or one too many, is refused. -/
  refused : ∀ {s c g name e} {value : String} (spelling : Spelling value), Has s c g →
    name ∈ c.form.options → g.add name value = .error e → p.Refuses s (spelling.words name)
  /-- So is an option that the form does not have. -/
  unknown : ∀ {s c g name} {value : String} (spelling : Spelling value), Has s c g →
    name ∉ c.form.options → p.Refuses s (spelling.words name)
  /-- With all its operands a subcommand is complete. -/
  complete : ∀ {s c g}, Has s c g → g.operands.length = c.form.operands →
    p.finish s = .ok (c.invocation g)
  missing : ∀ {s c g}, Has s c g → g.operands.length < c.form.operands → ∃ e, p.finish s = .error e

variable {p : ArgumentParser} {s s' : p.State} {words : List String}

theorem readFrom_append (h : words.foldlM p.word s = .ok s') (rest : List String) :
    p.readFrom s (words ++ rest) = p.readFrom s' rest := by
  rw [readFrom, readFrom, List.foldlM_append, h, Outcome.ok_bind]

theorem readFrom_cons {text : String} (h : p.word s text = .ok s') (rest : List String) :
    p.readFrom s (text :: rest) = p.readFrom s' rest := by
  rw [readFrom, readFrom, List.foldlM_cons, h, Outcome.ok_bind]

/-- What fails to be read is refused. -/
theorem refuses_of_error {e : UsageError} (h : words.foldlM p.word s = .error e) :
    p.Refuses s words := by
  intro rest
  rw [readFrom, List.foldlM_append, h]
  exact ⟨e, rfl⟩

theorem refuses_word {text : String} {e : UsageError} (h : p.word s text = .error e) :
    p.Refuses s [text] := by
  apply refuses_of_error (e := e)
  rw [List.foldlM_cons, h, Outcome.error_bind]

end ArgumentParser

/-! ### Single words -/

namespace Word

theorem ofText_of_plain {text : String} (h : Plain text) : ofText text = .plain := by
  unfold Plain at h
  unfold ofText
  split
  all_goals simp_all

theorem ofText_long {text : String} {cs : List Char} (h : text.toList = '-' :: '-' :: cs)
    (ne : cs ≠ []) :
    ofText text = .long (String.ofList (cs.takeWhile (· ≠ '=')))
      (match cs.dropWhile (· ≠ '=') with
        | [] => none
        | _ :: value => some (String.ofList value)) := by
  obtain ⟨c, cs, rfl⟩ := List.exists_cons_of_ne_nil ne
  unfold ofText
  rw [h]
  cases hvalue : (c :: cs).dropWhile (· ≠ '=') with
  | nil => simp only [hvalue]
  | cons sign value => simp only [hvalue]

section
variable {name : String}

theorem ne_equals (unequal : '=' ∉ name.toList) : ∀ c ∈ name.toList, decide (c ≠ '=') = true :=
  fun _ hc => decide_eq_true (ne_of_mem_of_not_mem hc unequal)

/-- The name ends at the first equals sign, so the value may hold others. -/
theorem ofText_joined (unequal : '=' ∉ name.toList) (value : String) :
    ofText ("--" ++ name ++ "=" ++ value) = .long name (some value) := by
  have htext : ("--" ++ name ++ "=" ++ value).toList =
      '-' :: '-' :: (name.toList ++ '=' :: value.toList) := by simp
  rw [ofText_long htext (by simp), List.takeWhile_append_of_pos (ne_equals unequal),
    List.dropWhile_append_of_pos (ne_equals unequal)]
  simp

theorem ofText_apart (unequal : '=' ∉ name.toList) (ne : name.toList ≠ []) :
    ofText ("--" ++ name) = .long name none := by
  have htext : ("--" ++ name).toList = '-' :: '-' :: name.toList := by simp
  rw [ofText_long htext ne, List.takeWhile_eq_self_iff.mpr (ne_equals unequal),
    List.dropWhile_eq_nil_iff.mpr (ne_equals unequal), String.ofList_toList]

end

end Word

namespace Invocation

namespace OptionName

theorem text_injective : Function.Injective text := by
  intro option option' h
  cases option <;> cases option' <;> first | rfl | exact absurd h (by decide)

theorem notMem_text (option : OptionName) : '=' ∉ option.text.toList := by
  cases option <;> decide

theorem text_ne_nil (option : OptionName) : option.text.toList ≠ [] := by
  cases option <;> decide

theorem find?_text (options : List OptionName) (option : OptionName) :
    options.find? (·.text = option.text) = if option ∈ options then some option else none := by
  induction options with
  | nil => rfl
  | cons first rest ih =>
    by_cases h : first = option
    · subst h
      simp
    · have htext : first.text ≠ option.text := text_injective.ne h
      rw [List.find?_cons_of_neg (by simpa using htext), ih]
      simp [Ne.symm h]

end OptionName

namespace Given
variable {g g' : Given} {name : OptionName} {value : String}

/-- What becomes of it when the value of an option is added. -/
inductive Added (g : Given) (value : String) : OptionName → Given → Prop where
  | extraArgument : Added g value .extraArgument { g with extra := g.extra ++ [value] }
  | protocol {p : Kexec.Protocol} (first : g.protocol = none)
    (named : Kexec.Protocol.ofName? value = some p) :
    Added g value .protocol { g with protocol := some p }
  | description (first : g.description = none) :
    Added g value .description { g with description := some value }

theorem added_of_add (h : g.add name value = .ok g') : g.Added value name g' := by
  cases name with
  | extraArgument =>
    obtain rfl := Except.ok.inj h
    exact .extraArgument
  | protocol =>
    simp only [add] at h
    split_ifs at h with given
    split at h
    next p named =>
      obtain rfl := Except.ok.inj h
      exact .protocol (by simpa using given) named
    next => cases h
  | description =>
    simp only [add] at h
    split_ifs at h with given
    obtain rfl := Except.ok.inj h
    exact .description (by simpa using given)

theorem operands_add (h : g.add name value = .ok g') : g'.operands = g.operands := by
  cases added_of_add h <;> rfl

end Given

/-! ### Reading for a subcommand -/

namespace Reading
variable {form : Form} {r : Reading} {g : Given} {name : OptionName} {value text : String}

/-- All that was given is `g`, once the value of a pending option counts too. -/
structure Has (r : Reading) (g : Given) : Prop where
  options : r.escaped = false
  settles : r.settle = .ok { r with given := g, pending := none }
  operands : g.operands = r.given.operands

/-- The value of the pending option is none that can be added. -/
def Stuck (r : Reading) : Prop :=
  ∃ name value e, r.pending = some (name, some value) ∧ r.given.add name value = .error e

theorem has_settled (options : r.escaped = false) (g : Given) :
    ({ r with given := g, pending := none } : Reading).Has g := ⟨options, rfl, rfl⟩

theorem word_of_plain (options : r.escaped = false) (plain : Word.Plain text) :
    r.word form text = r.plain form text := by
  simp only [word, options, Word.ofText_of_plain plain, Bool.false_eq_true, if_false]

theorem word_of_long (options : r.escaped = false) {value? : Option String}
    (reads : Word.ofText text = .long name.text value?) :
    r.word form text = if name ∈ form.options then do
        let r ← r.settle
        match value? with
        | none => return { r with pending := some (name, none) }
        | some value => return { r with given := ← r.given.add name value }
      else .error .unknownArgument := by
  have hhelp : name.text ≠ "help" := by cases name <;> decide
  simp only [word, options, reads, Bool.false_eq_true, if_false, long, if_neg hhelp,
    OptionName.find?_text]
  by_cases hknown : name ∈ form.options
  · cases value? <;> simp only [if_pos hknown]
  · simp only [if_neg hknown]

theorem Has.word_operand (has : r.Has g) (plain : Word.Plain text) :
    r.word form text = if g.operands.length < form.operands then
        .ok { r with given := { g with operands := g.operands ++ [text] }, pending := none }
      else .error .unknownArgument := by
  have hoperand : r.plain form text = r.operand form text := by
    unfold Reading.plain
    split
    next option hpending =>
      have hsettles := has.settles
      simp [settle, hpending] at hsettles
    next => rfl
  rw [word_of_plain has.options plain, hoperand, operand, has.settles, ← has.operands]
  rfl

theorem Has.word_joined (has : r.Has g) :
    r.word form ("--" ++ name.text ++ "=" ++ value) = if name ∈ form.options then do
        return { r with given := ← g.add name value, pending := none }
      else .error .unknownArgument := by
  rw [word_of_long has.options (Word.ofText_joined name.notMem_text value), has.settles]
  rfl

theorem Has.word_apart (has : r.Has g) :
    r.word form ("--" ++ name.text) = if name ∈ form.options then
        .ok { r with given := g, pending := some (name, none) }
      else .error .unknownArgument := by
  rw [word_of_long has.options (Word.ofText_apart name.notMem_text name.text_ne_nil), has.settles]
  rfl

/-- Behind its two words the option is pending, and its value counts only later. -/
theorem Has.words_apart (has : r.Has g) (known : name ∈ form.options) (plain : Word.Plain value) :
    ["--" ++ name.text, value].foldlM (fun r text => r.word form text) r =
      .ok { r with given := g, pending := some (name, some value) } := by
  have hvalue : word form value { r with given := g, pending := some (name, none) } = _ :=
    word_of_plain has.options plain
  rw [List.foldlM_cons, has.word_apart, if_pos known, Outcome.ok_bind, List.foldlM_cons, hvalue]
  rfl

theorem has_pending (options : r.escaped = false) {g' : Given} (h : g.add name value = .ok g') :
    ({ r with given := g, pending := some (name, some value) } : Reading).Has g' := by
  refine ⟨options, ?_, Given.operands_add h⟩
  simp only [settle, h]
  rfl

/-- No word helps a value that cannot be added. -/
theorem Stuck.word (stuck : r.Stuck) (form : Form) (text : String) :
    (∃ e, r.word form text = .error e) ∨ ∃ r', r.word form text = .ok r' ∧ r'.Stuck := by
  obtain ⟨name, value, e, hpending, hadd⟩ := stuck
  have hsettle : r.settle = .error e := by
    simp only [settle, hpending, hadd]
    rfl
  have hoperand : ∃ e, r.operand form text = .error e := by
    unfold operand
    split
    · exact ⟨e, by rw [hsettle]; rfl⟩
    · exact ⟨_, rfl⟩
  unfold Reading.word
  split
  · exact .inl hoperand
  · split
    · exact .inr ⟨_, rfl, name, value, e, hpending, hadd⟩
    next name value? _ =>
      refine .inl ?_
      unfold long
      rw [hsettle]
      split
      · split <;> exact ⟨_, rfl⟩
      · split <;> exact ⟨_, rfl⟩
    · rw [hsettle]
      split <;> exact .inl ⟨_, rfl⟩
    · unfold plain
      rw [hpending]
      exact .inl hoperand

end Reading

/-! ### The program's parser -/

namespace Stage

/-- The subcommand was named, and all that it was given is `g`. -/
inductive Has : Stage → Subcommand → Given → Prop
  | inside {c : Subcommand} {r : Reading} {g : Given} (has : r.Has g) : Has (inside c r) c g

variable {c : Subcommand} {r : Reading}

theorem word_inside (text : String) :
    word (inside c r) text = (r.word c.form text).map (inside c) := by
  simp only [word]
  cases r.word c.form text <;> rfl

theorem foldlM_inside (words : List String) :
    words.foldlM word (inside c r) =
      (words.foldlM (fun r text => Reading.word c.form text r) r).map (inside c) := by
  induction words generalizing r with
  | nil => rfl
  | cons text rest ih =>
    rw [List.foldlM_cons, List.foldlM_cons, word_inside]
    cases r.word c.form text with
    | error e => rfl
    | ok r' => exact ih

theorem error_of_stuck (stuck : r.Stuck) (words : List String) :
    ∃ e, parser.readFrom (inside c r) words = .error e := by
  induction words generalizing r with
  | nil =>
    obtain ⟨name, value, e, hpending, hadd⟩ := stuck
    refine ⟨e, ?_⟩
    show Stage.finish (inside c r) = _
    simp only [finish, Reading.settle, hpending, hadd]
    rfl
  | cons text rest ih =>
    have hstage : parser.word (inside c r) text = (r.word c.form text).map (inside c) :=
      word_inside text
    rcases stuck.word c.form text with ⟨e, hword⟩ | ⟨r', hword, stuck'⟩
    · rw [hword] at hstage
      exact ArgumentParser.refuses_word hstage rest
    · rw [hword] at hstage
      obtain ⟨e, he⟩ := ih stuck'
      exact ⟨e, (ArgumentParser.readFrom_cons hstage rest).trans he⟩

end Stage

theorem Subcommand.first_name (c : Subcommand) : Stage.first c.name = .ok (.inside c {}) := by
  cases c <;> rfl

/-- The program's parser reads in this way. A value with a word of its own waits for the word after
it, so one that cannot be added is told later. -/
theorem parser_documented : parser.Documented Stage.Has where
  begins c := ⟨.inside c {}, c.first_name, .inside (Reading.has_settled (r := {}) rfl {})⟩
  operand := by
    rintro _ c g text (@⟨_, r, _, has⟩) plain room
    refine ⟨.inside c _, ?_, .inside (Reading.has_settled has.options _)⟩
    exact (Stage.word_inside text).trans (by rw [has.word_operand plain, if_pos room]; rfl)
  surplus := by
    rintro _ c g text (@⟨_, r, _, has⟩) plain full
    have hword : Stage.word (.inside c r) text = .error .unknownArgument := by
      rw [Stage.word_inside, has.word_operand plain, if_neg (Nat.not_lt.mpr full)]
      rfl
    exact ArgumentParser.refuses_word hword
  option := by
    rintro _ c g g' name value spelling (@⟨_, r, _, has⟩) known hadd
    cases spelling with
    | joined =>
      refine ⟨.inside c _, ?_, .inside (Reading.has_settled has.options g')⟩
      refine (Stage.foldlM_inside _).trans ?_
      simp only [Spelling.words, List.foldlM_cons, has.word_joined, if_pos known, hadd]
      rfl
    | apart plain =>
      refine ⟨.inside c _, ?_, .inside (Reading.has_pending has.options hadd)⟩
      exact (Stage.foldlM_inside _).trans (congrArg _ (has.words_apart known plain))
  refused := by
    rintro _ c g name e value spelling (@⟨_, r, _, has⟩) known hadd
    cases spelling with
    | joined =>
      have hwords : ((Spelling.joined : Spelling value).words name).foldlM Stage.word
          (.inside c r) = .error e := by
        rw [Stage.foldlM_inside]
        simp only [Spelling.words, List.foldlM_cons, has.word_joined, if_pos known, hadd]
        rfl
      exact ArgumentParser.refuses_of_error hwords
    | apart plain =>
      intro rest
      have hwords : (Spelling.words name (.apart plain)).foldlM Stage.word (.inside c r) = _ :=
        (Stage.foldlM_inside _).trans (congrArg _ (has.words_apart known plain))
      rw [ArgumentParser.readFrom_append (p := parser) hwords]
      exact Stage.error_of_stuck ⟨name, value, e, rfl, hadd⟩ rest
  unknown := by
    rintro _ c g name value spelling (@⟨_, r, _, has⟩) unknown
    have hwords : (spelling.words name).foldlM Stage.word (.inside c r) =
        .error .unknownArgument := by
      rw [Stage.foldlM_inside]
      cases spelling with
      | joined =>
        simp only [Spelling.words, List.foldlM_cons, has.word_joined, if_neg unknown]
        rfl
      | apart plain =>
        simp only [Spelling.words, List.foldlM_cons, has.word_apart, if_neg unknown]
        rfl
    exact ArgumentParser.refuses_of_error hwords
  complete := by
    rintro _ c g (@⟨_, r, _, has⟩) full
    show Stage.finish (.inside c r) = _
    simp only [Stage.finish, has.settles, Outcome.ok_bind, full, Nat.lt_irrefl, if_false]
    rfl
  missing := by
    rintro _ c g (@⟨_, r, _, has⟩) short
    refine ⟨.missingArgument, ?_⟩
    show Stage.finish (.inside c r) = _
    simp only [Stage.finish, has.settles, Outcome.ok_bind, if_pos short]
    rfl

end Invocation

end NextBoot
