import BuildBlocks.Cli.Command
import BuildBlocks.Proofs.BracedPattern
import BuildBlocks.Proofs.StageFailures

/-!
# What holds for options that the command is not given

Options of pages that are not given come from the settings. The command, however, gives a marker
word and whether it is strict each time it loads options: without an option on its line, these are
the defaults of its arguments. So it loads the same options whatever the settings say about the two;
only the pattern of placeholders comes from the settings (`Stage.options_of_runLoad_of_silent`).

## The architecture

* **`Line.reads_read`**: what is seen of the arguments stays as it is while words are read, if the
  options among them leave it as it is.
* **`Command.view_arguments`**: the same from the words as they are written.
* **`Stage.runLoad_eq_of_agree`**: which settings loading depends on.
* **`Stage.exists_fields_of_runLoad`**: the options of pages that are loaded, field by field.
-/

namespace BuildBlocks
namespace Cli

/-! ## Arguments that stay as they are -/

/-- Whether an option leaves what is seen of the arguments as it is. -/
def Switch.Keeps {β : Type} (view : Arguments → β) (o : Switch) : Prop :=
  ∀ value a, view (o.apply value a) = view a

/-- Whether a word leaves what is seen of the arguments as it is, as far as the option goes that it
names. -/
def Word.Keeps {β : Type} (view : Arguments → β) (w : Word) : Prop :=
  ∀ o letter value, w = .option o letter value → o.Keeps view

/-- Whether words give an option, by any of its names or by the beginning of one. -/
def Switch.IsGiven (o : Switch) (words : List Text) : Prop :=
  ∃ ws letter value, Word.ofTexts words = .ok ws ∧ .option o letter value ∈ ws

namespace Switch

/-- The options that have a letter for a name. -/
def lettered : List Switch := [help, verbosity, version]

theorem mem_lettered_of_ofName? {c : Char} {o : Switch} (h : ofName? ['-', c] = some o) :
    o ∈ lettered := by
  have hnamed : ∀ x ∈ named, x.1.length = 2 → x.2 ∈ lettered := by decide
  obtain ⟨before, after, heq, -⟩ := List.lookup_eq_some_iff.1 h
  exact hnamed (['-', c], o) (by simp [heq]) rfl

end Switch

section

variable {β : Type} {view : Arguments → β} {o : Switch} {line : Line}

theorem Switch.keeps_of_mem_lettered (hverbosity : verbosity.Keeps view) (ho : o ∈ lettered) :
    o.Keeps view := by
  cases o with
  | verbosity => exact hverbosity
  | help | version => exact fun _ _ => rfl
  | _ => exact absurd ho (by decide)

/-- What may come of reading words: something is wrong, help or the version is asked for, or there
is a line in whose arguments the same is seen as before. -/
inductive Reads (view : Arguments → β) (line : Line) : Except Ending Line → Prop
  | error (e : UsageError) : Reads view line (.error (.error e))
  | help : Reads view line (.error (.command .help))
  | version : Reads view line (.error (.command .version))
  | line {line' : Line} (h : view line'.arguments = view line.arguments) :
      Reads view line (.ok line')

theorem Reads.after {next : Line} {r : Except Ending Line} (hr : Reads view next r)
    (h : view next.arguments = view line.arguments) : Reads view line r := by
  cases hr with
  | error e => exact .error e
  | help => exact .help
  | version => exact .version
  | line h' => exact .line (h'.trans h)

/-- What is seen after a step that leads on. -/
theorem Reads.view_eq {line' : Line} (h : Reads view line (.ok line')) :
    view line'.arguments = view line.arguments := by
  cases h with
  | line h => exact h

namespace Line

theorem reads_take {value : List Text} (ho : o.Keeps view) :
    Reads view line (line.take value o) := by
  unfold take
  split
  · exact .help
  · exact .version
  · exact .line (ho _ _)

theorem reads_takeAll {options : List (Switch × List Text)}
    (hkeeps : ∀ x ∈ options, x.1.Keeps view) : Reads view line (line.takeAll options) := by
  induction options generalizing line with
  | nil => exact .line rfl
  | cons x rest ih =>
    have hfirst : Reads view line (line.take x.2 x.1) := reads_take (hkeeps x List.mem_cons_self)
    show Reads view line ((line.take x.2 x.1).bind (·.takeAll rest))
    cases hnext : line.take x.2 x.1 with
    | error e =>
      rw [hnext] at hfirst
      exact hfirst
    | ok next =>
      rw [hnext] at hfirst
      exact (ih fun y hy => hkeeps y (List.mem_cons_of_mem _ hy)).after hfirst.view_eq

/-- Besides its own option, a word gives only options that have a letter for a name. -/
theorem mem_of_attached {letter : Bool} {value : Text} {options : List (Switch × List Text)}
    (h : attached o letter value = .ok options) :
    ∀ x ∈ options, x.1 = o ∨ x.1 ∈ Switch.lettered := by
  -- letters that run together are looked up as `-c`
  have hletter {next : Switch} {letter : Bool} {c : Char}
      (hnext : (if letter then Switch.ofName? ['-', c] else none) = some next) :
      next ∈ Switch.lettered := by
    split at hnext
    · exact Switch.mem_lettered_of_ofName? hnext
    · cases hnext
  fun_induction attached o letter value generalizing options with
  | case1 =>
    cases h
    simp
  | case2 | case3 => cases h
  | case4 o letter _ c rest next hnext _ =>
    cases h
    simp [hletter hnext]
  | case5 o letter _ c rest next hnext _ ih =>
    cases hrest : attached next true rest with
    | error e =>
      rw [hrest] at h
      cases h
    | ok following =>
      rw [hrest] at h
      cases h
      refine List.forall_mem_cons.2 ⟨.inl rfl, fun x hx => .inr ?_⟩
      rcases ih hrest x hx with heq | hmem
      · exact heq ▸ hletter hnext
      · exact hmem

/-- **Reading words** leaves what is seen of the arguments as it is, if their options do. Letters
that run together can only add to the verbosity. -/
theorem reads_read {words : List Word} (hverbosity : Switch.verbosity.Keeps view)
    (hkeeps : ∀ w ∈ words, w.Keeps view) : Reads view line (line.read words) := by
  have hattached {o : Switch} {letter : Bool} {value : Text} {options : List (Switch × List Text)}
      (ho : o.Keeps view) (h : attached o letter value = .ok options) :
      ∀ x ∈ options, x.1.Keeps view := by
    intro x hx
    rcases mem_of_attached h x hx with heq | hmem
    · exact heq ▸ ho
    · exact Switch.keeps_of_mem_lettered hverbosity hmem
  fun_induction Line.read line words with
  | case1 => exact .line rfl
  | case3 | case8 => exact .error _
  -- an option, its value attached to it
  | case4 line o letter value rest options hoptions e hend =>
    have ho := hkeeps _ List.mem_cons_self o letter _ rfl
    exact hend ▸ reads_takeAll (hattached ho hoptions)
  | case5 line o letter value rest options hoptions next hnext ih =>
    have ho := hkeeps _ List.mem_cons_self o letter _ rfl
    have hfirst : Reads view line (.ok next) := hnext ▸ reads_takeAll (hattached ho hoptions)
    exact (ih (List.forall_mem_cons.1 hkeeps).2).after hfirst.view_eq
  -- an option alone, or before the word of its value
  | case6 line o letter _ value rest e hend | case9 line o letter rest _ e hend =>
    have ho := hkeeps _ List.mem_cons_self o letter _ rfl
    exact hend ▸ reads_take ho
  | case10 line o letter rest _ next hnext ih =>
    have ho := hkeeps _ List.mem_cons_self o letter _ rfl
    have hfirst : Reads view line (.ok next) := hnext ▸ reads_take ho
    exact (ih (List.forall_mem_cons.1 hkeeps).2).after hfirst.view_eq
  | case7 line o letter _ value rest next hnext ih =>
    have ho := hkeeps _ List.mem_cons_self o letter _ rfl
    have hfirst : Reads view line (.ok next) := hnext ▸ reads_take ho
    have hrest := (List.forall_mem_cons.1 (List.forall_mem_cons.1 hkeeps).2).2
    exact (ih hrest).after hfirst.view_eq
  -- a folder, or a word that belongs to nothing
  | case2 _ _ _ ih | case12 _ _ _ _ ih | case13 _ _ _ _ _ ih | case14 _ _ _ _ _ ih
  | case16 _ _ _ _ ih | case17 _ _ _ ih =>
    exact (ih (List.forall_mem_cons.1 hkeeps).2).after rfl
  | case11 _ _ _ _ ih | case15 _ _ _ _ ih =>
    exact (ih (List.forall_mem_cons.1 (List.forall_mem_cons.1 hkeeps).2).2).after rfl

end Line

/-- The arguments of a command come from its words. -/
theorem Command.exists_line {words : List Text} {input output : Value} {a : Arguments}
    (h : ofWords words = .ok (.process input output a)) :
    ∃ ws line, Word.ofTexts words = .ok ws ∧ Line.read {} ws = .ok line ∧ line.arguments = a := by
  cases hws : Word.ofTexts words with
  | error e =>
    rw [ofWords, hws] at h
    cases h
  | ok ws =>
    have hreads : Reads (fun _ => ()) {} (Line.read {} ws) :=
      Line.reads_read (fun _ _ => rfl) fun _ _ _ _ _ _ _ _ => rfl
    simp only [ofWords, hws, bind, Except.bind] at h
    split at h
    · cases h
    · next c hread =>
      -- such a command is none that processes files
      cases h
      rw [hread] at hreads
      cases hreads
    · next line hline =>
      refine ⟨ws, line, rfl, hline, ?_⟩
      unfold Line.command at h
      split at h
      · split at h
        · cases h
          rfl
        · cases h
      · cases h

/-- **What no word changes** of the arguments is as it is by default. -/
theorem Command.view_arguments (view : Arguments → β) {words : List Text} {input output : Value}
    {a : Arguments} (hverbosity : Switch.verbosity.Keeps view)
    (hkeeps : ∀ o : Switch, o.IsGiven words → o.Keeps view)
    (h : ofWords words = .ok (.process input output a)) : view a = view {} := by
  obtain ⟨ws, line, hws, hline, rfl⟩ := exists_line h
  have hwords : ∀ w ∈ ws, w.Keeps view := by
    rintro _ hmem o letter value rfl
    exact hkeeps o ⟨ws, letter, value, hws, hmem⟩
  have hreads : Reads view {} (Line.read {} ws) := Line.reads_read hverbosity hwords
  rw [hline] at hreads
  exact hreads.view_eq

end

/-- The options without which the settings may decide. -/
def Switch.deferring : List Switch := [.marker, .strict, .interpolate]

/-- What the arguments are by default without which the settings may decide. -/
theorem Command.arguments_of_silent {words : List Text} {input output : Value} {a : Arguments}
    (hsilent : ∀ o ∈ Switch.deferring, ¬ o.IsGiven words)
    (h : ofWords words = .ok (.process input output a)) :
    a.marker = .text "build".toList ∧ a.strict = .bool false ∧ a.interpolate = .null := by
  have hview := view_arguments (fun a => (a.marker, a.strict, a.interpolate)) (fun _ _ => rfl)
    (fun o ho value a => ?keeps) h
  case keeps =>
    cases o with
    | marker | strict | interpolate => exact absurd ho (hsilent _ (by decide))
    | _ => rfl
  simpa only [Prod.mk.injEq] using hview

end Cli

/-! ## Options field by field -/

namespace Options

variable {settings settings' : Settings} {missing : Pattern} {es : List (Value × Value)}

/-- The names of the marker word. -/
abbrev markerNames : Names := ["commentMarker", "comment_marker"]

/-- The fields of options for which the settings may stand in. -/
theorem checkFields_of_check {o : Options} (h : check settings missing es = .ok o) :
    checkField es markerNames settings.commentMarker Check.marker = .ok o.marker ∧
      checkField es templateNames ⟨missing, none⟩ (checkDelimiters missing) = .ok o.delimiters ∧
      checkField es ["strict"] settings.strict Check.bool = .ok o.strict := by
  simp only [check, Check.seq_eq_ok_iff] at h
  -- one step for each option, the last one first
  obtain ⟨_, _, ⟨_, _, ⟨_, _, ⟨_, _, ⟨_, _, ⟨_, _, ⟨_, _, ⟨_, _, ⟨_, _, hmk, -, rfl⟩, -, rfl⟩,
    hmarker, rfl⟩, -, rfl⟩, -, rfl⟩, hdelimiters, rfl⟩, -, rfl⟩, -, rfl⟩, hstrict, rfl⟩ := h
  cases hmk
  exact ⟨hmarker, hdelimiters, hstrict⟩

/-- What holds without an option does not count if it is given. -/
theorem checkField_eq_of_isSome {α : Type} {names : Names} (missing missing' : α)
    {check : List OptionStep → Value → Check α} (h : (given? names es).isSome = true) :
    checkField es names missing check = checkField es names missing' check := by
  unfold checkField
  cases hgiven : given? names es with
  | some found => rfl
  | none =>
    rw [hgiven] at h
    cases h

/-- Settings do not count for options that are given. -/
theorem check_eq_of_isSome (hmarker : (given? markerNames es).isSome = true)
    (hstrict : (given? ["strict"] es).isSome = true) :
    check settings missing es = check settings' missing es := by
  unfold check
  dsimp only
  rw [checkField_eq_of_isSome settings.commentMarker settings'.commentMarker hmarker,
    checkField_eq_of_isSome settings.strict settings'.strict hstrict]

theorem settingsPattern_eq_ok_iff {p : Pattern} :
    settingsPattern settings = .ok p ↔ Pattern.read settings.interpolate = .ok p := by
  rw [settingsPattern]
  cases Pattern.read settings.interpolate <;> simp

end Options

namespace Cli
namespace Stage

variable {delegates : Delegates} {settings settings' : Settings} {p q : Progress} {disk : Disk}
  {data : List (Value × Value)}

theorem given?_marker :
    Options.given? Options.markerNames (optionEntries p data) =
      some ("commentMarker".toList, p.arguments.marker) := by
  cases hgiven : p.arguments.interpolate.isNothing with
  | true | false =>
    simp only [optionEntries, optionFields, hgiven]
    rfl

theorem given?_strict :
    Options.given? ["strict"] (optionEntries p data) =
      some ("strict".toList, p.arguments.strict) := by
  cases hgiven : p.arguments.interpolate.isNothing with
  | true | false =>
    simp only [optionEntries, optionFields, hgiven]
    rfl

/-- **Loading** depends on the settings only by the encoding of the data file and the pattern of
placeholders. -/
theorem runLoad_eq_of_agree (hencoding : settings'.encoding = settings.encoding)
    (hinterpolate : settings'.interpolate = settings.interpolate) :
    runLoad delegates settings' p = runLoad delegates settings p := by
  have hdata : loadData delegates settings' = loadData delegates settings := by
    funext file
    unfold loadData dataValue
    rw [hencoding]
  have hpattern : Options.settingsPattern settings' = Options.settingsPattern settings := by
    rw [Options.settingsPattern, Options.settingsPattern, hinterpolate]
  have hoptions (data : List (Value × Value)) :
      Options.ofValue settings' (.ofFields (optionFields p data)) =
        Options.ofValue settings (.ofFields (optionFields p data)) := by
    show Options.ofEntries settings' (optionEntries p data) =
      Options.ofEntries settings (optionEntries p data)
    -- the loader always gives a marker and says whether it is strict
    have hcheck (missing : Pattern) : Options.check settings' missing (optionEntries p data) =
        Options.check settings missing (optionEntries p data) :=
      Options.check_eq_of_isSome (by rw [given?_marker]; rfl) (by rw [given?_strict]; rfl)
    simp only [Options.ofEntries_eq_bind, hcheck, hpattern]
  unfold runLoad
  simp only [hdata, hoptions]

/-- Loading succeeds just if the data file can be used and the options that are given with its
entries. -/
theorem result_runLoad_eq_ok_iff :
    (runLoad delegates settings p disk).result = .ok q ↔
      ∃ data o, (loadData delegates settings p.dataFile disk).result = .ok data ∧
        Options.ofEntries settings (optionEntries p data) = .ok o ∧
          q = { p with options := some o } := by
  constructor
  · intro h
    obtain ⟨data, hdata, h⟩ := Action.result_bind_eq_ok_iff.1 h
    obtain ⟨o, ho, h⟩ := Action.result_bind_eq_ok_iff.1 h
    cases h
    exact ⟨data, o, hdata, mapError_eq_ok_iff.1 ho, rfl⟩
  · rintro ⟨data, o, hdata, ho, rfl⟩
    exact Action.result_bind_eq_ok_iff.2 ⟨data, hdata, Action.result_bind_eq_ok_iff.2
      ⟨o, mapError_eq_ok_iff.2 ho, rfl⟩⟩

/-- **The options that are loaded.** The marker word and whether placeholders must lead somewhere
are always those of the arguments. -/
theorem exists_fields_of_runLoad (h : (runLoad delegates settings p disk).result = .ok q) :
    ∃ o, q = { p with options := some o } ∧
      Check.marker [.key "commentMarker".toList] p.arguments.marker = .ok o.marker ∧
      Check.bool [.key "strict".toList] p.arguments.strict = .ok o.strict ∧
      (p.arguments.interpolate.isNothing = true →
        Pattern.read settings.interpolate = .ok o.delimiters.interpolate) := by
  obtain ⟨data, o, -, ho, rfl⟩ := result_runLoad_eq_ok_iff.1 h
  rw [Options.ofEntries_eq_bind, givesPattern_optionEntries] at ho
  obtain ⟨missing, hmissing, hcheck⟩ := bind_eq_ok_iff.1 ho
  obtain ⟨hmarker, hdelimiters, hstrict⟩ :=
    Options.checkFields_of_check (mapError_eq_ok_iff.1 hcheck)
  rw [Options.checkField, given?_marker] at hmarker
  rw [Options.checkField, given?_strict] at hstrict
  refine ⟨o, rfl, hmarker, hstrict, fun hnothing => ?_⟩
  rw [Options.checkField, given?_template_of_isNothing data hnothing] at hdelimiters
  rw [hnothing] at hmissing
  have hdefault : ⟨missing, none⟩ = o.delimiters := Except.ok.inj hdelimiters
  rw [← hdefault]
  exact Options.settingsPattern_eq_ok_iff.1 hmissing

end Stage
end Cli

/-! ## A command that is given nothing but its folders -/

namespace BareCommand

open Cli

/-- A disk with one folder. -/
def oneFolder : Disk := ⟨[(["in".toList], .folder)], []⟩

/-- Words that give the folder twice and no option. -/
def bareWords : List Text := ["in".toList, "in".toList]

/-- What is known when the command is given these words. -/
def bareRun : Progress where
  input := Path.ofText "in".toList
  output := Path.ofText "in".toList

/-- Settings with another marker word, which ask to be strict. -/
def strictSettings : Settings := { commentMarker := "process".toList, strict := true }

theorem ofTexts_bareWords :
    Word.ofTexts bareWords = .ok [.argument "in".toList, .argument "in".toList] := rfl

theorem not_isGiven_bareWords (o : Switch) : ¬ o.IsGiven bareWords := by
  rintro ⟨ws, letter, value, hws, hmem⟩
  cases ofTexts_bareWords.symm.trans hws
  simp at hmem

theorem ofWords_bareWords :
    Command.ofWords bareWords =
      .ok (.process (.text "in".toList) (.text "in".toList) bareRun.arguments) := by
  have hline : Line.read {} [.argument "in".toList, .argument "in".toList] =
      .ok ⟨[.text "in".toList, .text "in".toList], {}, []⟩ := by
    simp [Line.read, Line.hasRoom, Line.addFolder, Line.folderNames, Line.valueOf, Line.hyphens]
  simp only [Command.ofWords, ofTexts_bareWords, bind, Except.bind, hline]
  rfl

theorem gives_runCheck_bareRun :
    (Stage.runCheck bareRun).Gives oneFolder { bareRun with checked := true } oneFolder := by
  have hlocate : oneFolder.locate bareRun.input = .ok (.present ["in".toList] .folder) :=
    Disk.locateBy_eq_ok_iff.2
      ⟨by decide, .last_at ⟨rfl, by decide, by decide, by decide⟩ rfl fun _ => nofun⟩
  have hinput : oneFolder.isFolder bareRun.input = .ok true := Disk.isFolder_of_locate rfl hlocate
  exact Stage.gives_runCheck hinput rfl rfl (Disk.makeFolder_of_locate rfl hlocate)

/-- The options that are loaded are not what the settings ask for. -/
theorem result_runLoad_bareRun :
    (Stage.runLoad {} strictSettings { bareRun with checked := true } oneFolder).result =
      .ok { bareRun with
        checked := true
        options := some { marker := "build".toList, delimiters := ⟨Pattern.braced, none⟩ } } := by
  have hoptions : Options.ofEntries strictSettings
      (Stage.optionEntries { bareRun with checked := true } []) =
        .ok { marker := "build".toList, delimiters := ⟨Pattern.braced, none⟩ } := by
    have hgiven : Options.givesPattern
        (Stage.optionEntries { bareRun with checked := true } []) = false := by
      rw [Stage.givesPattern_optionEntries]
      rfl
    have hpattern : Options.settingsPattern strictSettings = .ok Pattern.braced :=
      Options.settingsPattern_eq_ok_iff.2 Pattern.read_braced
    rw [Options.ofEntries_eq_bind, hgiven, if_neg Bool.false_ne_true, hpattern]
    rfl
  exact Stage.result_runLoad_eq_ok_iff.2 ⟨[], _, rfl, hoptions, rfl⟩

end BareCommand

namespace Cli
namespace Stage

variable {delegates : Delegates} {settings : Settings} {p : Progress} {disk : Disk}

/-- **What is loaded without options for it.** If the words of the command give neither a marker
word nor a pattern of placeholders and do not ask to be strict, the options of pages have the marker
word `build`, they are not strict, and they have the pattern of the settings. Other settings of the
same encoding and pattern would have led to the same. -/
theorem options_of_runLoad_of_silent {words : List Text} {input output : Value} {checked : Progress}
    (hcommand : Command.ofWords words = .ok (.process input output p.arguments))
    (hsilent : ∀ o ∈ Switch.deferring, ¬ o.IsGiven words)
    (hcheck : (runCheck p disk).result = .ok checked) (disk' : Disk) :
    (∀ settings' : Settings, settings'.encoding = settings.encoding →
      settings'.interpolate = settings.interpolate →
        (runLoad delegates settings' checked disk').result =
          (runLoad delegates settings checked disk').result) ∧
    ∀ loaded, (runLoad delegates settings checked disk').result = .ok loaded →
      ∃ o, loaded.options = some o ∧ o.marker = "build".toList ∧ o.strict = false ∧
        Pattern.read settings.interpolate = .ok o.delimiters.interpolate := by
  refine ⟨fun settings' hencoding hinterpolate => ?_, fun loaded hload => ?_⟩
  · rw [runLoad_eq_of_agree hencoding hinterpolate]
  · obtain ⟨hmarker, hstrict, hinterpolate⟩ := Command.arguments_of_silent hsilent hcommand
    obtain ⟨o, rfl, hm, hs, hi⟩ := exists_fields_of_runLoad hload
    rw [arguments_of_runCheck hcheck] at hm hs hi
    rw [hmarker] at hm
    rw [hstrict] at hs
    exact ⟨o, rfl, (Except.ok.inj hm).symm, (Except.ok.inj hs).symm, hi (by rw [hinterpolate]; rfl)⟩

theorem options_of_runLoad_of_bareWords :
    Command.ofWords BareCommand.bareWords =
        .ok (.process (.text "in".toList) (.text "in".toList) BareCommand.bareRun.arguments) ∧
      (∀ o ∈ Switch.deferring, ¬ o.IsGiven BareCommand.bareWords) ∧
      (runCheck BareCommand.bareRun BareCommand.oneFolder).result =
        .ok { BareCommand.bareRun with checked := true } ∧
      ∃ loaded o, (runLoad {} BareCommand.strictSettings { BareCommand.bareRun with checked := true }
          BareCommand.oneFolder).result = .ok loaded ∧
        loaded.options = some o ∧ o.marker = "build".toList ∧ o.strict = false := by
  have hcommand := BareCommand.ofWords_bareWords
  have hsilent (o : Switch) (_ : o ∈ Switch.deferring) : ¬ o.IsGiven BareCommand.bareWords :=
    BareCommand.not_isGiven_bareWords o
  have hcheck := BareCommand.gives_runCheck_bareRun.2
  have hload := BareCommand.result_runLoad_bareRun
  obtain ⟨o, ho, hmarker, hstrict, -⟩ :=
    (options_of_runLoad_of_silent hcommand hsilent hcheck BareCommand.oneFolder).2 _ hload
  exact ⟨hcommand, hsilent, hcheck, _, o, hload, ho, hmarker, hstrict⟩

/-- The settings do not decide about all options of pages that the command is not given. -/
theorem exists_settings_that_loading_ignores :
    ¬ ∀ (settings : Settings) (disk : Disk) (words : List Text) (input output : Value)
        (p checked loaded : Progress), Text.trim settings.commentMarker ≠ [] →
      Command.ofWords words = .ok (.process input output p.arguments) →
      (∀ o ∈ Switch.deferring, ¬ o.IsGiven words) →
      (runCheck p disk).result = .ok checked →
      (runLoad {} settings checked (runCheck p disk).disk).result = .ok loaded →
        ∃ o, loaded.options = some o ∧ o.marker = Text.trim settings.commentMarker ∧
          o.strict = settings.strict ∧
          Pattern.read settings.interpolate = .ok o.delimiters.interpolate := by
  intro h
  obtain ⟨hdisk, hcheck⟩ := BareCommand.gives_runCheck_bareRun
  have hcommand := BareCommand.ofWords_bareWords
  have hsilent (o : Switch) (_ : o ∈ Switch.deferring) : ¬ o.IsGiven BareCommand.bareWords :=
    BareCommand.not_isGiven_bareWords o
  obtain ⟨o, ho, -, hstrict, -⟩ := h BareCommand.strictSettings BareCommand.oneFolder _ _ _
    BareCommand.bareRun _ _ (by decide) hcommand hsilent hcheck
    (hdisk ▸ BareCommand.result_runLoad_bareRun)
  cases ho
  cases hstrict

end Stage
end Cli
end BuildBlocks
