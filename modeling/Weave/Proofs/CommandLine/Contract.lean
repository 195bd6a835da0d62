import Weave.Proofs.CommandLine.Preview
import Weave.Proofs.Conversion.Execution

/-!
# What other programs can rely on

A program that asks for JSON, in letters of any case, finds one object at the end of the
output: of a success it names the target, of a failure it holds the message and nothing else,
whatever stands in the message. To all others a failure is told in the errors alone. The exit
code says which it was.

Two things are not as such a program might expect. An artifact whose path leads to the output
stands there before the object. And the path of an artifact that is not UTF-8 cannot be told in
JSON, so that the object of such a success is empty.
-/
namespace Weave

open Json (Draft Whole)

namespace Text

/-- Only the Kelvin sign is compared otherwise than by the case of ASCII letters. -/
theorem lower_eq_toLower {c : Char} (h : c ≠ '\u212a') : lower c = c.toLower := by
  rw [lower, if_neg h]
  by_cases hc : 'A' ≤ c ∧ c ≤ 'Z'
  · have hupper : c.val ≥ 'A'.val ∧ c.val ≤ 'Z'.val := hc
    have hle : c.toNat ≤ 90 := hc.2
    have hvalid : (c.toNat + 32).isValidChar := .inl (by omega)
    have hsum : (c.val + 32).toNat = c.toNat + 32 := by
      rw [UInt32.toNat_add]
      exact Nat.mod_eq_of_lt (by change c.toNat + 32 < 2 ^ 32; omega)
    rw [if_pos hc, Char.ofNat, dif_pos hvalid]
    refine Eq.trans ?_ (dif_pos hupper : c.toLower = _).symm
    exact Char.ext (UInt32.toNat_inj.1 hsum.symm)
  · have hother : ¬(c.val ≥ 'A'.val ∧ c.val ≤ 'Z'.val) := hc
    rw [if_neg hc]
    exact (dif_neg hother : c.toLower = c).symm

/-- For a word without the letter of the Kelvin sign, only the case of ASCII letters counts. -/
theorem map_lower_eq_iff {word name : Text} (hk : 'k' ∉ word) (hs : '\u212a' ∉ word) :
    name.map lower = word ↔ name.map Char.toLower = word := by
  have hlower : lower '\u212a' = 'k' := by decide
  have htoLower : Char.toLower '\u212a' = '\u212a' := by decide
  constructor
  · rintro rfl
    refine (List.map_congr_left fun c hc => lower_eq_toLower ?_).symm
    rintro rfl
    exact hk (hlower ▸ List.mem_map_of_mem hc)
  · rintro rfl
    refine List.map_congr_left fun c hc => lower_eq_toLower ?_
    rintro rfl
    exact hs (htoLower ▸ List.mem_map_of_mem hc)

end Text

namespace CommandLine

open Conversion (Echoed Prepared conclude course_store exists_prepared_of_generate generate
  generate_eq store)
open Report (Format)

/-- JSON is asked for, in letters of any case. -/
def Invocation.AsksJson (i : Invocation) : Prop :=
  i.format.map Char.toLower = "json".toList

/-- The target of a command, if it is asked for by a word that names one. -/
def Command.target? : Command → Option Target
  | script _ => some .script
  | markdown _ _ _ => some .markdown
  | notebook _ _ _ _ => some .notebook
  | chunks _ word _ => Target.ofName? word

/-- The text is one JSON object, and its first member and no other is the name of the target. -/
def Describes (t : Text) (target : Target) : Prop :=
  ∃ d rest, Draft.decode Draft.members t = .ok (("target".toList, d) :: rest) ∧
    d.text = .ok target.name ∧ "target".toList ∉ rest.map Prod.fst

/-- The text is one JSON object, and its only member is the message of the error. -/
def Explains (t : Text) (e : Error) : Prop :=
  ∃ d, Draft.decode Draft.members t = .ok [("error".toList, d)] ∧ d.text = .ok e.message

/-- The artifact of a command goes to the output. -/
def Passes (files : FileTree) (command : Command) (text : Text) : Prop :=
  ∃ config target job, Converts command config target job ∧
    Echoed config target job.input job.outdir files text

/-- What goes to the output before anything is shown. -/
inductive Passed (files : FileTree) (command : Command) : Text → Prop
  | nothing : (∀ text, ¬Passes files command text) → Passed files command []
  | artifact {text : Text} : Passes files command text → Passed files command text

/-- The artifact of a command is to have a path that is not UTF-8. -/
def Unencodable (files : FileTree) (command : Command) : Prop :=
  ∃ config target job g text, Converts command config target job ∧
    Prepared config target job.input job.outdir files g text ∧ g.output.isText = false

/-- How a command's result is shown. -/
structure Shown (files : FileTree) (i : Invocation) (result : Except Error Text)
    (shown errors : Text) : Prop where
  /-- Nothing but the report of a success is printed. -/
  reported {report : Text} : result = .ok report → shown = report
  described {report : Text} : i.AsksJson → result = .ok report →
    ∃ target, i.command.target? = some target ∧
      (¬Unencodable files i.command → Describes shown target) ∧
      (Unencodable files i.command → shown = "\x7b\x7d".toList)
  explained {e : Error} : i.AsksJson → result = .error e → Explains shown e
  told {e : Error} : ¬i.AsksJson → result = .error e →
    shown = [] ∧ "Error: ".toList ++ e.message ++ ['\n'] <:+ errors

/-- What is shown, and by which exit code, of what a command has come to. -/
structure Contract (files : FileTree) (i : Invocation) (result : Except Error Text) (o : Outcome) :
    Prop where
  exitCode : o.exitCode = 0 ↔ ∃ report, result = .ok report
  output : ∃ passed shown, o.output = passed ++ shown ∧ Passed files i.command passed ∧
    Shown files i result shown o.errors

/-- The letter of the Kelvin sign is none of the letters of the word for JSON. -/
theorem ofWord_eq_json_iff (i : Invocation) : Format.ofWord i.format = .json ↔ i.AsksJson := by
  have h : i.format.map Text.lower = "json".toList ↔ i.AsksJson :=
    Text.map_lower_eq_iff (by decide) (by decide)
  rw [← h, Format.ofWord, Text.isWord]
  split <;> simp_all

section Reports

variable {target : Target}

theorem describes_record {ms : List (String × Json)} (hw : ∀ m ∈ ms, Whole m.2)
    (hn : "target" ∉ ms.map Prod.fst) :
    Describes (Json.record (("target", .str target.name) :: ms)).print target := by
  have hwhole : Whole (Json.record (("target", .str target.name) :: ms)) := by simpa using hw
  refine ⟨(Json.str target.name).layout, ms.map fun m => (m.1.toList, m.2.layout), ?_, rfl, ?_⟩
  · rw [Draft.decode_layout hwhole, Draft.members_record]
    rfl
  · intro hm
    simp only [List.map_map, List.mem_map, Function.comp_apply] at hm
    obtain ⟨m, hm, he⟩ := hm
    exact hn (List.mem_map.2 ⟨m, hm, String.toList_inj.1 he⟩)

theorem describes_generated {g : Generated} (h : g.output.isText = true) :
    Describes (Report.generated .json g) g.target := by
  rw [Report.generated_of_isText h]
  exact describes_record (by simp) (by simp)

theorem describes_chunks (target : Target) (cs : List Chunk) :
    Describes (Report.chunks .json target cs) target := by
  rw [Report.chunks, Report.encoded_ofJson]
  exact describes_record (by simp [Report.whole_chunkJson]) (by simp)

/-- The message of an error is read back from its report as it is, and a newline behind the
report does not matter. -/
theorem explains_error (e : Error) : Explains (Report.error .json e ++ ['\n']) e := by
  have hwhole : Whole (Json.record [("error", .str e.message)]) := by simp
  refine ⟨(Json.str e.message).layout, ?_, rfl⟩
  rw [Report.error, Report.encoded_ofJson, Draft.decode_layout_newline hwhole,
    Draft.members_record]
  rfl

end Reports

section Commands

variable {w : World} {tools : Tools} {command : Command} {config : Config} {target : Target}
  {input : Path} {job : Job}

theorem Converts.target?_eq (h : Converts command config target job) :
    command.target? = some target := by
  cases h <;> rfl

/-- Of a conversion with an executor that prints nothing, only the artifact is printed. -/
theorem exists_passed_generate {executor : Executor}
    (hsilent : ∀ files notebook, (executor files notebook).output = []) (config : Config)
    (target : Target) (input outdir : Path) (w : World) :
    ∃ passed, (w.run (generate executor config target input outdir)).2.output =
        w.output ++ passed ∧
      ((passed = [] ∧ ∀ text, ¬Echoed config target input outdir w.files text) ∨
        Echoed config target input outdir w.files passed) := by
  obtain ⟨hc, -, hprinted⟩ := course_store config target input outdir w
  rw [generate_eq, World.run_bind]
  generalize w.run (store config target input outdir) = stored at hc hprinted ⊢
  obtain ⟨e | g, stored⟩ := stored
  · exact ⟨[], by rw [hprinted, List.append_nil], .inl ⟨rfl, hc.not_echoed⟩⟩
  · obtain ⟨text, hprepared, houtput⟩ := hprinted
    have hconclude : (stored.run (conclude executor config g)).2.output = stored.output := by
      rw [conclude]
      split
      · have hexecuted := (Executor.run_executeNotebook executor g.output stored).2.2.2
        rw [hsilent, List.append_nil] at hexecuted
        rw [World.run_map, hexecuted]
      · rfl
    refine ⟨w.echo g.output text, hconclude.trans houtput, ?_⟩
    rw [World.echo]
    split
    · rename_i hdevice
      cases hc with
      | written hmade hwrite =>
          obtain ⟨-, rfl⟩ := hmade.unique hprepared
          exact .inr ⟨g, _, hprepared, hdevice, hwrite⟩
    · rename_i hdevice
      refine .inl ⟨rfl, ?_⟩
      rintro text' ⟨g', after, hprepared', hdevice', -⟩
      obtain ⟨rfl, -⟩ := hprepared.unique hprepared'
      exact hdevice hdevice'

/-- Tools that print nothing leave the output to the artifact. -/
theorem exists_passed_run (hsilent : ∀ path files notebook, (tools path files notebook).output = [])
    (command : Command) (format : Format) (w : World) :
    ∃ passed, (w.run (command.run tools format)).2.output = w.output ++ passed ∧
      Passed w.files command passed := by
  obtain ⟨config, target, job, h⟩ | ⟨hno, hother⟩ := converts_or command
  · rw [h.run]
    obtain ⟨passed, houtput, ⟨rfl, hno⟩ | hechoed⟩ :=
      exists_passed_generate (hsilent config.tool) config target job.input job.outdir w
    · refine ⟨[], houtput, .nothing ?_⟩
      rintro text ⟨config', target', job', h', hechoed⟩
      obtain ⟨rfl, rfl, rfl⟩ := h.unique h'
      exact hno text hechoed
    · exact ⟨passed, houtput, .artifact ⟨config, target, job, h, hechoed⟩⟩
  · refine ⟨[], ?_, .nothing fun text ⟨_, _, _, h, _⟩ => hno _ _ _ h⟩
    obtain ⟨input, word, name, rfl⟩ | ⟨e, he⟩ := hother
    · rw [run_chunks_snd, List.append_nil]
    · rw [he, World.run_throw, List.append_nil]

theorem target_of_previewChunks {word : Text} {name : Option Text}
    {found : Target × List Chunk} (h : (w.run (previewChunks input word name)).1 = .ok found) :
    Target.ofName? word = some found.1 := by
  rw [previewChunks] at h
  cases hword : Target.ofName? word with
  | none => simp [hword] at h
  | some target =>
      simp only [hword] at h
      obtain ⟨name, named, -, h⟩ := w.exists_of_run_bind h
      obtain ⟨content, read, -, h⟩ := named.exists_of_run_bind h
      obtain rfl := Except.ok.inj h
      rfl

/-- A report in JSON describes what the command was asked for, if the path of the artifact can
stand in it. -/
theorem exists_describes_of_run {report : Text}
    (h : (w.run (command.run tools .json)).1 = .ok report) :
    ∃ target, command.target? = some target ∧
      (¬Unencodable w.files command → Describes report target) ∧
      (Unencodable w.files command → report = "\x7b\x7d".toList) := by
  obtain ⟨config, target, job, hc⟩ | ⟨hno, ⟨input, word, name, rfl⟩ | ⟨e, he⟩⟩ :=
    converts_or command
  · rw [hc.run] at h
    obtain ⟨g, hg, rfl⟩ := map_eq_ok.1 h
    obtain ⟨made, text, hprepared, rfl, rfl⟩ := exists_prepared_of_generate hg
    refine ⟨_, hc.target?_eq, fun hn => ?_, ?_⟩
    · have htext : made.output.isText = true := by
        cases ht : made.output.isText with
        | true => rfl
        | false => exact absurd ⟨_, _, _, _, _, hc, hprepared, ht⟩ hn
      exact describes_generated (g := { made with executed := _ }) htext
    · rintro ⟨config', target', job', made', text', hc', hprepared', htext⟩
      obtain ⟨rfl, rfl, rfl⟩ := hc.unique hc'
      obtain ⟨rfl, rfl⟩ := hprepared.unique hprepared'
      exact Report.generated_of_not_isText (g := { made with executed := _ }) htext
  · obtain ⟨⟨target, found⟩, after, hfound, h⟩ := w.exists_of_run_bind h
    obtain rfl := Except.ok.inj h
    refine ⟨target, target_of_previewChunks (congrArg Prod.fst hfound),
      fun _ => describes_chunks _ _, ?_⟩
    rintro ⟨config, target, job, g, text, hc, -, -⟩
    exact absurd hc (hno _ _ _)
  · rw [he] at h
    cases h

end Commands

section Endings

variable {i : Invocation} {errors : Text} {files before : FileTree}

theorem shown_ok {report : Text}
    (h : i.AsksJson → ∃ target, i.command.target? = some target ∧
      (¬Unencodable before i.command → Describes report target) ∧
      (Unencodable before i.command → report = "\x7b\x7d".toList)) :
    Shown before i (.ok report) report errors where
  reported hr := Except.ok.inj hr
  described hasks _ := h hasks
  explained _ he := nomatch he
  told _ he := nomatch he

theorem contract_fail {passed : Text} (e : Error) (hp : Passed before i.command passed) :
    Contract before i (.error e)
      (Program.fail (Format.ofWord i.format) e passed errors files) := by
  by_cases hasks : i.AsksJson
  · rw [(ofWord_eq_json_iff i).2 hasks]
    refine ⟨by simp [Program.fail], passed, _, List.append_assoc _ _ _, hp, ?_⟩
    exact {
      reported := nofun
      described := nofun
      explained := fun _ he => Except.error.inj he ▸ explains_error e
      told := fun hnot => absurd hasks hnot }
  · have htext : Format.ofWord i.format = .text := by
      cases hformat : Format.ofWord i.format with
      | text => rfl
      | json => exact absurd ((ofWord_eq_json_iff i).1 hformat) hasks
    rw [htext]
    refine ⟨by simp [Program.fail], passed, [], (List.append_nil _).symm, hp, ?_⟩
    exact {
      reported := nofun
      described := nofun
      explained := fun h => absurd h hasks
      told := fun _ he => ⟨rfl, errors, by simp [Program.fail, Except.error.inj he]⟩ }

end Endings

/-- Whatever is asked for in whatever files, the program keeps to the contract if the tools
print nothing. -/
theorem run_contract {tools : Tools} {env : Environment} {files : FileTree} {words : List Text}
    {i : Invocation} (h : parse env words = .ok i)
    (hsilent : ∀ path files notebook, (tools path files notebook).output = []) :
    Contract files i (World.run { files } (i.run tools)).1 (Program.run tools env files words) := by
  obtain ⟨passed, houtput, hpassed⟩ :=
    exists_passed_run hsilent i.command (Format.ofWord i.format) { files }
  have hdescribed : i.AsksJson → ∀ report, (World.run { files } (i.run tools)).1 = .ok report →
      ∃ target, i.command.target? = some target ∧
        (¬Unencodable files i.command → Describes report target) ∧
        (Unencodable files i.command → report = "\x7b\x7d".toList) := by
    intro hasks report hreport
    rw [Invocation.run, (ofWord_eq_json_iff i).2 hasks] at hreport
    exact exists_describes_of_run hreport
  have hrun : Program.run tools env files words = Program.runInvocation tools env files i := by
    rw [Program.run, h]
  rw [← Invocation.run] at houtput
  rw [hrun, Program.runInvocation]
  generalize World.run { files } (i.run tools) = ended at houtput hdescribed ⊢
  obtain ⟨result, w⟩ := ended
  have hpassing : w.output = passed := houtput
  cases result with
  | error e =>
      simp only [hpassing]
      exact contract_fail e hpassed
  | ok report =>
      simp only [hpassing]
      refine ⟨by simp, passed, report, rfl, hpassed, shown_ok fun hasks => ?_⟩
      exact hdescribed hasks report rfl

/-- A source that is not there, by a path with a quote in it. -/
def lost : Invocation where
  verbose := false
  format := "JsoN".toList
  command := .chunks "a\".jl".toList "markdown".toList none

theorem run_contract_lost :
    parse {} ["--format=JsoN".toList, "chunks".toList, "a\".jl".toList] = .ok lost ∧
      (∀ files notebook, (Conversion.idle files notebook).output = []) ∧
      Contract Conversion.sample.files lost
        (World.run { files := Conversion.sample.files } (lost.run fun _ => Conversion.idle)).1
        (Program.run (fun _ => Conversion.idle) {} Conversion.sample.files
          ["--format=JsoN".toList, "chunks".toList, "a\".jl".toList]) := by
  have h : parse {} ["--format=JsoN".toList, "chunks".toList, "a\".jl".toList] = .ok lost := by
    decide
  have hsilent : ∀ files notebook, (Conversion.idle files notebook).output = [] :=
    fun _ _ => rfl
  exact ⟨h, hsilent, run_contract h fun _ => hsilent⟩

/-- The name of a directory, one byte that is no UTF-8. -/
def unspelled : Text :=
  ['\x00', Bytes.standIn '\u00ff']

/-- A source, a directory in which the artifact is a link to the output, and one whose name is no
text. -/
def misleading : FileTree where
  entries := [
    (["a.jl".toList], .file (FileTree.bytesOfText "1\n".toList) false),
    (["dev".toList], .directory),
    (["dev".toList, "stdout".toList], .device (.channel 1)),
    (["out".toList], .directory),
    (["out".toList, "a.jl".toList], .link "/dev/stdout".toList),
    ([unspelled], .directory)]
  here := []

/-- What the program does that is to turn the source into a script, with JSON asked for. -/
def scriptInto (outdir : Path) : Outcome :=
  Program.run (fun _ => Conversion.idle) {} misleading
    ["--format".toList, "json".toList, "script".toList, "a.jl".toList, outdir]

/-- The program has succeeded, and yet what it has printed is no object, because the artifact
stands before it, or is an object with no member. -/
theorem run_contract_misleading :
    ((scriptInto "out".toList).exitCode = 0 ∧
      (scriptInto "out".toList).output.take 4 = "1\n\n\x7b".toList ∧
      ∀ members, Draft.decode Draft.members (scriptInto "out".toList).output ≠ .ok members) ∧
    (scriptInto unspelled).exitCode = 0 ∧
      Draft.decode Draft.members (scriptInto unspelled).output = .ok [] := by
  have hunread : (Draft.decode Draft.members (scriptInto "out".toList).output).toBool = false := by
    decide +kernel
  have hempty : (scriptInto unspelled).output = "\x7b\x7d".toList := by decide +kernel
  refine ⟨⟨by decide +kernel, by decide +kernel, fun members h => ?_⟩, by decide +kernel, ?_⟩
  · rw [h] at hunread
    cases hunread
  · rw [hempty]
    rfl

end CommandLine

end Weave
