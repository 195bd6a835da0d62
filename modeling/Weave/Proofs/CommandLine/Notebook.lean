import Weave.Program
import Weave.Proofs.CommandLine.Reading
import Weave.Proofs.Conversion.Execution
import Weave.Proofs.Notebook.Injectivity

/-!
# Options of a notebook

What is given for a notebook on the command line reaches the conversion as it is written, in
whatever order it is given; for the tool and the version of the language the environment stands
in, and behind it the usual ones. The version can be read in the file of the notebook, and so
can its first two parts, by which the kernel is called.
-/
namespace Weave.Notebook

/-- What a version is called in short: its first two parts between dots, or its only one. -/
inductive ShortVersion : Text → Text → Prop
  | only {v : Text} : '.' ∉ v → ShortVersion v v
  | both {a b : Text} : '.' ∉ a → '.' ∉ b → ShortVersion (a ++ '.' :: b) (a ++ '.' :: b)
  | cut {a b rest : Text} : '.' ∉ a → '.' ∉ b →
      ShortVersion (a ++ '.' :: (b ++ '.' :: rest)) (a ++ '.' :: b)

/-- The text is that of a notebook for a version of Julia. -/
def RecordsVersion (version t : Text) : Prop :=
  ∃ nb, decode t = .ok nb ∧ nb.metadata.language.version = version ∧
    ∃ short, ShortVersion version short ∧ nb.metadata.kernel.name = "julia-".toList ++ short

theorem shortVersion_take (v : Text) :
    ShortVersion v (Text.joinWith ['.'] ((Text.splitOn '.' v).take 2)) := by
  by_cases hv : '.' ∈ v
  · obtain ⟨a, t, rfl, ha⟩ := List.eq_append_cons_of_mem hv
    rw [Text.splitOn_append_cons, Text.splitOn_line ha]
    by_cases ht : '.' ∈ t
    · obtain ⟨b, rest, rfl, hb⟩ := List.eq_append_cons_of_mem ht
      rw [Text.splitOn_append_cons, Text.splitOn_line hb]
      simpa [Text.joinWith] using ShortVersion.cut ha hb
    · rw [Text.splitOn_line ht]
      simpa [Text.joinWith] using ShortVersion.both ha ht
  · rw [Text.splitOn_line hv]
    simpa [Text.joinWith] using ShortVersion.only hv

/-- The version of the runtime is read in the text of every notebook for it. -/
theorem recordsVersion_print {runtime : Runtime} (h : runtime.language = "julia".toList)
    (cs : List Chunk) : RecordsVersion runtime.version (ofChunks runtime cs).print := by
  refine ⟨_, decode_print_ofChunks runtime cs, rfl, _, shortVersion_take runtime.version, ?_⟩
  change runtime.kernelName = _
  rw [Runtime.kernelName, h]
  rfl

end Weave.Notebook

namespace Weave.CommandLine

open Conversion (Ends generate)
open Notebook (RecordsVersion)

/-- What may be given for a notebook beside the paths. -/
structure NotebookOptions where
  name : Option Text := none
  languageVersion : Option Text := none
  tool : Option Path := none
  execute : Bool := false
deriving DecidableEq

namespace NotebookOptions

/-- How it is given, each in one word. -/
def words (o : NotebookOptions) : List Text :=
  o.name.toList.map ("--name=".toList ++ ·) ++
    o.languageVersion.toList.map ("--language-version=".toList ++ ·) ++
    o.tool.toList.map ("--jupyter=".toList ++ ·) ++
    if o.execute then ["--execute".toList] else []

/-- The tool that is meant in an environment. -/
def meantTool (o : NotebookOptions) (env : Environment) : Path :=
  (o.tool.or env.tool).getD "jupyter".toList

/-- The version of the language that is meant in an environment. -/
def meantVersion (o : NotebookOptions) (env : Environment) : Text :=
  (o.languageVersion.or env.languageVersion).getD "1.0.0".toList

/-- The config of a conversion as it is asked for. -/
def config (o : NotebookOptions) (env : Environment) : Config where
  name := o.name
  execute := o.execute
  tool := o.meantTool env
  runtime := { version := o.meantVersion env }

/-- The switches of the command that are given, with their values. -/
def given (o : NotebookOptions) : List Given :=
  o.name.toList.map (⟨nameSwitch, ·⟩) ++
    o.languageVersion.toList.map
      (⟨⟨.languageVersion, "language-version".toList, none, .value⟩, ·⟩) ++
    o.tool.toList.map (⟨⟨.tool, "jupyter".toList, none, .value⟩, ·⟩) ++
    if o.execute then [⟨⟨.execute, "execute".toList, some 'x', .flag⟩, []⟩] else []

theorem words_eq (o : NotebookOptions) : o.words = o.given.map Given.word := by
  simp only [words, given, List.map_append, List.map_map]
  cases o.execute <;> rfl

theorem fits_given {o : NotebookOptions} (h : o.tool ≠ some []) :
    ∀ g ∈ o.given, g.Fits .notebook := by
  intro g hg
  simp only [given, List.mem_append, List.mem_map, Option.mem_toList] at hg
  obtain ((⟨name, -, rfl⟩ | ⟨version, -, rfl⟩) | ⟨tool, htool, rfl⟩) | hg := hg
  · exact ⟨by simp [CommandName.switches], nofun, rfl⟩
  · exact ⟨by simp [CommandName.switches], nofun, rfl⟩
  · have hne : tool ≠ [] := fun he => h (he ▸ htool)
    exact ⟨by simp [CommandName.switches], nofun, by simp [Reading.usable, hne]⟩
  · obtain rfl := List.mem_singleton.1 (List.mem_ite_nil_right.1 hg).2
    exact ⟨by simp [CommandName.switches], fun _ => rfl, rfl⟩

theorem nodup_given (o : NotebookOptions) :
    (o.given.map (·.switch.slot) ++ CommandName.notebook.positions).Nodup := by
  obtain ⟨_ | name, _ | version, _ | tool, _ | _⟩ := o <;>
    simp [given, nameSwitch, CommandName.positions]

/-- What is read for a notebook is what was given. -/
structure ToldBy (o : NotebookOptions) (input outdir : Path) (value? : Slot → Option Text) :
    Prop where
  name : value? .name = o.name
  languageVersion : value? .languageVersion = o.languageVersion
  tool : value? .tool = o.tool
  execute : (value? .execute).isSome = o.execute
  input : value? .input = some input
  outdir : value? .outdir = some outdir
  verbose : value? .verbose = none
  format : value? .format = none

theorem toldBy_lookup (o : NotebookOptions) (input outdir : Path) :
    o.ToldBy input outdir fun slot =>
      (o.given.map Given.entry ++
        CommandName.notebook.positions.zip [input, outdir]).lookup slot := by
  obtain ⟨_ | name, _ | version, _ | tool, _ | _⟩ := o <;>
    exact ⟨rfl, rfl, rfl, rfl, rfl, rfl, rfl, rfl⟩

section

variable {o : NotebookOptions} {input outdir : Path} {env : Environment} {r : Reading}
  {words : List Text}

theorem exists_readWords_notebook (htool : o.tool ≠ some []) (hi : input ≠ []) (hd : outdir ≠ [])
    (hw : words.Perm o.words) :
    ∃ r, readWords CommandName.notebook.level (words ++ [['-', '-'], input, outdir]) = .ok r ∧
      o.ToldBy input outdir r.value? := by
  rw [words_eq] at hw
  have hu : ∀ p ∈ CommandName.notebook.positions.zip [input, outdir],
      Reading.usable p.1 p.2 = true := by
    simp [CommandName.positions, Reading.usable, hi, hd]
  obtain ⟨r, hr, hvalue⟩ := exists_readWords hw (fits_given htool) rfl (nodup_given o) hu
  exact ⟨r, hr, funext hvalue ▸ toldBy_lookup o input outdir⟩

theorem toolOf_eq (h : r.value? .tool = o.tool) (henv : env.tool ≠ some []) :
    toolOf env r = .ok (o.meantTool env) := by
  rw [toolOf, h, meantTool]
  cases o.tool with
  | some tool => rfl
  | none =>
      cases ht : env.tool with
      | none => rfl
      | some tool =>
          have hne : tool ≠ [] := fun he => henv (ht.trans (congrArg some he))
          simp [Reading.usable, hne]

theorem commandOf_eq (h : o.ToldBy input outdir r.value?) (henv : env.tool ≠ some []) :
    commandOf env r .notebook = .ok (.notebook ⟨input, outdir, o.name⟩ o.execute (o.meantTool env)
      (o.languageVersion.or env.languageVersion)) := by
  have hjob : jobOf r = .ok ⟨input, outdir, o.name⟩ := by
    rw [jobOf, inputOf, h.input, h.outdir, h.name]
    rfl
  rw [commandOf, toolOf_eq h.tool henv, ok_bind, hjob, ok_bind, Reading.has, h.execute,
    h.languageVersion]
  rfl

/-- The command line is that of a notebook, by all that is given and by nothing else. -/
theorem parse_eq (htool : o.tool ≠ some []) (henv : env.tool ≠ some []) (hi : input ≠ [])
    (hd : outdir ≠ []) (hw : words.Perm o.words) :
    parse env ("notebook".toList :: (words ++ ["--".toList, input, outdir])) = .ok {
      verbose := false
      format := "text".toList
      command := .notebook ⟨input, outdir, o.name⟩ o.execute (o.meantTool env)
        (o.languageVersion.or env.languageVersion) } := by
  obtain ⟨r, hr, htold⟩ := exists_readWords_notebook htool hi hd hw
  have hparse : parse env ("notebook".toList :: (words ++ ["--".toList, input, outdir])) = (do
      let sub ← readWords CommandName.notebook.level (words ++ ["--".toList, input, outdir])
      let command ← commandOf env sub .notebook
      .ok (invocationOf { positions := [] } sub command)) := rfl
  rw [hparse]
  change (readWords CommandName.notebook.level (words ++ [['-', '-'], input, outdir]) >>= _) = _
  rw [hr, ok_bind, commandOf_eq htold henv, ok_bind, invocationOf, Reading.has, Reading.has,
    htold.verbose, htold.format]
  rfl

end

end NotebookOptions

/-- The invocation is for a notebook, its command comes to the config, and to run it is to convert
by that config, with whatever executor the tool in it is, and to report it. -/
structure Invocation.MakesNotebook (i : Invocation) (job : Job) (config : Config) : Prop where
  asked : ∃ execute tool languageVersion,
    i.command = .notebook job execute tool languageVersion ∧
      notebookConfig job execute tool languageVersion = config
  run (tools : Tools) : i.run tools = do
    return Report.generated .text
      (← generate (tools config.tool) config .notebook job.input job.outdir)

/-- In whatever order it is given, all that is given for a notebook reaches the conversion as it
is written, and the conversion writes no text but that of a notebook for the version that is
meant. -/
theorem notebook_options {env : Environment} {o : NotebookOptions} {input outdir : Path}
    {words : List Text} (htool : o.tool ≠ some []) (henv : env.tool ≠ some [])
    (hi : input ≠ []) (hd : outdir ≠ []) (hw : words.Perm o.words) :
    (∃ i, parse env ("notebook".toList :: (words ++ ["--".toList, input, outdir])) = .ok i ∧
      i.MakesNotebook ⟨input, outdir, o.name⟩ (o.config env)) ∧
    ∀ executor w, Ends (RecordsVersion (o.meantVersion env)) executor o.execute w
      (w.run (generate executor (o.config env) .notebook input outdir)).1
      (w.run (generate executor (o.config env) .notebook input outdir)).2 := by
  have hfit : ∀ name content text,
      Conversion.artifact (o.config env) .notebook name content = .ok text →
      RecordsVersion (o.meantVersion env) text := by
    intro name content text hmade
    obtain ⟨_, hrendered, rfl⟩ := Conversion.artifact_eq_ok.1 hmade
    cases hrendered
    exact Notebook.recordsVersion_print rfl _
  exact ⟨⟨_, o.parse_eq htool henv hi hd hw, ⟨_, _, _, rfl, rfl⟩, fun _ => rfl⟩,
    fun executor w => Conversion.ends_generate executor input outdir w hfit⟩

/-- Options that look like switches and hold equals signs, with a version of more than two parts
of which the second is empty. -/
def disguised : NotebookOptions where
  name := some "--name=-x y".toList
  languageVersion := some "=1..10".toList
  execute := true

/-- An environment with a tool, and with a version that does not count beside another. -/
def prepared : Environment where
  tool := some "=j --x".toList
  languageVersion := some "2".toList

/-- What the options come to in that environment. -/
def disguisedConfig : Config where
  name := some "--name=-x y".toList
  execute := true
  tool := "=j --x".toList
  runtime := { version := "=1..10".toList }

/-- They are given backwards, and the paths look like two dashes and like a switch. -/
theorem notebook_options_disguised :
    disguised.tool ≠ some [] ∧ prepared.tool ≠ some [] ∧ "--".toList ≠ [] ∧ "-n=out".toList ≠ [] ∧
    ["--execute".toList, "--language-version==1..10".toList, "--name=--name=-x y".toList].Perm
      disguised.words ∧
    (∃ i, parse prepared ["notebook".toList, "--execute".toList,
        "--language-version==1..10".toList, "--name=--name=-x y".toList, "--".toList,
        "--".toList, "-n=out".toList] = .ok i ∧
      i.MakesNotebook ⟨"--".toList, "-n=out".toList, some "--name=-x y".toList⟩
        disguisedConfig) ∧
    ∀ executor w, Ends (RecordsVersion "=1..10".toList) executor true w
      (w.run (generate executor disguisedConfig .notebook "--".toList "-n=out".toList)).1
      (w.run (generate executor disguisedConfig .notebook "--".toList "-n=out".toList)).2 := by
  have htool : disguised.tool ≠ some [] := by decide
  have henv : prepared.tool ≠ some [] := by decide
  have hi : "--".toList ≠ [] := by decide
  have hd : "-n=out".toList ≠ [] := by decide
  have hw : ["--execute".toList, "--language-version==1..10".toList,
      "--name=--name=-x y".toList].Perm disguised.words := by decide
  exact ⟨htool, henv, hi, hd, hw, notebook_options htool henv hi hd hw⟩

end Weave.CommandLine
