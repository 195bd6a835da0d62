import Weave.Proofs.CommandLine.Conversion
import Weave.Proofs.Report.Dump
import Weave.Proofs.Report.Table

/-!
# Previews

A preview takes the same steps as a conversion, on its own: it finds the target by a word,
and it looks for no directory. It changes nothing. Where a conversion by the defaults stores
an artifact, the preview shows the chunks that the artifact is made of, and where a preview
fails, so does the conversion, for the same reason.

Both are told by their reports as one reads them who does not know how they are printed.
-/
namespace Weave.CommandLine

open Conversion (Course Rendered course_generate executes nameFor)
open Json (Draft)
open Report (Format)

/-- The command that converts for a target and leaves the rest to the defaults. -/
def conversion (tool : Path) (job : Job) : Target → Command
  | .script => .script job
  | .markdown => .markdown job none Markdown.Fence.defaultClosing
  | .notebook => .notebook job false tool none

def plainConfig (tool : Path) (job : Job) : Target → Config
  | .script => baseConfig job
  | .markdown => baseConfig job
  | .notebook => notebookConfig job false tool none

/-- A report of chunks: the chunks are read in it, or it has a line for each of them. -/
inductive ShowsChunks (target : Target) (cs : List Chunk) : Format → Text → Prop
  | json {report : Text} :
      Draft.decode Report.readDump report =
        .ok ⟨target.name, (Json.nat cs.length).layout, cs⟩ →
      ShowsChunks target cs .json report
  | none : cs = [] → ShowsChunks target cs .text
      ("No chunks found for target: ".toList ++ target.name ++ ['\n'])
  | table {rows : List Text} :
      rows.head? = some (Text.ofNat cs.length ++ " chunks (".toList ++ target.name ++ "):".toList) →
      rows.length = cs.length + 3 → (∀ line ∈ rows, '\n' ∉ line) →
      (∀ i c, cs[i]? = some c → ∃ line, rows[i + 3]? = some line ∧ Report.Shows line i c) →
      ShowsChunks target cs .text (Text.unlines rows)

/-- A report of a conversion: how many chunks it was is read in it, unless the path of the artifact
is no text. -/
inductive TellsOf (g : Generated) : Format → Text → Prop
  | json {report : Text} : g.output.isText = true →
      Draft.decode Report.readSummary report =
        .ok ⟨g.target.name, g.output, g.name, (Json.nat g.proseChunks).layout,
          (Json.nat g.codeChunks).layout, false⟩ →
      TellsOf g .json report
  | nothing : g.output.isText = false → TellsOf g .json "\x7b\x7d".toList
  | text : TellsOf g .text
      ("Wrote ".toList ++ g.target.name ++ ' ' :: g.output.shown ++ " (".toList ++
        Text.ofNat g.proseChunks ++ " prose, ".toList ++ Text.ofNat g.codeChunks ++
        " code chunks)".toList ++ ['\n'])

/-- What a preview shows of a source, and what converting the source has come to. -/
structure Agrees (format format' : Format) (target : Target) (before : FileTree)
    (preview converted : Except Error Text) (after : FileTree) : Prop where
  /-- The chunks that are shown are those that are counted and rendered. -/
  shown {report : Text} : converted = .ok report → ∃ shown cs g text,
    preview = .ok shown ∧ ShowsChunks target cs format shown ∧ TellsOf g format' report ∧
    g.target = target ∧ g.proseChunks = cs.countP Chunk.isProse ∧
    g.codeChunks = cs.countP Chunk.isCode ∧ Rendered {} g.name cs target text ∧
    before.writeText g.output text = .ok after ∧
    (before.leadsToDevice g.output = false → before.Stores after g.output text)
  refused {e : Error} : preview = .error e → converted = .error e ∧ after = before

section

variable {input : Path} {word : Text} {name : Option Text} {target : Target}

theorem converts_conversion (tool : Path) (job : Job) (target : Target) :
    Converts (conversion tool job target) (plainConfig tool job target) target job := by
  cases target with
  | script => exact .script
  | markdown =>
      refine .markdown ?_
      rw [markdownConfig]
      exact if_pos rfl
  | notebook => exact .notebook

theorem nameFor_plainConfig (tool : Path) (job : Job) (target : Target) (input : Path) :
    (plainConfig tool job target).nameFor input = Config.nameFor { name := job.name } input := by
  cases target <;> rfl

/-- The defaults are those of the settings, and there are no hooks. -/
theorem rendered_plainConfig {tool : Path} {job : Job} {name text : Text} {cs : List Chunk}
    (h : Rendered (plainConfig tool job target) name cs target text) :
    Rendered {} name cs target text := by
  cases h with
  | script => exact .script
  | markdown => exact .markdown
  | notebook => exact .notebook

theorem preprocess_plainConfig (tool : Path) (job : Job) (target : Target) (t : Text) :
    (plainConfig tool job target).preprocess t = t := by
  cases target <;> rfl

theorem postprocess_plainConfig (tool : Path) (job : Job) (target : Target) (t : Text) :
    (plainConfig tool job target).postprocess t = t := by
  cases target <;> rfl

theorem executes_plainConfig (tool : Path) (job : Job) (target : Target) :
    executes (plainConfig tool job target) target = false := by
  cases target <;> rfl

/-- The chunks of a source are shown as one reads them. -/
theorem showsChunks_chunks (format : Format) (target : Target) (name content : Text) :
    ShowsChunks target (Source.chunks target name content) format
      (Report.chunks format target (Source.chunks target name content)) := by
  cases format with
  | json => exact .json (Report.decode_chunks _ _)
  | text =>
      by_cases hnone : Source.chunks target name content = []
      · rw [hnone]
        exact .none rfl
      · have hlines : ∀ c ∈ Source.chunks target name content, ∀ line ∈ c.lines, '\n' ∉ line :=
          fun c hc => (Chunk.wellFormed_of_mem_ofText hc).oneLine
        rw [Report.chunks, Report.chunksText_eq target hnone]
        refine .table rfl (by simp [Report.tableLines])
          (Report.newline_not_mem_tableLines target hlines) fun i c hi => ?_
        exact ⟨Report.chunkLine i c, by simp [Report.tableLines, hi], Report.shows_columns i c⟩

theorem tellsOf_generated (format : Format) {g : Generated} (h : g.executed = false) :
    TellsOf g format (Report.generated format g) := by
  cases format with
  | json =>
      cases htext : g.output.isText with
      | true => exact .json htext (h ▸ Report.decode_generated htext)
      | false => exact Report.generated_of_not_isText htext ▸ .nothing htext
  | text =>
      have hreport : Report.generated .text g =
          "Wrote ".toList ++ g.target.name ++ ' ' :: g.output.shown ++ " (".toList ++
            Text.ofNat g.proseChunks ++ " prose, ".toList ++ Text.ofNat g.codeChunks ++
            " code chunks)".toList ++ (if g.executed then ", executed".toList else []) ++
            ['\n'] := rfl
      rw [hreport, h, if_neg Bool.false_ne_true, List.append_nil]
      exact .text

/-- A preview names the document, reads the source and cuts it. -/
theorem run_previewChunks (hword : Target.ofName? word = some target) (w : World) :
    w.run (previewChunks input word name) =
      (do
        let name ← Config.nameFor { name := name } input
        let content ← (w.run (Run.readText input)).1
        return (target, Source.chunks target name content), w) := by
  simp only [previewChunks, hword, World.run_bind, nameFor, World.run_ofExcept]
  cases Config.nameFor { name := name } input with
  | error e => rfl
  | ok name =>
      obtain ⟨content, hcontent⟩ : ∃ content, w.run (Run.readText input) = (content, w) :=
        ⟨_, w.run_readText input⟩
      simp only [hcontent]
      cases content <;> rfl

theorem run_chunks (tools : Tools) (format : Format) (hword : Target.ofName? word = some target)
    (w : World) :
    w.run ((Command.chunks input word name).run tools format) =
      (do
        let name ← Config.nameFor { name := name } input
        let content ← (w.run (Run.readText input)).1
        return Report.chunks format target (Source.chunks target name content), w) := by
  have hrun := w.run_map (fun p => Report.chunks format p.1 p.2) (previewChunks input word name)
  rw [run_previewChunks hword] at hrun
  refine hrun.trans (Prod.ext ?_ rfl)
  cases Config.nameFor { name := name } input with
  | error e => rfl
  | ok name => cases (w.run (Run.readText input)).1 <;> rfl

/-- A preview takes notice of the world and leaves it alone, whatever the word. -/
theorem run_chunks_snd (tools : Tools) (format : Format) (input : Path) (word : Text)
    (name : Option Text) (w : World) :
    (w.run ((Command.chunks input word name).run tools format)).2 = w := by
  cases hword : Target.ofName? word with
  | some target => rw [run_chunks tools format hword]
  | none =>
      have hrun := w.run_map (fun p => Report.chunks format p.1 p.2) (previewChunks input word name)
      have hsnd : (w.run (previewChunks input word name)).2 = w := by
        simp only [previewChunks, hword, World.run_throw]
      exact (congrArg Prod.snd hrun).trans hsnd

theorem agrees_of_error (format format' : Format) (target : Target) (t : FileTree) (e : Error) :
    Agrees format format' target t (.error e) (.error e) t where
  shown h := by cases h
  refused h := ⟨h, rfl⟩

/-- Along the course of the conversion, the preview fails where the conversion does, and shows
what is stored. -/
theorem agrees_of_course {job : Job} {tool : Path} {w : World} {after : FileTree}
    {converted : Except Error Generated} (tools : Tools) (format format' : Format)
    (hword : Target.ofName? word = some target) (hdir : w.files.isDirectory job.outdir = true)
    (h : Course (plainConfig tool job target) target job.input job.outdir w.files converted after) :
    Agrees format format' target w.files
      (w.run ((Command.chunks job.input word job.name).run tools format)).1
      (converted.map (Report.generated format')) after := by
  rw [run_chunks tools format hword, World.run_readText]
  cases h with
  | noDirectory h => exact absurd hdir (by simp [h])
  | nameless _ hname hstem =>
      have hfail : Config.nameFor { name := job.name } job.input =
          .error (.nameless job.input.shown) := by
        rw [← nameFor_plainConfig tool job target, Config.nameFor, hname, hstem]
      rw [hfail]
      exact agrees_of_error format format' target w.files _
  | missing _ hname hholds =>
      rw [nameFor_plainConfig] at hname
      simp only [hname, hholds]
      exact agrees_of_error format format' target w.files _
  | unreadable _ hname hholds hread =>
      rw [nameFor_plainConfig] at hname
      simp only [hname, hholds, hread]
      exact agrees_of_error format format' target w.files _
  | unwritable hprepared hwrite =>
      cases hprepared with
      | intro _ hname hholds hread _ _ =>
          rw [nameFor_plainConfig] at hname
          simp only [hname, hholds, hread]
          exact ⟨fun h => (by cases h), fun h => (by cases h)⟩
  | written hprepared hwrite =>
      cases hprepared with
      | @intro name content rendered cs _ hname hholds hread hcs hrendered =>
          rw [nameFor_plainConfig] at hname
          rw [preprocess_plainConfig] at hcs
          rw [postprocess_plainConfig] at hwrite
          subst hcs
          simp only [hname, hholds, hread]
          refine ⟨fun h => ?_, fun h => (by cases h)⟩
          obtain rfl := Except.ok.inj h
          exact ⟨_, _, _, rendered, rfl, showsChunks_chunks format target name content,
            tellsOf_generated format' rfl, rfl, rfl, rfl, rendered_plainConfig hrendered, hwrite,
            FileTree.stores_of_writeText hwrite⟩

end

/-- Previews change nothing. The conversion for the target of a preview, by the defaults and into
a directory, stores what the shown chunks are rendered to and tells how many there are; and it
fails if the preview does, for the same reason. -/
theorem chunks_agrees (tools : Tools) (format format' : Format) (job : Job) (tool : Path)
    {word : Text} {target : Target} {w : World} (hword : Target.ofName? word = some target)
    (hdir : w.files.isDirectory job.outdir = true) :
    (∀ word, (w.run ((Command.chunks job.input word job.name).run tools format)).2 = w) ∧
    Agrees format format' target w.files
      (w.run ((Command.chunks job.input word job.name).run tools format)).1
      (w.run ((conversion tool job target).run tools format')).1
      (w.run ((conversion tool job target).run tools format')).2.files := by
  refine ⟨fun word => run_chunks_snd tools format job.input word job.name w, ?_⟩
  rw [(converts_conversion tool job target).run]
  exact agrees_of_course tools format format' hword hdir
    (course_generate _ job.input job.outdir (executes_plainConfig tool job target) w).1

/-- The source of the sample, by a word for its target that is not the target's name. -/
theorem chunks_agrees_sample :
    Target.ofName? "NB".toList = some .notebook ∧
    Conversion.sample.files.isDirectory "out".toList = true ∧
    ∀ tools, Agrees .text .json .notebook Conversion.sample.files
      (Conversion.sample.run
        ((Command.chunks "a.jl".toList "NB".toList (some "b".toList)).run tools .text)).1
      (Conversion.sample.run ((conversion "jupyter".toList
        ⟨"a.jl".toList, "out".toList, some "b".toList⟩ .notebook).run tools .json)).1
      (Conversion.sample.run ((conversion "jupyter".toList
        ⟨"a.jl".toList, "out".toList, some "b".toList⟩ .notebook).run tools .json)).2.files := by
  have hword : Target.ofName? "NB".toList = some .notebook := by decide
  have hdir : Conversion.sample.files.isDirectory "out".toList = true := by decide +kernel
  exact ⟨hword, hdir, fun tools => (chunks_agrees tools .text .json
    ⟨"a.jl".toList, "out".toList, some "b".toList⟩ "jupyter".toList hword hdir).2⟩

end Weave.CommandLine
