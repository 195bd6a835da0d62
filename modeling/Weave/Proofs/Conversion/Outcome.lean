import Weave.Conversion
import Weave.Proofs.FileTree.Writing

/-!
# What a conversion comes to

A conversion that executes nothing fails by the first of its steps that cannot be taken,
and then the files are as they were; or it stores the artifact in one file and changes
nothing else.
-/
namespace Weave.Conversion

/-- The text that a document's chunks are rendered to for a target. -/
inductive Rendered (config : Config) (name : Text) (cs : List Chunk) : Target → Text → Prop
  | script : Rendered config name cs .script (Script.ofChunks cs)
  | markdown : Rendered config name cs .markdown
      (Markdown.ofChunks (config.fence.getD ⟨"```@example ".toList ++ name, "```".toList⟩) cs)
  | notebook : Rendered config name cs .notebook (Notebook.ofChunks config.runtime cs).print

/-- What a conversion is about to write, and what it will tell of that: it has found a directory,
a name and a source that it can read. -/
inductive Prepared (config : Config) (target : Target) (input outdir : Path) (before : FileTree) :
    Generated → Text → Prop
  | intro {name content rendered : Text} {cs : List Chunk} : before.isDirectory outdir = true →
      config.nameFor input = .ok name → before.holds input = true →
      before.readText input = .ok content →
      Source.chunks target name (config.preprocess content) = cs →
      Rendered config name cs target rendered →
      Prepared config target input outdir before
        { target, name
          output := Path.join outdir (name ++ '.' :: target.extension)
          proseChunks := cs.countP Chunk.isProse
          codeChunks := cs.countP Chunk.isCode
          executed := false }
        (config.postprocess rendered)

/-- How the steps of a conversion that executes nothing go: to the first that fails, or to
the end. -/
inductive Course (config : Config) (target : Target) (input outdir : Path) (before : FileTree) :
    Except Error Generated → FileTree → Prop
  | noDirectory : before.isDirectory outdir = false →
      Course config target input outdir before (.error (.notDirectory outdir.shown)) before
  | nameless : before.isDirectory outdir = true → config.name = none →
      input.stem?.filter Path.isText = none →
      Course config target input outdir before (.error (.nameless input.shown)) before
  | missing {name : Text} : before.isDirectory outdir = true → config.nameFor input = .ok name →
      before.holds input = false →
      Course config target input outdir before (.error (.file (.notFound input.shown))) before
  | unreadable {name : Text} {f : Failure} : before.isDirectory outdir = true →
      config.nameFor input = .ok name → before.holds input = true →
      before.readText input = .error f →
      Course config target input outdir before
        (.error (.file (.notReadable input.shown f.message))) before
  | unwritable {g : Generated} {text : Text} {f : Failure} :
      Prepared config target input outdir before g text →
      before.writeText g.output text = .error f →
      Course config target input outdir before
        (.error (.file (.notWritable g.output.shown f.message))) before
  | written {g : Generated} {text : Text} {after : FileTree} :
      Prepared config target input outdir before g text →
      before.writeText g.output text = .ok after →
      Course config target input outdir before (.ok g) after

section

variable {config : Config} {target : Target} {input outdir : Path}

theorem eq_of_nameFor {e : Error} (h : config.nameFor input = .error e) :
    config.name = none ∧ input.stem?.filter Path.isText = none ∧ .nameless input.shown = e := by
  rw [Config.nameFor] at h
  split at h
  · cases h
  · rename_i hn
    split at h
    · cases h
    · rename_i hs
      exact ⟨hn, hs, Except.error.inj h⟩

theorem render_eq_ok_iff {name text : Text} {cs : List Chunk} :
    config.render target name cs = .ok text ↔ Rendered config name cs target text := by
  constructor
  · intro h
    cases target with
    | script => exact Except.ok.inj h ▸ .script
    | markdown => exact Except.ok.inj h ▸ .markdown
    | notebook => exact Except.ok.inj ((Notebook.encode_eq_ok _).symm.trans h) ▸ .notebook
  · intro h
    cases h with
    | script => rfl
    | markdown => rfl
    | notebook => exact Notebook.encode_eq_ok _

/-- What is written is the rendered text behind the last hook. -/
theorem artifact_eq_ok {name content text : Text} :
    artifact config target name content = .ok text ↔ ∃ rendered,
      Rendered config name (Source.chunks target name (config.preprocess content)) target rendered ∧
      config.postprocess rendered = text := by
  simp only [artifact, ← render_eq_ok_iff, chunksOf]
  cases config.render target name (Source.chunks target name (config.preprocess content)) <;>
    simp [Except.map]

theorem exists_artifact (config : Config) (target : Target) (name content : Text) :
    ∃ text, artifact config target name content = .ok text := by
  obtain ⟨rendered, h⟩ := config.exists_render target name (chunksOf config target name content)
  exact ⟨config.postprocess rendered, by rw [artifact, h]; rfl⟩

/-- A conversion up to its artifact. -/
def store (config : Config) (target : Target) (input outdir : Path) : Run Generated := do
  Run.requireDirectory outdir
  Run.note .info ("generating ".toList ++ target.name ++ " from ".toList ++ input.shown) []
  let name ← nameFor config input
  let output := outputPath target name outdir
  let content ← Run.readText input
  let chunks := chunksOf config target name content
  let text ← Run.ofExcept (artifact config target name content)
  Run.note .info ("writing result to ".toList ++ output.shown) []
  Run.writeText output text
  return {
    target, output, name
    proseChunks := chunks.countP Chunk.isProse
    codeChunks := chunks.countP Chunk.isCode
    executed := false }

/-- What a conversion does with its artifact. -/
def conclude (executor : Executor) (config : Config) (g : Generated) : Run Generated := do
  if executes config g.target then executor.executeNotebook g.output
  return { g with executed := executes config g.target }

theorem generate_eq (executor : Executor) (input outdir : Path) :
    generate executor config target input outdir =
      store config target input outdir >>= conclude executor config := by
  simp only [generate, store, conclude, bind_assoc, pure_bind]

/-- What the steps of a conversion find is prepared. -/
theorem prepared_of_artifact {before : FileTree} {name content text : Text}
    (hdir : before.isDirectory outdir = true) (hname : config.nameFor input = .ok name)
    (hread : before.readText input = .ok content)
    (hmade : artifact config target name content = .ok text) :
    Prepared config target input outdir before
      { target, name
        output := outputPath target name outdir
        proseChunks := (chunksOf config target name content).countP Chunk.isProse
        codeChunks := (chunksOf config target name content).countP Chunk.isCode
        executed := false } text := by
  obtain ⟨rendered, hrendered, rfl⟩ := artifact_eq_ok.1 hmade
  exact .intro hdir hname (FileTree.holds_of_readText hread) hread rfl hrendered

/-- The steps find one thing only. -/
theorem Prepared.unique {before : FileTree} {g g' : Generated} {text text' : Text}
    (h : Prepared config target input outdir before g text)
    (h' : Prepared config target input outdir before g' text') : g = g' ∧ text = text' := by
  cases h with
  | intro _ hname _ hread hcs hrendered =>
      cases h' with
      | intro _ hname' _ hread' hcs' hrendered' =>
          obtain rfl := Except.ok.inj (hname.symm.trans hname')
          obtain rfl := Except.ok.inj (hread.symm.trans hread')
          obtain rfl := hcs.symm.trans hcs'
          cases hrendered <;> cases hrendered' <;> exact ⟨rfl, rfl⟩

theorem Prepared.isDirectory {before : FileTree} {g : Generated} {text : Text}
    (h : Prepared config target input outdir before g text) :
    before.isDirectory outdir = true := by
  cases h with
  | intro hdir _ _ _ _ _ => exact hdir

/-- The text of the artifact goes to the program's output. -/
def Echoed (config : Config) (target : Target) (input outdir : Path) (before : FileTree)
    (text : Text) : Prop :=
  ∃ g after, Prepared config target input outdir before g text ∧
    before.device? g.output = some (.channel 1) ∧ before.writeText g.output text = .ok after

/-- What is prepared is what is made of the source's content. -/
theorem Prepared.exists_content {before : FileTree} {g : Generated} {text : Text}
    (h : Prepared config target input outdir before g text) :
    ∃ content, config.nameFor input = .ok g.name ∧ before.readText input = .ok content ∧
      g.output = outputPath target g.name outdir ∧
      artifact config target g.name content = .ok text := by
  cases h with
  | intro hdir hname hholds hread hcs hrendered =>
      exact ⟨_, hname, hread, rfl, artifact_eq_ok.2 ⟨_, hcs ▸ hrendered, rfl⟩⟩

/-- What has been printed up to the artifact: the artifact itself, if its path leads there. -/
def Printed (config : Config) (target : Target) (input outdir : Path) (before : World)
    (result : Except Error Generated) (output : Text) : Prop :=
  match result with
  | .error _ => output = before.output
  | .ok g => ∃ text, Prepared config target input outdir before.files g text ∧
      output = before.output ++ before.echo g.output text

/-- The steps of a conversion up to its artifact, one after the other. -/
theorem course_store (config : Config) (target : Target) (input outdir : Path) (w : World) :
    Course config target input outdir w.files
        (w.run (store config target input outdir)).1
        (w.run (store config target input outdir)).2.files ∧
      (w.run (store config target input outdir)).2.executions = w.executions ∧
      Printed config target input outdir w (w.run (store config target input outdir)).1
        (w.run (store config target input outdir)).2.output := by
  rw [store, World.run_bind, World.run_requireDirectory]
  cases hdir : w.files.isDirectory outdir with
  | false => exact ⟨.noDirectory hdir, rfl, rfl⟩
  | true =>
      simp only [if_true, World.run_bind, World.run_note, nameFor, World.run_ofExcept]
      cases hname : config.nameFor input with
      | error e =>
          obtain ⟨hn, hs, rfl⟩ := eq_of_nameFor hname
          exact ⟨.nameless hdir hn hs, rfl, rfl⟩
      | ok name =>
          simp only [World.run_readText, World.noting]
          cases hholds : w.files.holds input with
          | false => exact ⟨.missing hdir hname hholds, rfl, rfl⟩
          | true =>
              cases hread : w.files.readText input with
              | error f => exact ⟨.unreadable hdir hname hholds hread, rfl, rfl⟩
              | ok content =>
                  obtain ⟨text, htext⟩ := exists_artifact config target name content
                  have hprepared := prepared_of_artifact hdir hname hread htext
                  simp only [if_true, htext, World.run_writeText]
                  cases hwrite : w.files.writeText (outputPath target name outdir) text with
                  | error f => exact ⟨.unwritable hprepared hwrite, rfl, rfl⟩
                  | ok after =>
                      simp only [World.run_pure, World.files_writing, World.executions_writing]
                      exact ⟨.written hprepared hwrite, trivial, text, hprepared,
                        World.output_writing _ _ _ _⟩

theorem Course.summary {before after : FileTree} {g : Generated}
    (h : Course config target input outdir before (.ok g) after) :
    g.target = target ∧ g.executed = false := by
  cases h with
  | written hprepared _ =>
      cases hprepared
      exact ⟨rfl, rfl⟩

/-- Executing an artifact changes nothing of what is told but that it was executed. -/
theorem eq_of_conclude {executor : Executor} {made g : Generated} {w : World}
    (h : (w.run (conclude executor config made)).1 = .ok g) :
    g = { made with executed := executes config made.target } := by
  rw [conclude] at h
  split at h
  · obtain ⟨_, after, -, h⟩ := w.exists_of_run_bind h
    exact (Except.ok.inj h).symm
  · exact (Except.ok.inj h).symm

/-- What a conversion tells was prepared. -/
theorem exists_prepared_of_generate {executor : Executor} {w : World} {g : Generated}
    (h : (w.run (generate executor config target input outdir)).1 = .ok g) :
    ∃ made text, Prepared config target input outdir w.files made text ∧ made.target = target ∧
      g = { made with executed := executes config target } := by
  obtain ⟨hc, -, hprinted⟩ := course_store config target input outdir w
  rw [generate_eq] at h
  obtain ⟨made, stored, hs, hg⟩ := w.exists_of_run_bind h
  rw [hs] at hc hprinted
  obtain ⟨text, hprepared, -⟩ := hprinted
  obtain ⟨ht, -⟩ := hc.summary
  exact ⟨made, text, hprepared, ht, ht ▸ eq_of_conclude hg⟩

/-- A conversion that executes nothing is done with its artifact. -/
theorem run_generate_unexecuted (executor : Executor) (input outdir : Path)
    (hx : executes config target = false) (w : World) :
    w.run (generate executor config target input outdir) =
      w.run (store config target input outdir) := by
  have hc := (course_store config target input outdir w).1
  rw [generate_eq, World.run_bind]
  generalize w.run (store config target input outdir) = stored at hc ⊢
  rcases stored with ⟨_ | g, w⟩
  · rfl
  · obtain ⟨ht, hn⟩ := hc.summary
    obtain ⟨target, output, name, prose, code, executed⟩ := g
    obtain rfl : target = _ := ht
    obtain rfl : executed = false := hn
    simp only [conclude, hx, Bool.false_eq_true, if_false]
    rfl

/-- The steps of a conversion, one after the other. -/
theorem course_generate (executor : Executor) (input outdir : Path)
    (hx : executes config target = false) (w : World) :
    Course config target input outdir w.files
        (w.run (generate executor config target input outdir)).1
        (w.run (generate executor config target input outdir)).2.files ∧
      (w.run (generate executor config target input outdir)).2.executions = w.executions := by
  rw [run_generate_unexecuted executor input outdir hx]
  obtain ⟨hc, hcalls, -⟩ := course_store config target input outdir w
  exact ⟨hc, hcalls⟩

/-- A conversion without a directory or a name is refused for that. -/
theorem Course.exists_setting {before after : FileTree} {result : Except Error Generated}
    (h : Course config target input outdir before result after)
    (hn : before.isDirectory outdir = false ∨ ∃ e, config.nameFor input = .error e) :
    ∃ what, result = .error (.setting what) := by
  have named : ∀ {name}, before.isDirectory outdir = true → config.nameFor input ≠ .ok name := by
    rintro name hdir hname
    obtain hd | ⟨e, he⟩ := hn
    · exact absurd hdir (by simp [hd])
    · cases hname.symm.trans he
  have unprepared : ∀ {g text}, ¬Prepared config target input outdir before g text := by
    rintro g text ⟨hdir, hname, -, -, -, -⟩
    exact named hdir hname
  cases h with
  | noDirectory _ => exact ⟨_, rfl⟩
  | nameless _ _ _ => exact ⟨_, rfl⟩
  | missing hdir hname _ => exact absurd hname (named hdir)
  | unreadable hdir hname _ _ => exact absurd hname (named hdir)
  | unwritable hprepared _ => exact absurd hprepared unprepared
  | written hprepared _ => exact absurd hprepared unprepared

/-- All that a conversion takes from its config, once it has the document's name. -/
theorem generate_congr {a b : Config} (executor : Executor) (outdir : Path)
    (hx : executes a target = executes b target) (hname : a.nameFor input = b.nameFor input)
    (hmade : ∀ name content, a.nameFor input = .ok name →
      chunksOf a target name content = chunksOf b target name content ∧
      artifact a target name content = artifact b target name content) :
    generate executor a target input outdir = generate executor b target input outdir := by
  cases h : a.nameFor input with
  | error e =>
      have hthrow : ∀ f : Text → Run Generated,
          (Run.ofExcept (.error e) : Run Text) >>= f = throw e := fun _ => rfl
      simp only [generate, nameFor, ← hname, h, hthrow]
  | ok name =>
      have hmade := fun content => hmade name content h
      have hnamed : ∀ f : Text → Run Generated, Run.ofExcept (.ok name) >>= f = f name :=
        fun _ => rfl
      simp only [generate, nameFor, ← hname, h, hx, (hmade _).1, (hmade _).2, hnamed]

/-- A conversion fails before its artifact is written only if that cannot be written, or is not
even prepared. -/
theorem Course.not_echoed {before after : FileTree} {e : Error}
    (h : Course config target input outdir before (.error e) after) (text : Text) :
    ¬Echoed config target input outdir before text := by
  rintro ⟨g, written, hprepared, -, hwrite⟩
  obtain ⟨content, hname, hread, -, -⟩ := hprepared.exists_content
  cases h with
  | noDirectory hdir => simp [hprepared.isDirectory] at hdir
  | nameless _ hn hs => simp [Config.nameFor, hn, hs] at hname
  | missing _ _ hholds => simp [FileTree.holds_of_readText hread] at hholds
  | unreadable _ _ _ hunread => cases hread.symm.trans hunread
  | unwritable hprepared' hunwritten =>
      obtain ⟨rfl, rfl⟩ := hprepared.unique hprepared'
      cases hwrite.symm.trans hunwritten

/-- A conversion that fails has changed no file, and it never fails for want of a form that
can be written. -/
theorem Course.of_error {before after : FileTree} {e : Error}
    (h : Course config target input outdir before (.error e) after) :
    after = before ∧ ∀ what, e ≠ .encoding what := by
  cases h <;> exact ⟨rfl, nofun⟩

end

/-- What a conversion that executes nothing does: its course, which names the first error,
and either the artifact in its one file or no change at all. -/
structure Outcome (config : Config) (target : Target) (input outdir : Path) (before : World)
    (result : Except Error Generated) (after : World) : Prop where
  course : Course config target input outdir before.files result after.files
  stores {g : Generated} : result = .ok g → ∃ text,
    Prepared config target input outdir before.files g text ∧
    before.files.Stores after.files g.output text
  unchanged {e : Error} : result = .error e →
    after.files = before.files ∧ ∀ what, e ≠ .encoding what
  executions : after.executions = before.executions

/-- A conversion that executes nothing either stores the whole artifact in the one file of its
path, or it fails and has changed nothing. -/
theorem generate_outcome (executor : Executor) {config : Config} {target : Target}
    {input outdir : Path} {w : World} (hx : executes config target = false)
    (hd : ∀ name, config.nameFor input = .ok name →
      w.files.leadsToDevice (Path.join outdir (name ++ '.' :: target.extension)) = false) :
    Outcome config target input outdir w
      (w.run (generate executor config target input outdir)).1
      (w.run (generate executor config target input outdir)).2 := by
  obtain ⟨hc, he⟩ := course_generate executor input outdir hx w
  generalize (w.run (generate executor config target input outdir)).1 = result at hc ⊢
  refine ⟨hc, ?_, ?_, he⟩
  · rintro g rfl
    cases hc with
    | written hprepared hwrite =>
        obtain ⟨content, hname, -, hout, -⟩ := hprepared.exists_content
        have hdevice : w.files.leadsToDevice g.output = false := hout ▸ hd g.name hname
        exact ⟨_, hprepared, FileTree.stores_of_writeText hwrite hdevice⟩
  · rintro e rfl
    exact hc.of_error

/-- An executor that does nothing. -/
def idle : Executor := Executor.Rehearsal.executor {}

/-- A directory with a source in it and a directory for what is made of it. -/
def sample : World where
  files := {
    entries := [
      (["a.jl".toList], .file (FileTree.bytesOfText "#' x\n1\n".toList) false),
      (["out".toList], .directory)]
    here := [] }

theorem generate_outcome_sample : executes {} .markdown = false ∧
    (∀ name, Config.nameFor {} "a.jl".toList = .ok name →
      sample.files.leadsToDevice
        (Path.join "out".toList (name ++ '.' :: Target.markdown.extension)) = false) ∧
    Outcome {} .markdown "a.jl".toList "out".toList sample
      (sample.run (generate idle {} .markdown "a.jl".toList "out".toList)).1
      (sample.run (generate idle {} .markdown "a.jl".toList "out".toList)).2 := by
  have hx : executes {} .markdown = false := by decide
  have hd : ∀ name, Config.nameFor {} "a.jl".toList = .ok name →
      sample.files.leadsToDevice
        (Path.join "out".toList (name ++ '.' :: Target.markdown.extension)) = false := by
    intro name hname
    obtain rfl : "a".toList = name := Except.ok.inj hname
    decide +kernel
  exact ⟨hx, hd, generate_outcome idle hx hd⟩

end Weave.Conversion
