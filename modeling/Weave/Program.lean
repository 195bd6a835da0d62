import Weave.CommandLine.Parse
import Weave.Report

/-!
# The program

A command line is read and its command run in a world of files. Which executor the program of
a path is, is up to the world, too, so whatever runs a command is told. The report goes
to the output, behind what the tools have printed. With JSON asked for, so does
the report of a failure; otherwise that goes to the errors, behind the log. The
exit code is zero exactly when the command has succeeded or an answer was all
that was asked for.
-/
namespace Weave

namespace CommandLine

open Conversion (generate)

/-- The executor that each program is by its path. -/
abbrev Tools := Path → Executor

def baseConfig (job : Job) : Config where
  name := job.name

/-- The closing fence is part of a fence of its own only where one was asked
for; the opening then names the document. -/
def markdownConfig (job : Job) (opening : Option Text) (closing : Text) : Except Error Config :=
  let config := baseConfig job
  match opening with
  | some opening => .ok { config with fence := some ⟨opening, closing⟩ }
  | none =>
    if closing = Markdown.Fence.defaultClosing then .ok config
    else do
      let name ← config.nameFor job.input
      return { config with fence := some { Markdown.Fence.exampleOf name with closing := closing } }

def notebookConfig (job : Job) (execute : Bool) (tool : Path) (languageVersion : Option Text) :
    Config :=
  let runtime : Notebook.Runtime := {}
  { baseConfig job with
    execute := execute
    tool := tool
    runtime := { runtime with version := languageVersion.getD runtime.version } }

/-- Converts with the configured tool as executor. -/
def convert (tools : Tools) (config : Config) (target : Target) (job : Job) : Run Generated :=
  generate (tools config.tool) config target job.input job.outdir

/-- The chunks of a source as they would be converted, and their target. -/
def previewChunks (input : Path) (target : Text) (name : Option Text) :
    Run (Target × List Chunk) := do
  match Target.ofName? target with
  | none => throw (.unknownTarget target)
  | some target =>
    let name ← Conversion.nameFor { name := name } input
    let content ← Run.readText input
    return (target, Source.chunks target name content)

/-- Runs a command; the result is its report. -/
def Command.run (tools : Tools) (format : Report.Format) : Command → Run Text
  | script job => do
    return Report.generated format (← convert tools (baseConfig job) .script job)
  | markdown job opening closing => do
    match markdownConfig job opening closing with
    | .ok config => return Report.generated format (← convert tools config .markdown job)
    | .error e => throw e
  | notebook job execute tool languageVersion => do
    let config := notebookConfig job execute tool languageVersion
    return Report.generated format (← convert tools config .notebook job)
  | chunks input target name => do
    let (target, found) ← previewChunks input target name
    return Report.chunks format target found

def Invocation.run (tools : Tools) (i : Invocation) : Run Text :=
  i.command.run tools (Report.Format.ofWord i.format)

/-- The paths that a conversion reads or changes. -/
def Job.paths (target : Target) (job : Job) : List Path :=
  let made := match (baseConfig job).nameFor job.input with
    | .ok name =>
      let output := Conversion.outputPath target name job.outdir
      output :: (Executor.checkpointsOf? output).toList
    | .error _ => []
  job.input :: job.outdir :: made

/-- The paths that a command reads or changes. -/
def Command.paths : Command → List Path
  | script job => job.paths .script
  | markdown job _ _ => job.paths .markdown
  | notebook job _ tool _ => tool :: job.paths .notebook
  | chunks input _ _ => [input]

end CommandLine

/-- What a run of the program shows, and the files it leaves. -/
structure Outcome where
  exitCode : Nat
  output : Text
  errors : Text
  files : FileTree

namespace Program

open CommandLine

def version (program : Text) : Text :=
  program ++ ' ' :: programVersion ++ ['\n']

def usage : Text :=
  "Usage: ".toList ++ programTitle ++ " [OPTIONS] <script|markdown|notebook|chunks> ...\n".toList

/-- What is shown in place of running a command. -/
def refuse (files : FileTree) (r : Refusal) : Outcome :=
  match r with
  | .versionShown program => ⟨r.exitCode, version program, [], files⟩
  | .helpShown => ⟨r.exitCode, usage, [], files⟩
  | _ => ⟨r.exitCode, [], usage, files⟩

/-- Where the report of a failure goes, behind what the tools have printed. -/
def fail (format : Report.Format) (e : Error) (output errors : Text) (files : FileTree) : Outcome :=
  match format with
  | .json => ⟨1, output ++ Report.error .json e ++ ['\n'], errors, files⟩
  | .text => ⟨1, output, errors ++ "Error: ".toList ++ e.message ++ ['\n'], files⟩

def runInvocation (tools : Tools) (env : Environment) (files : FileTree) (i : Invocation) :
    Outcome :=
  let (result, w) := World.run { files } (i.run tools)
  let errors := Log.textOf (.choose i.verbose env.logLevel) w.log
  match result with
  | .ok report => ⟨0, w.output ++ report, errors, w.files⟩
  | .error e => fail (.ofWord i.format) e w.output errors w.files

def run (tools : Tools) (env : Environment) (files : FileTree) (words : List Text) : Outcome :=
  match parse env words with
  | .error r => refuse files r
  | .ok i => runInvocation tools env files i

end Program

end Weave
