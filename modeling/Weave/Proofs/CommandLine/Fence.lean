import Weave.Proofs.CommandLine.Conversion

/-!
# Fences on the command line

A fence is put together in three places: where an opening is given, where only the closing is
other than usual, and in the conversion itself where neither is. They come to the same: the
command does what a conversion does that is given the whole fence. Where the document has no
name there is no opening to name it in, and then neither gets further than the settings.
-/
namespace Weave.CommandLine

open Conversion (artifact chunksOf course_generate executes generate_congr)
open Markdown (Fence)
open Report (Format)

/-- The fence that is meant by what is given. Where no opening is, it names the document. -/
def meantFence (opening : Option Text) (closing name : Text) : Fence :=
  ⟨opening.getD ("```@example ".toList ++ name), closing⟩

/-- The conversion to a document with a fence that is spelled out. -/
def convertFenced (tools : Tools) (job : Job) (fence : Fence) : Run Generated :=
  convert tools { name := job.name, fence := some fence } .markdown job

/-- A step that fails for a setting, with all files as they were. -/
def Unset {α : Type} (w : World) (step : Run α) : Prop :=
  (∃ what, (w.run step).1 = .error (.setting what)) ∧ (w.run step).2.files = w.files

section

variable {tools : Tools} {job : Job} {opening : Option Text} {closing name : Text}
  {config : Config} {w : World}

/-- The config is that of the options with a fence that comes to the one which is meant. It is
missing only for want of a name. -/
theorem markdownConfig_cases (job : Job) (opening : Option Text) (closing : Text) :
    (∃ fence, markdownConfig job opening closing = .ok { baseConfig job with fence } ∧
      ∀ name, (baseConfig job).nameFor job.input = .ok name →
        fence.getD (.exampleOf name) = meantFence opening closing name) ∨
    (markdownConfig job opening closing = .error (.nameless job.input.shown) ∧
      ∃ e, (baseConfig job).nameFor job.input = .error e) := by
  cases opening with
  | some opening => exact .inl ⟨some ⟨opening, closing⟩, rfl, fun _ _ => rfl⟩
  | none =>
      by_cases hc : closing = Fence.defaultClosing
      · exact .inl ⟨none, if_pos hc, fun _ _ => by rw [hc]; rfl⟩
      · simp only [markdownConfig, if_neg hc]
        cases hname : (baseConfig job).nameFor job.input with
        | ok name =>
            refine .inl ⟨some { Fence.exampleOf name with closing }, rfl, fun n hn => ?_⟩
            obtain rfl := Except.ok.inj hn
            rfl
        | error e =>
            obtain ⟨-, -, rfl⟩ := Conversion.eq_of_nameFor hname
            exact .inr ⟨rfl, _, rfl⟩

/-- Of the fence in its config, a conversion takes what it comes to for the document's name. -/
theorem convert_eq_convertFenced {fence : Option Fence} {meant : Fence}
    (h : ∀ name, (baseConfig job).nameFor job.input = .ok name →
      fence.getD (.exampleOf name) = meant) :
    convert tools { baseConfig job with fence } .markdown job = convertFenced tools job meant := by
  refine generate_congr _ job.outdir rfl rfl fun name content hname => ⟨rfl, ?_⟩
  simp only [artifact, Config.render, Config.fenceFor, h name hname]
  rfl

/-- Without a directory or a name a conversion is refused for that. -/
theorem unset_convert (hx : executes config .markdown = false)
    (h : w.files.isDirectory job.outdir = false ∨ ∃ e, config.nameFor job.input = .error e) :
    Unset w (convert tools config .markdown job) := by
  obtain ⟨hc, -⟩ := course_generate (tools config.tool) job.input job.outdir hx w
  obtain ⟨what, hw⟩ := hc.exists_setting h
  refine ⟨⟨what, hw⟩, ?_⟩
  rw [hw] at hc
  exact hc.of_error.1

theorem unset_markdown (format : Format) (opening : Option Text) (closing : Text)
    (h : w.files.isDirectory job.outdir = false ∨
      ∃ e, (baseConfig job).nameFor job.input = .error e) :
    Unset w ((Command.markdown job opening closing).run tools format) := by
  obtain ⟨fence, hconfig, -⟩ | ⟨hconfig, -⟩ := markdownConfig_cases job opening closing
  · have hrefused : Unset w (convert tools { baseConfig job with fence } .markdown job) :=
      unset_convert rfl h
    obtain ⟨⟨what, hw⟩, hfiles⟩ := hrefused
    rw [Unset, (Converts.markdown hconfig).run, hw]
    exact ⟨⟨what, rfl⟩, hfiles⟩
  · simp only [Unset, Command.run, hconfig]
    exact ⟨⟨_, rfl⟩, rfl⟩

/-- A name that is known makes the command and the conversion with the whole fence one. -/
theorem run_markdown_eq (format : Format) (hname : (baseConfig job).nameFor job.input = .ok name)
    (opening : Option Text) (closing : Text) (w : World) :
    w.run ((Command.markdown job opening closing).run tools format) =
      ((w.run (convertFenced tools job (meantFence opening closing name))).1.map
        (Report.generated format),
        (w.run (convertFenced tools job (meantFence opening closing name))).2) := by
  obtain ⟨fence, hconfig, hmeant⟩ | ⟨-, e, he⟩ := markdownConfig_cases job opening closing
  · have hfence : ∀ n, (baseConfig job).nameFor job.input = .ok n →
        fence.getD (.exampleOf n) = meantFence opening closing name := by
      intro n hn
      obtain rfl := Except.ok.inj (hname.symm.trans hn)
      exact hmeant name hname
    rw [(Converts.markdown hconfig).run, convert_eq_convertFenced hfence]
  · cases hname.symm.trans he

end

/-- However its fence is given, the command does what a conversion does that is given the fence
which is meant. Without a directory or a name both are refused for a setting and change nothing.
So one succeeds if the other does, and both leave the same files. -/
theorem markdown_fence (tools : Tools) (format : Format) (job : Job) (opening : Option Text)
    (closing : Text) (w : World) :
    (∀ name, (baseConfig job).nameFor job.input = .ok name →
      w.run ((Command.markdown job opening closing).run tools format) =
        ((w.run (convertFenced tools job (meantFence opening closing name))).1.map
          (Report.generated format),
          (w.run (convertFenced tools job (meantFence opening closing name))).2)) ∧
    ((w.files.isDirectory job.outdir = false ∨
        ∃ e, (baseConfig job).nameFor job.input = .error e) →
      Unset w ((Command.markdown job opening closing).run tools format) ∧
        ∀ fence, Unset w (convertFenced tools job fence)) ∧
    ∀ fence, (∀ name, (baseConfig job).nameFor job.input = .ok name →
        fence = meantFence opening closing name) →
      ((∃ report,
          (w.run ((Command.markdown job opening closing).run tools format)).1 = .ok report) ↔
        ∃ g, (w.run (convertFenced tools job fence)).1 = .ok g) ∧
      (w.run ((Command.markdown job opening closing).run tools format)).2.files =
        (w.run (convertFenced tools job fence)).2.files := by
  have hunset : ∀ fence, w.files.isDirectory job.outdir = false ∨
      (∃ e, (baseConfig job).nameFor job.input = .error e) →
      Unset w (convertFenced tools job fence) :=
    fun fence h => unset_convert rfl h
  refine ⟨fun name hname => run_markdown_eq format hname opening closing w,
    fun h => ⟨unset_markdown format opening closing h, fun fence => hunset fence h⟩,
    fun fence hfence => ?_⟩
  cases hname : (baseConfig job).nameFor job.input with
  | ok name =>
      rw [run_markdown_eq format hname, hfence name hname]
      refine ⟨?_, rfl⟩
      cases (w.run (convertFenced tools job (meantFence opening closing name))).1 <;>
        simp [Except.map]
  | error e =>
      obtain ⟨⟨what, hc⟩, hcfiles⟩ :=
        unset_markdown (w := w) format opening closing (.inr ⟨e, hname⟩)
      obtain ⟨⟨what', hl⟩, hlfiles⟩ := hunset fence (.inr ⟨e, hname⟩)
      rw [hc, hl, hcfiles, hlfiles]
      exact ⟨iff_of_false (by simp) (by simp), rfl⟩

end Weave.CommandLine
