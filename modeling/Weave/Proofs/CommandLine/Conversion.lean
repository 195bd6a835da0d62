import Weave.Program
import Weave.Proofs.Conversion.Outcome

/-!
# Commands that convert

Three of the commands convert, and all in one way: each has a config put together from what
was given, runs the conversion with the tool of that config, and reports what it has made.
-/
namespace Weave.CommandLine

open Report (Format)

/-- By which config a command converts what for which target. -/
inductive Converts : Command → Config → Target → Job → Prop
  | script {job : Job} : Converts (.script job) (baseConfig job) .script job
  | markdown {job : Job} {opening : Option Text} {closing : Text} {config : Config} :
      markdownConfig job opening closing = .ok config →
      Converts (.markdown job opening closing) config .markdown job
  | notebook {job : Job} {execute : Bool} {tool : Path} {languageVersion : Option Text} :
      Converts (.notebook job execute tool languageVersion)
        (notebookConfig job execute tool languageVersion) .notebook job

section

variable {command : Command} {config config' : Config} {target target' : Target} {job job' : Job}

/-- To run such a command is to convert, and to report. -/
theorem Converts.run (h : Converts command config target job) (tools : Tools) (format : Format)
    (w : World) :
    w.run (command.run tools format) =
      ((w.run (convert tools config target job)).1.map (Report.generated format),
        (w.run (convert tools config target job)).2) := by
  cases h with
  | script => exact w.run_map _ _
  | markdown hconfig =>
      simp only [Command.run, hconfig]
      exact w.run_map _ _
  | notebook => exact w.run_map _ _

/-- A command converts by one config. -/
theorem Converts.unique (h : Converts command config target job)
    (h' : Converts command config' target' job') :
    config = config' ∧ target = target' ∧ job = job' := by
  cases h with
  | script =>
      cases h'
      exact ⟨rfl, rfl, rfl⟩
  | markdown hconfig =>
      cases h' with
      | markdown hconfig' => exact ⟨Except.ok.inj (hconfig.symm.trans hconfig'), rfl, rfl⟩
  | notebook =>
      cases h'
      exact ⟨rfl, rfl, rfl⟩

/-- A command converts, or it shows chunks, or it fails for want of a config. -/
theorem converts_or (command : Command) :
    (∃ config target job, Converts command config target job) ∨
    (∀ config target job, ¬Converts command config target job) ∧
      ((∃ input word name, command = .chunks input word name) ∨
        ∃ e, ∀ tools format, command.run tools format = throw e) := by
  cases command with
  | script job => exact .inl ⟨_, _, _, .script⟩
  | markdown job opening closing =>
      cases hconfig : markdownConfig job opening closing with
      | ok config => exact .inl ⟨_, _, _, .markdown hconfig⟩
      | error e =>
          refine .inr ⟨?_, .inr ⟨e, fun tools format => by simp only [Command.run, hconfig]⟩⟩
          rintro config target job ⟨⟩
          simp_all
  | notebook job execute tool languageVersion => exact .inl ⟨_, _, _, .notebook⟩
  | chunks input word name => exact .inr ⟨nofun, .inl ⟨input, word, name, rfl⟩⟩

end

end Weave.CommandLine
