import Weave.Proofs.Conversion.Outcome
import Weave.Proofs.FileTree.Removal

/-!
# Executing an artifact

Only a notebook whose config asks for it is executed, once, and after all other steps. The
executor is given the files with the artifact in them and may do anything to them. Whatever
its result, that is the result of the conversion, and the checkpoints beside the notebook
are removed from what it leaves. In all other conversions no executor has a part.
-/
namespace Weave.Executor

/-- The files without the checkpoints beside a notebook, as far as they can be removed. -/
def cleaned (notebook : Path) (files : FileTree) : FileTree :=
  match checkpointsOf? notebook with
  | some dir => (files.removeTree dir).1
  | none => files

theorem run_cleanUp_cleaned (notebook : Path) (w : World) :
    (w.run (cleanUp notebook)).1 = .ok () ∧
      (w.run (cleanUp notebook)).2.files = cleaned notebook w.files ∧
      (w.run (cleanUp notebook)).2.executions = w.executions ∧
      (w.run (cleanUp notebook)).2.output = w.output := by
  unfold cleanUp cleaned
  cases checkpointsOf? notebook with
  | none => exact ⟨rfl, rfl, rfl, rfl⟩
  | some dir =>
      dsimp only
      rw [World.run_removeQuietly]
      rcases w.files.removeTree dir with ⟨files, _ | f⟩
      · exact ⟨rfl, rfl, rfl, rfl⟩
      · exact ⟨rfl, rfl, rfl, rfl⟩

/-- The executor is called once, what it answers is the answer, and what it prints is printed. -/
theorem run_executeNotebook (executor : Executor) (notebook : Path) (w : World) :
    (w.run (executor.executeNotebook notebook)).1 = (executor w.files notebook).result ∧
      (w.run (executor.executeNotebook notebook)).2.files =
        cleaned notebook (executor w.files notebook).files ∧
      (w.run (executor.executeNotebook notebook)).2.executions = w.executions ++ [notebook] ∧
      (w.run (executor.executeNotebook notebook)).2.output =
        w.output ++ (executor w.files notebook).output := by
  rw [executeNotebook, World.run_bind_ok w (World.run_note w _ _ _),
    World.run_bind_ok _ (run_handOver executor notebook _)]
  have hfiles : ∀ event, executor (w.noting event).files notebook = executor w.files notebook :=
    fun _ => rfl
  rw [hfiles]
  cases (executor w.files notebook).result with
  | ok _ => exact run_cleanUp_cleaned notebook _
  | error e =>
      dsimp only
      rw [World.run_bind_ok _ (World.run_note _ _ _ _)]
      obtain ⟨hok, hclean, hcalls, hprinted⟩ := run_cleanUp_cleaned notebook
        ((executor.leaves notebook (w.noting _)).noting _)
      rw [World.run_bind_ok _ (Prod.ext hok rfl)]
      exact ⟨rfl, hclean, hcalls, hprinted⟩

end Weave.Executor

namespace Weave.Conversion

open Executor (checkpointsOf? cleaned run_executeNotebook)

/-- How a conversion ends that executes what it has made of the files. -/
structure Executed (executor : Executor) (config : Config) (input outdir : Path) (before : World)
    (g : Generated) (filled : FileTree) (result : Except Error Generated) (after : World) :
    Prop where
  /-- The executor is called once, for the artifact. -/
  once : after.executions = before.executions ++ [g.output]
  /-- It finds the artifact as a whole, unless a device has taken it. -/
  stored : ∃ text, Prepared config .notebook input outdir before.files g text ∧
    before.files.writeText g.output text = .ok filled ∧
    (before.files.leadsToDevice g.output = false → before.files.Stores filled g.output text)
  answer : result = (executor filled g.output).result.map fun _ => { g with executed := true }
  cleaned : ∃ dir, g.output.parent? = some dir ∧
    (executor filled g.output).files.Removal (Path.join dir ".ipynb_checkpoints".toList) after.files

/-- How a conversion ends that executes nothing: as its steps have left it. -/
structure Unexecuted (before : World) (stored : Except Error Generated) (filled : FileTree)
    (result : Except Error Generated) (after : World) : Prop where
  never : after.executions = before.executions
  answer : result = stored
  files : after.files = filled
  ways : before.files.KeepsWays after.files
  /-- Whatever is no name of the artifact is as it was. -/
  others {q : Place} : (∀ g place, stored = .ok g →
      before.files.placeOf g.output true = .ok place → ¬before.files.SameFile q place) →
    after.files.at? q = before.files.at? q

/-- A text that is fit has been written by a path, and is stored there unless a device has taken
it. -/
def Delivers (fit : Text → Prop) (before after : FileTree) (p : Path) : Prop :=
  ∃ t, fit t ∧ before.writeText p t = .ok after ∧
    (before.leadsToDevice p = false → before.Stores after p t)

/-- How a conversion ends all of whose artifacts are fit. -/
inductive Ends (fit : Text → Prop) (executor : Executor) (executes : Bool) (before : World) :
    Except Error Generated → World → Prop
  /-- Nothing has been written. -/
  | refused {e : Error} {after : World} : after.files = before.files →
      after.executions = before.executions →
      Ends fit executor executes before (.error e) after
  | written {g : Generated} {after : World} : executes = false →
      Delivers fit before.files after.files g.output → after.executions = before.executions →
      Ends fit executor executes before (.ok g) after
  /-- The executor finds what was written, and its answer is the answer. -/
  | executed {g : Generated} {filled : FileTree} {after : World} : executes = true →
      Delivers fit before.files filled g.output →
      after.executions = before.executions ++ [g.output] →
      Ends fit executor executes before ((executor filled g.output).result.map fun _ => g) after

section

variable {config : Config} {target : Target} {input outdir : Path} {before after : FileTree}
  {g : Generated}

theorem getLast?_extension (target : Target) :
    ∃ front c, '.' :: target.extension = front ++ [c] ∧ c ≠ '/' ∧ c ≠ '.' := by
  cases target with
  | script => exact ⟨".j".toList, 'l', rfl, by decide, by decide⟩
  | markdown => exact ⟨".m".toList, 'd', rfl, by decide, by decide⟩
  | notebook => exact ⟨".ipyn".toList, 'b', rfl, by decide, by decide⟩

/-- An artifact stands in a directory. -/
theorem exists_parent_outputPath (target : Target) (name : Text) (outdir : Path) :
    ∃ dir, (outputPath target name outdir).parent? = some dir := by
  obtain ⟨front, c, hext, hs, hd⟩ := getLast?_extension target
  obtain ⟨path, hpath⟩ := Path.join_isSuffix outdir (name ++ '.' :: target.extension)
  rw [outputPath, ← hpath, hext, ← List.append_assoc, ← List.append_assoc]
  exact Path.exists_parent hs hd _

theorem removal_cleaned (notebook dir : Path) (h : notebook.parent? = some dir) (t : FileTree) :
    t.Removal (Path.join dir ".ipynb_checkpoints".toList) (cleaned notebook t) := by
  simp only [cleaned, checkpointsOf?, h, Option.map_some]
  exact t.removal_removeTree dir (by decide) (by decide) (by decide) (by decide)

/-- What was prepared has been written when the artifact is there. -/
theorem Course.exists_prepared (h : Course config target input outdir before (.ok g) after) :
    ∃ text, Prepared config target input outdir before g text ∧
      before.writeText g.output text = .ok after := by
  cases h with
  | written hprepared hwrite => exact ⟨_, hprepared, hwrite⟩

theorem Course.delivers {fit : Text → Prop}
    (h : Course config target input outdir before (.ok g) after)
    (hfit : ∀ name content text, artifact config target name content = .ok text → fit text) :
    Delivers fit before after g.output := by
  obtain ⟨text, hprepared, hwrite⟩ := h.exists_prepared
  obtain ⟨content, -, -, -, hmade⟩ := hprepared.exists_content
  exact ⟨text, hfit _ _ _ hmade, hwrite, FileTree.stores_of_writeText hwrite⟩

/-- Up to the artifact, only its file changes. -/
theorem Course.keepsWays {stored : Except Error Generated}
    (h : Course config target input outdir before stored after) : before.KeepsWays after := by
  cases stored with
  | error e =>
      obtain rfl := h.of_error.1
      exact .refl _
  | ok g =>
      obtain ⟨text, -, hwrite⟩ := h.exists_prepared
      obtain ⟨place, -, hfill⟩ := FileTree.exists_of_writeText hwrite
      exact FileTree.keepsWays_of_fill hfill

theorem Course.at?_eq {stored : Except Error Generated} {q : Place}
    (h : Course config target input outdir before stored after)
    (hq : ∀ g place, stored = .ok g → before.placeOf g.output true = .ok place →
      ¬before.SameFile q place) : after.at? q = before.at? q := by
  cases stored with
  | error e => rw [h.of_error.1]
  | ok g =>
      obtain ⟨text, -, hwrite⟩ := h.exists_prepared
      obtain ⟨place, hplace, hfill⟩ := FileTree.exists_of_writeText hwrite
      exact (FileTree.at?_of_fill hfill q).2 (hq g place rfl hplace)

/-- A notebook that is due is executed when it is stored. -/
theorem executed_generate (executor : Executor) {w : World} (hx : executes config target = true)
    (hs : (w.run (store config target input outdir)).1 = .ok g) :
    Executed executor config input outdir w g (w.run (store config target input outdir)).2.files
      (w.run (generate executor config target input outdir)).1
      (w.run (generate executor config target input outdir)).2 := by
  obtain ⟨hc, hcalls, -⟩ := course_store config target input outdir w
  have hrun : w.run (generate executor config target input outdir) =
      (w.run (store config target input outdir)).2.run (conclude executor config g) := by
    rw [generate_eq]
    exact World.run_bind_ok w (Prod.ext hs rfl) _
  rw [hrun]
  generalize (w.run (store config target input outdir)).2 = stored at hc hcalls ⊢
  rw [hs] at hc
  obtain ⟨text, hprepared, hwrite⟩ := hc.exists_prepared
  obtain ⟨content, -, -, hout, -⟩ := hprepared.exists_content
  have htarget : target = .notebook := by
    simp only [executes, Bool.and_eq_true, decide_eq_true_eq] at hx
    exact hx.1
  obtain ⟨dir, hdir⟩ := exists_parent_outputPath target g.name outdir
  rw [← hout] at hdir
  obtain ⟨hanswer, hfiles, honce, -⟩ := run_executeNotebook executor g.output stored
  have hconclude : stored.run (conclude executor config g) =
      ((executor stored.files g.output).result.map fun _ => { g with executed := true },
        (stored.run (executor.executeNotebook g.output)).2) := by
    rw [conclude, hc.summary.1, hx, if_pos rfl, World.run_bind]
    rw [← hanswer]
    rcases stored.run (executor.executeNotebook g.output) with ⟨_ | _, w⟩ <;> rfl
  rw [hconclude]
  refine ⟨?_, ⟨text, htarget ▸ hprepared, hwrite, FileTree.stores_of_writeText hwrite⟩, rfl,
    dir, hdir, ?_⟩
  · rw [honce, hcalls]
  · rw [hfiles]
    exact removal_cleaned g.output dir hdir _

/-- If none is due or a step has failed, that is all, whatever the executor. -/
theorem run_generate_eq_store (executor : Executor) {w : World}
    (h : executes config target = false ∨
      ∃ e, (w.run (store config target input outdir)).1 = .error e) :
    w.run (generate executor config target input outdir) =
      w.run (store config target input outdir) := by
  obtain hx | ⟨e, he⟩ := h
  · exact run_generate_unexecuted executor input outdir hx w
  · rw [generate_eq, World.run_bind_error w (Prod.ext he rfl)]
    exact Prod.ext he.symm rfl

/-- However it ends, a conversion writes nothing but an artifact. -/
theorem ends_generate {fit : Text → Prop} (executor : Executor) (input outdir : Path) (w : World)
    (hfit : ∀ name content text, artifact config target name content = .ok text → fit text) :
    Ends fit executor (executes config target) w
      (w.run (generate executor config target input outdir)).1
      (w.run (generate executor config target input outdir)).2 := by
  obtain ⟨hc, hcalls, -⟩ := course_store config target input outdir w
  cases hs : (w.run (store config target input outdir)).1 with
  | error e =>
      rw [run_generate_eq_store executor (.inr ⟨e, hs⟩), hs]
      rw [hs] at hc
      exact .refused hc.of_error.1 hcalls
  | ok g =>
      rw [hs] at hc
      have hd := hc.delivers hfit
      cases hx : executes config target with
      | false =>
          rw [run_generate_eq_store executor (.inl hx), hs]
          exact .written rfl hd hcalls
      | true =>
          have h := executed_generate executor hx hs
          rw [h.answer]
          exact .executed (g := { g with executed := true }) rfl hd h.once

end

/-- The steps of a conversion up to its artifact are those of one that executes nothing. If they
succeed and the artifact is a notebook whose config asks for it, the executor is called for it,
and what it answers is the answer. From what it leaves, the checkpoints beside the notebook are
removed. In all other cases nothing but the artifact has been touched, and there is no
executor that would make a difference. -/
theorem generate_execution (executor : Executor) (config : Config) (target : Target)
    (input outdir : Path) (w : World) :
    ∃ stored filled, Course config target input outdir w.files stored filled ∧
      (∀ g, target = .notebook → config.execute = true → stored = .ok g →
        Executed executor config input outdir w g filled
          (w.run (generate executor config target input outdir)).1
          (w.run (generate executor config target input outdir)).2) ∧
      ((target ≠ .notebook ∨ config.execute = false ∨ ∃ e, stored = .error e) →
        Unexecuted w stored filled (w.run (generate executor config target input outdir)).1
          (w.run (generate executor config target input outdir)).2 ∧
        ∀ other, w.run (generate other config target input outdir) =
          w.run (generate executor config target input outdir)) := by
  obtain ⟨hc, hcalls, -⟩ := course_store config target input outdir w
  refine ⟨_, _, hc, fun g ht hx hs => ?_, fun h => ?_⟩
  · exact executed_generate executor (by simp [executes, ht, hx]) hs
  · have hrun : ∀ executor, w.run (generate executor config target input outdir) =
        w.run (store config target input outdir) := by
      refine fun executor => run_generate_eq_store executor ?_
      obtain ht | hx | he := h
      · exact .inl (by simp [executes, ht])
      · exact .inl (by simp [executes, hx])
      · exact .inr he
    rw [hrun executor]
    exact ⟨⟨hcalls, rfl, rfl, hc.keepsWays, hc.at?_eq⟩, hrun⟩

/-- A config that asks for execution. -/
def due : Config := { execute := true }

/-- A source beside checkpoints with a directory in them, a directory in which a link has the
name of the checkpoints, one with checkpoints of which a part may not be removed, and one in
which the artifact is a link to a device. -/
def cluttered : World where
  files := {
    entries := [
      (["a.jl".toList], .file (FileTree.bytesOfText "1\n".toList) false),
      ([".ipynb_checkpoints".toList], .directory),
      ([".ipynb_checkpoints".toList, "sub".toList], .directory),
      (["linked".toList], .directory),
      (["linked".toList, ".ipynb_checkpoints".toList], .link "../a.jl".toList),
      (["held".toList], .directory),
      (["held".toList, ".ipynb_checkpoints".toList], .directory),
      (["held".toList, ".ipynb_checkpoints".toList, "a".toList], .file .empty false),
      (["held".toList, ".ipynb_checkpoints".toList, "b".toList], .file .empty false),
      (["dev".toList], .directory),
      (["dev".toList, "null".toList], .device .null),
      (["void".toList], .directory),
      (["void".toList, "a.ipynb".toList], .link "/dev/null".toList)]
    here := []
    refusals := [
      ((["held".toList, ".ipynb_checkpoints".toList, "b".toList], .remove), .notPermitted)] }

/-- What a conversion into a directory leaves whose executor changes nothing. -/
def executedIn (outdir : String) : World :=
  (cluttered.run (generate idle due .notebook "a.jl".toList outdir.toList)).2

/-- The executor is called, and then checkpoints are neither gone nor as they were, because their
path goes through them or because part of them stays, a link that leads to no directory is gone,
and what was written is not there. -/
theorem generate_execution_cluttered :
    ((executedIn ".ipynb_checkpoints/sub/../..").executions =
        [".ipynb_checkpoints/sub/../../a.ipynb".toList] ∧
      (executedIn ".ipynb_checkpoints/sub/../..").files.isDirectory
        ".ipynb_checkpoints".toList = true ∧
      cluttered.files.isDirectory ".ipynb_checkpoints/sub".toList = true ∧
      (executedIn ".ipynb_checkpoints/sub/../..").files.holds
        ".ipynb_checkpoints/sub".toList = false) ∧
    ((executedIn "linked").executions = ["linked/a.ipynb".toList] ∧
      cluttered.files.isFilePath "linked/.ipynb_checkpoints".toList = true ∧
      (executedIn "linked").files.holds "linked/.ipynb_checkpoints".toList = false) ∧
    ((executedIn "held").executions = ["held/a.ipynb".toList] ∧
      cluttered.files.holds "held/.ipynb_checkpoints/a".toList = true ∧
      (executedIn "held").files.holds "held/.ipynb_checkpoints/a".toList = false ∧
      (executedIn "held").files.holds "held/.ipynb_checkpoints/b".toList = true) ∧
    (executedIn "void").executions = ["void/a.ipynb".toList] ∧
      (executedIn "void").files.readText "void/a.ipynb".toList = .ok [] ∧
      artifact due .notebook "a".toList "1\n".toList ≠ .ok [] := by
  refine ⟨⟨?_, ?_, ?_, ?_⟩, ⟨?_, ?_, ?_⟩, ⟨?_, ?_, ?_, ?_⟩, ?_, ?_, ?_⟩ <;> decide +kernel

end Weave.Conversion
