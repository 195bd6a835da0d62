import Weave.Error
import Weave.FileTree.Update
import Weave.Log

/-!
# Steps in a world of files

A step reads and changes the files, notes events in the log and may fail. What
it has done before it fails stays done. The world also remembers which
notebooks were handed to an executor. Running a step in a world gives its
result and the world it leaves; the lemmas say this of each basic step and of a
step that is followed by another.
-/
namespace Weave

structure World where
  files : FileTree
  log : List Log.Entry := []
  /-- What has been printed so far. -/
  output : Text := []
  /-- The notebooks handed to an executor, first to last. -/
  executions : List Path := []
deriving DecidableEq

/-- A step with a result or an error, and the world it leaves. -/
abbrev Run := ExceptT Error (StateM World)

namespace World

/-- The result of a step taken in this world, and the world it leaves. -/
def run {α : Type} (w : World) (step : Run α) : Except Error α × World :=
  StateT.run (ExceptT.run step) w

/-- The world with one more event in its log. -/
def noting (w : World) (event : Log.Event) : World :=
  { w with log := w.log ++ [.event event] }

/-- The world with the files that writing a text by a path has left. What is written to one of
the program's own channels is printed there. -/
def writing (w : World) (path : Path) (text : Text) (files : FileTree) : World :=
  match w.files.device? path with
  | some (.channel 1) => { w with files := files, output := w.output ++ text }
  | some (.channel 2) => { w with files := files, log := w.log ++ [.printed text] }
  | _ => { w with files := files }

section

variable {α β : Type} (w : World)

@[simp]
theorem run_pure (a : α) : w.run (pure a) = (.ok a, w) := rfl

@[simp]
theorem run_throw (e : Error) : w.run (throw e : Run α) = (.error e, w) := rfl

/-- The second step is taken in the world that the first leaves, unless the
first fails. -/
theorem run_bind (step : Run α) (next : α → Run β) :
    w.run (step >>= next) =
      match w.run step with
      | (.ok a, w) => w.run (next a)
      | (.error e, w) => (.error e, w) := by
  change (match w.run step with
    | (r, w) => StateT.run (ExceptT.bindCont next r) w) = _
  cases w.run step with
  | mk r w' => cases r <;> rfl

theorem run_bind_ok {step : Run α} {a : α} {w' : World} (h : w.run step = (.ok a, w'))
    (next : α → Run β) : w.run (step >>= next) = w'.run (next a) := by
  rw [run_bind, h]

theorem run_bind_error {step : Run α} {e : Error} {w' : World} (h : w.run step = (.error e, w'))
    (next : α → Run β) : w.run (step >>= next) = (.error e, w') := by
  rw [run_bind, h]

/-- Both steps have succeeded if the two together have. -/
theorem exists_of_run_bind {step : Run α} {next : α → Run β} {b : β}
    (h : (w.run (step >>= next)).1 = .ok b) :
    ∃ a w', w.run step = (.ok a, w') ∧ (w'.run (next a)).1 = .ok b := by
  rw [run_bind] at h
  generalize w.run step = taken at h ⊢
  rcases taken with ⟨_ | a, w'⟩
  · cases h
  · exact ⟨a, w', rfl, h⟩

/-- What is made of a step's result takes no further step. -/
theorem run_map (f : α → β) (step : Run α) :
    w.run (do return f (← step)) = ((w.run step).1.map f, (w.run step).2) := by
  rw [run_bind]
  rcases w.run step with ⟨_ | a, w⟩ <;> rfl

@[simp]
theorem run_get : w.run get = (.ok w, w) := rfl

@[simp]
theorem run_set (w' : World) : w.run (set w') = (.ok ⟨⟩, w') := rfl

@[simp]
theorem run_modify (f : World → World) : w.run (modify f) = (.ok ⟨⟩, f w) := rfl

end

end World

namespace Run

/-- A result that is there already, or an error. -/
def ofExcept {α : Type} : Except Error α → Run α
  | .ok a => return a
  | .error e => throw e

def note (level : Log.Level) (message : Text) (fields : List (String × Text)) : Run Unit :=
  modify (World.noting · ⟨level, message, fields⟩)

/-- Requires an existing directory; none is ever made. -/
def requireDirectory (dir : Path) : Run Unit := do
  if (← get).files.isDirectory dir then return ()
  else throw (.notDirectory dir.shown)

def readText (path : Path) : Run Text := do
  let w ← get
  if w.files.holds path then
    match w.files.readText path with
    | .ok text => return text
    | .error f => throw (.file (.notReadable path.shown f.message))
  else throw (.file (.notFound path.shown))

def writeText (path : Path) (text : Text) : Run Unit := do
  match (← get).files.writeText path text with
  | .ok files => modify fun w => w.writing path text files
  | .error f => throw (.file (.notWritable path.shown f.message))

/-- Removes a directory tree. A failure is noted and nothing more. -/
def removeQuietly (dir : Path) : Run Unit := do
  let (files, failure) := (← get).files.removeTree dir
  modify fun w => { w with files := files }
  match failure with
  | none => return ()
  | some f => note .debug "cleanup skipped".toList [("path", dir.shown), ("error", f.message)]

end Run

namespace World

variable (w : World)

@[simp]
theorem run_note (level : Log.Level) (message : Text) (fields : List (String × Text)) :
    w.run (Run.note level message fields) = (.ok (), w.noting ⟨level, message, fields⟩) := rfl

@[simp]
theorem run_ofExcept {α : Type} (r : Except Error α) : w.run (Run.ofExcept r) = (r, w) := by
  cases r <;> rfl

theorem run_requireDirectory (dir : Path) :
    w.run (Run.requireDirectory dir) =
      (if w.files.isDirectory dir then .ok () else .error (.notDirectory dir.shown), w) := by
  rw [Run.requireDirectory, run_bind_ok w (run_get w)]
  split <;> rfl

/-- Reading a text changes nothing. -/
theorem run_readText (path : Path) :
    w.run (Run.readText path) =
      (if w.files.holds path then
        match w.files.readText path with
        | .ok text => .ok text
        | .error f => .error (.file (.notReadable path.shown f.message))
      else .error (.file (.notFound path.shown)), w) := by
  rw [Run.readText, run_bind_ok w (run_get w)]
  by_cases h : w.files.holds path
  · cases w.files.readText path <;> simp [h]
  · simp [h]

@[simp]
theorem files_writing (path : Path) (text : Text) (files : FileTree) :
    (w.writing path text files).files = files := by
  unfold writing
  split <;> rfl

/-- What writing a text by a path prints. -/
def echo (path : Path) (text : Text) : Text :=
  if w.files.device? path = some (.channel 1) then text else []

theorem output_writing (path : Path) (text : Text) (files : FileTree) :
    (w.writing path text files).output = w.output ++ w.echo path text := by
  unfold writing echo
  split <;> simp_all

@[simp]
theorem executions_writing (path : Path) (text : Text) (files : FileTree) :
    (w.writing path text files).executions = w.executions := by
  unfold writing
  split <;> rfl

/-- Writing a text changes the files, or prints, or does nothing. -/
theorem run_writeText (path : Path) (text : Text) :
    w.run (Run.writeText path text) =
      match w.files.writeText path text with
      | .ok files => (.ok (), w.writing path text files)
      | .error f => (.error (.file (.notWritable path.shown f.message)), w) := by
  rw [Run.writeText, run_bind_ok w (run_get w)]
  cases w.files.writeText path text <;> rfl

/-- Removing a directory quietly never fails. -/
theorem run_removeQuietly (dir : Path) :
    w.run (Run.removeQuietly dir) =
      (.ok (), match w.files.removeTree dir with
        | (files, none) => { w with files := files }
        | (files, some f) => World.noting { w with files := files }
            ⟨.debug, "cleanup skipped".toList, [("path", dir.shown), ("error", f.message)]⟩) := by
  rw [Run.removeQuietly, run_bind_ok w (run_get w)]
  cases w.files.removeTree dir with
  | mk files failure => cases failure <;> rfl

end World

end Weave
