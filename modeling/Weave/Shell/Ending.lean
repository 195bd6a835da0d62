import Weave.Shell.State

/-!
# How shells and programs end

What has come to its end leaves a host and a status to the shell that has waited for it.
That shell says how a signal has ended it.
-/
namespace Weave.Shell

/-- The status with which a shell has come to its end. -/
def endStatus (s : State) : Nat :=
  match s.flow with
  | .dying signal => Signal.statusOf signal
  | _ => s.status % 256

/-- What is left of a shell that has come to its end, for the one that started it. -/
def outer (before after : State) : State :=
  let files := { after.files with here := before.files.here, mask := before.files.mask }
  { after with
    toHost := { after.toHost with files := files }
    toProcess := { before.toProcess with status := endStatus after } }

/-- Says how a program has ended that was ended by a signal. -/
def sayFarewell (signal : Nat) (s : State) : State :=
  match Signal.farewells.lookup signal with
  | some text => s.say (text.toList ++ ['\n'])
  | none => s

/-- What is left of a shell for the one that has waited for it. -/
def outerSaid (before after : State) : State :=
  match after.flow with
  | .dying signal => sayFarewell signal (outer before after)
  | _ => outer before after

/-- What is left of a program. The last one takes the place of the shell, and otherwise
the shell has waited for it. -/
def programEnded (isLast : Bool) (before after : State) : State :=
  let left := if after.number = before.number then { after with status := endStatus after }
    else outer before after
  match after.flow with
  | .dying signal =>
    if isLast then { left with flow := after.flow }
    else { sayFarewell signal left with flow := before.flow }
  | _ => { left with flow := if isLast then .leaving else before.flow }

/-- What is left when such a command has come to its end. -/
def besideEnded (before after : State) (d : Deferred) : State :=
  let files := { after.files with
    here := before.files.here, mask := before.files.mask
    now := max before.files.now after.files.now }
  { after with
    toHost := { after.toHost with files := files }
    toProcess := before.toProcess
    ended := (d.number, endStatus after) :: after.ended }

/-- Where a loop goes on behind its body. -/
def loopFlow (s : State) : State × Bool :=
  match s.flow with
  | .onward => (s, true)
  | .breaking n => ({ s with flow := if n ≤ 1 then .onward else .breaking (n - 1) }, false)
  | .continuing n => if n ≤ 1 then ({ s with flow := .onward }, true)
    else ({ s with flow := .continuing (n - 1) }, false)
  | _ => (s, false)

/-- Ends the script behind a failed command, if that is asked for and the command
is not a condition. -/
def settle (guarded : Bool) : Step Unit := do
  let s ← get
  if !guarded && s.status != 0 && s.options.contains 'e' && s.flow = .onward then
    set { s with flow := .leaving }

/-- The command that runs beside the shell and ends first, among some of them. -/
def earliest? (s : State) (concerns : Deferred → Bool) : Option Deferred :=
  (s.deferred.filter concerns).foldl (fun best d => match best with
    | some b => if d.finish < b.finish then some d else some b
    | none => some d) none

/-- Puts what a stream holds, that a program has printed, into a stream from which
another one reads. The answer also tells whether there would be more. -/
def turnAround (s : State) (n : Nat) : Stream × Bool :=
  match s.streams.lookup n with
  | some ⟨.pieces held _ isOver, _, _, _, _⟩ =>
    ({ target := .text (Host.flatten held) isOver, reads := true }, isOver)
  | _ => (.ofText [], false)

/-- A stream with some room for what a program prints. -/
def streamWithRoom (room : Nat) : Stream where
  target := .pieces [] room false
  writes := true

end Weave.Shell
