import Weave.Shell.State

/-!
# Redirections

A redirection makes a channel lead to a file, to the stream of another channel, to a
text, or nowhere. At the end of the command that it belongs to the channels are put
back, and what was opened for it is closed.
-/
namespace Weave.Shell

namespace State

/-- Makes a channel the one of a stream. -/
def lead (s : State) (channel stream : Nat) : State :=
  { s with channels := (channel, stream) :: s.channels.filter fun c => c.1 != channel }

def shut (s : State) (channel : Nat) : State :=
  { s with channels := s.channels.filter fun c => c.1 != channel }

/-- Makes a channel lead to a new stream. -/
def leadToNew (s : State) (channel : Nat) (stream : Stream) : State :=
  let (n, host) := s.toHost.add stream
  { s with toHost := host }.lead channel n

/-- Opens a file and makes a channel lead to it. -/
def leadToFile (s : State) (channel : Nat) (how : Opening) (fresh : Bool) (name : Bytes) :
    Except Failure State := do
  let (n, host) ← s.toHost.openPath s.channels how fresh (Bytes.toName name)
  return { s with toHost := host }.lead channel n

/-- Whether a stream is still needed by a command that runs beside the shell. -/
def isDeferred (s : State) (n : Nat) : Bool :=
  s.deferred.any fun d => d.process.channels.any fun c => c.2 = n

/-- Puts the channels back as they were and closes what was opened since. -/
def undoChannels (before s : State) : State :=
  let keeps (n : Nat) : Bool :=
    n < before.nextNumber || s.isDeferred n || before.channels.any fun c => c.2 = n
  { s with toHost := s.toHost.closeAllBut keeps, channels := before.channels }

/-- Why a file cannot be opened, as it is said. -/
def openingFault (s : State) (act missing : String) (target : Bytes) (f : Failure) : Bytes :=
  match s.dialect with
  | .standard =>
    let reason := if f = .notFound || f = .notDirectory then missing.toList else f.reason
    "cannot ".toList ++ act.toList ++ ' ' :: target ++ ": ".toList ++ reason
  | .extended =>
    target ++ ": ".toList ++
      if f = .exists then "cannot overwrite existing file".toList else f.reason

/-- Why a redirection cannot be done. -/
inductive RedirectFault where
  | failed (message : Bytes)
  /-- What should be the number of a channel is none, which counts as if the script could
  not be read. -/
  | noChannel
deriving Repr, DecidableEq

/-- Makes a channel the same as another one, or shuts it. -/
def copyChannel (s : State) (channel : Nat) (target : Bytes) : Except RedirectFault State :=
  let isNumber := target != [] && target.all Char.isDigit
  if target = ['-'] then .ok (s.shut channel)
  else if isNumber && (target.length = 1 || s.dialect = .extended) then
    match s.channels.lookup (Escape.numberIn 10 target) with
    | some n => .ok (s.lead channel n)
    | none => .error (.failed (target ++ ": Bad file descriptor".toList))
  else .error .noChannel

/-- Does one redirection to a word that is expanded already. -/
def redirectTo (s : State) (channel : Nat) (action : Action) (target : Bytes) :
    Except RedirectFault State :=
  let create (how : Opening) (fresh : Bool) : Except RedirectFault State :=
    (s.leadToFile channel how fresh target).mapError fun f =>
      .failed (s.openingFault "create" "Directory nonexistent" target f)
  match action with
  | .document => .ok (s.leadToNew channel (.ofText target))
  | .read =>
    (s.leadToFile channel .read false target).mapError fun f =>
      .failed (s.openingFault "open" "No such file" target f)
  | .copy => s.copyChannel channel target
  | .write => create .write (s.options.contains 'C')
  | .clobber => create .write false
  | .append => create .append false
  | .update => create .update false

end State

end Weave.Shell
