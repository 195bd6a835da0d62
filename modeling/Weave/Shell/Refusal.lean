import Weave.Shell.State

/-!
# What shells refuse

A script that cannot be read, a command that cannot be started and a job that is not
there are each told in their own words.
-/
namespace Weave.Shell

/-- What is said about a script that cannot be read to its end. -/
def faultText (f : Fault) : Bytes :=
  match f with
    | .openQuote => "Unterminated quoted string".toList
    | .openBackquote => "EOF in backquote substitution".toList
    | .openBrace => "Missing '\x7d'".toList
    | .openSum => "Missing '))'".toList
    | .openScript _ _ => "end of file unexpected (expecting \")\")".toList
    | .loopName => "Bad for loop variable".toList
    | .functionName => "Bad function name".toList
    | .unexpected token expected =>
      token ++ " unexpected".toList ++ match expected with
        | some what => " (expecting ".toList ++ what ++ [')']
        | none => []

/-- Says that a script cannot be read in a certain line, and ends it. -/
def refuseRead (line : Nat) (what : Bytes) (s : State) : State :=
  { { s with line := line }.complain ("Syntax error: ".toList ++ what) with
    status := 2, flow := .failing }

/-- Why a command cannot be started, and its status. `isFile` tells whether there is a file
of that name where programs are looked for. -/
def startFailure (d : Dialect) (program : Bytes) (isFile : Bool) (f : Failure) : Bytes × Nat :=
  let f := if program = [] then .denied else f
  if !isFile && f = .denied && !program.contains '/' then
    (program ++ ": ".toList ++ match d with
      | .standard => f.reason
      | .extended => "command not found".toList, 127)
  else if f = .notFound || f = .notDirectory then
    let what := match d with
      | .standard => "not found"
      | .extended =>
        if program.contains '/' then String.ofList f.reason else "command not found"
    (program ++ ": ".toList ++ what.toList,
      if d = .extended && f = .notDirectory then 126 else 127)
  else (program ++ ": ".toList ++ f.reason, 126)

/-- Says that there is no job to go on with. -/
def refuseJob (word : String) (s : State) : State :=
  { { s with title := word.toList }.complain "No current job".toList with
    title := s.title, status := 2 }

end Weave.Shell
