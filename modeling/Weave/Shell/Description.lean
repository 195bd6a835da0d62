import Weave.Shell.Begin
import Weave.Shell.Builtin.Table

/-!
# What names stand for

A name can stand for a word of the language, another text, a function, a command of the
shell or a program. A shell can tell which, and remembers the programs it has run.
-/
namespace Weave.Shell

/-- What a name stands for, told in full or by what runs it alone. -/
def describe (s : State) (full : Bool) (name : Bytes) : Option Bytes :=
  let told (what : String) : Option Bytes := some (if full then name ++ what.toList else name)
  let word := String.ofList name
  if Command.reserved.contains name then told " is a shell keyword"
  else match s.aliases.lookup name with
    | some value =>
      some (if full then name ++ " is an alias for ".toList ++ value
        else "alias ".toList ++ Builtin.shownSetting name value)
    | none =>
      if (s.functions.lookup name).isSome then
        told (if s.dialect = .standard then " is a shell function" else " is a function")
      else if Command.special.contains name && s.dialect = .standard then
        told " is a special shell builtin"
      else if (Builtin.table.lookup word).isSome || Builtin.runners.contains word then
        told " is a shell builtin"
      else
        let path := if name.contains '/' then
            if s.files.holds (Bytes.toName name) then some name else none
          else (Image.candidates s.files (searched s) name).head?
        path.map fun path =>
          let tracked := s.known.contains name && s.dialect = .standard
          if !full then path
          else name ++ " is ".toList ++ (if tracked then "a tracked alias for ".toList else [])
            ++ path

/-- Tells what names stand for. -/
def describeAll (s : State) (full : Bool) (names : List Bytes) : State :=
  let step := fun (s : State) (name : Bytes) =>
    match describe s full name with
    | some line => s.print (line ++ ['\n'])
    | none =>
      let told := if !full then s
        else match s.dialect with
          | .standard => s.print (name ++ ": not found\n".toList)
          | .extended => s.complain (name ++ ": not found".toList)
      { told with status := if s.dialect = .standard then 127 else 1 }
  names.foldl step { s with status := 0 }

/-- Shows where the programs are that have been run, or forgets them. -/
def showKnown (s : State) (words : List Bytes) : State :=
  if words.head? = some "-r".toList then { s with known := [], status := 0 }
  else if words = [] then
    let paths := s.known.filterMap fun name =>
      (Image.candidates s.files (searched s) name).head?
    { s with status := 0 }.print (Text.unlines paths)
  else
    words.foldl (fun s name =>
      if (Image.candidates s.files (searched s) name) = [] then
        { s.complain (name ++ ": not found".toList) with status := 1 }
      else { s with known := s.known ++ [name] }) { s with status := 0 }

/-- The script that a word names, with its path. Where the word is no path, it is
looked for where programs are. -/
def scriptFor (s : State) (word : Bytes) : Except Bytes (Bytes × Bytes × Host) :=
  let missing (f : Failure) : Bytes := match s.dialect with
    | .standard =>
      let reason := if f = .notFound then "No such file".toList else f.reason
      "cannot open ".toList ++ word ++ ": ".toList ++ reason
    | .extended => word ++ ": ".toList ++ f.reason
  let read (path : Bytes) : Except Bytes (Bytes × Bytes × Host) :=
    ((s.toHost.readPath s.channels (Bytes.toName path)).map fun (t, host) =>
      (path, t, host)).mapError missing
  if word.contains '/' then read word
  else
    match Image.candidates s.files (searched s) word, s.dialect with
    | path :: _, _ => read path
    | [], .extended => read word
    | [], .standard => .error (word ++ ": not found".toList)

end Weave.Shell
