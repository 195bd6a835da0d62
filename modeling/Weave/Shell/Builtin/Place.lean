import Weave.Shell.Builtin.Basic
import Weave.Utility.Mode

/-!
# Commands on the working directory

A shell goes to a directory by a path and remembers the path, so that going up leads
back to where it came from, also where the path goes through a link.
-/
namespace Weave.Shell.Builtin

/-- A path from the root without dots, where going up takes back the step before. -/
def logicalPath (before path : Bytes) : Bytes :=
  let all := if path.head? = some '/' then path else before ++ '/' :: path
  let steps := (FileTree.partsOf all).foldl (fun (way : List Bytes) step =>
    if step = Path.dot then way else if step = Path.dotDot then way.drop 1 else step :: way) []
  '/' :: Text.joinWith ['/'] steps.reverse

/-- The path of the working directory without any links. -/
def physicalPath (s : State) : Bytes :=
  Bytes.ofText (FileTree.pathOf s.files.here)

/-- Splits off the letters that say how links are taken; the last one counts. -/
def linkOption (words : List Bytes) : Except Char (Bool × List Bytes) :=
  (options "LP" words).map fun (letters, words) => (letters.getLast? = some 'P', words)

/-- The directories in which a path may begin that says nothing about that. -/
def startsOf (s : State) (dir : Bytes) : List Bytes :=
  let isPlain := dir.head? != some '/' && (FileTree.partsOf dir).head?.all fun step =>
    step != Path.dot && step != Path.dotDot
  match s.value? "CDPATH".toList with
  | some (c :: cs) => if isPlain then Text.splitOn ':' (c :: cs) else [[]]
  | _ => [[]]

/-- Goes to a directory, and shows which one it is if that is not plain to see. -/
def goTo (s : State) (physical shows : Bool) (path : Bytes) : Option State :=
  let goal := if physical then path else logicalPath s.directory path
  match s.files.enter (Bytes.toName goal) with
  | .ok files =>
    let moved := { s with files := files, status := 0 }
    let directory := if physical then physicalPath moved else goal
    let set (s : State) (name : String) (value : Bytes) : State :=
      (s.set name.toList value).passOn name.toList
    let named := set (set moved "OLDPWD" s.directory) "PWD" directory
    let there := { named with directory := directory }
    some (if shows then there.print (directory ++ ['\n']) else there)
  | .error _ => none

/-- Goes to a directory, to the one before where a dash is given, and without a word
to the one of the user. -/
def cd : Builtin := fun words => do
  let s ← get
  match linkOption words with
  | .error c => set (s.giveUp ("Illegal option -".toList ++ [c]))
  | .ok (physical, words) =>
    let word := words.head?
    let target := if word = some ['-'] then s.value? "OLDPWD".toList
      else word.or (s.value? "HOME".toList)
    match target with
    | none =>
      match s.dialect with
      | .standard => succeed
      | .extended => refuse ((if word = some ['-'] then "OLDPWD" else "HOME").toList
          ++ " not set".toList) 1
    | some dir =>
      let go (start : Bytes) : Option State :=
        let path := if start = [] then dir else Path.join start dir
        goTo s physical (word = some ['-'] || start != []) path
      match (startsOf s dir).findSome? go with
      | some moved => set moved
      | none =>
        let reason := match s.files.enter (Bytes.toName dir) with
          | .error f => f.reason
          | .ok _ => []
        match s.dialect with
        | .standard => refuse ("can't cd to ".toList ++ dir) 2
        | .extended => refuse (dir ++ ": ".toList ++ reason) 1

/-- Shows the working directory. -/
def pwd : Builtin := fun words => do
  let s ← get
  match linkOption words with
  | .error c => set (s.giveUp ("Illegal option -".toList ++ [c]))
  | .ok (physical, _) =>
    let path := if physical then physicalPath s else s.directory
    set ({ s with status := 0 }.print (path ++ ['\n']))

/-- Shows or sets the permissions that new files do not get. -/
def umask : Builtin := fun words => do
  let s ← get
  let asSymbols := words.head? = some "-S".toList
  match if asSymbols then words.drop 1 else words with
  | [] =>
    let text := if asSymbols then Mode.symbols (0o777 - s.files.mask) else Mode.octal s.files.mask
    set ({ s with status := 0 }.print (text ++ ['\n']))
  | word :: _ =>
    if word.head?.any Char.isDigit then
      if word.all Escape.isOctal then
        let mask := Escape.numberIn 8 word % 0o1000
        set { s with files := { s.files with mask := mask }, status := 0 }
      else
        set (match s.dialect with
          | .standard => s.giveUp ("Illegal number: ".toList ++ word)
          | .extended =>
            { s.complain (word ++ ": octal number out of range".toList) with status := 1 })
    else
      match Mode.result? word true 0 (0o777 - s.files.mask) with
      | some mode =>
        set { s with files := { s.files with mask := 0o777 - mode % 0o1000 }, status := 0 }
      | none =>
        set (match s.dialect with
          | .standard => s.giveUp ("Illegal mode: ".toList ++ word)
          | .extended => { s.complain (word ++ ": invalid symbolic mode operator".toList) with
              status := 1 })

end Weave.Shell.Builtin
