import Weave.Edit.Run
import Weave.Utility.Lines

/-!
# The program that edits lines

It reads a script from its words or from files, takes the lines of its files through it,
and prints what becomes of them, or puts that in place of the files.
-/
namespace Weave.Utility

open Job Edit

/-- A piece of a script with what is said about where it comes from. -/
structure ScriptPiece where
  text : Bytes
  file : Option Bytes
deriving Repr, DecidableEq

/-- Where in the pieces of a script a position lies: what is said about it. -/
def positionText : List ScriptPiece → Nat → Nat → Bytes
  | [], n, position => lineOf n position
  | piece :: rest, n, position =>
    if position ≤ piece.text.length || rest = [] then
      match piece.file with
      | some name =>
        let before := (piece.text.take (position - 1)).count '\n'
        "file ".toList ++ name ++ " line ".toList ++ Text.ofNat (before + 1)
      | none => lineOf (n + 1) position
    else positionText rest (n + 1) (position - piece.text.length - 1)
where
  lineOf (n position : Nat) : Bytes :=
    "-e expression #".toList ++ Text.ofNat n ++ ", char ".toList ++ Text.ofNat position

/-- The lines of a file for editing. -/
def editedLines (ending : Char) (name t : Bytes) : List Edit.Line :=
  let texts := Text.splitOn ending t
  let ended := if texts.getLast? = some [] then texts.dropLast else texts
  ended.zipIdx.map fun (text, i) =>
    { text, ended := i + 1 < texts.length, file := name, isLast := i + 1 = ended.length }

/-- The files that the commands of a script read. -/
def filesRead (commands : Array Command) : List Bytes :=
  commands.toList.filterMap fun c => match c.act with
    | .readFile name => some name
    | .readLine name => some name
    | _ => none

/-- The files that they write. -/
def filesWritten (commands : Array Command) : List Bytes :=
  commands.toList.filterMap fun c => match c.act with
    | .write name => some name
    | .writeFirst name => some name
    | .substitute s => s.file
    | _ => none

/-- The first label that is nowhere. -/
def lostLabel? (commands : Array Command) : Option Bytes :=
  commands.toList.findSome? fun c =>
    let label := match c.act with
      | .jump label => label
      | .jumpIf _ label => label
      | _ => []
    if label != [] && !(commands.any fun d => d.act = .mark label) then some label else none

/-- Takes lines through the commands, prints what comes out, and puts it into files. -/
def editLines (m : Manner) (commands : Array Command) (lines : List Edit.Line) :
    Task (Except Fault Nat × Bytes) := do
  let mut texts : List (Bytes × Bytes) := []
  for name in filesRead commands do
    match ← read (if name = "/dev/stdin".toList then ['-'] else name) with
    | .ok t => texts := (name, t) :: texts
    | .error _ => pure ()
  let sources := texts.map fun (name, t) => (name, bareLines t)
  let given := texts
  let bound := lines.foldl (fun n l => n + 2 * (l.text.length + 2)) 2
  let work : Work := { lines, sources }
  let (result, work) :=
    (Edit.run m (fun name => (given.lookup name).getD []) commands bound true).run work
  for (name, t) in work.targets.reverse do
    if name = "/dev/stderr".toList then say t
    else
      let _ ← printToFile name .append t
  return (result, Host.flatten work.printed)

/-- The names of files with their texts, as far as they can be read. -/
def readable (names : List Bytes) : Task (List (Bytes × Bytes)) := do
  let mut found := []
  for name in names do
    match ← read name with
    | .ok t => found := found ++ [(name, t)]
    | .error f =>
      let what := if f = .isDirectory then "read error on ".toList else "can't read ".toList
      warn ((← get).name ++ ": ".toList ++ what ++ name ++ ": ".toList ++ f.reason)
      leave 2
  return found

/-- Notes the status, and says why the work is lost if it is. -/
def concludeEdit (result : Except Fault Nat) : Task Unit := do
  match result with
  | .ok 0 => return ()
  | .ok status => leave status
  | .error f =>
    warn ((← get).name ++ ": -e expression #1, char 0: ".toList ++ f.message)
    leave 1

/-- Edits files in place. -/
def editInPlace (m : Manner) (commands : Array Command) (suffix : Bytes) (names : List Bytes) :
    Task Unit := do
  for name in names do
    let files := (← get).files
    match files.find (Bytes.toName name) with
    | .error f =>
      warn ((← get).name ++ ": can't read ".toList ++ name ++ ": ".toList ++ f.reason)
      leave 2
    | .ok (place, e) =>
      match e.content with
      | .file bytes =>
        let lines := editedLines m.ending name (Bytes.ofArray bytes)
        let (result, t) ← editLines m commands lines
        if suffix != [] then
          let kept := if suffix.contains '*' then Text.replaceAll ['*'] (lastPart name []) suffix
            else name ++ suffix
          let path := Bytes.toName kept
          modify fun j => { j with
            files := match j.files.placeToWrite path with
              | .ok p => j.files.set p e
              | .error _ => j.files }
        modify fun j =>
          let content := Content.file (Bytes.toArray t)
          let fresh := { e with content := content, time := j.files.now, sharing := none }
          { j with files := j.files.set place fresh }
        concludeEdit result
      | _ =>
        warn ((← get).name ++ ": couldn't edit ".toList ++ name ++ ": not a regular file".toList)
        leave 4

/-- Words in which a suffix for editing in place is a word of its own. -/
def withSuffix (word : Bytes) : List Bytes :=
  match word with
  | '-' :: letters =>
    match letters with
    | '-' :: _ =>
      match Text.after? "--in-place=".toList word with
      | some suffix => ["-i".toList, "-S".toList ++ suffix]
      | none => [word]
    | letters =>
      let flags := letters.takeWhile fun c => "nErszu".toList.contains c
      match letters.drop flags.length with
      | 'i' :: suffix =>
        let front := '-' :: flags ++ ['i']
        if suffix = [] then [front] else [front, "-S".toList ++ suffix]
      | _ => [word]
  | _ => [word]

def sedOptions : Options where
  flags := "nErisuz/"
  valued := "eflS"
  names := [("quiet", 'n'), ("silent", 'n'), ("expression", 'e'), ("file", 'f'), ("in-place", 'i'),
    ("regexp-extended", 'E'), ("separate", 's'), ("unbuffered", 'u'), ("null-data", 'z'),
    ("line-length", 'l'), ("posix", '/'), ("debug", '/'), ("sandbox", '/')]

/-- What the program can be asked for. -/
def sedUsage (name : Bytes) : List String :=
  ["Usage: " ++ String.ofList name
      ++ " [OPTION]... \x7bscript-only-if-no-other-script\x7d [input-file]...",
   "",
   "  -n, --quiet, --silent",
   "                 suppress automatic printing of pattern space",
   "      --debug",
   "                 annotate program execution",
   "  -e script, --expression=script",
   "                 add the script to the commands to be executed",
   "  -f script-file, --file=script-file",
   "                 add the contents of script-file to the commands to be executed",
   "  --follow-symlinks",
   "                 follow symlinks when processing in place",
   "  -i[SUFFIX], --in-place[=SUFFIX]",
   "                 edit files in place (makes backup if SUFFIX supplied)",
   "  -l N, --line-length=N",
   "                 specify the desired line-wrap length for the \u0060l' command",
   "  --posix",
   "                 disable all GNU extensions.",
   "  -E, -r, --regexp-extended",
   "                 use extended regular expressions in the script",
   "                 (for portability use POSIX -E).",
   "  -s, --separate",
   "                 consider files as separate rather than as a single,",
   "                 continuous long stream.",
   "      --sandbox",
   "                 operate in sandbox mode (disable e/r/w commands).",
   "  -u, --unbuffered",
   "                 load minimal amounts of data from the input files and flush",
   "                 the output buffers more often",
   "  -z, --null-data",
   "                 separate lines by NUL characters",
   "      --help     display this help and exit",
   "      --version  output version information and exit",
   "",
   "If no -e, --expression, -f, or --file option is given, then the first",
   "non-option argument is taken as the sed script to interpret.  All",
   "remaining arguments are names of input files; if no input files are",
   "specified, then the standard input is read."]

/-- The pieces of the script: those given by options, or the first word. -/
def scriptPieces (w : Words) : Task (Option (List ScriptPiece × List Bytes)) := do
  let given := w.values.filter fun v => v.1 = 'e' || v.1 = 'f'
  if given = [] then
    match w.rest with
    | [] => return none
    | script :: names => return some ([⟨script, none⟩], names)
  let mut pieces := []
  for (option, value) in given do
    if option = 'e' then pieces := pieces ++ [⟨value, none⟩]
    else
      match ← read value with
      | .ok t =>
        pieces := pieces ++ [⟨if t.getLast? = some '\n' then t.dropLast else t, some value⟩]
      | .error f =>
        warn ((← get).name ++ ": couldn't open file ".toList ++ value ++ ": ".toList ++ f.reason)
        leave 1
        return some ([], [])
  return some (pieces, w.rest)

def sed : Utility := fun words => do
  let usage := sedUsage (← get).name
  withWords { sedOptions with hints := usage } (words.flatMap withSuffix) fun w => do
    let some (pieces, names) ← scriptPieces w
      | for line in usage do warn line.toList
        return (← leave 1)
    if (← get).status != 0 then return ()
    let script := Text.joinWith ['\n'] (pieces.map ScriptPiece.text)
    let style := if w.has "Er" then Expression.Style.extended else .plain
    let own := (← get).name ++ ": ".toList
    match Edit.read style script with
    | .error (f, left) =>
      let position := positionText pieces 0 (script.length - left)
      warn (own ++ position ++ ": ".toList ++ f.message)
      leave 1
    | .ok commands =>
      if let some label := lostLabel? commands then
        warn (own ++ "can't find label for jump to `".toList ++ label ++ ['\''])
        return (← leave 1)
      let m : Manner :=
        { quiet := w.has "n" || Text.beginsWith "#n\n".toList (script ++ ['\n'])
          separate := w.has "si"
          ending := if w.has "z" then '\x00' else '\n'
          width := ((w.value? 'l').map (Escape.numberIn 10)).getD 70 }
      for name in filesWritten commands do
        if name != "/dev/stdout".toList && name != "/dev/stderr".toList then
          if let some f ← printToFile name .write [] then
            warn (own ++ "couldn't open file ".toList ++ name ++ ": ".toList ++ f.reason)
            return (← leave 4)
      if w.has "i" then editInPlace m commands ((w.value? 'S').getD []) names
      else
        let found ← readable (orInput names)
        let lines := found.flatMap fun (name, t) => editedLines m.ending name t
        let (result, t) ← editLines m commands lines
        print t
        concludeEdit result

end Weave.Utility
