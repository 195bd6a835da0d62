import Weave.Digest
import Weave.Utility.Lines

/-!
# Sums and digests of files

Printing digests of files and checking them again, sums with the sizes of files, and files
in an alphabet of sixty-four characters.
-/
namespace Weave.Utility

open Job

/-- A digest with its title and the number of its digits. -/
structure DigestKind where
  title : String
  digits : Nat
  digest : Bytes → Bytes

def digestKinds : List (String × DigestKind) :=
  [("md5sum", ⟨"MD5", 32, Digest.Sine.digest⟩), ("sha1sum", ⟨"SHA1", 40, Digest.Root.olderDigest⟩),
   ("sha224sum", ⟨"SHA224", 56, Digest.Root.digest224⟩),
   ("sha256sum", ⟨"SHA256", 64, Digest.Root.digest256⟩),
   ("sha384sum", ⟨"SHA384", 96, Digest.Root.digest384⟩),
   ("sha512sum", ⟨"SHA512", 128, Digest.Root.digest512⟩)]

/-- A name on one line, and whether that needs backslashes. -/
def onOneLine (name : Bytes) : Bytes × Bool :=
  let shown := name.flatMap fun c =>
    if c = '\\' then "\\\\".toList else if c = '\n' then "\\n".toList
    else if c = '\r' then "\\r".toList else [c]
  (shown, shown != name)

/-- A line of a list of digests: the digest, and the name of the file. -/
def readDigestLine (k : DigestKind) (line : Bytes) : Option (Bytes × Bytes) :=
  let (escaped, line) := match line with
    | '\\' :: rest => (true, rest)
    | line => (false, line)
  let plainName (t : Bytes) : Bytes :=
    if escaped then Text.replaceAll "\\\\".toList ['\\'] (Text.replaceAll "\\n".toList ['\n'] t)
    else t
  let tag := k.title.toList ++ " (".toList
  let isDigest (t : Bytes) : Bool :=
    t.length = k.digits && t.all fun c => Escape.digitOf c < 16
  if Text.beginsWith tag line then
    let rest := line.drop tag.length
    let digest := (rest.reverse.takeWhile fun c => c != ' ').reverse
    let name := rest.take (rest.length - digest.length - 4)
    if isDigest digest then some (digest, plainName name) else none
  else
    let digest := line.take k.digits
    match line.drop k.digits with
    | ' ' :: mark :: name =>
      if isDigest digest && (mark = ' ' || mark = '*') && name != [] then
        some (digest, plainName name)
      else none
    | _ => none

/-- How many of something there are, with the verb for it. -/
def manyText (n : Nat) (one many rest : String) : Bytes :=
  Text.ofNat n ++ ' ' :: (if n = 1 then one else many).toList ++ rest.toList

/-- Checks the files that one list names. -/
def checkDigests (k : DigestKind) (w : Words) (listName : Bytes) : Task Unit := do
  let some t ← contentOf listName | return ()
  let mut good := 0
  let mut bad := 0
  let mut unread := 0
  let mut different := 0
  for line in bareLines t do
    if line.head? != some '#' then
      match readDigestLine k line with
      | none => bad := bad + 1
      | some (digest, name) =>
        let (shown, isEscaped) := onOneLine name
        let shown := if isEscaped then '\\' :: shown else shown
        let absent := ((← get).files.find (Bytes.toName name)).toOption.isNone
        if absent && w.has "m" then pure ()
        else
          match ← contentOf name with
          | none =>
            unread := unread + 1
            if !w.has "S" then printLine (shown ++ ": FAILED open or read".toList)
          | some content =>
            if k.digest content = digest.map Char.toLower then
              good := good + 1
              if !w.has "SQ" then printLine (shown ++ ": OK".toList)
            else
              different := different + 1
              if !w.has "S" then printLine (shown ++ ": FAILED".toList)
  let alert (what : Bytes) : Task Unit := do
    flush
    if !w.has "S" then warn ((← get).name ++ ": WARNING: ".toList ++ what)
  if good + unread + different = 0 then
    if w.has "m" && bad = 0 then complain (listName ++ ": no file was verified".toList)
    else complain (listName ++ ": no properly formatted checksum lines found".toList)
  else
    if bad != 0 then alert (manyText bad "line is" "lines are" " improperly formatted")
    if bad != 0 && w.has "!" then leave 1
    if unread != 0 then
      alert (manyText unread "listed file" "listed files" " could not be read")
      leave 1
    if different != 0 then
      alert (manyText different "computed checksum" "computed checksums" " did NOT match")
      leave 1
    if w.has "m" && good = 0 then complain (listName ++ ": no file was verified".toList)

/-- Prints digests of files, or checks them. -/
def digests (k : DigestKind) : Utility := fun words =>
  let o : Options :=
    { flags := "bctzwSQTm!"
      names := [("binary", 'b'), ("check", 'c'), ("text", 't'), ("zero", 'z'), ("warn", 'w'),
        ("status", 'S'), ("quiet", 'Q'), ("tag", 'T'), ("ignore-missing", 'm'), ("strict", '!')] }
  withWords o words fun w => do
    for name in orInput w.rest do
      if w.has "c" then checkDigests k w name
      else if let some t ← contentOf name then
        let (shown, isEscaped) := if w.has "z" then (name, false) else onOneLine name
        let mark := if isEscaped then ['\\'] else []
        let digest := k.digest t
        let line := if w.has "T" then
            mark ++ k.title.toList ++ " (".toList ++ shown ++ ") = ".toList ++ digest
          else mark ++ digest ++ ' ' :: (if w.has "b" then '*' else ' ') :: shown
        print (line ++ [if w.has "z" then '\x00' else '\n'])

/-- Prints a sum and the size of each file. -/
def cksum : Utility := fun words =>
  withWords {} words fun w => do
    for name in orInput w.rest do
      if let some t ← contentOf name then
        let label := if w.rest = [] then [] else ' ' :: name
        printLine (Text.ofNat (Digest.remainder t) ++ ' ' :: Text.ofNat t.length ++ label)

/-- Prints a short sum and the number of blocks of each file. -/
def sum : Utility := fun words =>
  withWords { flags := "rs", names := [("sysv", 's')] } words fun w => do
    for name in orInput w.rest do
      if let some t ← contentOf name then
        let label := if w.rest = [] then [] else ' ' :: name
        if w.has "s" then
          let total := t.foldl (fun n c => n + c.toNat) 0
          let folded := total % 2 ^ 16 + total % 2 ^ 32 / 2 ^ 16
          printLine (Text.ofNat (folded % 2 ^ 16 + folded / 2 ^ 16) ++ ' '
            :: Text.ofNat ((t.length + 511) / 512) ++ label)
        else
          let digits := Text.ofNat (Digest.turnedSum t)
          let blocks := Text.ofNat ((t.length + 1023) / 1024)
          printLine (List.replicate (5 - digits.length) '0' ++ digits ++ ' '
            :: List.replicate (5 - blocks.length) ' ' ++ blocks ++ label)

/-!
## Sixty-four characters
-/

def sixtyFour : List Char :=
  "ABCDEFGHIJKLMNOPQRSTUVWXYZabcdefghijklmnopqrstuvwxyz0123456789+/".toList

/-- Each three bytes as four characters, filled up at the end. -/
def encodeSixtyFour : Bytes → Bytes
  | a :: b :: c :: rest =>
    let n := a.toNat * 65536 + b.toNat * 256 + c.toNat
    digit (n / 262144) :: digit (n / 4096) :: digit (n / 64) :: digit n :: encodeSixtyFour rest
  | [a, b] =>
    let n := a.toNat * 65536 + b.toNat * 256
    [digit (n / 262144), digit (n / 4096), digit (n / 64), '=']
  | [a] =>
    let n := a.toNat * 65536
    [digit (n / 262144), digit (n / 4096), '=', '=']
  | [] => []
where
  digit (n : Nat) : Char := sixtyFour.getD (n % 64) '='

/-- The bytes of four characters at a time, and whether all makes sense. -/
def decodeSixtyFour : Bytes → Bytes × Bool
  | a :: b :: c :: d :: rest =>
    match value a, value b, value c, value d with
    | some w, some x, some y, some z =>
      let n := w * 262144 + x * 4096 + y * 64 + z
      let (more, good) := decodeSixtyFour rest
      (Char.ofNat (n / 65536) :: Char.ofNat (n / 256 % 256) :: Char.ofNat (n % 256) :: more, good)
    | some w, some x, some y, none =>
      let n := w * 4096 + x * 64 + y
      let (more, good) := decodeSixtyFour rest
      if d = '=' then (Char.ofNat (n / 1024) :: Char.ofNat (n / 4 % 256) :: more, good)
      else ([Char.ofNat (n / 1024), Char.ofNat (n / 4 % 256)], false)
    | some w, some x, none, _ =>
      let n := w * 64 + x
      let (more, good) := decodeSixtyFour rest
      if c = '=' && d = '=' then (Char.ofNat (n / 16) :: more, good)
      else ([Char.ofNat (n / 16)], false)
    | _, _, _, _ => ([], false)
  | [] => ([], true)
  | [a, b] => (partly (a :: b :: []), false)
  | [a, b, c] => (partly (a :: b :: c :: []), false)
  | [_] => ([], false)
where
  value (c : Char) : Option Nat := sixtyFour.findIdx? (· = c)
  partly (t : Bytes) : Bytes :=
    match t.map value with
    | [some w, some x] => [Char.ofNat ((w * 64 + x) / 16)]
    | [some w, some x, some y] =>
      let n := w * 4096 + x * 64 + y
      [Char.ofNat (n / 1024), Char.ofNat (n / 4 % 256)]
    | _ => []

/-- Shows a file in sixty-four characters, or turns that back. -/
def base64 : Utility := fun words =>
  let o : Options :=
    { flags := "di", valued := "w"
      names := [("decode", 'd'), ("ignore-garbage", 'i'), ("wrap", 'w')] }
  withWords o words fun w => do
    let width := (w.value? 'w').getD "76".toList
    match w.rest with
    | _ :: extra :: _ => hasExtra extra
    | rest =>
      if !width.all Char.isDigit || width = [] then
        complain ("invalid wrap size: ".toList ++ shown width)
      else
        let width := Escape.numberIn 10 width
        match ← read (rest.headD ['-']) with
        | .error .isDirectory => complain "read error: Is a directory".toList
        | .error f => complainOf (rest.headD ['-']) f
        | .ok t =>
          if w.has "d" then
            let kept :=
              t.filter fun c => c != '\n' && (!w.has "i" || sixtyFour.contains c || c = '=')
            let (bytes, good) := decodeSixtyFour kept
            print bytes
            if !good then complain "invalid input".toList
          else
            let all := encodeSixtyFour t
            if width = 0 then print all
            else
              for line in Digest.parts width all.length all do printLine line

end Weave.Utility
