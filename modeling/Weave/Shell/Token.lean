import Weave.Shell.Word

/-!
# Tokens of a script

A script is read into words, operators and line ends, each with the number of
the line that reading has come to. A text that stands in the lines behind a
command is taken out of them and put where the command asks for it. What cannot
be read is a token as well, so that the lines before it can still be run.
-/
namespace Weave.Shell

inductive Token where
  | word (w : Word)
  | operator (mark : Bytes)
  /-- The number of a channel, directly before a redirection. -/
  | channel (n : Nat)
  /-- A text given in the lines behind. -/
  | document (w : Word)
  | newline
  | fault (f : Fault)
  | finish
deriving Repr, DecidableEq

/-- A token and the number of the line behind it. -/
abbrev Placed := Nat × Token

namespace Token

/-- The document that a mark asks for, which begins in a certain line, the text with
it taken out, and the number of lines that it took. -/
def readDocument (stripped : Bool) (line : Nat) (t : Bytes) : Token × Bytes × Nat :=
  match Word.read (Word.bound t) .word line t with
  | .error f => (.fault f, [], 0)
  | .ok (mark, rest) =>
    let here := rest.takeWhile (· ≠ '\n')
    let lines := Document.rawLines (rest.drop (here.length + 1))
    let (inside, behind) := Document.takeLines ⟨stripped, mark.chars⟩ lines
    let text := Text.unlines inside
    let rest := here ++ '\n' :: Text.unlines behind
    let count := lines.length - behind.length
    if mark.isQuoted then (.document (text.map (.char · true)), rest, count)
    else
      match Word.ofText .document line text with
      | .ok parts => (.document parts, rest, count)
      | .error f => (.fault f, [], count)

/-- The token at the front of a text that begins in a certain line and not with a
gap, and what is behind it. A digit directly before a redirection is the number of a channel. -/
def next (line : Nat) (t : Bytes) : Token × Bytes :=
  match operators.find? (Text.beginsWith · t) with
  | some mark => (.operator mark, t.drop mark.length)
  | none =>
    let word : Token × Bytes := match Word.read (Word.bound t) .word line t with
      | .ok (w, rest) => (.word w, rest)
      | .error f => (.fault f, [])
    match t with
    | d :: c :: rest =>
      if d.isDigit && (c = '<' || c = '>') then (.channel (d.toNat - '0'.toNat), c :: rest)
      else word
    | _ => word

/-- The tokens of a text that begins in a certain line, at the end of which so many
lines are skipped. The number bounds how many there are. -/
def readFrom : Nat → Nat → Nat → Bytes → List Placed
  | 0, _, _, _ => []
  | fuel + 1, line, skipped, t =>
    match t.dropWhile Word.isGap with
    | [] => [(line, .finish)]
    | '\\' :: '\n' :: rest => readFrom fuel (line + 1) skipped rest
    | '\n' :: rest =>
      let line := line + 1 + skipped
      (line, .newline) :: readFrom fuel line 0 rest
    | '#' :: rest => readFrom fuel line skipped (rest.dropWhile (· ≠ '\n'))
    | t =>
      let (token, rest) := next line t
      let behind := line + Word.lineEnds (t.take (t.length - rest.length))
      let target := rest.dropWhile Word.isGap
      let isMark := token = .operator "<<".toList || token = .operator "<<-".toList
      match token with
      | .fault f => [(line + Word.lineEnds t, .fault f)]
      | token =>
        if isMark && target.head?.any fun c => !Word.endsWord c then
          let stripped := token = .operator "<<-".toList
          let (body, rest, count) := readDocument stripped (line + 1 + skipped) target
          let bodyLine := match body with
            | .fault _ => line + skipped + Word.lineEnds target
            | _ => line
          (line, .operator "<<".toList) :: (bodyLine, body)
            :: readFrom fuel line (skipped + count) rest
        else (behind, token) :: readFrom fuel behind skipped rest

/-- The tokens of a script that begins in a certain line, in which bytes without
meaning are passed over. -/
def ofText (line : Nat) (t : Bytes) : List Placed :=
  let t := t.filter (· ≠ '\x00')
  readFrom (t.length + 1) line 0 t

end Token

end Weave.Shell
