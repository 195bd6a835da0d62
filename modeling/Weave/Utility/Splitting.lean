import Weave.Digest
import Weave.Utility.Escape
import Weave.Utility.Lines

/-!
# Splitting and copying by blocks

A file is split into files of so many lines or bytes; and a file is copied in blocks, from
one place in it and to another place.
-/
namespace Weave.Utility

open Job

/-- The ending of the name of a part, in letters or digits. -/
def partEnding (alphabet : List Char) (width n : Nat) : Bytes :=
  let digits := Nat.toDigits 10 n
  if alphabet.length = 10 then List.replicate (width - digits.length) '0' ++ digits
  else
    let rec go : Nat → Nat → Bytes
      | 0, _ => []
      | k + 1, n => go k (n / alphabet.length) ++ [alphabet.getD (n % alphabet.length) 'a']
    go width n

/-- Lines in groups of at most so many bytes; a longer line is cut. -/
def lineGroups (limit : Nat) : Nat → List Bytes → List Bytes
  | 0, _ => []
  | _ + 1, [] => []
  | fuel + 1, line :: more =>
    if limit < line.length then line.take limit :: lineGroups limit fuel (line.drop limit :: more)
    else
      match more with
      | next :: rest =>
        if line.length + next.length ≤ limit then lineGroups limit fuel ((line ++ next) :: rest)
        else line :: lineGroups limit fuel (next :: rest)
      | [] => [line]

/-- The parts of a text in equal shares; the first ones have a byte more where that does not
come out even. -/
def shares : Nat → Bytes → List Bytes
  | 0, _ => []
  | count + 1, t =>
    let size := (t.length + count) / (count + 1)
    t.take size :: shares count (t.drop size)

def splitOptions : Options where
  flags := "dxeu"
  valued := "lbnCa+t"
  names := [("lines", 'l'), ("bytes", 'b'), ("number", 'n'), ("line-bytes", 'C'),
    ("suffix-length", 'a'), ("additional-suffix", '+'), ("numeric-suffixes", 'd'),
    ("hex-suffixes", 'x'), ("elide-empty-files", 'e'), ("separator", 't'), ("unbuffered", 'u'),
    ("verbose", 'e')]

/-- Splits a file into parts. -/
def split : Utility := fun words =>
  withWords splitOptions words fun w => do
    match w.rest with
    | _ :: _ :: extra :: _ => hasExtra extra
    | rest =>
      let amount (letter : Char) (what : String) : Except Bytes (Option Nat) :=
        match w.value? letter with
        | none => .ok none
        | some t => match (Amount.read? t).filter (0 < ·) with
          | some n => .ok (some n)
          | none => .error ("invalid number of ".toList ++ what.toList ++ ": ".toList
              ++ Naming.quoted t)
      match amount 'l' "lines", amount 'b' "bytes", amount 'C' "bytes", amount 'n' "chunks" with
      | .ok lines, .ok bytes, .ok lineBytes, .ok chunks =>
        let name := rest.headD ['-']
        match ← read name with
        | .error f => complainOf ("cannot open ".toList ++ shown name ++ " for reading".toList) f
        | .ok t =>
          let pieces := match bytes, lineBytes, chunks with
            | some n, _, _ => Digest.parts n t.length t
            | _, some n, _ => lineGroups n (2 * t.length + 2) (endedLines t)
            | _, _, some n => shares n t
            | _, _, _ =>
              let all := endedLines t
              (Digest.parts (lines.getD 1000) all.length all).map List.flatten
          let alphabet := if w.has "d" then "0123456789".toList
            else if w.has "x" then "0123456789abcdef".toList
            else "abcdefghijklmnopqrstuvwxyz".toList
          let width := ((w.value? 'a').bind Amount.plain?).getD 2
          let front := (rest.drop 1).headD ['x']
          for (piece, i) in pieces.zipIdx do
            if alphabet.length ^ width ≤ i then
              complain "output file suffixes exhausted".toList
              return
            let goal := front ++ partEnding alphabet width i ++ (w.value? '+').getD []
            match ← printToFile goal .write piece with
            | some f => complainOf goal f
            | none => pure ()
      | .error message, _, _, _ => complain message
      | _, .error message, _, _ => complain message
      | _, _, .error message, _ => complain message
      | _, _, _, .error message => complain message

/-!
## Blocks
-/

/-- How a file is copied in blocks. -/
structure BlockCopy where
  source : Option Bytes := none
  goal : Option Bytes := none
  size : Nat := 512
  readSize : Option Nat := none
  writeSize : Option Nat := none
  count : Option Nat := none
  skip : Nat := 0
  seek : Nat := 0
  conversions : List Bytes := []
  flags : List Bytes := []
  isSilent : Bool := false

namespace BlockCopy

/-- An amount, where also products are understood. -/
def amount? (t : Bytes) : Option Nat :=
  (Text.splitOn 'x' t).foldlM (fun n part => (Amount.read? part).map (n * ·)) 1

def conversionNames : List String :=
  ["notrunc", "ucase", "lcase", "sync", "noerror", "fsync", "fdatasync", "excl", "nocreat", "swab"]

/-- Reads the words, or tells what is wrong with one, and whether help is offered. -/
def read : List Bytes → BlockCopy → Except (Bytes × Bool) BlockCopy
  | [], b => .ok b
  | word :: more, b =>
    let name := word.takeWhile (· ≠ '=')
    let value := word.drop (name.length + 1)
    let number (set : Nat → BlockCopy) : Except (Bytes × Bool) BlockCopy :=
      match amount? value with
      | some n => read more (set n)
      | none => .error ("invalid number: ".toList ++ Naming.quoted value, false)
    let unknown : Except (Bytes × Bool) BlockCopy :=
      .error ("unrecognized operand ".toList ++ Naming.quoted word, true)
    if name.length = word.length then unknown
    else
      match String.ofList name with
      | "if" => read more { b with source := some value }
      | "of" => read more { b with goal := some value }
      | "bs" => number fun n => { b with size := n, readSize := some n, writeSize := some n }
      | "ibs" => number fun n => { b with readSize := some n }
      | "obs" => number fun n => { b with writeSize := some n }
      | "count" => number fun n => { b with count := some n }
      | "skip" => number fun n => { b with skip := n }
      | "iseek" => number fun n => { b with skip := n }
      | "seek" => number fun n => { b with seek := n }
      | "oseek" => number fun n => { b with seek := n }
      | "status" => read more { b with isSilent := value = "none".toList }
      | "conv" =>
        let names := Text.splitOn ',' value
        match names.find? fun n => !conversionNames.any fun known => known.toList = n with
        | some n => .error ("invalid conversion: ".toList ++ Naming.quoted n, true)
        | none => read more { b with conversions := b.conversions ++ names }
      | "iflag" => read more { b with flags := b.flags ++ Text.splitOn ',' value }
      | "oflag" => read more { b with flags := b.flags ++ Text.splitOn ',' value }
      | _ => unknown

def converts (b : BlockCopy) (name : String) : Bool := b.conversions.contains name.toList

/-- The bytes with every two of them exchanged. -/
def swapped : Bytes → Bytes
  | a :: b :: rest => b :: a :: swapped rest
  | rest => rest

/-- What is made of the bytes of a block. -/
def convert (b : BlockCopy) (size : Nat) (block : Bytes) : Bytes :=
  let block := if b.converts "swab" then swapped block else block
  let block := if b.converts "ucase" then block.map Char.toUpper
    else if b.converts "lcase" then block.map Char.toLower else block
  if b.converts "sync" then block ++ List.replicate (size - block.length) '\x00' else block

end BlockCopy

/-- How many blocks were full and how many not. -/
def blockCounts (total size : Nat) (what : String) : Bytes :=
  Text.ofNat (total / size) ++ '+' :: Text.ofNat (if total % size = 0 then 0 else 1)
    ++ " records ".toList ++ what.toList

/-- Copies a file in blocks. -/
def dd : Utility := fun words =>
  withWords {} (words.filter fun word => word.head? = some '-') fun _ => do
    match BlockCopy.read (words.filter fun word => word.head? != some '-') {} with
    | .error (message, helps) => if helps then misuse message else complain message
    | .ok b =>
      let size := max 1 (b.readSize.getD b.size)
      let outSize := max 1 (b.writeSize.getD b.size)
      let inBytes (flag : String) (n : Nat) : Nat :=
        if b.flags.contains flag.toList then n else n * size
      let wanted := b.count.map (inBytes "count_bytes")
      let start := inBytes "skip_bytes" b.skip
      let content ← match b.source with
        | some name => read name
        | none => do
          let found ← unreadInput
          if let .ok t := found then
            let used := (wanted.map (start + ·)).getD t.length
            useInput (min used t.length) (wanted.isNone)
          pure found
      match content with
      | .error .isDirectory =>
        complainOf ("error reading ".toList ++ shown (b.source.getD [])) .isDirectory
      | .error f => complainOf ("failed to open ".toList ++ shown (b.source.getD [])) f
      | .ok t =>
        let taken := t.drop start
        let taken := match wanted with
          | some n => taken.take n
          | none => taken
        let blocks := Digest.parts size taken.length taken
        let out := (blocks.map (b.convert size)).flatten
        let failure ← match b.goal with
          | none => do
            print out
            pure none
          | some name =>
            let offset := b.seek * outSize
            let files := (← get).files
            let old := ((files.readBytes (Bytes.toName name)).toOption.map Bytes.ofArray).getD []
            let isDevice := (files.find (Bytes.toName name)).toOption.any fun e => e.2.isDevice
            if b.flags.contains "append".toList || isDevice then printToFile name .append out
            else
              let kept := old.take offset
              let gap := List.replicate (offset - kept.length) '\x00'
              let behind := if b.converts "notrunc" then old.drop (offset + out.length) else []
              printToFile name .write (kept ++ gap ++ out ++ behind)
        if let some f := failure then
          complainOf ("failed to open ".toList ++ shown (b.goal.getD [])) f
        else if !b.isSilent then
          flush
          warn (blockCounts taken.length size "in")
          warn (blockCounts out.length outSize "out")
          let unit := if out.length = 1 then " byte" else " bytes"
          warn (Text.ofNat out.length ++ unit.toList ++ " copied, 0.0001 s, ".toList
            ++ Text.ofNat (out.length * 10) ++ " kB/s".toList)

end Weave.Utility
