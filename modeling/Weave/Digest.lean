import Weave.Text.Bytes

/-!
# Digests of messages

A digest is of one length, whatever the message, and tells one message from another.

## Blocks of a message

Before a digest of a message is made, the message is filled up to whole blocks: behind it
stand a byte with only its first bit set, zeros, and the count of its bits.
-/
namespace Weave.Digest

/-- The lowest bytes of a number, the last one first. -/
def lowBytes : Nat → Nat → List Nat
  | 0, _ => []
  | count + 1, n => n % 256 :: lowBytes count (n / 256)

/-- The bytes of a message filled up to blocks of a size, with a count of so many bytes,
whose order is told. -/
def filled (size countSize : Nat) (lowFirst : Bool) (message : Bytes) : List Nat :=
  let bytes := message.map Char.toNat
  let used := (bytes.length + 1 + countSize) % size
  let zeros := if used = 0 then 0 else size - used
  let count := lowBytes countSize (8 * bytes.length)
  bytes ++ 128 :: List.replicate zeros 0 ++ if lowFirst then count else count.reverse

/-- Cuts a list into parts of a size. The number bounds how many there are. -/
def parts {α : Type} (size : Nat) : Nat → List α → List (List α)
  | 0, _ => []
  | _ + 1, [] => []
  | fuel + 1, all => all.take size :: parts size fuel (all.drop size)

/-- The number whose bytes stand in a list, the first one counting most or least. -/
def number (lowFirst : Bool) (bytes : List Nat) : Nat :=
  (if lowFirst then bytes.reverse else bytes).foldl (fun n b => n * 256 + b) 0

/-- The words of so many bytes in each block of a message. -/
def blocks (size wordSize : Nat) (lowFirst : Bool) (message : Bytes) : List (List Nat) :=
  let bytes := filled size (2 * wordSize) lowFirst message
  (parts size bytes.length bytes).map fun block =>
    (parts wordSize size block).map (number lowFirst)

def hexDigit (n : Nat) : Char := "0123456789abcdef".toList.getD n '0'

/-- A word of so many bytes as two digits for each, in the order told. -/
def shownWord (wordSize : Nat) (lowFirst : Bool) (n : Nat) : Bytes :=
  let bytes := lowBytes wordSize n
  let ordered := if lowFirst then bytes else bytes.reverse
  ordered.flatMap fun b => [hexDigit (b / 16), hexDigit (b % 16)]

/-!
## The remainder as a sum

The bytes of a message and of its length are the binary digits of a number that is divided
without carrying; the remainder, of thirty-two bits, tells one message from another.
-/

/-- The divisor, without its first digit. -/
def divisor : UInt32 := 0x04c11db7

def shiftBit (sum : UInt32) : UInt32 :=
  if sum &&& 0x80000000 = 0 then sum <<< 1 else (sum <<< 1) ^^^ divisor

def addByte (sum : UInt32) (byte : Nat) : UInt32 :=
  (List.range 8).foldl (fun s _ => shiftBit s) (sum ^^^ (UInt32.ofNat byte <<< 24))

/-- The bytes of a number that it needs, the lowest first. -/
def neededBytes : Nat → Nat → List Nat
  | 0, _ => []
  | fuel + 1, n => if n = 0 then [] else n % 256 :: neededBytes fuel (n / 256)

def remainder (message : Bytes) : Nat :=
  let bytes := message.map Char.toNat ++ neededBytes 8 message.length
  (~~~(bytes.foldl addByte 0)).toNat

/-- A sum that is turned by one bit at every byte. -/
def turnedSum (message : Bytes) : Nat :=
  message.foldl (fun s c => (s / 2 + s % 2 * 2 ^ 15 + c.toNat) % 2 ^ 16) 0

example : remainder "a\n".toList = 2418082923 := by decide +kernel

end Weave.Digest

/-!
## The digest of sixteen bytes

Four words of thirty-two bits are mixed with each block in sixty-four steps, each with a
number of its own, taken from the sine of its place.
-/
namespace Weave.Digest.Sine

def rotate (x : UInt32) (n : Nat) : UInt32 :=
  (x <<< UInt32.ofNat n) ||| (x >>> UInt32.ofNat (32 - n))

/-- The first thirty-two bits behind the point of the sines of one, two, and so on. -/
def sines : List UInt32 :=
  [0xd76aa478, 0xe8c7b756, 0x242070db, 0xc1bdceee, 0xf57c0faf, 0x4787c62a, 0xa8304613, 0xfd469501,
   0x698098d8, 0x8b44f7af, 0xffff5bb1, 0x895cd7be, 0x6b901122, 0xfd987193, 0xa679438e, 0x49b40821,
   0xf61e2562, 0xc040b340, 0x265e5a51, 0xe9b6c7aa, 0xd62f105d, 0x02441453, 0xd8a1e681, 0xe7d3fbc8,
   0x21e1cde6, 0xc33707d6, 0xf4d50d87, 0x455a14ed, 0xa9e3e905, 0xfcefa3f8, 0x676f02d9, 0x8d2a4c8a,
   0xfffa3942, 0x8771f681, 0x6d9d6122, 0xfde5380c, 0xa4beea44, 0x4bdecfa9, 0xf6bb4b60, 0xbebfbc70,
   0x289b7ec6, 0xeaa127fa, 0xd4ef3085, 0x04881d05, 0xd9d4d039, 0xe6db99e5, 0x1fa27cf8, 0xc4ac5665,
   0xf4292244, 0x432aff97, 0xab9423a7, 0xfc93a039, 0x655b59c3, 0x8f0ccc92, 0xffeff47d, 0x85845dd1,
   0x6fa87e4f, 0xfe2ce6e0, 0xa3014314, 0x4e0811a1, 0xf7537e82, 0xbd3af235, 0x2ad7d2bb, 0xeb86d391]

/-- How far each of four steps in a row turns a word, for the four rounds. -/
def turns : List (List Nat) :=
  [[7, 12, 17, 22], [5, 9, 14, 20], [4, 11, 16, 23], [6, 10, 15, 21]]

structure Sums where
  a : UInt32
  b : UInt32
  c : UInt32
  d : UInt32

def start : Sums := ⟨0x67452301, 0xefcdab89, 0x98badcfe, 0x10325476⟩

def step (words : Array UInt32) (s : Sums) (i : Nat) (sine : UInt32) : Sums :=
  let (f, g) : UInt32 × Nat := match i / 16 with
    | 0 => ((s.b &&& s.c) ||| (~~~s.b &&& s.d), i)
    | 1 => ((s.d &&& s.b) ||| (~~~s.d &&& s.c), 5 * i + 1)
    | 2 => (s.b ^^^ s.c ^^^ s.d, 3 * i + 5)
    | _ => (s.c ^^^ (s.b ||| ~~~s.d), 7 * i)
  let mixed := f + s.a + sine + words.getD (g % 16) 0
  let turn := (turns.getD (i / 16) []).getD (i % 4) 0
  ⟨s.d, s.b + rotate mixed turn, s.b, s.c⟩

def mix (s : Sums) (block : List Nat) : Sums :=
  let words := (block.map UInt32.ofNat).toArray
  let t := sines.zipIdx.foldl (fun t (sine, i) => step words t i sine) s
  ⟨s.a + t.a, s.b + t.b, s.c + t.c, s.d + t.d⟩

/-- The digest of a message, in digits of base sixteen. -/
def digest (message : Bytes) : Bytes :=
  let s := (blocks 64 4 true message).foldl mix start
  [s.a, s.b, s.c, s.d].flatMap fun x => shownWord 4 true x.toNat

example : digest "abc".toList = "900150983cd24fb0d6963f7d28e17f72".toList := by decide +kernel

end Weave.Digest.Sine

/-!
## Digests with numbers from roots

Eight words are mixed with each block in steps, each with a number of its own: what stands
behind the point in the cube root of a prime. Words have thirty-two or sixty-four bits.
An older digest has five words and four numbers.
-/
namespace Weave.Digest.Root

/-- The greatest number whose power is at most a given one, among those below a power of
two. -/
def root (power n : Nat) : Nat → Nat → Nat
  | 0, found => found
  | bit + 1, found =>
    let next := found + 2 ^ bit
    root power n bit (if next ^ power ≤ n then next else found)

def isPrime (n : Nat) : Bool :=
  2 ≤ n && (List.range n).all fun d => d < 2 || n % d != 0

/-- The first primes. -/
def primes (count : Nat) : List Nat :=
  ((List.range 420).filter isPrime).take count

/-- So many bits behind the point of a root. -/
def rootBits (bits power n : Nat) : Nat :=
  root power (n * 2 ^ (bits * power)) (bits + 10) 0 % 2 ^ bits

/-- How words of a size are mixed. -/
structure Kind where
  bits : Nat
  steps : Nat
  /-- How far words are turned for the sums of the first and the fifth word. -/
  first : Nat × Nat × Nat
  fifth : Nat × Nat × Nat
  /-- How far they are turned, and at last moved, where new words are made. -/
  near : Nat × Nat × Nat
  far : Nat × Nat × Nat

def short : Kind := ⟨32, 64, (2, 13, 22), (6, 11, 25), (7, 18, 3), (17, 19, 10)⟩

def long : Kind := ⟨64, 80, (28, 34, 39), (14, 18, 41), (1, 8, 7), (19, 61, 6)⟩

namespace Kind

variable (k : Kind)

def wrap (n : Nat) : Nat := n % 2 ^ k.bits

def turn (x n : Nat) : Nat :=
  (x >>> n) ||| k.wrap (x <<< (k.bits - n))

def turned (t : Nat × Nat × Nat) (x : Nat) : Nat :=
  k.turn x t.1 ^^^ k.turn x t.2.1 ^^^ k.turn x t.2.2

def moved (t : Nat × Nat × Nat) (x : Nat) : Nat :=
  k.turn x t.1 ^^^ k.turn x t.2.1 ^^^ (x >>> t.2.2)

def constants : List Nat := (primes k.steps).map (rootBits k.bits 3)

/-- The words of a block with those made of them, the last one first. -/
def extended : Nat → List Nat → List Nat
  | 0, words => words
  | count + 1, words =>
    let at' (n : Nat) : Nat := words.getD (n - 1) 0
    let next := k.wrap (k.moved k.far (at' 2) + at' 7 + k.moved k.near (at' 15) + at' 16)
    extended count (next :: words)

def step (s : List Nat) (word constant : Nat) : List Nat :=
  match s with
  | [a, b, c, d, e, f, g, h] =>
    let chosen := (e &&& f) ^^^ ((2 ^ k.bits - 1 - e) &&& g)
    let most := (a &&& b) ^^^ (a &&& c) ^^^ (b &&& c)
    let t := h + k.turned k.fifth e + chosen + constant + word
    [k.wrap (t + k.turned k.first a + most), a, b, c, k.wrap (d + t), e, f, g]
  | s => s

def mix (constants : List Nat) (s : List Nat) (block : List Nat) : List Nat :=
  let words := (k.extended (k.steps - 16) block.reverse).reverse
  let t := (words.zip constants).foldl (fun t p => k.step t p.1 p.2) s
  (s.zip t).map fun p => k.wrap (p.1 + p.2)

/-- The words of the digest of a message that begins with some words. -/
def sums (start : List Nat) (message : Bytes) : List Nat :=
  (blocks (2 * k.bits) (k.bits / 8) false message).foldl (k.mix k.constants) start

/-- So many words of the digest, in digits of base sixteen. -/
def digest (start : List Nat) (count : Nat) (message : Bytes) : Bytes :=
  ((k.sums start message).take count).flatMap (shownWord (k.bits / 8) false)

end Kind

/-- What stands behind the point in the square roots of some primes. -/
def squareRoots (bits : Nat) (numbers : List Nat) : List Nat := numbers.map (rootBits bits 2)

def digest256 : Bytes → Bytes := short.digest (squareRoots 32 (primes 8)) 8

def digest224 : Bytes → Bytes :=
  short.digest ((squareRoots 64 ((primes 16).drop 8)).map (· % 2 ^ 32)) 7

def digest512 : Bytes → Bytes := long.digest (squareRoots 64 (primes 8)) 8

def digest384 : Bytes → Bytes := long.digest (squareRoots 64 ((primes 16).drop 8)) 6

/-- The step of the older digest, by its number. -/
def olderStep (s : List Nat) (word place : Nat) : List Nat :=
  match s with
  | [a, b, c, d, e] =>
    let (f, constant) := match place / 20 with
      | 0 => ((b &&& c) ||| ((2 ^ 32 - 1 - b) &&& d), 0x5a827999)
      | 1 => (b ^^^ c ^^^ d, 0x6ed9eba1)
      | 2 => ((b &&& c) ||| (b &&& d) ||| (c &&& d), 0x8f1bbcdc)
      | _ => (b ^^^ c ^^^ d, 0xca62c1d6)
    [short.wrap (short.turn a 27 + f + e + constant + word), a, short.turn b 2, c, d]
  | s => s

def olderExtended : Nat → List Nat → List Nat
  | 0, words => words
  | count + 1, words =>
    let at' (n : Nat) : Nat := words.getD (n - 1) 0
    olderExtended count (short.turn (at' 3 ^^^ at' 8 ^^^ at' 14 ^^^ at' 16) 31 :: words)

/-- The older digest of a message, of five words. -/
def olderDigest (message : Bytes) : Bytes :=
  let start := [0x67452301, 0xefcdab89, 0x98badcfe, 0x10325476, 0xc3d2e1f0]
  let mix (s block : List Nat) : List Nat :=
    let words := (olderExtended 64 block.reverse).reverse
    let t := words.zipIdx.foldl (fun t p => olderStep t p.1 p.2) s
    (s.zip t).map fun p => short.wrap (p.1 + p.2)
  ((blocks 64 4 false message).foldl mix start).flatMap (shownWord 4 false)

end Weave.Digest.Root
