import Weave.Utility.Naming

/-!
# Options

Words of a command that begin with a dash are options: letters, some with a value
behind them, and longer names for letters, of which the beginning is enough. Reading
the words of a command gives its flags, its values and the rest.
-/
namespace Weave

/-- The options that a program knows. -/
structure Options where
  /-- Letters that stand alone. -/
  flags : String := ""
  /-- Letters that a value follows. -/
  valued : String := ""
  /-- Longer names for some of the letters. -/
  names : List (String × Char) := []
  /-- Whether options may stand behind other words. -/
  anywhere : Bool := true
  /-- The status where an option is not known. -/
  misuse : Nat := 1
  /-- Where to look for help, if the program has its own way to say it. -/
  hints : List String := []

/-- The words of a command: the letters of its flags, the values of the options
that take one, and the rest. -/
structure Words where
  flags : List Char := []
  values : List (Char × Bytes) := []
  rest : List Bytes := []
deriving Repr, DecidableEq

namespace Words

/-- Why words cannot be read. -/
inductive Fault where
  | unknownLetter (c : Char)
  | unknownName (word : Bytes)
  | lacksValue (c : Char)
deriving Repr, DecidableEq

def Fault.message : Fault → Bytes
  | unknownLetter c => "invalid option -- ".toList ++ Naming.quoted [c]
  | unknownName word => "unrecognized option ".toList ++ Naming.quoted word
  | lacksValue c => "option requires an argument -- ".toList ++ Naming.quoted [c]

/-- Reads the letters behind one dash. The last one may take its value from the
next word. -/
def readLetters (o : Options) :
    Bytes → List Bytes → Words → Except Fault (Words × List Bytes)
  | [], next, w => .ok (w, next)
  | c :: cs, next, w =>
    if o.valued.toList.contains c then
      match cs, next with
      | [], [] => .error (.lacksValue c)
      | [], value :: next => .ok ({ w with values := w.values ++ [(c, value)] }, next)
      | cs, next => .ok ({ w with values := w.values ++ [(c, cs)] }, next)
    else if o.flags.toList.contains c then
      readLetters o cs next { w with flags := w.flags ++ [c] }
    else .error (.unknownLetter c)

/-- The letter of a longer name, of which the beginning is enough if it is the
beginning of no other. -/
def letterOf? (o : Options) (name : Bytes) : Option Char :=
  (o.names.lookup (String.ofList name)).or
    (match o.names.filter fun n => Text.beginsWith name n.1.toList with
      | [(_, c)] => some c
      | _ => none)

/-- Reads words one after the other; two dashes end the options. The number bounds
how many words there are. -/
def readFrom (o : Options) : Nat → List Bytes → Words → Except Fault Words
  | fuel + 1, word :: next, w =>
    match word with
    | ['-', '-'] => .ok { w with rest := w.rest ++ next }
    | '-' :: '-' :: long =>
      let (name, value) := (long.takeWhile (· ≠ '='), long.dropWhile (· ≠ '='))
      match letterOf? o name with
      | none => .error (.unknownName word)
      | some c =>
        if o.valued.toList.contains c then
          match value, next with
          | [], [] => .error (.lacksValue c)
          | [], value :: next => readFrom o fuel next { w with values := w.values ++ [(c, value)] }
          | value, next =>
            readFrom o fuel next { w with values := w.values ++ [(c, value.drop 1)] }
        else readFrom o fuel next { w with flags := w.flags ++ [c] }
    | '-' :: c :: letters => do
      let (w, next) ← readLetters o (c :: letters) next w
      readFrom o fuel next w
    | _ =>
      if o.anywhere then readFrom o fuel next { w with rest := w.rest ++ [word] }
      else .ok { w with rest := w.rest ++ word :: next }
  | _, words, w => .ok { w with rest := w.rest ++ words }

def read (o : Options) (words : List Bytes) : Except Fault Words :=
  readFrom o words.length words {}

def has (w : Words) (flags : String) : Bool :=
  flags.toList.any w.flags.contains

/-- The value given last. -/
def value? (w : Words) (option : Char) : Option Bytes :=
  w.values.reverse.lookup option

end Words

end Weave
