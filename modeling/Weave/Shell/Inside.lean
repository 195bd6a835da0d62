import Weave.Shell.Alias

/-!
# Scripts inside of words

A command that holds scripts in its words is read together with them, so it does not run
at all if one of them cannot be read.
-/
namespace Weave.Shell.Inside

/-- The tokens of a script inside of a word, with the parenthesis behind it if it stands
in parentheses. -/
def tokensOf (isBracketed : Bool) (line : Nat) (script : Bytes) : List Placed :=
  let ts := Token.ofText line script
  if isBracketed then
    ts.map fun (line, token) => (line, if token = .finish then .operator [')'] else token)
  else ts

/-- The tokens of a script that are commands, and those behind them. -/
def split (ts : List Placed) : Except Command.Refusal (List Placed × List Placed) := do
  let (_, rest) ← Command.readList (8 * ts.length + 8) .any ts
  if let (line, .fault f) :: _ := rest then throw (line, f)
  return (ts.take (ts.length - rest.length), rest)

/-- The tokens that a script runs by. Behind the last command between backquotes nothing
counts. -/
def commands (line : Nat) (script : Bytes) : List Placed :=
  let ts := tokensOf false line script
  match split ts with
  | .ok (own, rest) => own ++ [(rest.head?.elim line Prod.fst, .finish)]
  | .error _ => ts

mutual

/-- What is wrong with a script inside of a word. -/
def scriptFault? : Nat → Bool → Nat → Bytes → Option Command.Refusal
  | 0, _, _, _ => none
  | fuel + 1, isBracketed, line, script =>
    match split (tokensOf isBracketed line script) with
    | .error refusal => some refusal
    | .ok (own, rest) =>
      let isClosed := !isBracketed || match rest with
        | (_, .operator [')']) :: _ => true
        | _ => false
      if isClosed then own.findSome? (tokenFault? fuel)
      else
        match Command.refuse (some (Command.quoted [')'])) rest with
        | .error refusal => some refusal
        | .ok () => none

/-- What is wrong with a script inside of a text that is a word itself. -/
def textFault? : Nat → Setting → Nat → Bytes → Option Command.Refusal
  | 0, _, _, _ => none
  | fuel + 1, setting, line, t =>
    match Word.ofText setting line t with
    | .ok w => w.findSome? (partFault? fuel line)
    | .error _ => none

/-- What is wrong with a script inside of a part of a word. -/
def partFault? : Nat → Nat → Part → Option Command.Refusal
  | 0, _, _ => none
  | fuel + 1, line, part =>
    match part with
    | .output script line isBracketed _ => scriptFault? fuel isBracketed line script
    | .parameter _ (.instead _ _ word) quoted =>
      textFault? fuel (if quoted then .enclosed else .braces) line word
    | .parameter _ (.cut _ _ pattern) _ => textFault? fuel .braces line pattern
    | .sum expression _ => textFault? fuel .document line expression
    | _ => none

/-- What is wrong with a script inside of a token. -/
def tokenFault? : Nat → Placed → Option Command.Refusal
  | 0, _ => none
  | fuel + 1, (line, token) =>
    match token with
    | .word w => w.findSome? (partFault? fuel line)
    | .document w => w.findSome? (partFault? fuel line)
    | _ => none

end

/-- How deep scripts may be inside of one another. -/
def maxDepth : Nat := 400

/-- What is wrong with a script, where that is found inside of a script that is open. -/
def resolve : Nat → Command.Refusal → Command.Refusal
  | 0, refusal => refusal
  | fuel + 1, refusal =>
    match refusal with
    | (line, .openScript script first) =>
      match split (tokensOf false first script) with
      | .error inner => resolve fuel inner
      | .ok (own, rest) =>
        match own.findSome? (tokenFault? fuel) with
        | some inner => inner
        | none =>
          match Command.refuse (α := Unit) (some (Command.quoted [')'])) rest with
          | .error inner => resolve fuel inner
          | .ok () => (line, .openScript script first)
    | refusal => refusal

/-- The command at the front, and the tokens behind its line, unless there is something
wrong with the command or with a script inside of it. -/
def readLine (aliases : List (Bytes × Bytes)) (ts : List Placed) :
    Except Command.Refusal (Command × List Placed) := do
  let faultIn (own : List Placed) : Option Command.Refusal :=
    if aliases = [] then own.findSome? (tokenFault? maxDepth) else none
  match Alias.readLine aliases ts with
  | .ok (c, rest) =>
    match faultIn (ts.take (ts.length - rest.length)) with
    | some refusal => throw refusal
    | none => return (c, rest)
  | .error refusal =>
    let (line, _) := refusal
    throw ((faultIn (ts.takeWhile fun t => t.1 ≤ line)).getD (resolve maxDepth refusal))

end Weave.Shell.Inside
