import Weave.Shell.Command

/-!
# Aliases

Where a command begins with a plain word that is an alias, the tokens of the alias take
its place. A word behind one that ends with a blank may be an alias as well. No alias is
replaced inside of itself.
-/
namespace Weave.Shell.Alias

/-- Whether a command may begin behind a token. -/
def beginsCommand : Token → Bool
  | .operator mark => mark != [';', ';'] && mark.head? != some '<' && mark.head? != some '>'
  | .newline => true
  | .word w =>
    match Word.plain? w with
    | some t => (["if", "then", "else", "elif", "do", "while", "until", "!", "\x7b"].map
        String.toList).contains t
    | none => false
  | _ => false

/-- The tokens with aliases replaced. `inside` are those that are being replaced, and
the flag tells whether a command may begin here. The number bounds how deep aliases
stand in one another. -/
def replace (aliases : List (Bytes × Bytes)) :
    Nat → List Bytes → Bool → List Placed → List Placed
  | _, _, _, [] => []
  | 0, _, _, ts => ts
  | fuel + 1, inside, begins, (line, token) :: rest =>
    let keep (next : Bool) : List Placed :=
      (line, token) :: replace aliases (fuel + 1) inside next rest
    match token with
    | .word w =>
      match (Word.plain? w).bind fun t => (aliases.lookup t).map fun value => (t, value) with
      | some (name, value) =>
        if begins && !inside.contains name then
          let new := (Token.ofText line value).dropLast.map fun t => (line, t.2)
          let goesOn := value.getLast?.any Word.isGap
          replace aliases fuel (name :: inside) true new
            ++ replace aliases (fuel + 1) inside goesOn rest
        else keep (begins && (Command.setting? w).isSome)
      | none => keep (beginsCommand token || (begins && (Command.setting? w).isSome))
    | token => keep (beginsCommand token)
termination_by fuel _ _ ts => (fuel, ts.length)

def lineCount (ts : List Placed) : Nat :=
  (ts.filter fun t => t.2 = .newline).length

/-- The tokens from where as many lines are left. -/
def fromLines (left : Nat) : List Placed → List Placed
  | [] => []
  | t :: rest => if lineCount (t :: rest) ≤ left then t :: rest else fromLines left rest

/-- The command at the front, and the tokens behind its line. -/
def readLine (aliases : List (Bytes × Bytes)) (ts : List Placed) :
    Except Command.Refusal (Command × List Placed) := do
  if aliases = [] then Command.readLine ts
  else
    let (c, rest) ← Command.readLine (replace aliases aliases.length [] true ts)
    return (c, if rest = [] then [] else fromLines (lineCount rest) ts)

end Weave.Shell.Alias
