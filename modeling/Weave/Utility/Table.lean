import Weave.Finding.Visit
import Weave.Utility.Attributes
import Weave.Utility.Columns
import Weave.Utility.Condition
import Weave.Utility.Counting
import Weave.Utility.Difference
import Weave.Utility.Digests
import Weave.Utility.Dumping
import Weave.Utility.Edit
import Weave.Utility.Files
import Weave.Utility.Formula
import Weave.Utility.Gathering
import Weave.Utility.Identity
import Weave.Utility.Linking
import Weave.Utility.Listing
import Weave.Utility.Order
import Weave.Utility.Recipes
import Weave.Utility.Records
import Weave.Utility.Refusal
import Weave.Utility.Search
import Weave.Utility.Splitting
import Weave.Utility.Starting
import Weave.Utility.Surroundings
import Weave.Utility.Transfer
import Weave.Utility.Translation

/-!
# The programs of the system

The programs that the system provides, by name. Those that start other programs are
told how to do so.
-/
namespace Weave.Utility

open Job

def table : List (String × Utility) := [
  ("true", fun _ => pure ()),
  ("false", fun _ => leave 1),
  ("sleep", sleep), ("sync", fun words => withWords {} words fun _ => return ()),
  ("echo", echo .extended),
  ("printf", printf ⟨.extended, true⟩),
  ("test", test .extended Condition.systemText),
  ("[", bracket .extended Condition.systemText "missing ']'"),
  ("pwd", pwd), ("basename", basename), ("dirname", dirname), ("seq", seq),
  ("mkdir", mkdir), ("rmdir", rmdir), ("rm", rm), ("mv", mv), ("cp", cp), ("touch", touch),
  ("chmod", chmod), ("unlink", unlink), ("truncate", truncate), ("ls", ls),
  ("ln", ln), ("stat", stat), ("date", date), ("mktemp", mktemp), ("install", install),
  ("realpath", realpath), ("readlink", readlink), ("expr", expr), ("cat", cat), ("tee", tee),
  ("wc", wc), ("cmp", cmp), ("diff", diff), ("head", head), ("tail", tail),
  ("sort", sort), ("uniq", uniq), ("tr", tr), ("cut", cut), ("tac", tac), ("rev", rev),
  ("yes", yes), ("nl", nl), ("comm", comm), ("paste", paste), ("join", join), ("fold", fold),
  ("expand", expand), ("unexpand", unexpand), ("factor", factor),
  ("printenv", printenv), ("which", which), ("cksum", cksum), ("sum", sum), ("base64", base64),
  ("whoami", fact userName), ("id", identity), ("groups", groups), ("uname", uname),
  ("arch", fact "x86_64".toList), ("hostid", fact "007f0101".toList), ("nproc", nproc),
  ("tty", tty), ("logname", logname), ("od", od), ("split", split), ("dd", dd), ("hostname", hostname),
  ("grep", grep .plain), ("egrep", grepAs .extended), ("fgrep", grepAs .literal),
  ("rgrep", grepAs .plain), ("sed", sed), ("dnsdomainname", hostname), ("domainname", hostname),
  ("nisdomainname", hostname), ("ypdomainname", hostname)]
  ++ (digestKinds.map fun (name, k) => (name, digests k)) ++ refusals

/-- Programs whose status tells more than whether all went well. -/
def strict : List String :=
  ["ls", "grep", "egrep", "fgrep", "sort", "cmp", "diff", "expr", "printenv", "tty"]

/-- The program of a name, up to where all that it prints is passed on. -/
def ofName? (name : Bytes) : Option Utility :=
  let word := String.ofList name
  (table.lookup word).map fun utility words => do
    modify fun j => { j with prompt := true }
    utility words
    conclude (if strict.contains word then 2 else 1)

/-- The programs that start others. -/
def starters : List (String × Starter) :=
  [("env", env), ("timeout", timeout), ("nice", nice), ("nohup", nohup), ("setsid", setsid),
   ("stdbuf", stdbuf), ("xargs", xargs), ("find", find), ("awk", records), ("mawk", records),
   ("nawk", records), ("i386", startPlainly), ("linux32", startPlainly),
   ("linux64", startPlainly), ("x86_64", startPlainly), ("ionice", startPlainly),
   ("nsenter", startPlainly), ("setpriv", startPlainly), ("unshare", startPlainly), ("python3", recipes), ("python3.12", recipes)]

def starter? (name : Bytes) : Option Starter :=
  (starters.lookup (String.ofList name)).map fun starter launch words => do
    starter launch words
    conclude 1

/-- The shells. -/
def shells : List String := ["sh", "dash", "bash"]

/-- All programs of the system. -/
def names : List String :=
  table.map Prod.fst ++ starters.map Prod.fst ++ shells

end Weave.Utility
