import Weave.Utility.Lines

/-!
# Who runs where

What is known about the user and the machine. There is one user, and nobody has logged in.
-/
namespace Weave.Utility

open Job

def userName : Bytes := "root".toList

def hostName : Bytes := "localhost".toList

/-- A program that takes no words and prints one line. -/
def fact (line : Bytes) : Utility := fun words =>
  withWords {} words fun w => do
    match w.rest with
    | extra :: _ => hasExtra extra
    | [] => printLine line

/-- Prints numbers and names of the user and the groups. -/
def identity : Utility := fun words =>
  let o : Options :=
    { flags := "unGgrza"
      names := [("user", 'u'), ("name", 'n'), ("groups", 'G'), ("group", 'g'), ("real", 'r')] }
  withWords o words fun w => do
    let known (user : Bytes) : Bool := user = userName || user = ['0']
    match w.rest.find? fun user => !known user with
    | some user => complain (shown user ++ ": no such user".toList)
    | none =>
      if w.has "ugG" then printLine (if w.has "n" then userName else ['0'])
      else if w.has "n" then complain "cannot print only names or real IDs in default format".toList
      else printLine "uid=0(root) gid=0(root) groups=0(root)".toList

def groups : Utility := fun words =>
  withWords {} words fun w => do
    if w.rest = [] then printLine userName
    for user in w.rest do
      if user = userName then printLine (user ++ " : ".toList ++ userName)
      else complain (shown user ++ ": no such user".toList)

/-- What is known about the system, by letters. -/
def systemFacts : List (Char × String) :=
  [('s', "Linux"), ('n', "localhost"), ('r', "6.1.0"), ('v', "#1 SMP"), ('m', "x86_64"),
   ('o', "GNU/Linux")]

def uname : Utility := fun words =>
  let o : Options :=
    { flags := "asnrvmpio"
      names := [("all", 'a'), ("kernel-name", 's'), ("nodename", 'n'), ("kernel-release", 'r'),
        ("kernel-version", 'v'), ("machine", 'm'), ("processor", 'p'), ("hardware-platform", 'i'),
        ("operating-system", 'o')] }
  withWords o words fun w => do
    match w.rest with
    | extra :: _ => hasExtra extra
    | [] =>
      let asked (c : Char) : Bool :=
        w.has "a" || w.flags.contains c || (w.flags = [] && c = 's')
      let facts := (systemFacts.filter fun f => asked f.1).map fun f => f.2.toList
      let unknown := (w.flags.filter fun c => c = 'p' || c = 'i').map fun _ => "unknown".toList
      printLine (Text.joinWith [' '] (facts ++ if w.has "a" then [] else unknown))

/-- Prints how many programs can run at once. -/
def nproc : Utility := fun words =>
  withWords { flags := "a", valued := "i", names := [("all", 'a'), ("ignore", 'i')] } words
    fun w => do
      match w.rest with
      | extra :: _ => hasExtra extra
      | [] => printLine ['1']

/-- Tells that the input is no terminal. -/
def tty : Utility := fun words =>
  let o : Options :=
    { flags := "s", names := [("silent", 's'), ("quiet", 's')], misuse := 2 }
  withWords o words fun w => do
    match w.rest with
    | extra :: _ =>
      hasExtra extra
      leave 2
    | [] =>
      if !w.has "s" then printLine "not a tty".toList
      leave 1

def logname : Utility := fun words =>
  withWords {} words fun w => do
    match w.rest with
    | extra :: _ => hasExtra extra
    | [] => complain "no login name".toList

/-- What the program for the name of the host can be asked for. -/
def hostnameUsage : List String :=
  ["Usage: hostname [-b] \x7bhostname|-F file\x7d         set host name (from file)",
   "       hostname [-a|-A|-d|-f|-i|-I|-s|-y]       display formatted name",
   "       hostname                                 display host name",
   "",
   "       \x7byp,nis,\x7ddomainname \x7bnisdomain|-F file\x7d  set NIS domain name (from file)",
   "       \x7byp,nis,\x7ddomainname                      display NIS domain name",
   "",
   "       dnsdomainname                            display dns domain name",
   "",
   "       hostname -V|--version|-h|--help          print info and exit",
   "",
   "Program name:",
   "       \x7byp,nis,\x7ddomainname=hostname -y",
   "       dnsdomainname=hostname -d",
   "",
   "Program options:",
   "    -a, --alias            alias names",
   "    -A, --all-fqdns        all long host names (FQDNs)",
   "    -b, --boot             set default hostname if none available",
   "    -d, --domain           DNS domain name",
   "    -f, --fqdn, --long     long host name (FQDN)",
   "    -F, --file             read host name or NIS domain name from given file",
   "    -i, --ip-address       addresses for the host name",
   "    -I, --all-ip-addresses all addresses for the host",
   "    -s, --short            short host name",
   "    -y, --yp, --nis        NIS/YP domain name",
   "",
   "Description:",
   "   This command can get or set the host name or the NIS domain name. You can",
   "   also get the DNS domain or the FQDN (fully qualified domain name).",
   "   Unless you are using bind or NIS for host lookups you can change the",
   "   FQDN (Fully Qualified Domain Name) and the DNS domain name (which is",
   "   part of the FQDN) in the /etc/hosts file."]

def hostname : Utility := fun words => do
  match Words.read { flags := "fsid" } words with
  | .error f =>
    complain f.message
    for line in hostnameUsage do printLine line.toList
    leave 255
  | .ok w =>
    if w.rest = [] then printLine hostName
    else complain "you must be root to change the host name".toList

end Weave.Utility
