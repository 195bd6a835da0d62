import Weave.Utility.Job

/-!
# Programs that are not used

The system has more programs than are of any use here. They read their options and refuse
those that they do not know; otherwise they do nothing.
-/
namespace Weave.Utility

open Job

/-- Programs with the usual way to refuse. -/
def plainNames : List String :=
  ["addpart", "b2sum", "base32", "basenc", "chcon", "chgrp", "choom", "chown", "csplit", "delpart",
   "df", "dircolors", "dmesg", "fallocate", "findmnt", "fmt", "hardlink", "ipcmk", "ipcrm", "ipcs",
   "last", "lastb", "link", "logger", "lsblk", "lscpu", "lsipc", "lslocks", "lslogins", "lsmem",
   "lsns", "mcookie", "mesg", "mkfifo", "mknod", "mount", "mountpoint", "namei", "numfmt", "partx",
   "pinky", "pr", "ptx", "rename.ul", "resizepart", "script", "scriptlive", "scriptreplay", "setarch", "setterm",
   "shred", "shuf", "tsort", "umount", "users", "utmpdump", "wall", "wdctl", "who"]

/-- Programs that have ways of their own to refuse: the options that they know, the status,
and where they say help is. -/
def otherNames : List (String × String × Nat × String) :=
  [("dir", "", 2, ""), ("vdir", "", 2, ""), ("sdiff", "", 2, "sdiff: Try 'sdiff --help'"),
   ("diff3", "", 2, "diff3: Try 'diff3 --help'"), ("patch", "", 2, "patch: Try 'patch --help'"),
   ("gzip", "dkfcnlqrtvz123456789", 1, "Try \u0060gzip --help'"),
   ("xz", "dkfcnlqrtvz123456789", 1, "xz: Try \u0060xz --help'"),
   ("getent", "", 64, "Try \u0060getent --help' or \u0060getent --usage'"),
   ("iconv", "", 64, "Try \u0060iconv --help' or \u0060iconv --usage'"),
   ("locale", "", 64, "Try \u0060locale --help' or \u0060locale --usage'"),
   ("localedef", "", 4, "Try \u0060localedef --help' or \u0060localedef --usage'"),
   ("pldd", "", 64, "Try \u0060pldd --help' or \u0060pldd --usage'"),
   ("gencat", "", 64, "Try \u0060gencat --help' or \u0060gencat --usage'"),
   ("ischroot", "", 1, "Try \u0060ischroot --help'"),
   ("run-parts", "", 1, "Try \u0060run-parts --help'")]
  ++ ["lzcat", "lzma", "unlzma", "unxz", "xzcat"].map fun name =>
    (name, "dkfcqtvz", 1, name ++ ": Try \u0060" ++ name ++ " --help'")

/-- Programs that say always the same: their status, and the lines. In these `@` is the
name of the program, `%` the first word, and `&` the first option. -/
def fixedAnswers : List (String × Nat × List String) :=
  [("chrt", 1, ["@: invalid priority argument: '%'"]),
   ("taskset", 1, ["@: failed to parse CPU mask: %"]),
   ("stty", 1, ["@: invalid argument '%'", "Try '@ --help' for more information."]),
   ("renice", 1, ["@: invalid priority '%'", "Try '@ --help' for more information."]),
   ("perl", 2, ["Can't open perl script \"%\": No such file or directory"]),
   ("update-alternatives", 2, ["@: error: unknown argument '%'"]),
   ("runcon", 125, ["@: runcon may be used only on a SELinux kernel"]),
   ("getconf", 2, ["Usage: getconf [-v specification] variable_name [pathname]",
     "       getconf -a [pathname]"]),
   ("chattr", 1, ["Must use '-v', =, - or +"]),
   ("lsattr", 1, ["@: invalid option -- '-'", "Usage: @ [-RVadlpv] [files...]"]),
   ("chroot", 125, ["@: cannot change root directory to '%': No such file or directory"]),
   ("pidof", 1, []), ("pathchk", 0, []),
   ("tar", 2, ["@: &: Invalid blocking factor",
     "Try '@ --help' or '@ --usage' for more information."]),
   ("dpkg-query", 2, ["@: error: need an action option", "",
     "Use --help for help about querying packages."]),
   ("dpkg", 2, ["@: error: need an action option", "",
     "Type dpkg --help for help about installing and deinstalling packages [*];",
     "Use 'apt' or 'aptitude' for user-friendly package management;",
     "Type dpkg -Dhelp for a list of dpkg debug flag values;",
     "Type dpkg --force-help for a list of forcing options;",
     "Type dpkg-deb --help for help about manipulating *.deb files;", "",
     "Options marked [*] produce a lot of output - pipe it through 'less' or 'more' !"])]
  ++ ["apt-cache", "apt-cdrom", "apt-config", "apt-get", "apt-mark"].map fun name =>
    (name, 100, ["E: Command line option & is not understood in combination with the other options"])

def answering (status : Nat) (lines : List String) : Utility := fun words => do
  let job ← get
  let isOption (word : Bytes) : Bool := word.head? = some '-'
  for line in lines do
    warn (line.toList.flatMap fun c =>
      if c = '@' then job.name
      else if c = '%' then words.headD []
      else if c = '&' then (words.find? isOption).getD []
      else [c])
  leave status

/-- How much room files take. -/
def du : Utility := fun words =>
  let o : Options :=
    { flags := "aAbcDHhklLmPSsx0/", valued := "BdXt+"
      names := [("all", 'a'), ("apparent-size", 'A'), ("block-size", 'B'), ("bytes", 'b'),
        ("dereference", 'L'), ("dereference-args", 'D'), ("exclude", '+'), ("exclude-from", 'X'),
        ("human-readable", 'h'), ("inodes", '/'), ("max-depth", 'd'), ("no-dereference", 'P'),
        ("null", '0'), ("one-file-system", 'x'), ("separate-dirs", 'S'), ("summarize", 's'),
        ("threshold", 't'), ("total", 'c')] }
  withAllTold o words fun _ => return ()

/-- Programs that want a file. -/
def wantsFile : List String := ["shred"]

/-- Programs that want some word. -/
def wantsWord : List String :=
  ["chcon", "chgrp", "chown", "csplit", "link", "mkfifo", "mknod"]

def refusing (name : String) (o : Options) : Utility := fun words =>
  withWords o words fun w => do
    if w.rest = [] && wantsFile.contains name then misuse "missing file operand".toList
    else if w.rest = [] && wantsWord.contains name then lacksOperand
    else return ()

/-- The program that others are another name of. -/
def gzip : Utility := fun words => do
  modify fun j => { j with name := "gzip".toList }
  refusing "gzip" {
    flags := "dkfcnlqrtvz123456789"
    hints := ["Try \u0060gzip --help' for more information."] } words

/-- What these programs do. -/
def refusals : List (String × Utility) :=
  (plainNames.map fun name => (name, refusing name {}))
    ++ (fixedAnswers.map fun (name, status, lines) => (name, answering status lines))
    ++ [("du", du)]
    ++ (["gunzip", "uncompress", "zcat"].map fun name => (name, gzip))
    ++ otherNames.map fun (name, flags, status, help) =>
    (name, refusing name {
      flags, misuse := status
      hints := if help = "" then [] else [help ++ " for more information."] })

end Weave.Utility
