import Weave.Text.Line

/-!
# Failures of operations on files

Why the operating system refuses an operation, and how that is said. Most
failures have a number of their own, which stands behind the reason.
-/
namespace Weave

/-- Why an operation on files is refused. -/
inductive Failure where
  | notPermitted
  | notFound
  | noAddress
  | closed
  | denied
  | notRunnable
  | busy
  | exists
  | notDirectory
  | isDirectory
  | invalid
  | noSpace
  | unread
  | nameTooLong
  | readOnly
  | notEmpty
  | tooManySteps
  | nameHoldsNul
  | programHoldsNul
  | notText
  | outOfMemory
deriving Repr, DecidableEq

namespace Failure

def reason : Failure → Text
  | notPermitted => "Operation not permitted".toList
  | notFound => "No such file or directory".toList
  | noAddress => "No such device or address".toList
  | closed => "Bad file descriptor".toList
  | denied => "Permission denied".toList
  | notRunnable => "Exec format error".toList
  | busy => "Device or resource busy".toList
  | .exists => "File exists".toList
  | notDirectory => "Not a directory".toList
  | isDirectory => "Is a directory".toList
  | invalid => "Invalid argument".toList
  | noSpace => "No space left on device".toList
  | unread => "Broken pipe".toList
  | nameTooLong => "File name too long".toList
  | readOnly => "Read-only file system".toList
  | notEmpty => "Directory not empty".toList
  | tooManySteps => "Too many levels of symbolic links".toList
  | nameHoldsNul => "file name contained an unexpected NUL byte".toList
  | programHoldsNul => "nul byte found in provided data".toList
  | notText => "stream did not contain valid UTF-8".toList
  | outOfMemory => "out of memory".toList

/-- The number that the operating system has for a failure of its own. -/
def number? : Failure → Option Nat
  | notPermitted => some 1
  | notFound => some 2
  | noAddress => some 6
  | notRunnable => some 8
  | closed => some 9
  | denied => some 13
  | busy => some 16
  | .exists => some 17
  | notDirectory => some 20
  | isDirectory => some 21
  | invalid => some 22
  | noSpace => some 28
  | readOnly => some 30
  | unread => some 32
  | nameTooLong => some 36
  | notEmpty => some 39
  | tooManySteps => some 40
  | nameHoldsNul => none
  | programHoldsNul => none
  | notText => none
  | outOfMemory => none

def message (f : Failure) : Text :=
  match f.number? with
  | some n => f.reason ++ " (os error ".toList ++ Text.ofNat n ++ ")".toList
  | none => f.reason

end Failure

end Weave
