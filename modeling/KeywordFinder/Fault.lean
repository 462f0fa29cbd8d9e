import KeywordFinder.Text.Blank

/-!
# Faults of reading and writing

A fault is either of a plain kind or comes with the number that the operating system gives it.
-/

namespace KeywordFinder

/-- Faults that the operating system numbers. -/
inductive SystemFault where
  | notFound
  | brokenPipe
  | notDirectory
  | isDirectory
  | storageFull
  | linkLoop
  | nameTooLong
deriving DecidableEq, Repr

namespace SystemFault

/-- The number of a fault. -/
def number : SystemFault → Nat
  | notFound => 2
  | brokenPipe => 32
  | notDirectory => 20
  | isDirectory => 21
  | storageFull => 28
  | linkLoop => 40
  | nameTooLong => 36

/-- The wording of a fault, without its number. -/
def wording : SystemFault → String
  | notFound => "No such file or directory"
  | brokenPipe => "Broken pipe"
  | notDirectory => "Not a directory"
  | isDirectory => "Is a directory"
  | storageFull => "No space left on device"
  | linkLoop => "Too many levels of symbolic links"
  | nameTooLong => "File name too long"

end SystemFault

/-- Why a read or a write failed. -/
inductive Fault where
  | brokenPipe
  | permissionDenied
  | notFound
  | interrupted
  | writeZero
  | storageFull
  | other
  /-- A file that should hold text is not valid UTF-8. -/
  | notText
  | system (fault : SystemFault)
deriving DecidableEq, Repr

namespace Fault

/-- The wording of a fault. -/
def message : Fault → Text
  | brokenPipe => "broken pipe".toList
  | permissionDenied => "permission denied".toList
  | notFound => "entity not found".toList
  | interrupted => "operation interrupted".toList
  | writeZero => "write zero".toList
  | storageFull => "no storage space".toList
  | other => "other error".toList
  | notText => "stream did not contain valid UTF-8".toList
  | system f => f.wording.toList ++ " (os error ".toList ++ Nat.toDigits 10 f.number ++ [')']

/-- Whether the fault says that nobody reads the output any more. -/
def isBrokenPipe : Fault → Bool
  | brokenPipe => true
  | system .brokenPipe => true
  | _ => false

end Fault

end KeywordFinder
