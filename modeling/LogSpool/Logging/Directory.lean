import LogSpool.Logging.Filter

/-!
# Directories of log files

This module says in which directories log files can be made.  A directory that is missing is made,
with all that are missing above it; so a path fails only where it runs into a file, or where it
goes on or ends inside a file system of the kernel, which takes no files.

A place is given by its names from the root on.  Of the machine's files only those are known that
every machine has.
-/

namespace LogSpool.Logging

/-- A place in the file system, by its names from the root on. -/
abbrev Place := List String

/-- Files and devices; no path goes on below them. -/
def files : List Place :=
  ["null", "zero", "full", "random", "urandom", "tty", "ptmx", "core", "stdin", "stdout",
      "stderr"].map (["dev", ·]) ++
    ["passwd", "group", "shadow", "hosts", "hostname", "resolv.conf", "os-release", "fstab", "mtab",
      "profile", "nsswitch.conf", "issue"].map (["etc", ·]) ++
    ["sh", "bash", "cat", "cp", "echo", "env", "false", "grep", "ls", "mkdir", "mv", "rm", "sed",
      "sleep", "true"].flatMap fun name => [["bin", name], ["usr", "bin", name]]

/-- The file systems of the kernel. -/
def kernelPlaces : List Place :=
  [["proc"], ["sys"], ["dev", "pts"]]

/-- Directories inside the file systems of the kernel. -/
def kernelDirectories : List Place :=
  kernelPlaces ++ [["proc", "1"], ["proc", "self"], ["proc", "self", "fd"], ["proc", "sys"],
    ["proc", "sys", "kernel"]] ++
    ["block", "bus", "class", "dev", "devices", "firmware", "fs", "kernel", "module",
      "power"].map (["sys", ·])

/-- The place that relative paths start from; what matters is how deep it is. -/
def startPlace : Place := ["home", "start"]

/-- Places that lead to other places. -/
def links : List (Place × Place) :=
  [(["dev", "fd"], ["proc", "self", "fd"]), (["proc", "self", "cwd"], startPlace),
    (["proc", "self", "root"], [])]

/-- Whether a place is inside a file system of the kernel. -/
def isKernelPlace (place : Place) : Bool :=
  kernelPlaces.any (·.isPrefixOf place)

/-- Whether a directory is at a place or can be made there. -/
def canBeDirectory (place : Place) : Bool :=
  !files.contains place && (!isKernelPlace place || kernelDirectories.contains place)

/-- The place that the parts of a path lead to. -/
def walk (place : Place) : List String → Option Place
  | [] => some place
  | "." :: parts => walk place parts
  | ".." :: parts => walk place.dropLast parts
  | part :: parts =>
    let next := (links.lookup (place ++ [part])).getD (place ++ [part])
    if canBeDirectory next then walk next parts else none

/-- The parts of a path. -/
def partsOf (dir : String) : List String :=
  ((splitOn '/' dir.toList).filter (!·.isEmpty)).map String.ofList

/-- The most bytes of a part of a path. -/
def maxPartBytes : Nat := 255

/-- The most bytes of the path of a directory.  A path has at most 4095, and the name of a log file
takes 25 of them. -/
def maxPathBytes : Nat := 4070

/-- Whether log files can be made in a directory.  A path cannot hold a NUL and is limited in
length. -/
def canHoldFiles (dir : String) : Bool :=
  !dir.toList.contains '\x00' &&
    dir.utf8ByteSize ≤ maxPathBytes &&
    (partsOf dir).all (·.utf8ByteSize ≤ maxPartBytes) &&
    match walk (if dir.toList.head? = some '/' then [] else startPlace) (partsOf dir) with
    | some place => !isKernelPlace place
    | none => false

end LogSpool.Logging
