import FaultDrill.Text.Utf8

/-!
# FaultDrill.Files.System

What stands outside the working directory: the root and its directories, the devices, and the
programs that can be started by their names.
-/

namespace FaultDrill

/-- A file that keeps no bytes. -/
inductive Device where
  /-- Reads as empty and takes all bytes. -/
  | null
  /-- Reads as zeros without an end and takes all bytes. -/
  | zero
  /-- Reads as zeros without an end and takes no byte. -/
  | full
  deriving DecidableEq, Repr

namespace Device

/-- More bytes than a reader ever takes of a device without an end. -/
def endless : Nat := 131072

/-- What a device reads as. -/
def content : Device → Bytes
  | .null => []
  | .zero | .full => List.replicate endless 0

/-- Whether a device takes bytes. -/
def takes (d : Device) (bytes : Bytes) : Bool :=
  d ≠ .full || bytes.isEmpty

end Device

/-- What a name stands for. -/
inductive Entry where
  | file (content : Bytes)
  | directory
  | device (d : Device)
  /-- A program of the system. -/
  | program (name : String)
  /-- A path that stands for another one. -/
  | link (target : String)
  deriving DecidableEq, Repr

namespace System

/-- The steps from the root to the working directory. -/
def workingPlace : List String := ["work"]

/-- The directories outside the working directory. -/
def directories : List (List String) :=
  [[], ["bin"], ["boot"], ["dev"], ["dev", "fd"], ["dev", "shm"], ["etc"], ["home"], ["lib"],
    ["media"], ["mnt"], ["opt"], ["proc"], ["root"], ["run"], ["sbin"], ["srv"], ["sys"], ["tmp"],
    ["usr"], ["usr", "bin"], ["usr", "lib"], ["usr", "local"], ["usr", "local", "bin"],
    ["usr", "local", "sbin"], ["usr", "sbin"], ["usr", "share"], ["var"], ["var", "log"],
    ["var", "tmp"], workingPlace]

/-- The devices. -/
def devices : List (List String × Device) :=
  [(["dev", "full"], .full), (["dev", "null"], .null), (["dev", "zero"], .zero)]

/-- Files with the users, groups and hosts that every system has. -/
def tables : List (List String × String) :=
  [(["etc", "group"], "root:x:0:\n"), (["etc", "hostname"], "localhost\n"),
    (["etc", "hosts"], "127.0.0.1\tlocalhost\n"),
    (["etc", "passwd"], "root:x:0:0:root:/root:/bin/bash\n")]

/-- The programs of the system. -/
def programs : List String :=
  ["[", "arch", "awk", "base64", "basename", "bash", "cat", "chmod", "cksum", "cmp", "comm", "cp",
    "cut", "dash", "date", "diff", "dirname", "echo", "egrep", "env", "expr", "false", "fgrep",
    "find", "fold", "grep", "groups", "head", "hostname", "id", "kill", "ln", "logname", "ls",
    "mawk", "md5sum", "mkdir", "mktemp", "mv", "nice", "nl", "nohup", "nproc", "od", "paste",
    "printenv", "printf", "pwd", "readlink", "realpath", "rev", "rm", "rmdir", "sed", "seq",
    "setsid", "sh", "sha1sum", "sha256sum", "sleep", "sort", "stat", "stdbuf", "sync", "tac",
    "tail", "tee", "test", "timeout", "touch", "tr", "true", "truncate", "tty", "uname", "uniq",
    "unlink", "wc", "which", "whoami", "xargs", "yes"]

/-- The directories in which programs are looked for. -/
def searchPath : List String :=
  ["/usr/local/sbin", "/usr/local/bin", "/usr/sbin", "/usr/bin", "/sbin", "/bin"]

/-- What stands at a place if nothing has been put there. -/
def entry? (place : List String) : Option Entry :=
  if directories.contains place then some .directory
  else
    match devices.lookup place, tables.lookup place, place with
    | some d, _, _ => some (.device d)
    | _, some text, _ => some (.file (Text.Utf8.encode text))
    | _, _, ["bin", name] | _, _, ["usr", "bin", name] =>
      if programs.contains name then some (.program name) else none
    | _, _, _ => none

/-- The names of what the system has in a directory. -/
def names (place : List String) : List String :=
  let places := directories ++ devices.map (·.1) ++ tables.map (·.1)
  let named := places.filterMap fun p =>
    if p ≠ [] && p.dropLast = place then p.getLast? else none
  named ++ if place = ["bin"] || place = ["usr", "bin"] then programs else []

/-- The first bytes of every program, which are no text. -/
def programImage : Bytes :=
  [0x7F, 0x45, 0x4C, 0x46, 0x02, 0x01, 0x01, 0x00, 0xFF]

end System

end FaultDrill
