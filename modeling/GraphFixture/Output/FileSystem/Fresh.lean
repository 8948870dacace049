import GraphFixture.Output.FileSystem

/-!
# A fresh file system

The directories, devices and links of the system, and an empty working
directory.  Every system has the same few short names for longer locations:
programs and libraries stand below one directory, and a process finds its own
streams, its program and its working directory among the entries about itself.
-/

namespace GraphFixture
namespace FileSystem

/-- The location of a path that starts at the root. -/
def locationOf (word : String) : Location :=
  components (ByteString.ofWord word)

/-- The empty directory where a process starts to work. -/
def workPlace : String :=
  "tmp/work"

/-- The directories that stand in every system. -/
def systemDirectories : List String :=
  ["boot", "dev", "dev/pts", "dev/shm", "etc", "home", "media", "mnt", "opt",
    "proc", "proc/self", "proc/self/fd", "root", "run", "run/lock", "srv", "sys",
    "tmp", "usr", "usr/bin", "usr/lib", "usr/lib64", "usr/local", "usr/sbin",
    "usr/share", "var", "var/cache", "var/lib", "var/log", "var/tmp"]

/-- The devices of the system, and the streams of the process by their numbers. -/
def systemDevices : List (String × Device) :=
  [("dev/null", .null), ("dev/zero", .null), ("dev/random", .null),
    ("dev/urandom", .null), ("dev/full", .full), ("proc/self/fd/0", .null),
    ("proc/self/fd/1", .console .output),
    ("proc/self/fd/2", .console .diagnostics)]

/-- What cannot be written: the terminal, since there is none, and the program
that is running. -/
def systemGuards : List (String × SystemError) :=
  [("dev/tty", .noSuchDevice), ("proc/self/exe", .programInUse)]

/-- The short names, each with the longer location that it leads to. -/
def systemLinks : List (String × String) :=
  [("bin", "usr/bin"), ("lib", "usr/lib"), ("lib64", "usr/lib64"),
    ("sbin", "usr/sbin"), ("var/run", "run"), ("var/lock", "run/lock"),
    ("dev/fd", "proc/self/fd"), ("dev/stdin", "proc/self/fd/0"),
    ("dev/stdout", "proc/self/fd/1"), ("dev/stderr", "proc/self/fd/2"),
    ("proc/self/cwd", workPlace), ("proc/self/root", "")]

/-- The directories whose entries only the system itself creates. -/
def systemClosed : List (String × SystemError) :=
  [("proc", .noSuchFile), ("sys", .permissionDenied),
    ("dev/pts", .permissionDenied)]

/-- The system with an empty working directory. -/
def fresh : FileSystem where
  entries :=
    (systemDirectories ++ [workPlace]).map (fun name => (locationOf name, .directory)) ++
      systemDevices.map (fun entry => (locationOf entry.1, .device entry.2)) ++
      systemGuards.map (fun entry => (locationOf entry.1, .guarded entry.2))
  links := systemLinks.map fun link => (locationOf link.1, locationOf link.2)
  closed := systemClosed.map fun entry => (locationOf entry.1, entry.2)
  workingDirectory := locationOf workPlace

end FileSystem
end GraphFixture
