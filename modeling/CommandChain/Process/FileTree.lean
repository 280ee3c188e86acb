import CommandChain.Process.SystemError
import CommandChain.Program.Utility
import CommandChain.Text.Radix
import CommandChain.Text.Utf8

/-!
# The file tree

A small tree of files decides what paths lead to and which names can be started. Its directories are
listed with their entries. A path is followed name by name from a place, which is a working
directory with the files that were written so far and the descriptors that are open; links on the
way are followed as well, up to a number of them.
-/

namespace CommandChain

/-- A device. -/
inductive Device where
  /-- empty, and takes everything -/
  | null
  /-- without an end of zeros, and takes everything -/
  | zero
  /-- without an end of zeros, and has no space left -/
  | full
  /-- without an end of random bytes, and takes everything -/
  | random
  /-- the terminal, of which there is none -/
  | terminal
  deriving DecidableEq

/-- What a path can lead to. -/
inductive FileNode where
  | directory
  /-- a file that cannot be started -/
  | plain
  | executable (utility : Utility)
  | device (device : Device)
  /-- another path, which is followed instead -/
  | link (target : Text)
  /-- an open descriptor, by number -/
  | descriptor (number : Nat)
  deriving DecidableEq

namespace FileTree

/-- A path from the root, as a list of names. -/
abbrev Path : Type :=
  List Text

/-- The slash between the names of a path. -/
def slash : Symbol :=
  .char '/'

/-- A path as text. -/
def pathText (path : Path) : Text :=
  slash :: Text.joinWith [slash] path

/-! ## Entries -/

/-- Entries that are all the same. -/
def entriesOf (node : FileNode) (names : List String) : List (String × FileNode) :=
  names.map fun name => (name, node)

/-- Entries that are links, with their targets. -/
def links (entries : List (String × String)) : List (String × FileNode) :=
  entries.map fun entry => (entry.1, .link (Text.ofString entry.2))

/-- The entries of the root. -/
def rootEntries : List (String × FileNode) :=
  links [("bin", "usr/bin"), ("lib", "usr/lib"), ("lib64", "usr/lib64"), ("sbin", "usr/sbin")] ++
    entriesOf .directory
      ["boot", "dev", "etc", "home", "media", "mnt", "opt", "proc", "root", "run", "srv", "sys",
        "tmp", "usr", "var"]

/-- The entries of the directory of devices. -/
def deviceEntries : List (String × FileNode) :=
  links [("core", "/proc/kcore"), ("fd", "/proc/self/fd"), ("ptmx", "pts/ptmx"),
      ("stderr", "/proc/self/fd/2"), ("stdin", "/proc/self/fd/0"),
      ("stdout", "/proc/self/fd/1")] ++
    entriesOf .directory ["mqueue", "pts", "shm"] ++
    [("full", .device .full), ("null", .device .null), ("random", .device .random),
      ("tty", .device .terminal), ("urandom", .device .random), ("zero", .device .zero)]

/-- The entries of the directory of settings. -/
def settingEntries : List (String × FileNode) :=
  links [("localtime", "/usr/share/zoneinfo/Etc/UTC"), ("mtab", "/proc/mounts"),
      ("os-release", "../usr/lib/os-release"), ("rmt", "/usr/sbin/rmt")] ++
    entriesOf .directory
      ["alternatives", "apt", "cron.d", "cron.daily", "default", "dpkg", "init.d", "kernel",
        "ld.so.conf.d", "logrotate.d", "opt", "pam.d", "profile.d", "rc0.d", "rc1.d", "rc2.d",
        "rc3.d", "rc4.d", "rc5.d", "rc6.d", "rcS.d", "security", "selinux", "skel", "systemd",
        "terminfo", "update-motd.d"] ++
    entriesOf .plain
      [".pwd.lock", "adduser.conf", "bash.bashrc", "bindresvport.blacklist", "debconf.conf",
        "debian_version", "deluser.conf", "e2scrub.conf", "environment", "fstab", "gai.conf",
        "group", "group-", "gshadow", "gshadow-", "host.conf", "hostname", "hosts", "issue",
        "issue.net", "ld.so.cache", "ld.so.conf", "libaudit.conf", "login.defs", "machine-id",
        "mke2fs.conf", "motd", "nsswitch.conf", "pam.conf", "passwd", "passwd-", "profile",
        "resolv.conf", "shadow", "shadow-", "shells", "subgid", "subuid", "subuid-", "timezone",
        "xattr.conf"]

/-- The entries of the program directory. A second name of a utility is a link to its first one. -/
def programEntries : List (String × FileNode) :=
  Utility.all.flatMap fun utility =>
    match utility.names with
    | [] => []
    | first :: others =>
        (first, .executable utility) :: links (others.map fun name => (name, first))

/-- The directories of the tree with their entries. One of them lists the open descriptors, which
are not among its entries here. -/
def table : List (Path × List (Text × FileNode)) :=
  [("", rootEntries), ("dev", deviceEntries), ("dev/mqueue", []), ("dev/pts", []),
      ("dev/shm", []), ("etc", settingEntries), ("boot", []), ("home", []), ("media", []),
      ("mnt", []), ("opt", []), ("proc", entriesOf .directory ["self"]),
      ("proc/self", entriesOf .directory ["fd"]), ("proc/self/fd", []), ("root", []), ("run", []),
      ("srv", []), ("sys", []), ("tmp", entriesOf .directory ["work"]), ("tmp/work", []),
      ("usr",
        entriesOf .directory
          ["bin", "games", "include", "lib", "lib64", "libexec", "local", "sbin", "share", "src"]),
      ("usr/bin", programEntries), ("usr/games", []), ("usr/include", []), ("usr/lib", []),
      ("usr/lib64", []), ("usr/libexec", []), ("usr/sbin", []), ("usr/share", []), ("usr/src", []),
      ("usr/local",
        entriesOf .directory ["bin", "etc", "games", "include", "lib", "sbin", "share", "src"] ++
          links [("man", "share/man")]),
      ("usr/local/bin", []), ("usr/local/etc", []), ("usr/local/games", []),
      ("usr/local/include", []), ("usr/local/lib", []), ("usr/local/sbin", []),
      ("usr/local/share", []), ("usr/local/src", []),
      ("var",
        entriesOf .directory
            ["backups", "cache", "lib", "local", "log", "mail", "opt", "spool", "tmp"] ++
          links [("lock", "/run/lock"), ("run", "/run")]),
      ("var/tmp", [])].map
    fun entry =>
      (((Text.ofString entry.1).cutAt slash).filter (· != []),
        entry.2.map fun found => (Text.ofString found.1, found.2))

/-- The path with the given names. -/
def pathOf (names : List String) : Path :=
  names.map Text.ofString

/-- The working directory, which is empty. -/
def workingDirectory : Path :=
  pathOf ["tmp", "work"]

/-- The directory that lists the open descriptors. -/
def descriptorDirectory : Path :=
  pathOf ["proc", "self", "fd"]

/-- The directories that are searched for a name. -/
def programDirectories : List Path :=
  [pathOf ["usr", "bin"], pathOf ["bin"]]

/-! ## Places -/

/-- A place in the tree. -/
structure Place where
  directory : Path := workingDirectory
  /-- the files that were written -/
  written : List Path := []
  /-- the numbers of the open descriptors -/
  descriptors : List Nat := [0, 1, 2]

/-- What a name leads to in the directory of descriptors. -/
def Place.descriptor? (place : Place) (name : Text) : Option FileNode :=
  (name.toDecimal?.filter place.descriptors.contains).map .descriptor

/-- What a name leads to in a directory, which is given by its own path. -/
def Place.nodeIn? (place : Place) (directory : Path) (name : Text) : Option FileNode :=
  if directory = descriptorDirectory then place.descriptor? name
  else
    (((table.lookup directory).bind fun entries => entries.lookup name)).or
      (if place.written.contains (directory ++ [name]) then some .plain else none)

/-- The least number that is not among some numbers. -/
def leastFree (numbers : List Nat) : Nat :=
  ((List.range (numbers.length + 1)).find? fun number => !numbers.contains number).getD 0

/-- The names in a directory, which is given by its own path. The one of descriptors has one more
while it is read. -/
def Place.namesIn (place : Place) (directory : Path) : List Text :=
  if directory = descriptorDirectory then
    (leastFree place.descriptors :: place.descriptors).map fun (number : Nat) => Text.ofInt number
  else
    let known := ((table.lookup directory).getD []).map Prod.fst
    let written := (place.written.filter fun path => path.dropLast == directory).map fun path =>
      path.getLast?.getD []
    known ++ written.filter fun name => !known.contains name

/-! ## Following paths -/

/-- The most bytes of one name. -/
def longestName : Nat :=
  255

/-- The most bytes of a whole path. -/
def longestPath : Nat :=
  4095

/-- How many links are followed in one path. -/
def mostLinks : Nat :=
  40

/-- Follows names from a directory, which is given by its own path, to a node and its own path.
Empty names and single dots stay, double dots go up, and only a directory can be followed further.
A link at the end is followed if that is asked for. -/
def follow (place : Place) (followsLast : Bool) :
    (links : Nat) → (directory : Path) → List Text → Except Int (FileNode × Path)
  | _, directory, [] => .ok (.directory, directory)
  | links, directory, name :: rest =>
      if name = [] ∨ name = [.char '.'] then follow place followsLast links directory rest
      else if name = [.char '.', .char '.'] then
        follow place followsLast links directory.dropLast rest
      else if longestName < (Text.bytes name).length then .error SystemError.nameTooLong
      else
        match place.nodeIn? directory name with
        | none => .error SystemError.noEntry
        | some .directory => follow place followsLast links (directory ++ [name]) rest
        | some (.link target) =>
            if rest = [] ∧ followsLast = false then .ok (.link target, directory ++ [name])
            else
              match links with
              | 0 => .error SystemError.tooManyLinks
              | remaining + 1 =>
                  match target.cutAt slash with
                  | [] :: names => follow place followsLast remaining [] (names ++ rest)
                  | names => follow place followsLast remaining directory (names ++ rest)
        | some node =>
            if rest = [] then .ok (node, directory ++ [name]) else .error SystemError.notDirectory
termination_by links _ names => (links, names.length)

/-- What a path leads to from a place, with its own path. The empty path leads nowhere. -/
def Place.find (place : Place) (followsLast : Bool) (path : Text) : Except Int (FileNode × Path) :=
  if path = [] then .error SystemError.noEntry
  else if longestPath < (Text.bytes path).length then .error SystemError.nameTooLong
  else
    match path.cutAt slash with
    | [] :: rest => follow place followsLast mostLinks [] rest
    | relative => follow place followsLast mostLinks place.directory relative

/-- What a path leads to from a place, where all links are followed. -/
def Place.resolve (place : Place) (path : Text) : Except Int (FileNode × Path) :=
  place.find true path

/-- The directory that a path leads to from a place. -/
def Place.directoryAt? (place : Place) (path : Text) : Option Path :=
  match place.resolve path with
  | .ok (.directory, found) => some found
  | _ => none

/-- Where a file that is not there yet would be made: its directory is there, and no slash follows its
name. -/
def Place.newFile? (place : Place) (path : Text) : Except Int Path :=
  let reversed := path.reverse.dropWhile (· == slash)
  let name := (reversed.takeWhile (· != slash)).reverse
  let directory := (reversed.dropWhile (· != slash)).reverse
  let found := if directory = [] then some place.directory else place.directoryAt? directory
  match if path = [] then none else found with
  | none => .error SystemError.noEntry
  | some above =>
      if path.getLast? = some slash then .error SystemError.isDirectory else .ok (above ++ [name])

/-! ## Starting -/

/-- The utility that a node starts: nothing else may be started. -/
def start : FileNode → Except Int Utility
  | .executable utility => .ok utility
  | _ => .error SystemError.accessDenied

/-- Whether an error of one program directory lets the search end without another directory being
heard. -/
def isDecisive (number : Int) : Bool :=
  number != SystemError.noEntry && number != SystemError.notDirectory

/-- Searches directories for a name. The first decisive error is reported, else the last error. -/
def search (name : Text) : List Path → (failure : Int) → Except Int Utility
  | [], failure => .error failure
  | directory :: rest, failure =>
      match follow {} true mostLinks [] (directory ++ [name]) >>= fun found => start found.1 with
      | .ok utility => .ok utility
      | .error number => search name rest (if isDecisive failure then failure else number)

/-- The utility that a command name starts from a place. -/
def Place.utilityOf (place : Place) (name : Text) : Except Int Utility :=
  if slash ∈ name then place.resolve name >>= fun found => start found.1
  else search name programDirectories SystemError.noEntry

end FileTree

end CommandChain
