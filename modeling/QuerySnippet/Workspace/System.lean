/-
A system around a workspace: some directories, files, programs and devices, and
links between them. There is nothing else.

This is one small system that is assumed where a workspace is made of its files
alone, and not what every system has; a workspace in general may have anything
at any path. Only what is there counts: one text stands for the texts of all
files, and one for all programs. The process that looks has a directory of its
own under `/proc`, and its thread has one in there. The names of both are not
known, so they are empty here, and no path leads to them but through a link.
-/
import QuerySnippet.Workspace.Entry

namespace QuerySnippet.Workspace

/-- A place that a path leads to, name by name. -/
inductive Place where
  /-- A directory of the workspace, by the names that lead to it. -/
  | inside (names : List String)
  /-- A directory of the system, by the names that lead to it from the root. -/
  | system (names : List String)
  /-- No directory. -/
  | leaf (entry : Entry)

/-- What a place is. -/
def Place.entry : Place → Entry
  | inside _ => .directory
  | system _ => .directory
  | leaf entry => entry

/-- Directories, by their paths from the root. -/
def systemDirectories : List String := [
  "boot", "dev", "etc", "home", "media", "mnt", "opt", "proc", "root", "run", "srv", "sys", "tmp",
  "usr", "var",
  "dev/pts", "dev/shm",
  "etc/alternatives", "etc/apt", "etc/default", "etc/init.d", "etc/profile.d", "etc/skel",
  "etc/ssl",
  "proc/1", "proc/bus", "proc/driver", "proc/fs", "proc/irq", "proc/sys", "proc/tty",
  "run/lock",
  "sys/block", "sys/bus", "sys/class", "sys/dev", "sys/devices", "sys/firmware", "sys/fs",
  "sys/kernel", "sys/module", "sys/power",
  "usr/bin", "usr/games", "usr/include", "usr/lib", "usr/lib64", "usr/libexec", "usr/local",
  "usr/sbin", "usr/share", "usr/src",
  "usr/local/bin", "usr/local/etc", "usr/local/games", "usr/local/include", "usr/local/lib",
  "usr/local/sbin", "usr/local/share", "usr/local/src", "usr/local/share/man",
  "usr/share/doc", "usr/share/info", "usr/share/man", "usr/share/misc",
  "var/backups", "var/cache", "var/lib", "var/local", "var/log", "var/mail", "var/opt",
  "var/spool", "var/tmp"]

/-- Files that hold a text, by their paths from the root. -/
def systemTexts : List String := [
  "etc/group", "etc/hostname", "etc/hosts", "etc/issue", "etc/nsswitch.conf", "etc/passwd",
  "etc/profile", "etc/resolv.conf", "etc/shadow", "etc/shells",
  "proc/cmdline", "proc/cpuinfo", "proc/devices", "proc/filesystems", "proc/loadavg",
  "proc/meminfo", "proc/partitions", "proc/stat", "proc/swaps", "proc/uptime", "proc/version",
  "proc/vmstat"]

/-- Programs. -/
def systemPrograms : List String := [
  "bash", "cat", "chmod", "cp", "date", "dd", "df", "echo", "env", "false", "find", "grep", "head",
  "ls", "mkdir", "mv", "perl", "pwd", "rm", "sed", "sleep", "sort", "tail", "tar", "touch", "true",
  "uname", "wc"]

/-- A program. It is no text. -/
def systemProgram : Entry := .undecodable "\uFFFD"

/-- Devices. Those that give no text are no better than directories. -/
def systemDevices : List (String × Entry) := [
  ("full", .device "\x00"),
  ("null", .device ""),
  ("ptmx", .directory),
  ("random", .directory),
  ("tty", .directory),
  ("urandom", .directory),
  ("zero", .device "\x00")]

/-- Directories in the directory of a process or thread. -/
def processDirectories : List String := ["attr", "fd", "fdinfo", "net", "ns"]

/-- Files that hold a text in the directory of a process or thread. -/
def processTexts : List String := [
  "cgroup", "cmdline", "comm", "environ", "gid_map", "io", "limits", "maps",
  "mountinfo", "mounts", "oom_adj", "oom_score", "oom_score_adj", "personality",
  "sched", "schedstat", "setgroups", "smaps", "stack", "stat", "statm", "status", "syscall",
  "uid_map", "wchan"]

/-- The text that stands for the texts of all files. -/
def systemText : Place := .leaf (.file "-\n")

/-- The directory of the process. -/
def process : List String := ["proc", ""]

/-- The directory of the thread. -/
def thread : List String := process ++ ["task", ""]

/-- What names lead to from the directory of a process or thread, and how many links they follow.
Standard input is empty. -/
def processNode (directory : List String) : List String → Nat × Place
  | ["cwd"] => (1, .inside [])
  | ["root"] => (1, .system [])
  | ["exe"] => (1, .leaf systemProgram)
  | ["fd", number] =>
    if number ∈ ["0", "1", "2"] then (1, .leaf (.device "")) else (0, .leaf .missing)
  | ["fdinfo", number] =>
    (0, if number ∈ ["0", "1", "2"] then systemText else .leaf .missing)
  | [name] =>
    (0, if name ∈ processDirectories then .system (directory ++ [name])
      else if name ∈ processTexts then systemText
      else .leaf .missing)
  | _ => (0, .leaf .missing)

/-- What names lead to from the root, and how many links the last of them follows. -/
def systemNode : List String → Nat × Place
  | ["bin"] => (1, .system ["usr", "bin"])
  | ["lib"] => (1, .system ["usr", "lib"])
  | ["lib64"] => (1, .system ["usr", "lib64"])
  | ["sbin"] => (1, .system ["usr", "sbin"])
  | ["usr", "local", "man"] => (1, .system ["usr", "local", "share", "man"])
  | ["var", "lock"] => (1, .system ["run", "lock"])
  | ["var", "run"] => (1, .system ["run"])
  | ["etc", "os-release"] => (1, systemText)
  | ["usr", "lib", "os-release"] => (0, systemText)
  | ["etc", "fstab"] => (0, .leaf (.file "#\n"))
  | ["usr", "bin", "sh"] => (1, .leaf systemProgram)
  | ["usr", "bin", program] =>
    (0, .leaf (if program ∈ systemPrograms then systemProgram else .missing))
  | ["dev", "fd"] => (2, .system (process ++ ["fd"]))
  | ["dev", "stdin"] | ["dev", "stdout"] | ["dev", "stderr"] => (3, .leaf (.device ""))
  | ["proc", "mounts"] => (2, systemText)
  | ["proc", "net"] => (2, .system (process ++ ["net"]))
  | ["proc", "self"] => (1, .system process)
  | ["proc", "thread-self"] => (1, .system thread)
  | ["proc", "", "map_files"] => (0, .system (process ++ ["map_files"]))
  | ["proc", "", "task"] => (0, .system (process ++ ["task"]))
  | "proc" :: "" :: "task" :: "" :: names => processNode thread names
  | "proc" :: "" :: names => processNode process names
  | names =>
    let path := "/".intercalate names
    (0, if path ∈ systemDirectories then .system names
      else if path ∈ systemTexts then systemText
      else match names with
        | ["dev", name] => .leaf ((systemDevices.lookup name).getD .missing)
        | _ => .leaf .missing)

end QuerySnippet.Workspace
