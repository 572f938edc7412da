/-
DatamodelTypes.Cli.FileSystem.Standard — the file system that a run
usually starts in.

Around an empty working directory there are the directories that every
system has, the devices, and the links that give them further names. Of
files elsewhere none is known.
-/
import DatamodelTypes.Cli.FileSystem

namespace DatamodelTypes.Cli.FileSystem

/-- The directories that a system has, by the directory that they are in. -/
def usualDirectories : List (Place × List String) :=
  [([], ["boot", "dev", "etc", "home", "media", "mnt", "opt", "root", "run", "srv", "sys", "tmp",
      "usr", "var"]),
   (["dev"], ["mqueue", "pts", "shm"]),
   (["usr"], ["bin", "games", "include", "lib", "lib64", "libexec", "local", "sbin", "share", "src"]),
   (["usr", "local"], ["bin", "etc", "games", "include", "lib", "sbin", "share", "src"]),
   (["var"], ["backups", "cache", "lib", "local", "log", "mail", "opt", "spool", "tmp"])]

/-- The directories about running programs, which the system alone fills. -/
def fixedDirectories : List Place :=
  [["proc"], ["proc", "self"], ["proc", "self", "fd"], ["proc", "self", "fdinfo"],
   ["proc", "self", "ns"], ["proc", "self", "task"], ["proc", "sys"]]

/-- The devices that a system has. -/
def usualDevices : List (Place × Device) :=
  [(["dev", "null"], .null), (["dev", "zero"], .null), (["dev", "random"], .null),
   (["dev", "urandom"], .null), (["dev", "full"], .full), (["dev", "tty"], .terminal),
   (["proc", "self", "fd", "0"], .standardInput), (["proc", "self", "fd", "1"], .standardOutput),
   (["proc", "self", "fd", "2"], .standardError)]

/-- The links that a system has. -/
def usualLinks : List (Place × Place) :=
  [(["bin"], ["usr", "bin"]), (["sbin"], ["usr", "sbin"]), (["lib"], ["usr", "lib"]),
   (["lib64"], ["usr", "lib64"]), (["var", "run"], ["run"]), (["proc", "self", "root"], []),
   (["dev", "fd"], ["proc", "self", "fd"]), (["dev", "stdin"], ["proc", "self", "fd", "0"]),
   (["dev", "stdout"], ["proc", "self", "fd", "1"]),
   (["dev", "stderr"], ["proc", "self", "fd", "2"])]

/-- An empty working directory. Nothing is known of its name, so it has one
that no path can write. -/
def emptyWorkingDirectory : Place :=
  ["tmp", ""]

/-- The file system of a usual system, with an empty working directory and
something on standard input. -/
def standard (input : ByteArray) : FileSystem where
  entries :=
    usualDirectories.flatMap (fun (parent, names) =>
        names.map fun name => (parent ++ [name], .directory false)) ++
      fixedDirectories.map (fun place => (place, .directory true)) ++
      usualDevices.map (fun (place, device) => (place, .device device)) ++
      usualLinks.map (fun (place, target) => (place, .link target)) ++
      [(emptyWorkingDirectory, .directory false),
       (["proc", "self", "cwd"], .link emptyWorkingDirectory)]
  workingDirectory := emptyWorkingDirectory
  input := input

end DatamodelTypes.Cli.FileSystem
