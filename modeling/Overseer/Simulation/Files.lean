import Overseer.Host.FileTree

/-!
The files of the simulated machine: some directories, the programs that can be run, and a few files
that every machine has.
-/

namespace Overseer.Simulation

open Host FileTree

def programs : List String :=
  ["sh", "cat", "printf", "sleep", "echo", "true", "false", "pwd", "kill", "test"]

def searchPath : List String := ["/usr/local/bin", "/usr/bin", "/bin"]

def workPlace : Place := placeOf "/work"

def machineFiles : FileTree :=
  let directories := ["/work", "/tmp", "/bin", "/usr", "/usr/bin", "/usr/local", "/usr/local/bin",
    "/etc", "/dev", "/proc", "/var", "/var/tmp", "/home", "/root", "/lib", "/opt", "/sbin", "/sys",
    "/run", "/mnt", "/srv"]
  let texts := [("/etc/passwd", "root:x:0:0:root:/root:/bin/sh\n"),
    ("/etc/hosts", "127.0.0.1 localhost\n"), ("/etc/group", "root:x:0:\n")]
  let devices := ["/dev/null", "/dev/zero", "/dev/full", "/dev/tty"]
  ⟨directories.map (fun d => (placeOf d, .directory)) ++
    texts.map (fun f => (placeOf f.1, textFile f.2)) ++
    devices.map (fun d => (placeOf d, .device [])) ++
    ["/bin/", "/usr/bin/"].flatMap fun d =>
      programs.map fun p => (placeOf (d ++ p), .file [] true)⟩

end Overseer.Simulation
