import RootedRun.Files.System

namespace RootedRun

namespace FileSystem

def outsiders : List Nat := [1, 92]

def machineDirs : List String := [
  "/boot", "/dev", "/etc/profile.d", "/home", "/media", "/mnt", "/opt", "/proc/self/fd", "/root",
  "/run/lock", "/srv", "/sys", "/tmp", "/usr/bin", "/usr/games", "/usr/include", "/usr/lib",
  "/usr/lib64", "/usr/libexec", "/usr/local/bin", "/usr/local/etc", "/usr/local/games",
  "/usr/local/include", "/usr/local/lib", "/usr/local/sbin", "/usr/local/share", "/usr/local/src",
  "/usr/sbin", "/usr/share", "/usr/src", "/var/backups", "/var/cache", "/var/lib", "/var/local",
  "/var/log", "/var/mail", "/var/opt", "/var/spool", "/var/tmp"]
  ++ outsiders.map ("/proc/" ++ toString ·)

def machineLinks : List (String × String) := [
  ("/bin", "usr/bin"), ("/sbin", "usr/sbin"), ("/lib", "usr/lib"), ("/lib64", "usr/lib64"),
  ("/var/lock", "/run/lock"), ("/var/run", "/run"), ("/usr/bin/sh", "dash"),
  ("/proc/self/root", "/"), ("/dev/fd", "/proc/self/fd"), ("/dev/stdin", "/proc/self/fd/0"),
  ("/dev/stdout", "/proc/self/fd/1"), ("/dev/stderr", "/proc/self/fd/2")]
  ++ outsiders.map fun pid => ("/proc/" ++ toString pid ++ "/root", "/")

def programImage : ByteArray := ⟨#[127, 69, 76, 70, 2, 1, 1, 0, 255]⟩

def machinePrograms : List String := [
  "/usr/bin/[", "/usr/bin/cat", "/usr/bin/dash", "/usr/bin/echo", "/usr/bin/env", "/usr/bin/false",
  "/usr/bin/id", "/usr/bin/printf", "/usr/bin/pwd", "/usr/bin/sleep", "/usr/bin/tail",
  "/usr/bin/test", "/usr/bin/true", "/usr/sbin/chroot"]

def noHome : String := "/nonexistent"

def noShell : String := "/usr/sbin/nologin"

def users : String := String.join ([
  ("root", 0, 0, "root", "/root", "/bin/bash"),
  ("daemon", 1, 1, "daemon", "/usr/sbin", noShell),
  ("bin", 2, 2, "bin", "/bin", noShell),
  ("sys", 3, 3, "sys", "/dev", noShell),
  ("sync", 4, 65534, "sync", "/bin", "/bin/sync"),
  ("games", 5, 60, "games", "/usr/games", noShell),
  ("man", 6, 12, "man", "/var/cache/man", noShell),
  ("lp", 7, 7, "lp", "/var/spool/lpd", noShell),
  ("mail", 8, 8, "mail", "/var/mail", noShell),
  ("news", 9, 9, "news", "/var/spool/news", noShell),
  ("uucp", 10, 10, "uucp", "/var/spool/uucp", noShell),
  ("proxy", 13, 13, "proxy", "/bin", noShell),
  ("www-data", 33, 33, "www-data", "/var/www", noShell),
  ("backup", 34, 34, "backup", "/var/backups", noShell),
  ("list", 38, 38, "Mailing List Manager", "/var/list", noShell),
  ("irc", 39, 39, "ircd", "/run/ircd", noShell),
  ("_apt", 42, 65534, "", noHome, noShell),
  ("nobody", 65534, 65534, "nobody", noHome, noShell)
].map fun (name, id, group, who, home, shell) =>
    String.intercalate ":"
      [name, "x", toString (id : Nat), toString (group : Nat), who, home, shell] ++ "\n")

def welcome : List String := [
  "# /etc/profile: system-wide .profile file for the Bourne shell (sh(1))",
  "# and Bourne compatible shells (bash(1), ksh(1), ash(1), ...).",
  "",
  "if [ \"$(id -u)\" -eq 0 ]; then",
  "  PATH=\"/usr/local/sbin:/usr/local/bin:/usr/sbin:/usr/bin:/sbin:/bin\"",
  "else",
  "  PATH=\"/usr/local/bin:/usr/bin:/bin:/usr/local/games:/usr/games\"",
  "fi",
  "export PATH",
  "",
  "if [ \"$\x7bPS1-\x7d\" ]; then",
  "  if [ \"$\x7bBASH-\x7d\" ] && [ \"$BASH\" != \"/bin/sh\" ]; then",
  "    # The file bash.bashrc already sets the default PS1.",
  "    # PS1='\\h:\\w\\$ '",
  "    if [ -f /etc/bash.bashrc ]; then",
  "      . /etc/bash.bashrc",
  "    fi",
  "  else",
  "    if [ \"$(id -u)\" -eq 0 ]; then",
  "      PS1='# '",
  "    else",
  "      PS1='$ '",
  "    fi",
  "  fi",
  "fi",
  "",
  "if [ -d /etc/profile.d ]; then",
  "  for i in /etc/profile.d/*.sh; do",
  "    if [ -r $i ]; then",
  "      . $i",
  "    fi",
  "  done",
  "  unset i",
  "fi"]

def machineDevices : List String :=
  ["/dev/full", "/dev/null", "/dev/random", "/dev/tty", "/dev/urandom", "/dev/zero"]

def machine (workDir : String) : FileSystem :=
  let bare : FileSystem := ⟨.directory [] 0, [], 0⟩
  let files := bare.applyAll (machineDirs.map .directory
    ++ machineLinks.map (fun l => .link l.1 l.2)
    ++ machinePrograms.map (fun p => .file p programImage)
    ++ machineDevices.map (.file · .empty)
    ++ [.file "/etc/hostname" "host\n".toUTF8,
      .file "/etc/passwd" users.toUTF8,
      .file "/etc/profile" (String.join (welcome.map (· ++ "\n"))).toUTF8])
  let started := { files with now := 1 }.applyAll
    [.directory workDir, .link "/proc/self/cwd" workDir]
  { started with cwd := Path.names workDir }

def program (fs : FileSystem) (path : String) : Except OsError String := do
  let s ← fs.locate true path
  let own := "/" ++ String.intercalate "/" s.names
  if machinePrograms.contains own then .ok own else .error .permissionDenied

end FileSystem

end RootedRun
