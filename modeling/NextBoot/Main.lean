import NextBoot.Program

/-! The command line program: it gathers what a run needs from the host, and carries out the changes
that the run asks for. Loading a kernel takes calls that only a kernel can answer, so here they
answer that they are not implemented. -/
namespace NextBoot.Main

open NextBoot.Firmware (Directory Node Place)

def errnoOf : IO.Error → Errno
  | .noFileOrDirectory _ code _ => ⟨code.toNat⟩
  | .permissionDenied _ code _ => ⟨code.toNat⟩
  | .inappropriateType _ code _ => ⟨code.toNat⟩
  | .invalidArgument _ code _ => ⟨code.toNat⟩
  | .resourceBusy code _ => ⟨code.toNat⟩
  | .otherError code _ => ⟨code.toNat⟩
  | _ => ⟨5⟩

def bytesOf (content : ByteArray) : Bytes := content.data.toList

def contentOf (bytes : Bytes) : ByteArray := ⟨bytes.toArray⟩

def pathState (path : String) : IO PathState := do
  let here ← IO.currentDir
  if ← (here / path).isDir then return .directory
  try
    return .file (bytesOf (← IO.FS.readBinFile path))
  catch e =>
    let errno := errnoOf e
    return if errno = .noEntry then .missing else .blocked (.os errno)

def place (path : String) : IO Place := do
  let here ← IO.currentDir
  if ← (here / path).isDir then
    try
      let mut nodes : List (Bytes × Node) := []
      for entry in ← (here / path).readDir do
        let name := Text.Utf8.encode entry.fileName
        if ← entry.path.isDir then
          nodes := (name, .directory) :: nodes
        else
          nodes := (name, .file (bytesOf (← IO.FS.readBinFile entry.path))) :: nodes
      return .directory (.ofList nodes)
    catch e =>
      return .directory { Directory.empty with unlistable := some (errnoOf e) }
  else if ← (here / path).pathExists then return .file
  else return .unreachable (.os .noEntry)

/-- Whether the process runs with the rights of the root user. -/
def isRoot : IO Bool := do
  try
    let status ← IO.FS.readFile "/proc/self/status"
    let words := (status.splitOn "\n").map fun line => line.splitOn "\t"
    return words.any fun line => line.take 2 = ["Uid:", "0"]
  catch _ => return false

def environment : IO Environment := do
  return { logFilter := ← IO.getEnv "BOOT_TO_TALOS_LOG"
           commonLogFilter := ← IO.getEnv "RUST_LOG"
           settingsPath := (← IO.getEnv Settings.pathVariable).map Text.Utf8.encode }

/-- The paths that a run may look at, before the store is known. -/
def paths (e : Environment) (words : List String) : List String :=
  words ++ [Program.firmwarePath, Settings.defaultPath, "/sys/kernel/security/lockdown",
    "/proc/sys/kernel/kexec_load_disabled"] ++
    (e.settingsPath.bind Text.Utf8.decode?).toList

def gather (words : List String) : IO Host := do
  let environment ← environment
  let found ← (paths environment words).mapM fun path => return (path, ← pathState path)
  let file := fun path => (found.lookup path).getD .missing
  let storePath := ((Settings.load Toml.parse? environment.settingsPath file).toOption.getD {}).storePath
  let storePlace ← place storePath
  return { environment, file
           place := fun path => if path = storePath then storePlace else .unreachable (.os .noEntry)
           mountFlags := fun _ => 0
           inodeFlags := ⟨0, true, true, 0, []⟩
           writeCalls := .whole
           isRoot := ← isRoot
           kernel := ⟨fun _ _ => .error .notImplemented, []⟩ }

def carryOut : Change → IO Unit
  | .file path content => IO.FS.writeBinFile path (contentOf content)
  | .variables path content => do
    let here ← IO.currentDir
    for (name, node) in content.entries do
      match node, Text.Utf8.decode? name with
      | .file bytes, some text =>
        let target := here / path / text
        if !(← target.pathExists) || bytesOf (← IO.FS.readBinFile target) != bytes then
          IO.FS.writeBinFile target (contentOf bytes)
      | _, _ => pure ()

end NextBoot.Main

def main (words : List String) : IO UInt32 := do
  let host ← NextBoot.Main.gather words
  let outcome := NextBoot.Program.run host words
  (← IO.getStderr).putStr outcome.errorOutput
  outcome.changes.forM NextBoot.Main.carryOut
  (← IO.getStdout).putStr outcome.output
  return outcome.exitCode
