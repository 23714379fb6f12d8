import TreeLint.CommandLine.Reply

/-!
The program. It takes a copy of the part of the disk that a command looks at, and carries the
command out on the copy.
-/
namespace TreeLint.Copy

variable [Explanations]

/-- The text of a file, if it can be read and is UTF-8. -/
def textOf (path : HostPath) : IO (Option String) := do
  try
    return String.fromUTF8? (← IO.FS.readBinFile path.text)
  catch _ => return none

/-- What lies at a path, with links followed. -/
def typeOf (path : HostPath) : IO (Option IO.FS.FileType) := do
  try
    return some (← (IO.FS.DirEntry.mk path.text ".").root.metadata).type
  catch _ => return none

def entriesOf (dir : HostPath) : IO (Array IO.FS.DirEntry) := do
  try
    (IO.FS.DirEntry.mk dir.text ".").root.readDir
  catch _ => return #[]

def isLink (entry : IO.FS.DirEntry) : IO Bool := do
  try
    return (← entry.path.symlinkMetadata).type == .symlink
  catch _ => return false

/-- A copy of a directory with all that lies in it, and the directories that links in it lead to.
Texts are copied of the files that are wanted. -/
partial def directory (wanted : HostPath → Bool) (dir : HostPath) :
    StateT (List HostPath) IO DiskNode := do
  let mut entries : List (String × DiskNode) := []
  for entry in ← entriesOf dir do
    let path := dir.join ⟨entry.fileName⟩
    match ← typeOf path with
    | none => pure ()
    | some .dir =>
      if ← isLink entry then
        let target := (← IO.FS.realPath path.text).toString
        modify (⟨target⟩ :: ·)
        entries := (entry.fileName, .link target) :: entries
      else
        entries := (entry.fileName, ← directory wanted path) :: entries
    | some _ =>
      let text ← if wanted path then textOf path else pure none
      entries := (entry.fileName, .file text) :: entries
  return .dir (Ascending.ofEntries entries)

/-- Copies directories, and those that links in them lead to. -/
partial def directories (wanted : HostPath → Bool) (disk : Disk) : List HostPath → IO Disk
  | [] => return disk
  | dir :: rest => do
    if disk.isDir dir then directories wanted disk rest
    else
      let (node, targets) ← (directory wanted dir).run []
      directories wanted (disk.put dir node) (targets ++ rest)

/-- A copy of what lies at a path, as far as it matters to who reads a document. -/
def document (disk : Disk) (path : HostPath) : IO Disk := do
  match ← typeOf path with
  | none => return disk
  | some .dir => return disk.makeDir path
  | some _ => return disk.put path (.file (← textOf path))

/-- Copies the documents that a configuration is made of, one after another as they are missed. -/
partial def documents (root : HostPath) (config : Option HostPath) (tried : List HostPath)
    (disk : Disk) : IO Disk := do
  let missed? := match disk.loadConfig root config with
    | .error (.notFound path) => some path
    | .error (.presetNotFound path _) => some path
    | _ => none
  match missed? with
  | none => return disk
  | some path =>
    if tried.contains path then return disk
    else documents root config (path :: tried) (← document disk path)

/-- Copies all that a command looks at in a project. -/
def project (root : HostPath) (config : Option HostPath) (withFiles : Bool) : IO Disk := do
  let names := Disk.configNames.map fun name => root.join ⟨name⟩
  let start ← if config.isSome then pure {} else names.foldlM document {}
  let disk ← documents root config [] start
  match disk.loadConfig root config with
  | .error _ => return disk
  | .ok c =>
    if !withFiles then return disk
    let wanted path :=
      disk.isFile path || (ProjectPath.ofFile? path root).all (!c.ignore.isIgnored ·)
    let files ← directories wanted {} [root]
    documents root config [] (← if config.isSome then pure files else names.foldlM document files)

/-- The part of the disk that a command looks at. -/
def forInvocation (dir : HostPath) (i : Invocation) : IO Disk :=
  let config := i.config.map (Reply.absolute dir)
  match i.command with
  | .check path _ _ => project (Reply.absolute dir path) config true
  | .validate path => project (Reply.absolute dir path) config false
  | .listRules => return {}

end TreeLint.Copy

open TreeLint in
attribute [local instance] Explanations.brief in
def main (args : List String) : IO UInt32 := do
  let dir : HostPath := ⟨(← IO.currentDir).toString⟩
  let preset ← IO.getEnv "STRUCT_LINT_CONFIG"
  let reply ← match Arguments.read args preset with
    | .ok i => pure (Reply.ofInvocation (← Copy.forInvocation dir i) dir i)
    | .error refusal => pure (Reply.ofRefusal refusal)
  IO.print reply.stdout
  IO.eprint reply.stderr
  return UInt32.ofNat reply.exit
