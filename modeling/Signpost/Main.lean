import Signpost.Commands

/-!
# The program

Takes down the part of the surroundings that a command can depend on, runs the command, and shows
what the run leaves. The configuration file is looked at first; the places that it names follow.
-/

namespace Signpost

def onDisk (path : Path) :=
  (fun dir => dir / path.text) <$> IO.currentDir

def bytesOf (path : Path) : IO (List UInt8) := do
  return (← IO.FS.readBinFile (← onDisk path)).toList

/-- What stands in a directory, with the content of the documents only. Links are not followed into
other directories. -/
partial def treeAt (path : Path) : IO FileTree := do
  let mut entries := []
  for entry in ← (← onDisk path).readDir do
    let inner := path.join ⟨entry.fileName⟩
    if (← entry.path.symlinkMetadata).type == .dir then
      entries := (entry.fileName, ← treeAt inner) :: entries
    else if Discovery.isDocument entry.fileName then
      entries := (entry.fileName, .file (← bytesOf inner)) :: entries
  return .directory entries

/-- Takes down what stands on the way to a path. A directory at its end is taken down as a whole if
`whole` is set. -/
def lookAt (w : Workspace) (path : Path) (whole : Bool) : IO Workspace := do
  let mut w := w
  let mut names := if path.isAbsolute then [] else w.cwd
  for piece in Text.cut '/' path.text do
    unless Path.isIdle piece do
      names := if piece = ".." then names.dropLast else names ++ [piece]
      let here := Workspace.pathOf names
      if ← (← onDisk here).isDir then
        unless w.pathExists here do
          w := { w with root := FileTree.put names (.directory []) w.root }
      else if ← (← onDisk here).pathExists then
        return { w with root := FileTree.put names (.file (← bytesOf here)) w.root }
      else return w
  if whole then
    return { w with root := FileTree.put names (← treeAt (Workspace.pathOf names)) w.root }
  else return w

def environment : IO (List (String × String)) := do
  let source : Path := ⟨"/proc/self/environ"⟩
  unless ← (← onDisk source).pathExists do return []
  let text := (Text.decodeStrict (← bytesOf source)).getD ""
  return (Text.cut '\x00' text).filterMap fun line =>
    match CommandLine.nameAndValue line with
    | (name, some value) => some (name, value)
    | _ => none

/-- The surroundings, as far as a command with the given options can depend on them. -/
def surroundings (o : Options) : IO Workspace := do
  let cwd := (Text.cut '/' (← IO.currentDir).toString).filter fun name => !Path.isIdle name
  let mut w : Workspace := ⟨.directory [], cwd, ← environment⟩
  w ← lookAt w w.currentDir false
  match o.config with
  | some path => w ← lookAt w path false
  | none =>
    for names in Config.waysUp cwd do
      w ← lookAt w ((Workspace.pathOf names).join ⟨Config.fileName⟩) false
  match Project.load w o with
  | .ok p =>
    w ← lookAt w p.config.docs.sourceDir true
    lookAt w p.config.docs.sidebars false
  | .error _ => return w

def runWith (arguments : List String) : IO Run := do
  let w ←
    match Request.ofArguments? false arguments with
    | some (.run _ options) => surroundings options
    | _ => pure ⟨.directory [], [], []⟩
  return Run.ofArguments w arguments

end Signpost

def main (arguments : List String) : IO UInt32 := do
  let run ← Signpost.runWith arguments
  for line in run.messages do IO.eprintln line
  IO.print run.output
  return UInt32.ofNat run.status
