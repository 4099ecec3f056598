import RouteForge.Disk.Basic

/-!
What a system does with a disk. An operation that fails leaves the disk as it was, but for the
making of several directories, which keeps those it has made.
-/

namespace RouteForge.Disk

def exists? (disk : Disk) (path : String) : Bool :=
  match disk.resolve path with
  | .ok _ => true
  | .error _ => false

def isDirectory (disk : Disk) (path : String) : Bool :=
  match disk.resolve path with
  | .ok location => disk.node? location = some .directory
  | .error _ => false

def readFile (disk : Disk) (path : String) : Except Cause String := do
  let location ← disk.resolve path
  match disk.node? location with
  | some (.file content) =>
      match String.fromUTF8? content with
      | some text => return text
      | none => throw .notText
  | some .directory => throw .isDirectory
  | none => throw .notFound

def writeFile (disk : Disk) (path : String) (content : ByteArray) : Except Cause Disk := do
  let last ← disk.lastStep path
  match last.name with
  | none => throw .isDirectory
  | some name =>
      if last.slashed then
        throw .isDirectory
      checkName name
      let location := last.directory ++ [name]
      match disk.node? location with
      | some .directory => throw .isDirectory
      | _ => return disk.place location (.file content)

def removeFile (disk : Disk) (path : String) : Except Cause Disk := do
  let last ← disk.lastStep path
  match last.name with
  | none => throw .isDirectory
  | some name =>
      checkName name
      let location := last.directory ++ [name]
      match disk.node? location with
      | none => throw .notFound
      | some .directory => throw .isDirectory
      | some (.file _) =>
          if last.slashed then throw .notDirectory else return disk.erase location

def makeDirectory (disk : Disk) (path : String) : Except Cause Disk := do
  let last ← disk.lastStep path
  match last.name with
  | none => throw .alreadyExists
  | some name =>
      checkName name
      let location := last.directory ++ [name]
      match disk.node? location with
      | some _ => throw .alreadyExists
      | none => return disk.place location .directory

/-- The verdict on a directory that could not be made: it is fine if it is there. -/
def unlessDirectory (disk : Disk) (path : String) (cause : Cause) : Except Cause Unit :=
  if disk.isDirectory path then .ok () else .error cause

/-- Makes a directory, the deepest first; where its parent is missing the parent is made and the
directory tried again. The fuel bounds the number of components. -/
def makeDirectoriesFrom : Nat → Disk → String → Except Cause Unit × Disk
  | 0, disk, _ => (.error .notFound, disk)
  | fuel + 1, disk, path =>
      if path.isEmpty then
        (.ok (), disk)
      else
        match disk.makeDirectory path with
        | .ok made => (.ok (), made)
        | .error .notFound =>
            match Path.parent? path with
            | none => (.error .notFound, disk)
            | some parent =>
                match makeDirectoriesFrom fuel disk parent with
                | (.error cause, after) => (.error cause, after)
                | (.ok _, after) =>
                    match after.makeDirectory path with
                    | .ok made => (.ok (), made)
                    | .error cause => (after.unlessDirectory path cause, after)
        | .error cause => (disk.unlessDirectory path cause, disk)

def makeDirectories (disk : Disk) (path : String) : Except Cause Unit × Disk :=
  makeDirectoriesFrom (path.length + 1) disk path

end RouteForge.Disk
