/-!
# Files

How the program sees files: a path leads to a file, to a directory or to nothing. One such view is a
finite tree of files below a working directory, named by the components of their paths. Of what lies
outside that directory only what is the same everywhere is known, and nothing else can be read.
-/

namespace DnsFilter

inductive FileNode where
  | file (content : ByteArray)
  | directory

/-- What every path leads to, if it leads anywhere. -/
abbrev FileView := String → Option FileNode

namespace FileView

/-- The text of a file, if its bytes are well-formed UTF-8. -/
def text? (files : FileView) (path : String) : Option String :=
  match files path with
  | some (.file content) => String.fromUTF8? content
  | _ => none

end FileView

/-- Files and directories by the components of their paths. Directories on the way to them exist
without being listed. -/
structure Files where
  nodes : List (List String × FileNode) := []

namespace Files

def isIdle (component : String) : Bool := component == "" || component == "."

/-- The components of a path between its slashes. -/
def components (path : String) : List String :=
  (path.toList.splitOn '/').map String.ofList

/-- The node at the given place; the empty place is a directory. -/
def nodeAt? (files : Files) (place : List String) : Option FileNode :=
  match files.nodes.lookup place with
  | some node => some node
  | none =>
      if place.isEmpty || files.nodes.any (fun entry => place.isPrefixOf entry.1) then
        some .directory
      else none

/-- Follows components from a place. Only a directory can be passed through; two dots lead to the
directory above, and from the root to the root. -/
def follow? (files : Files) : List String → List String → Option FileNode
  | place, [] => files.nodeAt? place
  | place, component :: rest =>
      match files.nodeAt? place with
      | some .directory =>
          if isIdle component then files.follow? place rest
          else if component = ".." then files.follow? place.dropLast rest
          else files.follow? (place ++ [component]) rest
      | _ => none

/-- The place of the working directory in the file system. No component of a path is its name. -/
def workingPlace : List String := ["tmp", ""]

/-- What every file system has: some directories, and a device that is an empty file. -/
def surroundings : List (List String × FileNode) :=
  [(workingPlace, .directory), (["dev", "null"], .file .empty), (["etc"], .directory),
    (["proc"], .directory), (["usr"], .directory), (["var"], .directory)]

/-- The file system in which the given files are below the working directory. -/
def fileSystem (files : Files) : Files :=
  ⟨files.nodes.map (fun entry => (workingPlace ++ entry.1, entry.2)) ++ surroundings⟩

/-- Paths of this many bytes and longer ones are refused. -/
def pathBound : Nat := 4096

/-- What a path leads to. The empty path and paths that are too long lead nowhere. -/
def view (files : Files) : FileView := fun path =>
  if path.isEmpty || pathBound ≤ path.utf8ByteSize then none
  else
    let start := if path.startsWith "/" then [] else workingPlace
    files.fileSystem.follow? start (components path)

def remove (files : Files) (path : String) : Files :=
  let place := (components path).filter fun component => !isIdle component
  ⟨files.nodes.filter fun entry => entry.1 != place⟩

/-- Puts a node at a path, in place of the one before. -/
def put (files : Files) (path : String) (node : FileNode) : Files :=
  let place := (components path).filter fun component => !isIdle component
  ⟨(place, node) :: (files.remove path).nodes⟩

end Files

end DnsFilter
