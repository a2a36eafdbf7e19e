import Delimited.Archive.Library

set_option autoImplicit false
set_option relaxedAutoImplicit false

/-!
# Volumes

A volume is a tree of directories and files, addressed by paths with slashes between names.

A path starts in the working directory. It may leave it upwards, or by starting with a slash; of what
is outside the volume knows the directories on the way up and what was made there.

## Main definitions

* `Delimited.Node` — a file or a directory.
* `Delimited.Volume` — the nodes by their place.
* `Delimited.Volume.locate` — the place that a path leads to.
* `Delimited.Volume.create` — an empty file where a path leads to.
-/

namespace Delimited

/-- A **node** of a volume. -/
inductive Node where
  | file (content : Content)
  | directory
  deriving Repr

/-- A **place**: the names on the way to it from the working directory. On the way up they are two
full stops; the place of the topmost directory is a slash. -/
abbrev Place := List Bytes

namespace Place

/-- The topmost directory. -/
def top : Place := [[Path.slash]]

/-- Whether a place is the working directory or lies above it. -/
def isAbove (place : Place) : Bool :=
  place.all (· = Path.up)

/-- Whether a place lies in the working directory, at any depth. -/
def isInside (place : Place) : Bool :=
  place.head? ≠ some Path.up && place.head? ≠ some [Path.slash]

/-- The place of the directory that a place is in. The topmost directory is in itself. -/
def parent (place : Place) : Place :=
  if place.isAbove then place ++ [Path.up] else if place = top then top else place.dropLast

end Place

/-- A **volume** has a node for each place but the directories that are always there. -/
structure Volume where
  nodes : List (Place × Node)
  deriving Repr

namespace Volume

/-- The volume without nodes. -/
def empty : Volume := ⟨[]⟩

/-- The node at a place. The working directory, those above it and the topmost one are there from the
start. -/
def node? (v : Volume) (place : Place) : Option Node :=
  if place.isAbove ∨ place = Place.top then some .directory else v.nodes.lookup place

/-- The volume with a node put at a place. -/
def put (v : Volume) (place : Place) (node : Node) : Volume :=
  ⟨if (v.nodes.lookup place).isSome then
      v.nodes.map fun (p, n) => if p = place then (p, node) else (p, n)
    else v.nodes ++ [(place, node)]⟩

/-! ## Paths -/

/-- The greatest number of bytes in a name. -/
def nameLimit : Nat := 255

/-- The greatest number of bytes in a path. -/
def pathLimit : Nat := 4095

/-- What is wrong with a path wherever it leads. -/
def pathFault? (path : Path) : Option IoFault :=
  if 0 ∈ path.bytes then some .nulInPath
  else if path.bytes = [] then some .notFound
  else if pathLimit < path.bytes.length then some .nameTooLong
  else none

/-- The place where a path starts. -/
def origin (path : Path) : Place :=
  if path.bytes.head? = some Path.slash then Place.top else []

/-- The place that names lead to from a directory. Only the last name may lead nowhere. An empty
name and a full stop stay where they are, two full stops go up. -/
def walk (v : Volume) : Place → List Bytes → Except IoFault Place
  | here, [] => .ok here
  | here, name :: names =>
    match v.node? here with
    | some .directory =>
      if name = [] ∨ name = Path.here then walk v here names
      else if name = Path.up then walk v here.parent names
      else if nameLimit < name.length then .error .nameTooLong
      else walk v (here ++ [name]) names
    | some (.file _) => .error .notADirectory
    | none => .error .notFound

/-- The **node that a path leads to**, with its place. -/
def locate (v : Volume) (path : Path) : Except IoFault (Place × Node) :=
  match pathFault? path with
  | some fault => .error fault
  | none =>
    match v.walk (origin path) (path.names) with
    | .error fault => .error fault
    | .ok place =>
      match v.node? place with
      | some node => .ok (place, node)
      | none => .error .notFound

/-- The place where a path asks for a file. The way to it has to exist, and a path that ends in a
slash asks for a directory. -/
def target (v : Volume) (path : Path) : Except IoFault Place :=
  match pathFault? path with
  | some fault => .error fault
  | none =>
    let names := path.trimmedNames
    match v.walk (origin path) names.dropLast with
    | .error fault => .error fault
    | .ok parent =>
      match v.node? parent with
      | some .directory =>
        if (path.names).getLast? = some [] then .error .isADirectory
        else v.walk parent (names.drop (names.length - 1))
      | some (.file _) => .error .notADirectory
      | none => .error .notFound

/-- Makes an **empty plain file** where a path leads to, in place of a file that is there. -/
def create (v : Volume) (path : Path) : Except IoFault (Place × Volume) :=
  match v.target path with
  | .error fault => .error fault
  | .ok place =>
    match v.node? place with
    | some .directory => .error .isADirectory
    | _ => .ok (place, v.put place (.file (.plain [])))

/-- Makes the directories on the way to a place. -/
def makeParents (v : Volume) (place : Place) : Volume :=
  (List.range place.length).foldl (fun v n =>
    if (v.node? (place.take n)).isSome then v else v.put (place.take n) .directory) v

/-- Puts a node at a place, together with the directories on the way to it. -/
def install (v : Volume) (place : Place) (node : Node) : Volume :=
  (v.makeParents place).put place node

end Volume

end Delimited
