import Mender.Files.Tree
import Mender.Shell.Octets

/-!
# Machines

What shells and programs run on: what every system has, and what shells share of it.
-/

namespace Mender.Shell

/-!
## What every system has

Directories, links, devices and programs that are there whatever files are looked at. What is kept
in a tree of files stands before what the system has at the same place.
-/

/-- A device keeps nothing of what is written to it. -/
inductive Device where
  /-- Holds nothing. -/
  | sink
  /-- Holds zeros. -/
  | zeros
  /-- Holds bytes without an order. -/
  | noise
  /-- Holds zeros, and takes nothing. -/
  | full
  deriving DecidableEq, Repr

/-- What a name leads to. -/
inductive Node where
  | file (content : Utf8.Bytes)
  | directory
  | device (device : Device)
  /-- A program of the system. -/
  | program
  /-- Stands for another path. -/
  | link (path : String)
  deriving DecidableEq, Repr

/-- It is a device. -/
def Node.isDevice : Node → Bool
  | .device _ => true
  | _ => false

namespace Device

/-- How much is read of a device that does not end. -/
def readAtMost : Nat := 262144

/-- Bytes without an order, from a state on. -/
def noiseFrom : Nat → UInt32 → List Char
  | 0, _ => []
  | n + 1, state =>
    let next := state * 1664525 + 1013904223
    Char.ofNat (next >>> 24).toNat :: noiseFrom n next

/-- What is read from a device. -/
def content : Device → List Char
  | .sink => []
  | .zeros | .full => List.replicate readAtMost '\x00'
  | .noise => noiseFrom readAtMost 1

end Device

namespace System

/-- The devices by name. -/
def devices : List (String × Device) :=
  [("null", .sink), ("zero", .zeros), ("full", .full), ("random", .noise), ("urandom", .noise),
    ("stdin", .sink), ("stdout", .sink), ("stderr", .sink)]

/-- The directories at the top. -/
def topDirectories : List String :=
  ["boot", "dev", "etc", "home", "media", "mnt", "opt", "proc", "root", "run", "srv", "sys", "tmp",
    "usr", "var"]

/-- The directories of what is installed. -/
def installed : List String :=
  ["bin", "games", "include", "lib", "lib64", "libexec", "local", "sbin", "share", "src"]

/-- The directories of what changes. -/
def variable_ : List String :=
  ["backups", "cache", "lib", "local", "log", "mail", "opt", "spool", "tmp"]

/-- The names at the top that stand for directories of what is installed. -/
def shortcuts : List String :=
  ["bin", "lib", "lib64", "sbin"]

/-- The file that names the users. -/
def users : Octets :=
  "root:x:0:0:root:/root:/bin/bash\n"

/-- What the system has at a place, when `programs` are installed. -/
def node? (programs : List String) : TreePlace → Option Node
  | [name] =>
    if shortcuts.contains name then some (.link ("usr/" ++ name))
    else if topDirectories.contains name then some .directory
    else none
  | ["dev", name] =>
    if name = "fd" then some .directory
    else (devices.find? (·.1 = name)).map fun d => .device d.2
  | ["dev", "fd", name] => if ["0", "1", "2"].contains name then some (.device .sink) else none
  | ["etc", "passwd"] => some (.file (Octets.toBytes users))
  | ["usr", name] => if installed.contains name then some .directory else none
  | ["usr", "local", name] =>
    if ["bin", "etc", "include", "lib", "sbin", "share", "src"].contains name then some .directory
    else none
  | ["usr", "bin", name] => if programs.contains name then some .program else none
  | ["var", name] => if variable_.contains name then some .directory else none
  | _ => none

/-- The names of what the system has in a directory. -/
def names (programs : List String) : TreePlace → List String
  | [] => shortcuts ++ topDirectories
  | ["dev"] => "fd" :: devices.map (·.1)
  | ["dev", "fd"] => ["0", "1", "2"]
  | ["etc"] => ["passwd"]
  | ["usr"] => installed
  | ["usr", "local"] => ["bin", "etc", "include", "lib", "sbin", "share", "src"]
  | ["usr", "bin"] => programs
  | ["var"] => variable_
  | _ => []

end System

/-!
## What shells share

The files, what has been opened, and the time. A handle is something that was opened: whoever has it
reads on where the last one stopped reading.
-/

/-- Something that was opened. -/
inductive Handle where
  | device (device : Device)
  /-- What was written and has not been read: the front of it, and what came later in reverse. -/
  | pipe (front : List Char) (back : List Octets)
  | file (place : TreePlace) (position : Nat) (appends : Bool)
  deriving Repr

/-- What shells share. -/
structure Machine where
  tree : FileTree
  /-- The programs of the system. -/
  programs : List String := []
  /-- What has been opened, by number. -/
  handles : List (Nat × Handle) := []
  /-- The number of what is opened next. -/
  nextHandle : Nat := 3
  /-- The number of the process that is started next. -/
  nextProcess : Nat := 1001
  /-- Signals for shells that have not seen them yet, by their numbers. -/
  signals : List (Nat × Nat) := []
  /-- Seconds that have passed. -/
  clock : Float := 0.0
  /-- Seconds after which all is stopped. -/
  limit : Option Float := none

namespace Machine

/-- What is at a place. -/
def node? (m : Machine) (place : TreePlace) : Option Node :=
  match m.tree.link? place with
  | some path => some (.link path)
  | none =>
    match m.tree.entry? place with
    | some (.file content) => some (.file content)
    | some .directory => some .directory
    | none => System.node? m.programs place

/-- The path that a link at a place stands for. -/
def link? (m : Machine) (place : TreePlace) : Option String :=
  match m.node? place with
  | some (.link path) => some path
  | _ => none

/-- One step along a path, when `follow` says where links lead. -/
def stepBy (m : Machine) (follow : TreePlace → Except PathFault TreePlace) (place : TreePlace)
    (name : String) : Except PathFault TreePlace := do
  let place ← follow place
  match m.node? place with
  | none => .error .notFound
  | some .directory =>
    if name = "" || name = "." then .ok place
    else if name = ".." then .ok place.dropLast
    else if FileTree.longestName < name.utf8ByteSize then .error .nameTooLong
    else .ok (place ++ [name])
  | some _ => .error .notDirectory

/-- The place that a path leads to from a directory, when `follow` says where links lead. -/
def walkBy (m : Machine) (follow : TreePlace → Except PathFault TreePlace) (here : TreePlace)
    (path : String) : Except PathFault TreePlace :=
  let parts := (Text.splitText ['/'] path.toList).map String.ofList
  if path.front = '/' then parts.tail.foldlM (m.stepBy follow) []
  else parts.foldlM (m.stepBy follow) here

/-- Where a link at a place leads in the end; another place leads to itself. -/
def followed (m : Machine) : Nat → TreePlace → Except PathFault TreePlace
  | 0, _ => .error .tooManyLinks
  | fuel + 1, place =>
    match m.link? place with
    | none => .ok place
    | some path => do m.followed fuel (← m.walkBy (m.followed fuel) place.dropLast path)

/-- The number of links that are followed on the way to a place. -/
def mostLinks : Nat := 40

/-- The place that a path leads to from a directory; a link at its end is not followed. All but the
last of its components have to be there, and a slash at its end makes it a directory. -/
def locateItself (m : Machine) (here : TreePlace) (name : Octets) : Except PathFault TreePlace :=
  if name.isEmpty then .error .notFound
  else m.walkBy (m.followed mostLinks) here (Octets.toText name)

/-- The place that a path leads to from a directory. -/
def locate (m : Machine) (here : TreePlace) (name : Octets) : Except PathFault TreePlace := do
  m.followed mostLinks (← m.locateItself here name)

/-- What a path leads to, with its place; a link at its end is not followed. -/
def findItself (m : Machine) (here : TreePlace) (name : Octets) :
    Except PathFault (TreePlace × Node) := do
  let place ← m.locateItself here name
  match m.node? place with
  | some node => return (place, node)
  | none => .error .notFound

/-- What a path leads to, with its place. -/
def find (m : Machine) (here : TreePlace) (name : Octets) :
    Except PathFault (TreePlace × Node) := do
  let place ← m.locate here name
  match m.node? place with
  | some node => return (place, node)
  | none => .error .notFound

/-- What a path leads to. -/
def look? (m : Machine) (here : TreePlace) (name : Octets) : Option Node :=
  match m.find here name with
  | .ok (_, node) => some node
  | .error _ => none

/-- What is read from something. -/
def contentOf : Node → Except PathFault Octets
  | .file content => .ok (Octets.ofBytes content)
  | .directory => .error .isDirectory
  | .device d => .ok (String.ofList d.content)
  | .program => .ok "\x7fELF"
  | .link _ => .ok ""

/-- The content of a file. -/
def content (m : Machine) (here : TreePlace) (name : Octets) : Except PathFault Octets := do
  contentOf (← m.find here name).2

/-- The names in a directory, in the order of their bytes. -/
def names (m : Machine) (place : TreePlace) : List Octets :=
  let kept := m.tree.names place
  let others := (System.names m.programs place).filter (!kept.contains ·)
  ((kept ++ others).map Octets.ofText).mergeSort (· ≤ ·)

/-- Who may do what with what is at a place. -/
def mode (m : Machine) (place : TreePlace) : Nat :=
  if (m.tree.entry? place).isSome then m.tree.mode place
  else
    match m.node? place with
    | some (.device _) => 0o666
    | some (.file _) => 0o644
    | some (.link _) => 0o777
    | some _ => if place = ["tmp"] then 0o1777 else if place = ["root"] then 0o700 else 0o755
    | none => m.tree.mode place

/-- A file can be run. -/
def isExecutable (m : Machine) (place : TreePlace) : Bool :=
  m.mode place / 64 % 2 = 1 || m.mode place / 8 % 2 = 1 || m.mode place % 2 = 1

/-- Opens a handle. -/
def opened (m : Machine) (h : Handle) : Nat × Machine :=
  (m.nextHandle,
    { m with handles := (m.nextHandle, h) :: m.handles, nextHandle := m.nextHandle + 1 })

/-- What a handle is. -/
def handle? (m : Machine) (number : Nat) : Option Handle :=
  (m.handles.find? (·.1 = number)).map (·.2)

/-- Changes a handle. -/
def setHandle (m : Machine) (number : Nat) (h : Handle) : Machine :=
  { m with handles := m.handles.map fun e => if e.1 = number then (number, h) else e }

/-- Forgets the handles from a number on that are not in use. -/
def forget (m : Machine) (mark : Nat) (inUse : List Nat) : Machine :=
  { m with handles := m.handles.filter fun e => e.1 < mark || inUse.contains e.1 }

/-- Writes into a text at a position. -/
def overwritten (old : Utf8.Bytes) (position : Nat) (new : Utf8.Bytes) : Utf8.Bytes :=
  let before := old.take position
  before ++ List.replicate (position - before.length) 0 ++ new ++ old.drop (position + new.length)

/-- Writes to a handle. -/
def write (m : Machine) (number : Nat) (s : Octets) : Machine :=
  if s.isEmpty then m
  else
    match m.handle? number with
    | some (.pipe front back) => m.setHandle number (.pipe front (s :: back))
    | some (.file place position appends) =>
      match m.tree.entry? place with
      | some (.file old) =>
        let new := Octets.toBytes s
        let content := if appends then old ++ new else overwritten old position new
        let stop := if appends then content.length else position + new.length
        { m with tree := m.tree.put place (.file content) }.setHandle number
          (.file place stop appends)
      | _ => m
    | _ => m

/-- What a handle has still to be read. -/
def unread (m : Machine) (number : Nat) : List Char :=
  match m.handle? number with
  | some (.pipe front back) => front ++ back.reverse.flatMap (·.toList)
  | some (.file place position _) =>
    match m.tree.entry? place with
    | some (.file content) => (content.drop position).map fun b => Char.ofNat b.toNat
    | _ => []
  | some (.device d) => d.content
  | none => []

/-- What was read from a handle leaves some characters unread. -/
def leave (m : Machine) (number : Nat) (unread : List Char) : Machine :=
  match m.handle? number with
  | some (.pipe _ _) => m.setHandle number (.pipe unread [])
  | some (.file place position appends) =>
    match m.tree.entry? place with
    | some (.file content) =>
      m.setHandle number (.file place (max position (content.length - unread.length)) appends)
    | _ => m
  | _ => m

/-- A handle takes nothing. -/
def isFull (m : Machine) (number : Nat) : Bool :=
  match m.handle? number with
  | some (.device .full) => true
  | _ => false

/-- A handle reads a file, so that it can be set back. -/
def isFile (m : Machine) (number : Nat) : Bool :=
  match m.handle? number with
  | some (.file _ _ _) => true
  | _ => false

end Machine

end Mender.Shell
